/-! Messages about the progress of a pass, and which of them are written. -/
namespace StackScript

inductive LogLevel where
  | silent
  | error
  | warning
  | info
  | debug
deriving DecidableEq, Repr

namespace LogLevel

def all : List LogLevel :=
  [.silent, .error, .warning, .info, .debug]

def value : LogLevel → Nat
  | .silent => 0
  | .error => 3
  | .warning => 6
  | .info => 10
  | .debug => 30

def name : LogLevel → String
  | .silent => "SILENT"
  | .error => "ERROR"
  | .warning => "WARNING"
  | .info => "INFO"
  | .debug => "DEBUG"

/-- The mark in front of a message of this level. -/
def mark : LogLevel → String
  | .silent => ""
  | level => "[" ++ level.name ++ "] "

end LogLevel

structure LogEntry where
  level : LogLevel
  message : String
deriving DecidableEq, Repr

abbrev Log := List LogEntry

/-- How much is written, and whether each message carries the time and its level. -/
structure LogSettings where
  level : LogLevel := .warning
  rich : Bool := false
deriving DecidableEq, Repr

namespace LogSettings

def admits (settings : LogSettings) (entry : LogEntry) : Bool :=
  entry.level.value ≤ settings.level.value

def write (settings : LogSettings) (time : String) (entry : LogEntry) : String :=
  if settings.rich then time ++ " " ++ entry.level.mark ++ entry.message else entry.message

theorem write_error (settings : LogSettings) (time message : String) :
    settings.write time ⟨.error, message⟩ =
      (if settings.rich then time ++ " [ERROR] " else "") ++ message := by
  have hmark : LogLevel.error.mark = "[ERROR] " := rfl
  unfold write
  cases settings.rich with
  | true => simp [hmark, String.append_assoc]
  | false => simp

end LogSettings

namespace Log

/-- The entry that announces a stage, for a document if it has a name. -/
def stage (name : String) (document : Option String) : LogEntry :=
  match document with
  | none => ⟨.info, name ++ "..."⟩
  | some "" => ⟨.info, name ++ "..."⟩
  | some document => ⟨.info, name ++ " for '" ++ document ++ "'"⟩

/-- What one call leaves in the log: its entry, unless the settings hold the level back. -/
def note (settings : Option LogSettings) (entry : LogEntry) : Log :=
  match settings with
  | none => [entry]
  | some settings => if settings.admits entry then [entry] else []

/-- The texts of a log in order, as the settings want them. Without settings each of them follows a
complaint. -/
def messages (time : String) (settings : Option LogSettings) (log : Log) : List String :=
  match settings with
  | none => log.flatMap (fun entry => ["No context provided for logging.", entry.message])
  | some settings => log.map (settings.write time)

def render (time : String) (settings : Option LogSettings) (log : Log) : String :=
  String.join ((messages time settings log).map (· ++ "\n"))

end Log

end StackScript
