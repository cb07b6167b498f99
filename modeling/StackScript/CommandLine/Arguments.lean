import StackScript.Text.Digit
import StackScript.Text.Quoted

/-! Reading of command-line arguments. -/
namespace StackScript.CommandLine

/-- An option without a value, with a letter and a word for it. -/
inductive Flag where
  | help
  | verbose
  | log
deriving DecidableEq, Repr

namespace Flag

def letter : Flag → Char
  | .help => 'h'
  | .verbose => 'v'
  | .log => 'l'

def word : Flag → String
  | .help => "help"
  | .verbose => "verbose"
  | .log => "log"

def short (flag : Flag) : String :=
  String.ofList ['-', flag.letter]

def long (flag : Flag) : String :=
  "--" ++ flag.word

end Flag

inductive Command where
  | check
  | lines
  | sym
  | keywords
deriving DecidableEq, Repr

/-- How many files a command takes. -/
inductive Arity where
  | none
  | one
  | many
deriving DecidableEq, Repr

namespace Command

/-- The names of the commands, two of which have a second one. -/
def names : List (String × Command) :=
  [("check", .check), ("validate", .check), ("lines", .lines), ("sym", .sym), ("symbols", .sym),
    ("keywords", .keywords)]

def name : Command → String
  | .check => "check"
  | .lines => "lines"
  | .sym => "sym"
  | .keywords => "keywords"

def arity : Command → Arity
  | .check => .many
  | .lines => .one
  | .sym => .one
  | .keywords => .none

end Command

def program : String := "ssc"

inductive UsageError where
  | ambiguous (argument : String) (candidates : List String)
  | unexpectedValue (flag : Flag) (value : String)
  | unknownCommand (name : String)
  | missing (operand : String)
  | unrecognized (arguments : List String)
deriving DecidableEq, Repr

def UsageError.message : UsageError → String
  | .ambiguous argument candidates =>
      "ambiguous option: " ++ argument ++ " could match " ++ ", ".intercalate candidates
  | .unexpectedValue flag value =>
      "argument " ++ flag.short ++ "/" ++ flag.long ++ ": ignored explicit argument "
        ++ Text.quoted value
  | .unknownCommand name =>
      "argument command: invalid choice: " ++ Text.quoted name ++ " (choose from "
        ++ ", ".intercalate (Command.names.map (fun entry => Text.quoted entry.1)) ++ ")"
  | .missing operand => "the following arguments are required: " ++ operand
  | .unrecognized arguments => "unrecognized arguments: " ++ " ".intercalate arguments

/-- A usage error of the program or of one of its commands. -/
structure UsageFailure where
  command : Option Command
  error : UsageError
deriving DecidableEq, Repr

def UsageFailure.message (failure : UsageFailure) : String :=
  let speaker :=
    match failure.command with
    | none => program
    | some command => program ++ " " ++ command.name
  speaker ++ ": error: " ++ failure.error.message

/-- What one argument is. A flag may carry letters of further flags; an option that is none of them
is unknown. -/
inductive Reading where
  | operand
  | separator
  | flags (outcome : Except UsageError (List Flag))
  | unknown

/-- A flag with the letters of further flags behind it. From a letter that is no flag on, the letters
are a value of the flag before it, and flags take none. -/
def readCluster (known : List Flag) (flag : Flag) : List Char → Except UsageError (List Flag)
  | [] => .ok [flag]
  | c :: cs =>
      match known.find? (fun next => next.letter == c) with
      | none => .error (.unexpectedValue flag (String.ofList (c :: cs)))
      | some next => (readCluster known next cs).map (flag :: ·)

/-- Whether the first of two texts begins the second. -/
def begins (start whole : String) : Bool :=
  start.toList.isPrefixOf whole.toList

/-- An argument of at least two characters that starts with a minus. Behind a short flag, an equals
sign may stand in front of the letters of further flags; behind a long one it starts a value. -/
def readOption (known : List Flag) (argument : String) : Except UsageError Reading :=
  let cs := argument.toList
  let head := String.ofList (cs.takeWhile (· != '='))
  let value? := (cs.dropWhile (· != '=')).tail?
  let longFlag (flag : Flag) : Reading :=
    match value? with
    | none => .flags (.ok [flag])
    | some value => .flags (.error (.unexpectedValue flag (String.ofList value)))
  let noFlag : Reading :=
    if Text.isNegativeNumber cs || cs.contains ' ' then .operand else .unknown
  if begins "--" argument then
    match known.find? (fun flag => flag.long == head) with
    | some flag => .ok (longFlag flag)
    | none =>
        match known.filter (fun flag => begins head flag.long) with
        | [] => .ok noFlag
        | [flag] => .ok (longFlag flag)
        | flags => .error (.ambiguous argument (flags.map Flag.long))
  else
    match known.find? (fun flag => begins flag.short argument) with
    | none => .ok noFlag
    | some flag =>
        match cs.drop 2 with
        | ['='] => .ok (.flags (.error (.unexpectedValue flag "")))
        | '=' :: letters => .ok (.flags (readCluster known flag letters))
        | letters => .ok (.flags (readCluster known flag letters))

def readArgument (known : List Flag) (argument : String) : Except UsageError Reading :=
  if begins "-" argument && argument != "-" then readOption known argument else .ok .operand

/-- Reads all arguments. The first double minus separates, and everything behind it is an
operand. -/
def readArguments (known : List Flag) : List String → Except UsageError (List (String × Reading))
  | [] => .ok []
  | "--" :: arguments => .ok (("--", .separator) :: arguments.map (fun a => (a, .operand)))
  | argument :: arguments => do
      let reading ← readArgument known argument
      let readings ← readArguments known arguments
      pure ((argument, reading) :: readings)

/-- Why reading ends before all arguments have been used. -/
inductive Stop where
  | help
  | usage (error : UsageError)
deriving DecidableEq, Repr

/-- How operands are being taken: none yet, the last argument was one, no more. -/
inductive Phase where
  | before
  | taking
  | closed
deriving DecidableEq, Repr

/-- An option ends a row of operands that has begun. -/
def Phase.close : Phase → Phase
  | .before => .before
  | .taking | .closed => .closed

structure Operands where
  taken : List String := []
  leftover : List String := []
deriving DecidableEq, Repr

def Operands.take (argument : String) (operands : Operands) : Operands :=
  { operands with taken := argument :: operands.taken }

def Operands.leave (arguments : List String) (operands : Operands) : Operands :=
  { operands with leftover := arguments ++ operands.leftover }

/-- The operands of a command. They stand next to each other: what follows an option after the first
operand is left over. A separator is dropped where operands may still follow. -/
def takeOperands (arity : Arity) : Phase → List (String × Reading) → Except Stop Operands
  | _, [] => .ok {}
  | phase, (argument, .operand) :: rest =>
      match arity, phase with
      | .many, .before | .many, .taking | .one, .before =>
          (takeOperands arity .taking rest).map (·.take argument)
      | _, _ => (takeOperands arity .closed rest).map (·.leave [argument])
  | phase, (argument, .separator) :: rest =>
      match arity, phase, rest with
      | .many, .taking, _ => takeOperands arity .taking rest
      | .many, .before, _ :: _ => takeOperands arity .taking rest
      | .one, .taking, _ => takeOperands arity .closed rest
      | .one, .before, _ :: _ => takeOperands arity .before rest
      | _, _, _ => (takeOperands arity phase rest).map (·.leave [argument])
  | phase, (argument, .unknown) :: rest =>
      (takeOperands arity phase.close rest).map (·.leave [argument])
  | phase, (_, .flags outcome) :: rest =>
      match outcome with
      | .error e => .error (.usage e)
      | .ok flags =>
          if flags.contains .help then .error .help else takeOperands arity phase.close rest

/-- How often `-v` was given, and whether `-l` was. -/
structure Flags where
  verbosity : Int := 0
  rich : Bool := false
deriving DecidableEq, Repr

def Flags.add (flags : Flags) : Flag → Flags
  | .help => flags
  | .verbose => { flags with verbosity := flags.verbosity + 1 }
  | .log => { flags with rich := true }

/-- The options in front of a command, and the command with what follows it. -/
structure Front where
  flags : Flags := {}
  leftover : List String := []
  command : String
  arguments : List String
deriving DecidableEq, Repr

def takeFront (flags : Flags) (leftover : List String) :
    List (String × Reading) → Except Stop Front
  | [] => .error (.usage (.missing "command"))
  | (_, .separator) :: [] => .error (.usage (.missing "command"))
  | (argument, .separator) :: rest => .ok ⟨flags, leftover, argument, rest.map (·.1)⟩
  | (argument, .operand) :: rest => .ok ⟨flags, leftover, argument, rest.map (·.1)⟩
  | (argument, .unknown) :: rest => takeFront flags (leftover ++ [argument]) rest
  | (_, .flags outcome) :: rest =>
      match outcome with
      | .error e => .error (.usage e)
      | .ok given =>
          if given.contains .help then .error .help
          else takeFront (given.foldl Flags.add flags) leftover rest

/-- A command with its files. -/
inductive Request where
  | check (files : List String)
  | lines (file : String)
  | sym (file : String)
  | keywords
deriving DecidableEq, Repr

/-- What the program is asked to do. -/
inductive Invocation where
  | help (command : Option Command)
  | run (flags : Flags) (request : Request)
deriving DecidableEq, Repr

namespace Command

/-- The command on these files, if there are as many as it takes. -/
def request? : Command → List String → Option Request
  | .check, file :: files => some (.check (file :: files))
  | .lines, [file] => some (.lines file)
  | .sym, [file] => some (.sym file)
  | .keywords, [] => some .keywords
  | _, _ => none

/-- The word for what a command takes. -/
def operandName (command : Command) : String :=
  if command.arity = .many then "files" else "file"

/-- Reads the arguments of a command; also gives what is left over of them. -/
def read (command : Command) (arguments : List String) : Except Stop (Request × List String) := do
  let readings ← (readArguments [.help] arguments).mapError .usage
  let operands ← takeOperands command.arity .before readings
  match command.request? operands.taken with
  | none => .error (.usage (.missing command.operandName))
  | some request => .ok (request, operands.leftover)

end Command

def stopped (command : Option Command) : Stop → Except UsageFailure Invocation
  | .help => .ok (.help command)
  | .usage error => .error ⟨command, error⟩

/-- Reads a whole command line: options, a command, and the command's own arguments. Arguments that
nothing has used are an error only after everything else is in order. -/
def parse (arguments : List String) : Except UsageFailure Invocation :=
  match (readArguments [.help, .verbose, .log] arguments).mapError Stop.usage >>= takeFront {} [] with
  | .error stop => stopped none stop
  | .ok front =>
      match Command.names.lookup front.command with
      | none => .error ⟨none, .unknownCommand front.command⟩
      | some command =>
          match command.read front.arguments with
          | .error stop => stopped (some command) stop
          | .ok (request, leftover) =>
              match front.leftover ++ leftover with
              | [] => .ok (.run front.flags request)
              | unused => .error ⟨none, .unrecognized unused⟩

end StackScript.CommandLine
