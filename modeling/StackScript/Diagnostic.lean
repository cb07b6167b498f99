import StackScript.FileSystem
import StackScript.Line

/-! Diagnostics: what is wrong, where, and how it is worded. -/
namespace StackScript

inductive Severity where
  | error
  | warning
deriving DecidableEq, Repr

namespace Severity

def text : Severity → String
  | .error => "error"
  | .warning => "warning"

def ofText? : String → Option Severity
  | "error" => some .error
  | "warning" => some .warning
  | _ => none

end Severity

/-- The registered diagnostic codes. -/
inductive Code where
  | invalidLoad
  | invalidCall
  | unnamedSet
  | misplacedExtern
  | missingMetadata
  | missingImplementation
  | moduleNotLoaded
  | notExported
  | undefinedFunction
  | undefinedVariable
  | unreadableModule
  | noHalt
deriving DecidableEq, Repr

namespace Code

def text : Code → String
  | .invalidLoad => "SYN-0010"
  | .invalidCall => "SYN-0020"
  | .unnamedSet => "SYN-0030"
  | .misplacedExtern => "SYN-0040"
  | .missingMetadata => "RES-0010"
  | .missingImplementation => "RES-0011"
  | .moduleNotLoaded => "RES-0020"
  | .notExported => "RES-0021"
  | .undefinedFunction => "RES-0030"
  | .undefinedVariable => "RES-0040"
  | .unreadableModule => "IO-0010"
  | .noHalt => "STY-0010"

/-- The codes by family: form of directives, names, files, style. -/
def families : List (String × List Code) :=
  [("SYN", [.invalidLoad, .invalidCall, .unnamedSet, .misplacedExtern]),
    ("RES", [.missingMetadata, .missingImplementation, .moduleNotLoaded, .notExported,
      .undefinedFunction, .undefinedVariable]),
    ("IO", [.unreadableModule]),
    ("STY", [.noHalt])]

def severity : Code → Severity
  | .noHalt => .warning
  | _ => .error

end Code

/-- What can be wrong with a document. -/
inductive Problem where
  | invalidLoad
  | invalidCall
  | unnamedSet
  | misplacedExtern
  | missingMetadata (file : String)
  | missingImplementation (file : String)
  | moduleNotLoaded (name : String)
  | notExported (name : String)
  | undefinedFunction (name : String)
  | undefinedVariable (name : String)
  | unreadableModule (error : ReadError)
  | noHalt
deriving DecidableEq

namespace Problem

def code : Problem → Code
  | .invalidLoad => .invalidLoad
  | .invalidCall => .invalidCall
  | .unnamedSet => .unnamedSet
  | .misplacedExtern => .misplacedExtern
  | .missingMetadata _ => .missingMetadata
  | .missingImplementation _ => .missingImplementation
  | .moduleNotLoaded _ => .moduleNotLoaded
  | .notExported _ => .notExported
  | .undefinedFunction _ => .undefinedFunction
  | .undefinedVariable _ => .undefinedVariable
  | .unreadableModule _ => .unreadableModule
  | .noHalt => .noHalt

def message : Problem → String
  | .invalidLoad => "Invalid LOAD syntax. Expected LOAD \"modulename\""
  | .invalidCall => "Invalid CALL syntax. Expected CALL [module.]function"
  | .unnamedSet => "SET command missing variable name"
  | .misplacedExtern => "EXTERN can only be used in module files"
  | .missingMetadata file => "Missing module metadata file: " ++ file
  | .missingImplementation file => "Missing module implementation file: " ++ file
  | .moduleNotLoaded name => "Module not loaded: " ++ name
  | .notExported name => "Function not exported by module: " ++ name
  | .undefinedFunction name => "Undefined function: " ++ name
  | .undefinedVariable name => "Undefined variable: " ++ name
  | .unreadableModule error => "Error reading module: " ++ error.message
  | .noHalt => "No HALT instruction found"

end Problem

/-- A diagnostic with its place. Lines and columns count from zero and the end column is excluded.
Diagnostics also come from other tools, so neither codes nor places are bound to a document. -/
structure Diagnostic where
  severity : Severity := .error
  message : String := ""
  code : Option String := none
  filename : Option String := none
  line : Int := 0
  column : Int := 0
  endLine : Int := 0
  endColumn : Int := 0
deriving DecidableEq, Repr

namespace Diagnostic

def isError (d : Diagnostic) : Bool :=
  d.severity == .error

/-- A problem in the columns from `start` up to but excluding `stop` of a line. -/
def ofSpan (filename : Option String) (line : Line) (start stop : Nat) (problem : Problem) :
    Diagnostic where
  severity := problem.code.severity
  message := problem.message
  code := some problem.code.text
  filename := filename
  line := line.index
  column := start
  endLine := line.index
  endColumn := stop

/-- A problem of a whole line. -/
def ofLine (filename : Option String) (line : Line) (problem : Problem) : Diagnostic :=
  ofSpan filename line 0 line.length problem

/-- Where the diagnostic is, counted from one, with the absolute path of its file. -/
def location (directory : Path) (d : Diagnostic) : String :=
  match d.filename with
  | none => ""
  | some filename =>
      (directory.join (Path.ofString filename)).collapse.toString ++ ":" ++ toString (d.line + 1)
        ++ ":" ++ toString (d.column + 1) ++ ": "

def codeMark (d : Diagnostic) : String :=
  match d.code with
  | none => ""
  | some "" => ""
  | some code => "[" ++ code ++ "] "

/-- The diagnostic on one line. -/
def header (directory : Path) (d : Diagnostic) : String :=
  d.location directory ++ d.severity.text ++ ": " ++ d.codeMark ++ d.message

end Diagnostic

end StackScript
