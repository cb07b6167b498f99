import StackScript.Line

/-! Recognition of labels and of the directives that name modules, functions and variables. -/
namespace StackScript

open Text

/-- Letters, digits and the underscore, of ASCII only. -/
def isWordChar (c : Char) : Bool :=
  c.isAlphanum || c == '_'

/-- The text of `cs`, unless it is empty. -/
def nonempty? (cs : List Char) : Option String :=
  if cs.isEmpty then none else some (String.ofList cs)

/-- The name of a label line: what stands before the colon that ends the line. -/
def labelName? (text : String) : Option String :=
  let cs := text.toList
  if cs.getLast? = some ':' then nonempty? (trim cs.dropLast) else none

inductive Directive where
  | load
  | call
  | set
  | external
deriving DecidableEq, Repr

namespace Directive

def keyword : Directive → String
  | .load => "LOAD"
  | .call => "CALL"
  | .set => "SET"
  | .external => "EXTERN"

def all : List Directive :=
  [.load, .call, .set, .external]

/-- Whether `text` starts with `keyword` as a word of its own. A module name in quotes may follow
`LOAD` directly. -/
def startsWith (keyword text : String) : Bool :=
  match keyword.toList.isPrefixOf? text.toList with
  | none => false
  | some [] => true
  | some (c :: _) => isBlank c || (keyword == "LOAD" && c == '"')

/-- What follows the keyword. The keyword itself is not looked at. -/
def argument (d : Directive) (text : String) : List Char :=
  text.toList.drop d.keyword.length

/-- The module named by a `LOAD` line, in double quotes or as one bare word. -/
def loadName? (text : String) : Option String :=
  match trim (load.argument text) with
  | [] => none
  | '"' :: cs =>
      match cs.dropWhile (· != '"') with
      | [] => none
      | _ :: rest =>
          if (trim rest).isEmpty then nonempty? (trim (cs.takeWhile (· != '"'))) else none
  | cs => if cs.any (fun c => isBlank c || c == '"') then none else some (String.ofList cs)

/-- Words of word characters with single dots between them. -/
def isTarget (cs : List Char) : Bool :=
  (cs.splitOn '.').all (fun word => !word.isEmpty && word.all isWordChar)

/-- The function named by a `CALL` line. -/
def callTarget? (text : String) : Option String :=
  match call.argument text with
  | [] => none
  | c :: cs =>
      let target := trimStart cs
      if isBlank c && isTarget target then some (String.ofList target) else none

/-- The variable named by a `SET` line: its second word. -/
def setName? (text : String) : Option String :=
  ((words text.toList)[1]?).map String.ofList

/-- The functions named by an `EXTERN` line. -/
def externNames (text : String) : List String :=
  (words (external.argument text)).map String.ofList

end Directive

/-- Whether the line is the directive `d`. -/
def Line.is (line : Line) (d : Directive) : Bool :=
  Directive.startsWith d.keyword line.trimmed

def Line.label? (line : Line) : Option String :=
  labelName? line.trimmed

end StackScript
