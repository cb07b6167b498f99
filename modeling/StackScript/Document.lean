import StackScript.FileSystem
import StackScript.Limit
import StackScript.Line

/-! Documents under validation. -/
namespace StackScript

/-- A text with the path it is, or would be, stored under. -/
structure Document where
  path : Path
  text : String
  languageId : String := "stackscript"
deriving DecidableEq

/-- Why there is no line at an index. -/
inductive LineError where
  | outOfRange
  | notAnIndex
deriving DecidableEq, Repr

def LineError.message : LineError → String
  | .outOfRange => "list index out of range"
  | .notAnIndex => Limit.index.message

namespace Document

/-- The absolute path, by which documents are told apart. -/
def identity (workspace : Workspace) (document : Document) : String :=
  (workspace.absolute document.path).toString

/-- Where the modules of the document are looked for. -/
def directory (workspace : Workspace) (document : Document) : Path :=
  (workspace.absolute document.path).parent

def lines (document : Document) : List Line :=
  Line.scan document.text

/-- The line at an index; a negative index counts from the end. -/
def line? (document : Document) (index : Int) : Option Line :=
  let lines := document.lines
  let index := if index < 0 then index + lines.length else index
  if index < 0 then none else lines[index.toNat]?

/-- The line at an index, or why there is none. -/
def lineAt (document : Document) (index : Int) : Except LineError Line :=
  if isIndex index then
    match document.line? index with
    | some line => .ok line
    | none => .error .outOfRange
  else .error .notAnIndex

def read (files : FileSystem) (path : Path) (languageId encoding : String) : FileResult Document :=
  match files.readText encoding path with
  | .error a => .error a
  | .ok (.error e) => .ok (.error e)
  | .ok (.ok text) => .ok (.ok ⟨path, text, languageId⟩)

end Document

end StackScript
