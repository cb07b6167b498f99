import StackScript.Text.Blank

/-! Lines of a document. -/
namespace StackScript

/-- One line of a document: its place, counted from zero, and its text without the line end. -/
structure Line where
  index : Nat
  raw : String
deriving DecidableEq, Repr

namespace Line

def trimmed (line : Line) : String :=
  String.ofList (Text.trim line.raw.toList)

def length (line : Line) : Nat :=
  line.raw.length

/-- Drops one carriage return at the end. -/
def withoutReturn (cs : List Char) : List Char :=
  if cs.getLast? = some '\r' then cs.dropLast else cs

/-- The lines of a text. A line feed ends a line, and a carriage return right before it belongs to
the line end; the text after the last line feed is a line too, so there is always one. -/
def scan (text : String) : List Line :=
  (text.toList.splitOn '\n').mapIdx (fun i cs => ⟨i, String.ofList (withoutReturn cs)⟩)

theorem scan_ne_nil (text : String) : scan text ≠ [] := by
  simp [scan, List.splitOn_eq_splitOnP]

end Line

end StackScript
