import StackScript.Directive

/-! References to variables inside a line. -/
namespace StackScript

/-- A reference to the variable `name` in the columns from `start` up to but excluding `stop`. -/
structure VariableReference where
  name : String
  start : Nat
  stop : Nat
deriving DecidableEq, Repr

namespace VariableReference

/-- A letter or an underscore, then word characters; ASCII only. -/
def isIdentifier : List Char → Bool
  | [] => false
  | c :: cs => (c.isAlpha || c == '_') && cs.all isWordChar

/-- The name of the reference that starts with the first of these characters. -/
def nameAtStart? : List Char → Option (List Char)
  | '%' :: 'V' :: 'A' :: 'R' :: '<' :: cs =>
      let name := cs.takeWhile isWordChar
      if isIdentifier name && (cs.drop name.length).head? == some '>' then some name else none
  | _ => none

/-- The references in a piece of a line that starts in the given column. No reference overlaps
another, because a name holds neither end of a reference. -/
def findFrom : Nat → List Char → List VariableReference
  | _, [] => []
  | column, c :: cs =>
      match nameAtStart? (c :: cs) with
      | some name =>
          ⟨String.ofList name, column, column + name.length + 6⟩ :: findFrom (column + 1) cs
      | none => findFrom (column + 1) cs

/-- Every reference in a line, left to right. -/
def find (raw : String) : List VariableReference :=
  findFrom 0 raw.toList

end VariableReference

end StackScript
