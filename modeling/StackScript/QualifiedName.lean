/-! Dotted names: a module's name, a dot, and a name inside the module. -/
namespace StackScript

def qualify (owner name : String) : String :=
  owner ++ "." ++ name

namespace QualifiedName

/-- Adds to `found` every reading of `before` (last character first) followed by the given
characters whose dot is among the latter. -/
def readingsOnto : List (String × String) → List Char → List Char → List (String × String)
  | found, _, [] => found
  | found, before, c :: cs =>
      let found :=
        if c == '.' then (String.ofList before.reverse, String.ofList cs) :: found else found
      readingsOnto found (c :: before) cs

/-- Every way to read a dotted name as a module and a name in it, longest module first. Module names
may hold dots themselves. -/
def readings (name : String) : List (String × String) :=
  readingsOnto [] [] name.toList

end QualifiedName

end StackScript
