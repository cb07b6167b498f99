import StackScript.Diagnostic
import StackScript.Directive
import StackScript.Symbol

/-! Symbols that a document declares itself. -/
namespace StackScript

namespace Line

/-- The variable that a `SET` line declares. -/
def setVariable? (line : Line) : Option String :=
  if line.is .set then Directive.setName? line.trimmed else none

/-- The symbols that a line declares: its label as a function, its variable. -/
def symbols (line : Line) : List Symbol :=
  (line.label?.map (fun name => Symbol.ofFunction name none)).toList
    ++ (line.setVariable?.map Symbol.ofVariable).toList

/-- What is wrong with a line as a declaration. `EXTERN` declares functions in module files only. -/
def declarationProblem? (line : Line) : Option Problem :=
  if line.is .external then some .misplacedExtern
  else if line.is .set && line.setVariable?.isNone then some .unnamedSet
  else none

end Line

namespace Declaration

/-- The table with what the lines declare. -/
def extend (table : SymbolTable) (lines : List Line) : SymbolTable :=
  table.defineAll (lines.flatMap Line.symbols)

def diagnostics (filename : Option String) (lines : List Line) : List Diagnostic :=
  lines.filterMap (fun line => line.declarationProblem?.map (Diagnostic.ofLine filename line))

end Declaration

end StackScript
