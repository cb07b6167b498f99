import StackScript.Diagnostic
import StackScript.QualifiedName
import StackScript.Symbol
import StackScript.VariableReference

/-! Checks of uses against the symbols and modules of a pass. -/
namespace StackScript

/-- What a document may refer to: symbols, and names of modules it loads. -/
structure Scope where
  symbols : SymbolTable := {}
  modules : List String := []
deriving DecidableEq, Repr

namespace Scope

/-- What is wrong with a call of `target`. A dotted name that is no function is blamed on the longest
loaded module that it can be read with, else on its first word. -/
def targetProblem? (scope : Scope) (target : String) : Option Problem :=
  if scope.symbols.hasFunction target then none
  else
    let readings := QualifiedName.readings target
    match readings.find? (fun reading => scope.modules.contains reading.1) with
    | some reading => some (.notExported reading.2)
    | none =>
        match readings.getLast? with
        | some reading => some (.moduleNotLoaded reading.1)
        | none => some (.undefinedFunction target)

def callProblem? (scope : Scope) (line : Line) : Option Problem :=
  if line.is .call then
    match Directive.callTarget? line.trimmed with
    | none => some .invalidCall
    | some target => scope.targetProblem? target
  else none

/-- The variable references of a line that no `SET` line declares. -/
def undefinedReferences (scope : Scope) (line : Line) : List VariableReference :=
  (VariableReference.find line.raw).filter (fun ref => !scope.symbols.hasVariable ref.name)

def callDiagnostics (scope : Scope) (filename : Option String) (lines : List Line) :
    List Diagnostic :=
  lines.filterMap (fun line => (scope.callProblem? line).map (Diagnostic.ofLine filename line))

def variableDiagnostics (scope : Scope) (filename : Option String) (lines : List Line) :
    List Diagnostic :=
  lines.flatMap (fun line =>
    (scope.undefinedReferences line).map (fun ref =>
      Diagnostic.ofSpan filename line ref.start ref.stop (.undefinedVariable ref.name)))

end Scope

/-- Whether `word` stands somewhere in the given characters. -/
def mentions (word : List Char) : List Char → Bool
  | [] => word.isEmpty
  | c :: cs => word.isPrefixOf (c :: cs) || mentions word cs

/-- A warning on the last line of a document that never halts. -/
def haltDiagnostics (filename : Option String) (text : String) (lines : List Line) :
    List Diagnostic :=
  if mentions "HALT".toList text.toList then []
  else (lines.getLast?.map (fun line => Diagnostic.ofLine filename line .noHalt)).toList

/-- All checks: calls, then variables, then the halt. -/
def Scope.diagnostics (scope : Scope) (filename : Option String) (text : String)
    (lines : List Line) : List Diagnostic :=
  scope.callDiagnostics filename lines ++ scope.variableDiagnostics filename lines
    ++ haltDiagnostics filename text lines

end StackScript
