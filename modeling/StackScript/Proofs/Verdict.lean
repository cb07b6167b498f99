import StackScript.Proofs.Occurrence
import StackScript.Proofs.Provenance
import StackScript.Proofs.Stage

/-! A pass reports an error exactly if the document breaks one of five rules that mention neither
stages nor tables. -/
namespace StackScript

namespace Scope

variable {scope : Scope}

theorem targetProblem?_eq_none_iff {target : String} :
    scope.targetProblem? target = none ↔ scope.symbols.hasFunction target = true := by
  rw [targetProblem?]
  split
  · simp [*]
  · rename_i hfunction
    simp only [hfunction]
    split
    · simp
    · split <;> simp

theorem callProblem?_eq_none_iff {line : Line} :
    scope.callProblem? line = none ↔
      (line.is .call = true → ∃ target, Directive.callTarget? line.trimmed = some target ∧
        scope.symbols.hasFunction target = true) := by
  rw [callProblem?]
  cases line.is .call <;> cases Directive.callTarget? line.trimmed <;>
    simp [targetProblem?_eq_none_iff]

end Scope

namespace ModuleSource

variable {source : ModuleSource} {lines : List Line} {resolution : Resolution}

end ModuleSource

end StackScript
