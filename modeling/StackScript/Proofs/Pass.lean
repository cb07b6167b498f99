import StackScript.Proofs.Resolution
import StackScript.Validation

/-! A validation pass as a function of what its `LOAD` lines resolve to. -/
namespace StackScript

namespace Document

/-- The symbols of a document once its `LOAD` lines are resolved. -/
def finalSymbols (document : Document) (resolution : Resolution) : SymbolTable :=
  (Declaration.extend {} document.lines).defineAll resolution.symbols

def finalScope (document : Document) (resolution : Resolution) : Scope :=
  ⟨document.finalSymbols resolution, resolution.moduleNames⟩

/-- The report of a pass whose `LOAD` lines resolve as given. -/
def report (workspace : Workspace) (context : Context) (document : Document)
    (resolution : Resolution) : Report where
  identity := document.identity workspace
  lines := document.lines
  symbols := document.finalSymbols resolution
  modules := resolution.modules
  diagnostics :=
    let filename := some (document.identity workspace)
    Declaration.diagnostics filename document.lines
      ++ (document.source workspace context).diagnostics filename resolution
      ++ (document.finalScope resolution).diagnostics filename document.text document.lines

end Document

variable {workspace : Workspace} {context : Context} {document : Document} {report : Report}

-- Only the absolute path and the resolution of modules can cut a pass short.
theorem validate_outcome (workspace : Workspace) (context : Context) (document : Document) :
    (validate workspace context document).outcome =
      (workspace.reach document.path).bind (fun _ =>
        ((document.source workspace context).resolve document.lines).outcome.map
          (document.report workspace context)) := by
  simp only [validate, Run.outcome_bind, Run.outcome_pure, Run.outcome_ofExcept]
  rfl

theorem validate_eq_ok_iff :
    (validate workspace context document).outcome = .ok report ↔
      workspace.reach document.path = .ok () ∧
        ∃ resolution,
          ((document.source workspace context).resolve document.lines).outcome = .ok resolution ∧
            report = document.report workspace context resolution := by
  rw [validate_outcome]
  cases workspace.reach document.path <;>
    cases ((document.source workspace context).resolve document.lines).outcome <;>
      simp [Except.bind, Except.map, eq_comm]

theorem exists_report_of_map_eq {α : Type} {f : Report → α} {a : α}
    (h : (validate workspace context document).outcome.toOption.map f = some a) :
    ∃ report, (validate workspace context document).outcome = .ok report ∧ f report = a :=
  Run.exists_outcome_of_map_eq h

end StackScript
