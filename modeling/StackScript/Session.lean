import StackScript.Store
import StackScript.Validation

/-! An editing session: documents come and go, files change, diagnostics are kept up to date. -/
namespace StackScript

structure Session where
  workspace : Workspace
  context : Context
  store : Store := {}

inductive Step where
  | replaceFiles (files : FileSystem)
  | relocate (directory : Except FileError Path)
  | revalidate (document : Document)
  | publish (identity : String) (diagnostics : List Diagnostic)
  | withdraw (identity : String)
  | clear

namespace Session

/-- Runs a full pass and replaces what is held for the document. A document of another language is
ignored, but for its absolute path, and a pass that is cut short leaves everything as it was. -/
def revalidate (session : Session) (document : Document) :
    Session × Run (Option (List Diagnostic)) :=
  if document.languageId = session.context.languageId then
    let run := validate session.workspace session.context document
    match run.outcome with
    | .ok report =>
        let store := session.store.set (document.identity session.workspace) report.diagnostics
        ({ session with store }, ⟨run.log, .ok (some report.diagnostics)⟩)
    | .error abort => (session, ⟨run.log, .error abort⟩)
  else
    (session, do
      Run.ofExcept (session.workspace.reach document.path)
      Run.debug session.context.log ("Skipping '" ++ document.identity session.workspace
        ++ "' (language '" ++ document.languageId ++ "')")
      pure none)

/-- One step. Only a document that is validated has diagnostics as its result. -/
def step (session : Session) : Step → Session × Run (Option (List Diagnostic))
  | .replaceFiles files => ({ session with workspace.files := files }, pure none)
  | .relocate directory => ({ session with workspace.directory := directory }, pure none)
  | .revalidate document => session.revalidate document
  | .publish identity diagnostics =>
      ({ session with store := session.store.set identity diagnostics }, pure none)
  | .withdraw identity => ({ session with store := session.store.erase identity }, pure none)
  | .clear => ({ session with store := {} }, pure none)

/-- The session after a sequence of steps. -/
def after (session : Session) (steps : List Step) : Session :=
  steps.foldl (fun session s => (session.step s).1) session

end Session

end StackScript
