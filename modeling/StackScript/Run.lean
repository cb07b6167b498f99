import StackScript.FileSystem
import StackScript.Log

/-! Computations that write a log and may be cut short. -/
namespace StackScript

/-- A log and what came out: a value, or the reason for which the computation ended early. The log
holds what was written until then: what the settings hold back never gets there. -/
structure Run (α : Type) where
  log : Log
  outcome : Except Abort α

namespace Run

protected def pure {α : Type} (a : α) : Run α :=
  ⟨[], .ok a⟩

protected def map {α β : Type} (f : α → β) (run : Run α) : Run β :=
  ⟨run.log, run.outcome.map f⟩

protected def bind {α β : Type} (run : Run α) (next : α → Run β) : Run β :=
  match run.outcome with
  | .ok a =>
      let rest := next a
      ⟨run.log ++ rest.log, rest.outcome⟩
  | .error e => ⟨run.log, .error e⟩

instance : Monad Run where
  pure := Run.pure
  map := Run.map
  bind := Run.bind

/-- Writes one entry, if the settings admit it. -/
def note (settings : Option LogSettings) (entry : LogEntry) : Run Unit :=
  ⟨Log.note settings entry, .ok ()⟩

def debug (settings : Option LogSettings) (message : String) : Run Unit :=
  note settings ⟨.debug, message⟩

def info (settings : Option LogSettings) (message : String) : Run Unit :=
  note settings ⟨.info, message⟩

/-- Announces a stage of the pass over a document. -/
def stage (settings : Option LogSettings) (name document : String) : Run Unit :=
  note settings (Log.stage name (some document))

def ofExcept {α : Type} (outcome : Except Abort α) : Run α :=
  ⟨[], outcome⟩

instance : LawfulMonad Run :=
  LawfulMonad.mk' Run
    (by
      rintro α ⟨log, e | a⟩ <;> rfl)
    (by
      intro α β a f
      rfl)
    (by
      rintro α β γ ⟨log, e | a⟩ f g
      · rfl
      · simp only [Bind.bind, Run.bind]
        cases (f a).outcome <;> simp [List.append_assoc])
    (by
      intro α β a run
      rfl)
    (by
      rintro α β ⟨log, e | a⟩ ⟨log', e' | b⟩ <;>
        simp [Bind.bind, Run.bind, SeqLeft.seqLeft, Pure.pure, Run.pure])
    (by
      intro α β run other
      rfl)
    (by
      rintro α β f ⟨log, e | a⟩ <;>
        simp [Bind.bind, Run.bind, Functor.map, Run.map, Pure.pure, Run.pure, Except.map])

end Run

end StackScript
