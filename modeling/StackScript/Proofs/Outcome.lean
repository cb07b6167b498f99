import StackScript.Run

/-! Runs one after the other: what comes out of them, which does not depend on what they write, and
what is written until the first of them is cut short. -/
namespace StackScript.Run

variable {α β : Type}

@[simp] theorem outcome_pure (a : α) : (pure a : Run α).outcome = .ok a := rfl

theorem log_pure (a : α) : (pure a : Run α).log = [] := rfl

theorem mk_ok_bind (log : Log) (a : α) (next : α → Run β) :
    (⟨log, .ok a⟩ : Run α) >>= next = ⟨log ++ (next a).log, (next a).outcome⟩ := rfl

theorem ofExcept_ok_bind (a : α) (next : α → Run β) : ofExcept (.ok a) >>= next = next a := rfl

@[simp] theorem outcome_map (f : α → β) (run : Run α) :
    (f <$> run).outcome = run.outcome.map f := rfl

theorem outcome_bind_of_ok {run : Run α} {a : α} (h : run.outcome = .ok a) (next : α → Run β) :
    (run >>= next).outcome = (next a).outcome := by
  simp only [Bind.bind, Run.bind, h]

theorem outcome_bind_of_error {run : Run α} {e : Abort} (h : run.outcome = .error e)
    (next : α → Run β) : (run >>= next).outcome = .error e := by
  simp only [Bind.bind, Run.bind, h]

@[simp] theorem outcome_debug_bind (settings : Option LogSettings) (message : String)
    (next : Unit → Run β) : (debug settings message >>= next).outcome = (next ()).outcome := rfl

theorem note_bind (settings : Option LogSettings) (entry : LogEntry) (next : Unit → Run β) :
    note settings entry >>= next =
      ⟨Log.note settings entry ++ (next ()).log, (next ()).outcome⟩ := rfl

@[simp] theorem outcome_ofExcept (outcome : Except Abort α) :
    (ofExcept outcome).outcome = outcome := rfl

@[simp] theorem outcome_ofExcept_ok_bind (a : α) (next : α → Run β) :
    (ofExcept (.ok a) >>= next).outcome = (next a).outcome := rfl

@[simp] theorem outcome_ofExcept_error_bind (e : Abort) (next : α → Run β) :
    (ofExcept (.error e) >>= next).outcome = .error e := rfl

theorem outcome_bind (run : Run α) (next : α → Run β) :
    (run >>= next).outcome = run.outcome.bind (fun a => (next a).outcome) := by
  cases h : run.outcome with
  | error e => rw [outcome_bind_of_error h, Except.bind]
  | ok a => rw [outcome_bind_of_ok h, Except.bind]

theorem log_bind_of_ok {run : Run α} {a : α} (h : run.outcome = .ok a) (next : α → Run β) :
    (run >>= next).log = run.log ++ (next a).log := by
  simp only [Bind.bind, Run.bind, h]

theorem log_bind_of_error {run : Run α} {e : Abort} (h : run.outcome = .error e)
    (next : α → Run β) : (run >>= next).log = run.log := by
  simp only [Bind.bind, Run.bind, h]

theorem outcome_bind_eq_ok_iff {run : Run α} {next : α → Run β} {b : β} :
    (run >>= next).outcome = .ok b ↔ ∃ a, run.outcome = .ok a ∧ (next a).outcome = .ok b := by
  cases h : run.outcome with
  | error e => simp [outcome_bind_of_error h]
  | ok a => simp [outcome_bind_of_ok h]

theorem outcome_bind_eq_error_iff {run : Run α} {next : α → Run β} {e : Abort} :
    (run >>= next).outcome = .error e ↔
      run.outcome = .error e ∨ ∃ a, run.outcome = .ok a ∧ (next a).outcome = .error e := by
  cases h : run.outcome with
  | error e' => simp [outcome_bind_of_error h]
  | ok a => simp [outcome_bind_of_ok h]

theorem outcome_map_eq_ok_iff {run : Run α} {f : α → β} {b : β} :
    (f <$> run).outcome = .ok b ↔ ∃ a, run.outcome = .ok a ∧ f a = b := by
  rw [outcome_map]
  cases run.outcome <;> simp [Except.map]

theorem outcome_map_eq_error_iff {run : Run α} {f : α → β} {e : Abort} :
    (f <$> run).outcome = .error e ↔ run.outcome = .error e := by
  rw [outcome_map]
  cases run.outcome <;> simp [Except.map]

theorem outcome_map_returns_iff {run : Run α} {f : α → β} :
    (∃ b, (f <$> run).outcome = .ok b) ↔ ∃ a, run.outcome = .ok a := by
  rw [outcome_map]
  cases run.outcome <;> simp [Except.map]

theorem exists_outcome_of_map_eq {run : Run α} {f : α → β} {b : β}
    (h : run.outcome.toOption.map f = some b) : ∃ a, run.outcome = .ok a ∧ f a = b := by
  cases hout : run.outcome with
  | error e => simp [hout, Except.toOption] at h
  | ok a => exact ⟨a, rfl, by simpa [hout, Except.toOption] using h⟩

end StackScript.Run
