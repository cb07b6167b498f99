import StackScript.Proofs.Provenance
import StackScript.Session

/-! What the store of a session holds for a document: what the last step that concerns the document
left there. -/
namespace StackScript

namespace Store

/-- The entry of a document, if it has one. -/
def held? (store : Store) (i : String) : Option (List Diagnostic) :=
  store.entries[i]?

theorem get_eq (store : Store) (i : String) : store.get i = (store.held? i).getD [] :=
  Std.TreeMap.getD_eq_getD_getElem?

theorem contains_eq (store : Store) (i : String) : store.contains i = (store.held? i).isSome :=
  Std.TreeMap.contains_eq_isSome_getElem?

theorem held?_empty (i : String) : ({} : Store).held? i = none :=
  Std.TreeMap.getElem?_emptyc

theorem held?_set (store : Store) (i j : String) (diagnostics : List Diagnostic) :
    (store.set i diagnostics).held? j = if i = j then some diagnostics else store.held? j := by
  simp [held?, set, Std.TreeMap.getElem?_insert]

theorem held?_erase (store : Store) (i j : String) :
    (store.erase i).held? j = if i = j then none else store.held? j := by
  simp [held?, erase, Std.TreeMap.getElem?_erase]

theorem mem_identities {store : Store} {i : String} :
    i ∈ store.identities ↔ store.contains i = true := by
  rw [identities, Std.TreeMap.mem_keys]
  rfl

theorem identities_pairwise (store : Store) : store.identities.Pairwise (· < ·) := by
  have hkeys := store.entries.ordered_keys
  apply hkeys.imp
  intro i j hlt
  exact compareOfLessAndEq_eq_lt.mp hlt

end Store

/-- How a step changes the files and the working directory. -/
def Workspace.step (workspace : Workspace) : Step → Workspace
  | .replaceFiles files => { workspace with files }
  | .relocate directory => { workspace with directory }
  | _ => workspace

/-- The workspace after a sequence of steps: the files and the directory that were put there last. -/
def Workspace.after (workspace : Workspace) (steps : List Step) : Workspace :=
  steps.foldl Workspace.step workspace

namespace Step

/-- The step decides what is held for a document, `none` if nothing is. The workspace is the one in
which the step is taken. -/
inductive Settles (workspace : Workspace) (context : Context) (i : String) :
    Step → Option (List Diagnostic) → Prop
  | revalidated {document : Document} {report : Report}
      (hidentity : document.identity workspace = i)
      (hlanguage : document.languageId = context.languageId)
      (hrun : (validate workspace context document).outcome = .ok report) :
      Settles workspace context i (.revalidate document) (some report.diagnostics)
  | published (diagnostics : List Diagnostic) :
      Settles workspace context i (.publish i diagnostics) (some diagnostics)
  | withdrawn : Settles workspace context i (.withdraw i) none
  | cleared : Settles workspace context i .clear none

def Concerns (workspace : Workspace) (context : Context) (i : String) (step : Step) : Prop :=
  ∃ entry, step.Settles workspace context i entry

section Concerns

variable {workspace : Workspace} {context : Context} {i : String}

theorem concerns_publish_iff {j : String} {diagnostics : List Diagnostic} :
    (publish j diagnostics).Concerns workspace context i ↔ j = i := by
  constructor
  · intro h
    obtain ⟨_, h⟩ := h
    cases h
    rfl
  · intro h
    subst h
    exact ⟨_, .published diagnostics⟩

theorem concerns_withdraw_iff {j : String} :
    (withdraw j).Concerns workspace context i ↔ j = i := by
  constructor
  · intro h
    obtain ⟨_, h⟩ := h
    cases h
    rfl
  · intro h
    subst h
    exact ⟨_, .withdrawn⟩

theorem concerns_revalidate_iff {document : Document} :
    (revalidate document).Concerns workspace context i ↔
      document.identity workspace = i ∧ document.languageId = context.languageId ∧
        ∃ report, (validate workspace context document).outcome = .ok report := by
  constructor
  · intro h
    obtain ⟨_, h⟩ := h
    cases h with
    | revalidated hidentity hlanguage hrun => exact ⟨hidentity, hlanguage, _, hrun⟩
  · intro h
    obtain ⟨hidentity, hlanguage, report, hrun⟩ := h
    exact ⟨_, .revalidated hidentity hlanguage hrun⟩

end Concerns

/-- None of the steps concerns the document, each in the workspace in which it is taken. -/
def Spare (workspace : Workspace) (context : Context) (i : String) : List Step → Prop
  | [] => True
  | step :: steps =>
      ¬ step.Concerns workspace context i ∧ Spare (workspace.step step) context i steps

end Step

namespace Session

variable {session : Session} {i : String}

theorem revalidate_unchanged (session : Session) (document : Document) :
    (session.revalidate document).1.workspace = session.workspace ∧
      (session.revalidate document).1.context = session.context := by
  unfold revalidate
  split
  · dsimp only
    split <;> exact ⟨rfl, rfl⟩
  · exact ⟨rfl, rfl⟩

theorem step_workspace (session : Session) (step : Step) :
    (session.step step).1.workspace = session.workspace.step step := by
  cases step with
  | revalidate document => exact (session.revalidate_unchanged document).1
  | _ => rfl

theorem step_context (session : Session) (step : Step) :
    (session.step step).1.context = session.context := by
  cases step with
  | revalidate document => exact (session.revalidate_unchanged document).2
  | _ => rfl

theorem after_cons (session : Session) (step : Step) (steps : List Step) :
    session.after (step :: steps) = (session.step step).1.after steps := rfl

theorem after_append (session : Session) (first second : List Step) :
    session.after (first ++ second) = (session.after first).after second := by
  unfold after
  rw [List.foldl_append]

theorem after_workspace (session : Session) (steps : List Step) :
    (session.after steps).workspace = session.workspace.after steps := by
  induction steps generalizing session with
  | nil => rfl
  | cons step steps ih =>
    rw [after_cons, ih, step_workspace]
    rfl

theorem after_context (session : Session) (steps : List Step) :
    (session.after steps).context = session.context := by
  induction steps generalizing session with
  | nil => rfl
  | cons step steps ih => rw [after_cons, ih, step_context]

theorem revalidate_of_report {document : Document} {report : Report}
    (hlanguage : document.languageId = session.context.languageId)
    (hrun : (validate session.workspace session.context document).outcome = .ok report) :
    (session.revalidate document).1.store =
        session.store.set (document.identity session.workspace) report.diagnostics ∧
      (session.revalidate document).2.outcome = .ok (some report.diagnostics) := by
  unfold revalidate
  rw [if_pos hlanguage]
  simp only [hrun, and_self]

-- Nothing is half done: without a report the store stays as it was.
theorem revalidate_of_no_report {document : Document}
    (h : document.languageId ≠ session.context.languageId ∨
      ∃ a, (validate session.workspace session.context document).outcome = .error a) :
    (session.revalidate document).1.store = session.store := by
  unfold revalidate
  by_cases hlanguage : document.languageId = session.context.languageId
  · obtain ⟨a, herror⟩ := h.resolve_left (fun hother => hother hlanguage)
    rw [if_pos hlanguage]
    simp only [herror]
  · rw [if_neg hlanguage]

theorem held?_step_of_settles {step : Step} {entry : Option (List Diagnostic)}
    (h : step.Settles session.workspace session.context i entry) :
    (session.step step).1.store.held? i = entry := by
  cases h with
  | revalidated hidentity hlanguage hrun =>
    change (session.revalidate _).1.store.held? i = _
    rw [(revalidate_of_report hlanguage hrun).1, Store.held?_set, if_pos hidentity]
  | published diagnostics =>
    change (session.store.set i diagnostics).held? i = _
    rw [Store.held?_set, if_pos rfl]
  | withdrawn =>
    change (session.store.erase i).held? i = _
    rw [Store.held?_erase, if_pos rfl]
  | cleared => exact Store.held?_empty i

theorem held?_step_of_not_concerns {step : Step}
    (h : ¬ step.Concerns session.workspace session.context i) :
    (session.step step).1.store.held? i = session.store.held? i := by
  cases step with
  | replaceFiles files => rfl
  | relocate directory => rfl
  | revalidate document =>
    change (session.revalidate document).1.store.held? i = _
    by_cases hlanguage : document.languageId = session.context.languageId
    · cases hrun : (validate session.workspace session.context document).outcome with
      | error a => rw [revalidate_of_no_report (.inr ⟨a, hrun⟩)]
      | ok report =>
        have hother : document.identity session.workspace ≠ i := by
          intro hidentity
          exact h (Step.concerns_revalidate_iff.mpr ⟨hidentity, hlanguage, report, hrun⟩)
        rw [(revalidate_of_report hlanguage hrun).1, Store.held?_set, if_neg hother]
    · rw [revalidate_of_no_report (.inl hlanguage)]
  | publish j diagnostics =>
    have hother : j ≠ i := fun hij => h (Step.concerns_publish_iff.mpr hij)
    change (session.store.set j diagnostics).held? i = _
    rw [Store.held?_set, if_neg hother]
  | withdraw j =>
    have hother : j ≠ i := fun hij => h (Step.concerns_withdraw_iff.mpr hij)
    change (session.store.erase j).held? i = _
    rw [Store.held?_erase, if_neg hother]
  | clear => exact absurd ⟨_, .cleared⟩ h

theorem held?_after_of_spare {steps : List Step}
    (h : Step.Spare session.workspace session.context i steps) :
    (session.after steps).store.held? i = session.store.held? i := by
  induction steps generalizing session with
  | nil => rfl
  | cons step steps ih =>
    obtain ⟨hstep, hrest⟩ := h
    rw [← step_workspace, ← step_context session step] at hrest
    rw [after_cons, ih hrest, held?_step_of_not_concerns hstep]

-- The entry is made by the step and outlives every step that does not concern the document.
theorem held?_after_of_settles {before later : List Step} {step : Step}
    {entry : Option (List Diagnostic)}
    (hstep : step.Settles (session.workspace.after before) session.context i entry)
    (hlater : Step.Spare (session.workspace.after (before ++ [step])) session.context i later) :
    (session.after (before ++ step :: later)).store.held? i = entry := by
  rw [← after_workspace, ← session.after_context before] at hstep
  have hspare : Step.Spare ((session.after before).step step).1.workspace
      ((session.after before).step step).1.context i later := by
    have hworkspace : session.workspace.after (before ++ [step]) =
        ((session.after before).step step).1.workspace := by
      rw [step_workspace, after_workspace]
      unfold Workspace.after
      rw [List.foldl_append]
      rfl
    rw [step_context, after_context, ← hworkspace]
    exact hlater
  rw [after_append, after_cons, held?_after_of_spare hspare, held?_step_of_settles hstep]

end Session

/-- The store of a session that starts with an empty one. -/
def storeAfter (workspace : Workspace) (context : Context) (steps : List Step) : Store :=
  ((Session.mk workspace context {}).after steps).store

/-- The law of the store, after any steps from an empty one. -/
structure StoreLaw (workspace : Workspace) (context : Context) (steps : List Step) : Prop where
  /-- The last step that concerns a document decides what is held for it. -/
  settled : ∀ i before step later entry, steps = before ++ step :: later →
    step.Settles (workspace.after before) context i entry →
    Step.Spare (workspace.after (before ++ [step])) context i later →
      (storeAfter workspace context steps).get i = entry.getD [] ∧
      (storeAfter workspace context steps).contains i = entry.isSome
  untouched : ∀ i, Step.Spare workspace context i steps →
    (storeAfter workspace context steps).get i = [] ∧
    (storeAfter workspace context steps).contains i = false
  /-- A pass hands out what it stores. -/
  returned : ∀ before document later report, steps = before ++ .revalidate document :: later →
    document.languageId = context.languageId →
    (validate (workspace.after before) context document).outcome = .ok report →
      (((Session.mk workspace context {}).after before).step (.revalidate document)).2.outcome =
        .ok (some report.diagnostics)
  ignored : ∀ before document later, steps = before ++ .revalidate document :: later →
    (document.languageId ≠ context.languageId ∨
      ∃ a, (validate (workspace.after before) context document).outcome = .error a) →
      storeAfter workspace context (before ++ [.revalidate document]) =
        storeAfter workspace context before
  sorted : (storeAfter workspace context steps).identities.Pairwise (· < ·)
  identities : ∀ i, i ∈ (storeAfter workspace context steps).identities ↔
    (storeAfter workspace context steps).contains i = true

-- Any sequence of steps is a prefix of longer ones, so the law holds at every moment of a session.
theorem storeLaw_of_steps (workspace : Workspace) (context : Context) (steps : List Step) :
    StoreLaw workspace context steps where
  settled := by
    intro i before step later entry hsteps hstep hlater
    subst hsteps
    have hentry : (storeAfter workspace context (before ++ step :: later)).held? i = entry :=
      Session.held?_after_of_settles hstep hlater
    rw [Store.get_eq, Store.contains_eq, hentry]
    exact ⟨rfl, rfl⟩
  untouched := by
    intro i hspare
    have hentry : (storeAfter workspace context steps).held? i = ({} : Store).held? i :=
      Session.held?_after_of_spare hspare
    rw [Store.get_eq, Store.contains_eq, hentry, Store.held?_empty]
    exact ⟨rfl, rfl⟩
  returned := by
    intro before document later report _ hlanguage hrun
    apply (Session.revalidate_of_report _ _).2
    · rw [Session.after_context]
      exact hlanguage
    · rw [Session.after_workspace, Session.after_context]
      exact hrun
  ignored := by
    intro before document later _ hno
    unfold storeAfter
    rw [Session.after_append]
    apply Session.revalidate_of_no_report
    rw [Session.after_workspace, Session.after_context]
    exact hno
  sorted := Store.identities_pairwise _
  identities := fun _ => Store.mem_identities

/-- The modules of a document appear after its first pass; steps for other documents, and one in
another language, follow the second pass. -/
def modulesAppear : List Step :=
  [.revalidate sharedNames, .replaceFiles (Workspace.ofFiles sharedNamesFiles).files,
    .revalidate sharedNames, .publish "/p/other.stack" [], .withdraw "/p/gone.stack",
    .revalidate { sharedNames with languageId := "plaintext" }]

-- Of the first pass, which misses all four files, nothing is left.
theorem storeLaw_of_modulesAppear :
    (storeAfter (.ofFiles []) {} modulesAppear).contains "/p/main.stack" = true ∧
      ((storeAfter (.ofFiles []) {} modulesAppear).get "/p/main.stack").map Diagnostic.message =
        ["No HALT instruction found"] := by
  have hrun : (validate (.ofFiles sharedNamesFiles) {} sharedNames).outcome.toOption.map
      (fun report => report.diagnostics.map Diagnostic.message) =
        some ["No HALT instruction found"] := by
    decide +kernel
  obtain ⟨report, hreport, hmessages⟩ := exists_report_of_map_eq hrun
  have hspare : Step.Spare (.ofFiles sharedNamesFiles) {} "/p/main.stack"
      (modulesAppear.drop 3) := by
    refine ⟨?_, ?_, ?_, trivial⟩
    · rw [Step.concerns_publish_iff]
      decide
    · rw [Step.concerns_withdraw_iff]
      decide
    · rw [Step.concerns_revalidate_iff]
      intro h
      exact absurd h.2.1 (by decide)
  obtain ⟨hget, hcontains⟩ := (storeLaw_of_steps (.ofFiles []) {} modulesAppear).settled
    "/p/main.stack" (modulesAppear.take 2) (.revalidate sharedNames) (modulesAppear.drop 3)
    (some report.diagnostics) rfl (.revalidated (by decide +kernel) rfl hreport) hspare
  rw [hget]
  exact ⟨hcontains, hmessages⟩

end StackScript
