import StackScript.Module
import StackScript.Proofs.Outcome

/-! What looking at the files of a module finds, as a relation on the files. -/
namespace StackScript

theorem mem_externalNames {lines : List Line} {name : String} :
    name ∈ externalNames lines ↔
      ∃ line ∈ lines, line.is .external = true ∧ name ∈ Directive.externNames line.trimmed := by
  rw [externalNames, List.mem_flatMap]
  simp only [List.mem_ite_nil_right]

theorem mem_labelNames {lines : List Line} {name : String} :
    name ∈ labelNames lines ↔ ∃ line ∈ lines, line.label? = some name := by
  rw [labelNames, List.mem_filterMap]

namespace ModuleSource

variable {source : ModuleSource} {path : Path} {name : String}

/-- The file is there and has the given text. -/
def Readable (source : ModuleSource) (path : Path) (text : String) : Prop :=
  source.files.present path = .ok (.ok true) ∧
    source.files.readText source.encoding path = .ok (.ok text)

/-- It can be told whether the file is there. -/
def Locatable (source : ModuleSource) (path : Path) : Prop :=
  ∃ isThere, source.files.present path = .ok (.ok isThere)

/-- Both files of a module are there and have a text. -/
def Complete (source : ModuleSource) (name : String) : Prop :=
  (∃ text, source.Readable (source.layout.metadata name) text) ∧
    ∃ text, source.Readable (source.layout.implementation name) text

/-- The states of one file of a module. -/
inductive HalfState (source : ModuleSource) (path : Path) (namesOf : List Line → List String) :
    Half → Prop
  | missing (hpresent : source.files.present path = .ok (.ok false)) :
      HalfState source path namesOf .missing
  | unreadable {e : ReadError} (hpresent : source.files.present path = .ok (.ok true))
      (hread : source.files.readText source.encoding path = .ok (.error e)) :
      HalfState source path namesOf (.unreadable e)
  | read {text : String} (hreadable : source.Readable path text) :
      HalfState source path namesOf (.read (namesOf (Line.scan text)))

theorem Readable.unique {s t : String} (hs : source.Readable path s)
    (ht : source.Readable path t) : s = t := by
  have h := hs.2.symm.trans ht.2
  simpa using h

theorem Readable.locatable {text : String} (h : source.Readable path text) :
    source.Locatable path :=
  ⟨true, h.1⟩

theorem locate_eq_ok_iff {first second : Bool} :
    source.locate name = .ok (.ok (first, second)) ↔
      source.files.present (source.layout.metadata name) = .ok (.ok first) ∧
        source.files.present (source.layout.implementation name) = .ok (.ok second) := by
  unfold locate
  rcases source.files.present (source.layout.metadata name) with a | e | b <;>
    rcases source.files.present (source.layout.implementation name) with a' | e' | b' <;> simp

-- The second file is looked for only if there is an answer for the first.
theorem locate_eq_fault_iff {e : ReadError} :
    source.locate name = .ok (.error e) ↔
      source.files.present (source.layout.metadata name) = .ok (.error e) ∨
        source.Locatable (source.layout.metadata name) ∧
          source.files.present (source.layout.implementation name) = .ok (.error e) := by
  unfold locate Locatable
  rcases source.files.present (source.layout.metadata name) with a | e | b <;>
    rcases source.files.present (source.layout.implementation name) with a' | e' | b' <;> simp

theorem half_eq_ok_iff {isThere : Bool} {namesOf : List Line → List String} {state : Half}
    (hpresent : source.files.present path = .ok (.ok isThere)) :
    (source.half isThere path namesOf).outcome = .ok state ↔
      source.HalfState path namesOf state := by
  cases isThere with
  | false =>
    have hhalf : (source.half false path namesOf).outcome = .ok .missing := rfl
    rw [hhalf, Except.ok.injEq]
    constructor
    · intro h
      subst h
      exact .missing hpresent
    · intro h
      rcases h with _ | ⟨h, _⟩ | ⟨h, _⟩
      · rfl
      · simp [hpresent] at h
      · simp [hpresent] at h
  | true =>
    simp only [half, readHalf, if_true, Run.outcome_bind_eq_ok_iff, Run.outcome_ofExcept]
    constructor
    · intro h
      rcases h with ⟨e | text, hread, hout⟩
      · obtain rfl : Half.unreadable e = state := by
          simpa only [Run.outcome_debug_bind, Run.outcome_pure, Except.ok.injEq] using hout
        exact .unreadable hpresent hread
      · obtain rfl : Half.read (namesOf (Line.scan text)) = state := by simpa using hout
        exact .read ⟨hpresent, hread⟩
    · intro h
      rcases h with h | ⟨_, hread⟩ | ⟨_, hread⟩
      · simp [hpresent] at h
      · exact ⟨_, hread, rfl⟩
      · exact ⟨_, hread, rfl⟩

theorem HalfState.locatable {namesOf : List Line → List String} {state : Half}
    (h : source.HalfState path namesOf state) : source.Locatable path := by
  cases h with
  | missing hpresent => exact ⟨false, hpresent⟩
  | unreadable hpresent _ => exact ⟨true, hpresent⟩
  | read hreadable => exact hreadable.locatable

theorem inspect_of_abort {a : Abort} (hlocate : source.locate name = .error a) :
    (source.inspect name).outcome = .error a := by
  simp only [inspect, hlocate, Run.outcome_debug_bind, Run.outcome_ofExcept_error_bind]

theorem inspect_of_fault {e : ReadError} (hlocate : source.locate name = .ok (.error e)) :
    (source.inspect name).outcome = .ok (.unlocatable e) := by
  simp only [inspect, hlocate, Run.outcome_debug_bind, Run.outcome_ofExcept_ok_bind,
    Run.outcome_pure]

theorem inspect_of_located {first second : Bool} {inspection : Inspection}
    (hlocate : source.locate name = .ok (.ok (first, second))) :
    (source.inspect name).outcome = .ok inspection ↔
      ∃ a b, inspection = .located a b ∧
        source.HalfState (source.layout.metadata name) externalNames a ∧
        source.HalfState (source.layout.implementation name) labelNames b := by
  have hpresent := locate_eq_ok_iff.mp hlocate
  simp only [inspect, hlocate, Run.outcome_debug_bind, Run.outcome_ofExcept_ok_bind,
    Run.outcome_bind_eq_ok_iff, Run.outcome_pure, Except.ok.injEq, half_eq_ok_iff hpresent.1,
    half_eq_ok_iff hpresent.2]
  constructor
  · intro h
    obtain ⟨a, ha, b, hb, heq⟩ := h
    exact ⟨a, b, heq.symm, ha, hb⟩
  · intro h
    obtain ⟨a, b, heq, ha, hb⟩ := h
    exact ⟨a, ha, b, hb, heq.symm⟩

theorem locate_of_halfStates {a b : Half} {namesOf namesOf' : List Line → List String}
    (ha : source.HalfState (source.layout.metadata name) namesOf a)
    (hb : source.HalfState (source.layout.implementation name) namesOf' b) :
    ∃ first second, source.locate name = .ok (.ok (first, second)) := by
  obtain ⟨first, hfirst⟩ := ha.locatable
  obtain ⟨second, hsecond⟩ := hb.locatable
  exact ⟨first, second, locate_eq_ok_iff.mpr ⟨hfirst, hsecond⟩⟩

-- Either a fault keeps both files from being looked at, or each half shows its own file.
theorem inspect_eq_ok_iff {inspection : Inspection} :
    (source.inspect name).outcome = .ok inspection ↔
      (∃ e, inspection = .unlocatable e ∧ source.locate name = .ok (.error e)) ∨
        ∃ a b, inspection = .located a b ∧
          source.HalfState (source.layout.metadata name) externalNames a ∧
          source.HalfState (source.layout.implementation name) labelNames b := by
  constructor
  · intro h
    rcases hlocate : source.locate name with abort | e | ⟨first, second⟩
    · simp [inspect_of_abort hlocate] at h
    · rw [inspect_of_fault hlocate, Except.ok.injEq] at h
      exact .inl ⟨e, h.symm, rfl⟩
    · exact .inr ((inspect_of_located hlocate).mp h)
  · intro h
    rcases h with ⟨e, heq, hlocate⟩ | hlocated
    · rw [heq, inspect_of_fault hlocate]
    · obtain ⟨a, b, _, ha, hb⟩ := id hlocated
      obtain ⟨first, second, hlocate⟩ := locate_of_halfStates ha hb
      exact (inspect_of_located hlocate).mpr hlocated

theorem inspect_eq_located_iff {a b : Half} :
    (source.inspect name).outcome = .ok (.located a b) ↔
      source.HalfState (source.layout.metadata name) externalNames a ∧
        source.HalfState (source.layout.implementation name) labelNames b := by
  rw [inspect_eq_ok_iff]
  constructor
  · intro h
    rcases h with ⟨e, heq, _⟩ | ⟨a', b', heq, hstates⟩
    · simp at heq
    · obtain ⟨rfl, rfl⟩ := Inspection.located.inj heq
      exact hstates
  · intro h
    exact .inr ⟨a, b, rfl, h⟩

-- A file that is missing or has no text gives no names.
theorem HalfState.mem_names_iff {namesOf : List Line → List String} {state : Half} {e : String}
    (h : source.HalfState path namesOf state) :
    e ∈ state.names ↔ ∃ text, source.Readable path text ∧ e ∈ namesOf (Line.scan text) := by
  cases h with
  | missing hpresent => simp [Half.names, Readable, hpresent]
  | unreadable _ hread => simp [Half.names, Readable, hread]
  | read hreadable =>
    constructor
    · intro he
      exact ⟨_, hreadable, he⟩
    · intro he
      obtain ⟨text, htext, he⟩ := he
      rw [← hreadable.unique htext] at he
      exact he

/-- A name stands behind `EXTERN` in the metadata file of a module, or it is a label in the
implementation file. -/
def Exports (source : ModuleSource) (name e : String) : Prop :=
  (∃ text, source.Readable (source.layout.metadata name) text ∧
    ∃ line ∈ Line.scan text, line.is .external = true ∧ e ∈ Directive.externNames line.trimmed) ∨
  ∃ text, source.Readable (source.layout.implementation name) text ∧
    ∃ line ∈ Line.scan text, line.label? = some e

theorem mem_exports_iff {a b : Half} {e : String}
    (h : (source.inspect name).outcome = .ok (.located a b)) :
    e ∈ (Inspection.located a b).exports ↔ source.Exports name e := by
  obtain ⟨ha, hb⟩ := inspect_eq_located_iff.mp h
  rw [Inspection.exports, List.mem_eraseDups, List.mem_append, ha.mem_names_iff,
    hb.mem_names_iff]
  simp only [mem_externalNames, mem_labelNames, Exports]

-- One place that cannot be looked at is enough to hide both files.
theorem located_iff {inspection : Inspection}
    (h : (source.inspect name).outcome = .ok inspection) :
    (∃ a b, inspection = .located a b) ↔
      source.Locatable (source.layout.metadata name) ∧
        source.Locatable (source.layout.implementation name) := by
  rcases inspect_eq_ok_iff.mp h with ⟨e, heq, hlocate⟩ | ⟨a, b, heq, ha, hb⟩
  · subst heq
    simp only [reduceCtorEq, exists_false, false_iff]
    intro hboth
    obtain ⟨⟨first, hfirst⟩, second, hsecond⟩ := hboth
    rw [locate_eq_ok_iff.mpr ⟨hfirst, hsecond⟩] at hlocate
    simp at hlocate
  · subst heq
    exact ⟨fun _ => ⟨ha.locatable, hb.locatable⟩, fun _ => ⟨a, b, rfl⟩⟩

theorem Complete.located {inspection : Inspection} (hcomplete : source.Complete name)
    (h : (source.inspect name).outcome = .ok inspection) :
    ∃ a b, inspection = .located a b := by
  obtain ⟨⟨first, hfirst⟩, second, hsecond⟩ := hcomplete
  exact (located_iff h).mpr ⟨hfirst.locatable, hsecond.locatable⟩

end ModuleSource

end StackScript
