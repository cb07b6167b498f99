import StackScript.Proofs.FirstDefinition
import StackScript.Proofs.Inspection
import StackScript.Resolution

/-! How `LOAD` lines are resolved: what one line amounts to, and what follows for all lines of a
document together. -/
namespace StackScript

/-- The module that a `LOAD` line names. -/
def Line.loadedName? (line : Line) : Option String :=
  if line.is .load then Directive.loadName? line.trimmed else none

/-- The names on `LOAD` lines, with repetitions. -/
def loadedNames (lines : List Line) : List String :=
  lines.filterMap Line.loadedName?

theorem mem_loadedNames {lines : List Line} {name : String} :
    name ∈ loadedNames lines ↔
      ∃ line ∈ lines, line.is .load = true ∧ Directive.loadName? line.trimmed = some name := by
  rw [loadedNames, List.mem_filterMap]
  simp only [Line.loadedName?, Option.ite_none_right_eq_some]

theorem mem_loadedNames_cons {line : Line} {lines : List Line} {name : String}
    (h : name ∈ loadedNames lines) : name ∈ loadedNames (line :: lines) := by
  obtain ⟨other, hother, hload⟩ := mem_loadedNames.mp h
  exact mem_loadedNames.mpr ⟨other, List.mem_cons_of_mem _ hother, hload⟩

/-- The name that a `LOAD` line adds to those seen. -/
def Load.names (load : Load) : List String :=
  load.module?.toList.map Module.name

theorem Load.names_fresh (m : Module) : (Load.fresh m).names = [m.name] := rfl

theorem Resolution.modules_cons (line : Line) (load : Load) (loads : List (Line × Load)) :
    (Resolution.mk ((line, load) :: loads)).modules =
      load.module?.toList ++ (Resolution.mk loads).modules := by
  cases load <;> rfl

namespace ModuleSource

variable {source : ModuleSource} {seen : List String} {line : Line} {lines : List Line}
  {loads : List (Line × Load)}

/-- The module of a name as it was found from a line. -/
def found (source : ModuleSource) (name : String) (line : Line) (inspection : Inspection) :
    Module :=
  ⟨name, source.layout.metadata name, source.layout.implementation name, line, inspection⟩

/-- What a `LOAD` line can amount to below lines that loaded `seen`. -/
inductive LoadsAs (source : ModuleSource) (seen : List String) (line : Line) : Load → Prop
  | malformed (hname : Directive.loadName? line.trimmed = none) :
      LoadsAs source seen line .malformed
  | repeated {name : String} (hname : Directive.loadName? line.trimmed = some name)
      (hseen : name ∈ seen) : LoadsAs source seen line (.repeated name)
  | fresh {name : String} {inspection : Inspection}
      (hname : Directive.loadName? line.trimmed = some name) (hseen : name ∉ seen)
      (hinspect : (source.inspect name).outcome = .ok inspection) :
      LoadsAs source seen line (.fresh (source.found name line inspection))

/-- What the `LOAD` lines among the given ones amount to, one after the other. -/
inductive Resolves (source : ModuleSource) : List String → List Line → List (Line × Load) → Prop
  | nil {seen : List String} : Resolves source seen [] []
  | other {seen : List String} {line : Line} {lines : List Line} {loads : List (Line × Load)}
      (hline : line.is .load = false) (hrest : Resolves source seen lines loads) :
      Resolves source seen (line :: lines) loads
  | load {seen : List String} {line : Line} {lines : List Line} {loads : List (Line × Load)}
      {load : Load} (hline : line.is .load = true) (hload : source.LoadsAs seen line load)
      (hrest : Resolves source (load.names ++ seen) lines loads) :
      Resolves source seen (line :: lines) ((line, load) :: loads)

theorem resolveLine_eq_ok_iff {load : Load} :
    (source.resolveLine seen line).outcome = .ok load ↔ source.LoadsAs seen line load := by
  unfold resolveLine
  cases hname : Directive.loadName? line.trimmed with
  | none =>
    simp only [Run.outcome_pure, Except.ok.injEq]
    constructor
    · intro h
      subst h
      exact .malformed hname
    · intro h
      cases h <;> simp_all
  | some name =>
    by_cases hseen : name ∈ seen
    · simp only [List.contains_iff_mem, hseen, if_true, Run.outcome_debug_bind, Run.outcome_pure,
        Except.ok.injEq]
      constructor
      · intro h
        subst h
        exact .repeated hname hseen
      · intro h
        cases h <;> simp_all
    · simp only [List.contains_iff_mem, hseen, if_false, Run.outcome_bind_eq_ok_iff,
        Run.outcome_pure, Except.ok.injEq]
      constructor
      · intro h
        obtain ⟨inspection, hinspect, heq⟩ := h
        subst heq
        exact .fresh hname hseen hinspect
      · intro h
        cases h with
        | malformed h => simp_all
        | repeated h hin => simp_all
        | fresh h _ hinspect =>
          rw [hname, Option.some.injEq] at h
          subst h
          exact ⟨_, hinspect, rfl⟩

theorem resolveFrom_cons_of_load (hline : line.is .load = true) :
    (source.resolveFrom seen (line :: lines)).outcome = .ok loads ↔
      ∃ load rest, (source.resolveLine seen line).outcome = .ok load ∧
        (source.resolveFrom (load.names ++ seen) lines).outcome = .ok rest ∧
        loads = (line, load) :: rest := by
  rw [resolveFrom, if_pos hline]
  simp only [Run.outcome_bind_eq_ok_iff, Run.outcome_map_eq_ok_iff]
  constructor
  · intro h
    obtain ⟨load, hload, rest, hrest, heq⟩ := h
    exact ⟨load, rest, hload, hrest, heq.symm⟩
  · intro h
    obtain ⟨load, rest, hload, hrest, heq⟩ := h
    exact ⟨load, hload, rest, hrest, heq.symm⟩

theorem resolveFrom_eq_ok_iff :
    (source.resolveFrom seen lines).outcome = .ok loads ↔ source.Resolves seen lines loads := by
  induction lines generalizing seen loads with
  | nil =>
    rw [resolveFrom, Run.outcome_pure, Except.ok.injEq]
    constructor
    · intro h
      subst h
      exact .nil
    · intro h
      cases h
      rfl
  | cons line lines ih =>
    cases hline : line.is .load with
    | false =>
      rw [resolveFrom, if_neg (by simp [hline]), ih]
      constructor
      · intro h
        exact .other hline h
      · intro h
        cases h <;> simp_all
    | true =>
      simp only [resolveFrom_cons_of_load hline, resolveLine_eq_ok_iff, ih]
      constructor
      · intro h
        obtain ⟨load, rest, hload, hrest, heq⟩ := h
        subst heq
        exact .load hline hload hrest
      · intro h
        cases h with
        | other h => simp_all
        | load _ hload hrest => exact ⟨_, _, hload, hrest, rfl⟩

theorem loadedNames_cons_of_name {name : String} (hline : line.is .load = true)
    (hname : Directive.loadName? line.trimmed = some name) :
    loadedNames (line :: lines) = name :: loadedNames lines := by
  rw [loadedNames, List.filterMap_cons_some (by rw [Line.loadedName?, if_pos hline, hname]),
    loadedNames]

theorem loadedNames_cons_of_none (h : line.loadedName? = none) :
    loadedNames (line :: lines) = loadedNames lines := by
  rw [loadedNames, List.filterMap_cons_none h, loadedNames]

/-- Each name is loaded once, in the order in which the names come first. -/
theorem Resolves.map_name (h : source.Resolves seen lines loads) :
    (Resolution.mk loads).moduleNames =
      ((loadedNames lines).filter (fun name => !seen.contains name)).eraseDups := by
  induction h with
  | nil => rfl
  | other hline _ ih =>
    rw [ih, loadedNames_cons_of_none (by rw [Line.loadedName?, if_neg (by simp [hline])])]
  | load hline hload _ ih =>
    rw [Resolution.moduleNames] at ih
    rw [Resolution.moduleNames, Resolution.modules_cons, List.map_append, ih]
    cases hload with
    | malformed hname =>
      rw [loadedNames_cons_of_none (by rw [Line.loadedName?, if_pos hline, hname])]
      rfl
    | repeated hname hseen =>
      rw [loadedNames_cons_of_name hline hname, List.filter_cons_of_neg (by simpa using hseen)]
      rfl
    | fresh hname hseen _ =>
      -- the name joins those seen, so the rest goes on without its repetitions
      rw [loadedNames_cons_of_name hline hname, List.filter_cons_of_pos (by simpa using hseen),
        List.eraseDups_cons, List.filter_filter, Load.names_fresh]
      simp only [found, Load.module?, Option.toList_some, List.map_cons, List.map_nil,
        List.singleton_append, List.contains_cons, Bool.not_or]

/-- A module shows what looking at its files gives, from a line that names it. -/
theorem Resolves.eq_found (h : source.Resolves seen lines loads) {m : Module}
    (hm : m ∈ (Resolution.mk loads).modules) :
    ∃ line ∈ lines, line.loadedName? = some m.name ∧
      (source.inspect m.name).outcome = .ok m.inspection ∧
        m = source.found m.name line m.inspection := by
  induction h with
  | nil => simp [Resolution.modules] at hm
  | other _ _ ih =>
    obtain ⟨line, hline, hrest⟩ := ih hm
    exact ⟨line, List.mem_cons_of_mem _ hline, hrest⟩
  | load hline hload _ ih =>
    rw [Resolution.modules_cons, List.mem_append] at hm
    rcases hm with hm | hm
    · cases hload with
      | malformed _ | repeated _ _ => simp [Load.module?] at hm
      | fresh hname _ hinspect =>
        obtain rfl := by simpa [Load.module?] using hm
        exact ⟨_, List.mem_cons_self, by rw [Line.loadedName?, if_pos hline, hname]; rfl,
          hinspect, rfl⟩
    · obtain ⟨line, hline, hrest⟩ := ih hm
      exact ⟨line, List.mem_cons_of_mem _ hline, hrest⟩

theorem Resolves.sublist (h : source.Resolves seen lines loads) :
    (loads.map Prod.fst).Sublist lines := by
  induction h with
  | nil => exact .slnil
  | other _ _ ih => exact ih.cons _
  | load _ _ _ ih => exact ih.cons_cons _

-- After a `LOAD` line exactly its name has joined those seen.
theorem LoadsAs.mem_or_seen_iff {load : Load} {name : String} (hline : line.is .load = true)
    (hload : source.LoadsAs seen line load) :
    name ∈ loadedNames lines ∨ name ∈ load.names ++ seen ↔
      name ∈ loadedNames (line :: lines) ∨ name ∈ seen := by
  cases hload with
  | malformed hname =>
    rw [loadedNames_cons_of_none (by rw [Line.loadedName?, if_pos hline, hname])]
    rfl
  | @repeated other hname hseen =>
    rw [loadedNames_cons_of_name hline hname, List.mem_cons]
    show name ∈ loadedNames lines ∨ name ∈ seen ↔ _
    by_cases heq : name = other
    · simp only [heq, hseen, or_true]
    · simp only [heq, false_or]
  | fresh hname _ _ =>
    rw [loadedNames_cons_of_name hline hname, Load.names_fresh, List.singleton_append,
      List.mem_cons, List.mem_cons, ← or_assoc, or_comm (a := name ∈ loadedNames lines)]
    rfl

/-- Lines further down are resolved by themselves, once the names of those above are seen. -/
theorem Resolves.append {more : List Line} (h : source.Resolves seen (lines ++ more) loads) :
    ∃ above below seenAbove, loads = above ++ below ∧ source.Resolves seen lines above ∧
      (∀ name, name ∈ seenAbove ↔ name ∈ loadedNames lines ∨ name ∈ seen) ∧
      source.Resolves seenAbove more below := by
  induction lines generalizing seen loads with
  | nil => exact ⟨[], loads, seen, rfl, .nil, by simp [loadedNames], h⟩
  | cons line lines ih =>
    cases h with
    | other hline hrest =>
      obtain ⟨above, below, seenAbove, hloads, habove, hseen, hbelow⟩ := ih hrest
      refine ⟨above, below, seenAbove, hloads, .other hline habove, ?_, hbelow⟩
      rw [loadedNames_cons_of_none (by rw [Line.loadedName?, if_neg (by simp [hline])])]
      exact hseen
    | load hline hload hrest =>
      obtain ⟨above, below, seenAbove, hloads, habove, hseen, hbelow⟩ := ih hrest
      refine ⟨_ :: above, below, seenAbove, by rw [hloads, List.cons_append],
        .load hline hload habove, ?_, hbelow⟩
      intro name
      exact (hseen name).trans (hload.mem_or_seen_iff hline)

theorem resolveLine_eq_error {a : Abort} (h : (source.resolveLine seen line).outcome = .error a) :
    ∃ name, Directive.loadName? line.trimmed = some name ∧
      (source.inspect name).outcome = .error a := by
  unfold resolveLine at h
  cases hname : Directive.loadName? line.trimmed with
  | none => simp [hname] at h
  | some name =>
    simp only [hname] at h
    by_cases hseen : seen.contains name = true
    · rw [if_pos hseen, Run.outcome_debug_bind, Run.outcome_pure] at h
      simp at h
    · rw [if_neg hseen, Run.outcome_bind_eq_error_iff] at h
      simp only [Run.outcome_pure, reduceCtorEq, and_false, exists_false, or_false] at h
      exact ⟨name, rfl, h⟩

-- The first line whose module cannot be looked at ends the pass.
theorem resolveFrom_eq_error {a : Abort} (h : (source.resolveFrom seen lines).outcome = .error a) :
    ∃ name ∈ loadedNames lines, (source.inspect name).outcome = .error a := by
  induction lines generalizing seen with
  | nil => simp [resolveFrom] at h
  | cons line lines ih =>
    have htail : (∃ name ∈ loadedNames lines, (source.inspect name).outcome = .error a) →
        ∃ name ∈ loadedNames (line :: lines), (source.inspect name).outcome = .error a := by
      intro hname
      obtain ⟨name, hmem, hinspect⟩ := hname
      exact ⟨name, mem_loadedNames_cons hmem, hinspect⟩
    rw [resolveFrom] at h
    split at h
    · rename_i hline
      rw [Run.outcome_bind_eq_error_iff] at h
      rcases h with h | ⟨load, _, h⟩
      · obtain ⟨name, hname, hinspect⟩ := resolveLine_eq_error h
        exact ⟨name, mem_loadedNames.mpr ⟨line, List.mem_cons_self, hline, hname⟩, hinspect⟩
      · rw [Run.outcome_map_eq_error_iff] at h
        exact htail (ih h)
    · exact htail (ih h)

theorem resolve_eq_ok_iff {resolution : Resolution} :
    (source.resolve lines).outcome = .ok resolution ↔
      source.Resolves [] lines resolution.loads := by
  rw [resolve, Run.outcome_map_eq_ok_iff]
  simp only [resolveFrom_eq_ok_iff]
  constructor
  · intro h
    obtain ⟨loads, hloads, heq⟩ := h
    subst heq
    exact hloads
  · intro h
    exact ⟨resolution.loads, h, rfl⟩

section Resolved

variable {resolution : Resolution} (h : (source.resolve lines).outcome = .ok resolution)
include h

theorem moduleNames_eq_of_resolve : resolution.moduleNames = (loadedNames lines).eraseDups := by
  have hnames := (resolve_eq_ok_iff.mp h).map_name
  have hall : (loadedNames lines).filter (fun name => !([] : List String).contains name) =
      loadedNames lines := by
    rw [List.filter_eq_self]
    intro name _
    rfl
  rw [hall] at hnames
  exact hnames

theorem exists_module_of_resolve {name : String} (hname : name ∈ loadedNames lines) :
    ∃ m ∈ resolution.modules, m.name = name := by
  rw [← List.mem_eraseDups, ← moduleNames_eq_of_resolve h, Resolution.moduleNames,
    List.mem_map] at hname
  exact hname

theorem find?_module_of_resolve {name : String} (hname : name ∈ loadedNames lines) :
    ∃ m ∈ resolution.modules, m.name = name ∧
      resolution.modules.find? (fun m => m.name == name) = some m := by
  obtain ⟨other, hother, heq⟩ := exists_module_of_resolve h hname
  have hexists : (resolution.modules.find? (fun m => m.name == name)).isSome = true := by
    rw [List.find?_isSome]
    exact ⟨other, hother, by simpa using heq⟩
  obtain ⟨m, hfind⟩ := Option.isSome_iff_exists.mp hexists
  exact ⟨m, List.mem_of_find?_eq_some hfind, by simpa using List.find?_some hfind, hfind⟩

theorem inspect_of_resolve {m : Module} (hm : m ∈ resolution.modules) :
    (source.inspect m.name).outcome = .ok m.inspection := by
  obtain ⟨_, _, _, hinspect, _⟩ := (resolve_eq_ok_iff.mp h).eq_found hm
  exact hinspect

theorem mem_loadedNames_of_resolve {m : Module} (hm : m ∈ resolution.modules) :
    m.name ∈ loadedNames lines := by
  obtain ⟨line, hline, hname, _⟩ := (resolve_eq_ok_iff.mp h).eq_found hm
  exact List.mem_filterMap.mpr ⟨line, hline, hname⟩

end Resolved

theorem resolve_eq_error {a : Abort} (h : (source.resolve lines).outcome = .error a) :
    ∃ name ∈ loadedNames lines, (source.inspect name).outcome = .error a := by
  rw [resolve, Run.outcome_map_eq_error_iff] at h
  exact resolveFrom_eq_error h

end ModuleSource

end StackScript
