import Mathlib.Data.List.Basic
import StackScript.Proofs.Resolution

/-! What a pass learns about a module follows from the name and the files of the module alone. -/
namespace StackScript

/-- What is known of a module, apart from the line that loads it. -/
structure ModuleSummary where
  name : String
  metadata : Path
  implementation : Path
  status : ModuleStatus
  exports : List String
deriving DecidableEq

def Module.summary (m : Module) : ModuleSummary :=
  ⟨m.name, m.metadata, m.implementation, m.status, m.exports⟩

/-- The problem of a `LOAD` line that names nothing. -/
def Line.loadProblem? (line : Line) : Option Problem :=
  if line.is .load && (Directive.loadName? line.trimmed).isNone then some .invalidLoad else none

theorem Line.loadProblem?_of_malformed {line : Line} (hline : line.is .load = true)
    (hname : Directive.loadName? line.trimmed = none) :
    line.loadProblem? = some .invalidLoad := by
  simp [loadProblem?, hline, hname]

theorem Line.loadProblem?_of_name {line : Line} {name : String}
    (hname : Directive.loadName? line.trimmed = some name) : line.loadProblem? = none := by
  simp [loadProblem?, hname]

theorem Line.loadProblem?_of_other {line : Line} (hline : line.is .load = false) :
    line.loadProblem? = none := by
  simp [loadProblem?, hline]

namespace ModuleSource

/-- The summary of the module of a name, if its files can be looked at. -/
def summary? (source : ModuleSource) (name : String) : Option ModuleSummary :=
  (source.inspect name).outcome.toOption.map (fun inspection =>
    ⟨name, source.layout.metadata name, source.layout.implementation name, inspection.status,
      inspection.exports⟩)

/-- The problems with the files of a name. -/
def problemsOf (source : ModuleSource) (name : String) : List Problem :=
  ((source.inspect name).outcome.toOption.map (source.problems name)).getD []

variable {source : ModuleSource} {seen : List String} {lines : List Line}
  {loads : List (Line × Load)} {resolution : Resolution}

theorem problemsOf_eq {name : String} {inspection : Inspection}
    (h : (source.inspect name).outcome = .ok inspection) :
    source.problemsOf name = source.problems name inspection := by
  unfold problemsOf
  rw [h]
  rfl

/-- Lines are resolved exactly if the files of every name on them can be looked at. -/
theorem resolve_returns_iff :
    (∃ resolution, (source.resolve lines).outcome = .ok resolution) ↔
      ∀ name ∈ loadedNames lines, ∃ inspection, (source.inspect name).outcome = .ok inspection := by
  constructor
  · intro h name hname
    obtain ⟨resolution, hresolve⟩ := h
    obtain ⟨m, hm, heq⟩ := exists_module_of_resolve hresolve hname
    have hinspect := inspect_of_resolve hresolve hm
    rw [heq] at hinspect
    exact ⟨_, hinspect⟩
  · intro h
    cases hresolve : (source.resolve lines).outcome with
    | ok resolution => exact ⟨resolution, rfl⟩
    | error a =>
      obtain ⟨name, hname, herror⟩ := resolve_eq_error hresolve
      obtain ⟨inspection, hinspect⟩ := h name hname
      rw [hinspect] at herror
      exact absurd herror (by simp)

theorem summary?_of_resolve (h : (source.resolve lines).outcome = .ok resolution) {m : Module}
    (hm : m ∈ resolution.modules) : source.summary? m.name = some m.summary := by
  obtain ⟨line, _, _, hinspect, hfound⟩ := (resolve_eq_ok_iff.mp h).eq_found hm
  have hmetadata := congrArg Module.metadata hfound
  have himplementation := congrArg Module.implementation hfound
  simp only [found] at hmetadata himplementation
  unfold summary? Module.summary
  rw [hinspect, hmetadata, himplementation]
  rfl

theorem map_summary_modules (h : (source.resolve lines).outcome = .ok resolution) :
    resolution.modules.map Module.summary =
      (loadedNames lines).eraseDups.filterMap source.summary? := by
  have hsummary : ∀ m ∈ resolution.modules,
      (source.summary? ∘ Module.name) m = (some ∘ Module.summary) m := by
    intro m hm
    rw [Function.comp_apply, Function.comp_apply, summary?_of_resolve h hm]
  rw [← moduleNames_eq_of_resolve h, Resolution.moduleNames, List.filterMap_map,
    List.filterMap_congr hsummary, List.filterMap_eq_map]

-- One `LOAD` line at a time: it names nothing, or it adds a module with its problems, or neither.
theorem Resolves.perm_problems (h : source.Resolves seen lines loads) :
    (loads.flatMap (fun load => source.loadProblems load.2)).Perm
      (lines.filterMap Line.loadProblem?
        ++ (Resolution.mk loads).moduleNames.flatMap source.problemsOf) := by
  induction h with
  | nil => exact .refl _
  | other hline _ ih =>
    rw [List.filterMap_cons_none (Line.loadProblem?_of_other hline)]
    exact ih
  | load hline hload _ ih =>
    rw [List.flatMap_cons, Resolution.moduleNames, Resolution.modules_cons]
    cases hload with
    | malformed hname =>
      rw [List.filterMap_cons_some (Line.loadProblem?_of_malformed hline hname)]
      exact ih.cons _
    | repeated hname _ =>
      rw [List.filterMap_cons_none (Line.loadProblem?_of_name hname)]
      exact ih
    | fresh hname _ hinspect =>
      rw [List.filterMap_cons_none (Line.loadProblem?_of_name hname)]
      simp only [Load.module?, Option.toList_some, List.singleton_append, List.map_cons,
        List.flatMap_cons, found, problemsOf_eq hinspect]
      exact (ih.append_left _).trans (List.perm_append_comm_assoc _ _ _)

theorem perm_problems_of_resolve (h : (source.resolve lines).outcome = .ok resolution) :
    (resolution.loads.flatMap (fun load => source.loadProblems load.2)).Perm
      (lines.filterMap Line.loadProblem?
        ++ (loadedNames lines).eraseDups.flatMap source.problemsOf) := by
  rw [← moduleNames_eq_of_resolve h]
  exact (resolve_eq_ok_iff.mp h).perm_problems

end ModuleSource

end StackScript
