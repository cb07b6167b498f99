import StackScript.Proofs.ModuleOutcome
import StackScript.Proofs.Placement

/-! What is said about a `LOAD` line: how the status of a module and the diagnostics of its line go
together, and that nothing but the module's own files has a part in it. -/
namespace StackScript

/-- The line loads the name, and no line above it does. -/
def LoadsFirst (lines : List Line) (name : String) (line : Line) : Prop :=
  ∃ above below, lines = above ++ line :: below ∧ line.loadedName? = some name ∧
    name ∉ loadedNames above

/-- The line loads the name, and so does a line above it. -/
def LoadsAgain (lines : List Line) (name : String) (line : Line) : Prop :=
  ∃ above below, lines = above ++ line :: below ∧ line.loadedName? = some name ∧
    name ∈ loadedNames above

/-- The codes that the line of a module can have, by the status of the module. -/
def ModuleStatus.reports : ModuleStatus → List (List (Option String))
  | .loaded => [[]]
  | .missingMetadata => [[some "RES-0010"]]
  | .missingImplementation => [[some "RES-0011"]]
  | .missingBoth => [[some "RES-0010", some "RES-0011"]]
  | .readError =>
      [[some "IO-0010"], [some "IO-0010", some "IO-0010"], [some "RES-0010", some "IO-0010"],
        [some "RES-0011", some "IO-0010"]]

/-- What the diagnostics of a resolution say about each `LOAD` line, told by its modules. -/
structure LoadsReported (lines : List Line) (modules : List Module)
    (diagnostics : List Diagnostic) : Prop where
  names : modules.map Module.name = (loadedNames lines).eraseDups
  line : ∀ m ∈ modules, LoadsFirst lines m.name m.line
  malformed : ∀ line ∈ lines, line.is .load = true → Directive.loadName? line.trimmed = none →
    (onLine line diagnostics).map Diagnostic.code = [some "SYN-0010"] ∧
      ∀ m ∈ modules, m.line ≠ line
  repeated : ∀ line name, LoadsAgain lines name line → onLine line diagnostics = []
  status : ∀ m ∈ modules, ∀ status, m.status = status ↔
    (onLine m.line diagnostics).map Diagnostic.code ∈ status.reports
  place : ∀ d ∈ diagnostics, ∃ (i : Nat) (line : Line), lines[i]? = some line ∧ d.line = i ∧
    line.is .load = true

-- No list of codes belongs to two statuses.
theorem ModuleStatus.eq_of_mem_reports {first second : ModuleStatus}
    {codes : List (Option String)} (hfirst : codes ∈ first.reports)
    (hsecond : codes ∈ second.reports) : first = second := by
  have hall : ∀ codes ∈ first.reports, codes ∈ second.reports → first = second := by
    cases first <;> cases second <;> decide
  exact hall codes hfirst hsecond

theorem Line.loadName?_of_loadedName? {line : Line} {name : String}
    (h : line.loadedName? = some name) :
    line.is .load = true ∧ Directive.loadName? line.trimmed = some name := by
  rw [loadedName?, Option.ite_none_right_eq_some] at h
  exact h

namespace ModuleSource

variable {source : ModuleSource} {seen : List String} {lines : List Line}
  {loads : List (Line × Load)}

-- Each state of the two files by itself, and the case that neither could be looked at.
theorem codes_mem_reports (source : ModuleSource) (name : String) (inspection : Inspection) :
    (source.problems name inspection).map (fun p => some p.code.text) ∈
      inspection.status.reports := by
  cases inspection with
  | unlocatable e => exact List.mem_cons_self
  | located a b =>
    cases a <;> cases b <;>
      simp [problems, Half.isMissing, Half.error?, Inspection.status, ModuleStatus.reports,
        Problem.code, Code.text]

theorem status_eq_iff_mem_reports (source : ModuleSource) (name : String)
    (inspection : Inspection) (status : ModuleStatus) :
    inspection.status = status ↔
      (source.problems name inspection).map (fun p => some p.code.text) ∈ status.reports := by
  have hown := source.codes_mem_reports name inspection
  constructor
  · intro h
    exact h ▸ hown
  · intro h
    exact ModuleStatus.eq_of_mem_reports hown h

theorem Resolves.loadsAs_of_mem (h : source.Resolves seen lines loads) {line : Line} {load : Load}
    (hload : (line, load) ∈ loads) :
    line.is .load = true ∧ ∃ seenAbove, source.LoadsAs seenAbove line load := by
  induction h with
  | nil => simp at hload
  | other _ _ ih => exact ih hload
  | load hline hfirst _ ih =>
    rcases List.mem_cons.mp hload with heq | hload
    · obtain ⟨rfl, rfl⟩ := Prod.mk.inj heq
      exact ⟨hline, _, hfirst⟩
    · exact ih hload

/-- A `LOAD` line is treated by what stands above it. -/
theorem Resolves.exists_load_at {above below : List Line} {line : Line}
    (h : source.Resolves seen (above ++ line :: below) loads) (hline : line.is .load = true) :
    ∃ load seenAbove, (line, load) ∈ loads ∧
      (∀ name, name ∈ seenAbove ↔ name ∈ loadedNames above ∨ name ∈ seen) ∧
      source.LoadsAs seenAbove line load := by
  obtain ⟨front, rest, seenAbove, hloads, _, hseen, hrest⟩ := h.append
  cases hrest with
  | other hother _ => simp [hline] at hother
  | load _ hload _ =>
    refine ⟨_, seenAbove, ?_, hseen, hload⟩
    rw [hloads]
    exact List.mem_append_right _ List.mem_cons_self

theorem Resolves.mem_loads_of_mem_modules (h : source.Resolves seen lines loads) {m : Module}
    (hm : m ∈ (Resolution.mk loads).modules) : (m.line, Load.fresh m) ∈ loads := by
  obtain ⟨⟨line, load⟩, hload, hmodule⟩ := List.mem_filterMap.mp hm
  obtain ⟨_, seenAbove, hloadsAs⟩ := h.loadsAs_of_mem hload
  cases hloadsAs with
  | malformed _ | repeated _ _ => simp [Load.module?] at hmodule
  | fresh _ _ _ =>
    rw [← Option.some.inj hmodule]
    exact hload

-- A module is found where its name comes first: what is seen already is never found again.
theorem Resolves.loadsFirst (h : source.Resolves seen lines loads) {m : Module}
    (hm : m ∈ (Resolution.mk loads).modules) :
    m.name ∉ seen ∧ LoadsFirst lines m.name m.line := by
  induction h with
  | nil => simp [Resolution.modules] at hm
  | @other seen line lines loads hline _ ih =>
    obtain ⟨hseen, above, below, hlines, hname, habove⟩ := ih hm
    refine ⟨hseen, line :: above, below, by rw [hlines, List.cons_append], hname, ?_⟩
    rw [loadedNames_cons_of_none (by rw [Line.loadedName?, if_neg (by simp [hline])])]
    exact habove
  | @load seen line lines loads load hline hload _ ih =>
    rw [Resolution.modules_cons, List.mem_append] at hm
    rcases hm with hm | hm
    · cases hload with
      | malformed _ | repeated _ _ => simp [Load.module?] at hm
      | @fresh name inspection hname hseen _ =>
        obtain rfl : m = source.found name line inspection := by simpa [Load.module?] using hm
        have hloaded : line.loadedName? = some name := by
          rw [Line.loadedName?, if_pos hline, hname]
        exact ⟨hseen, [], lines, rfl, hloaded, by simp [loadedNames]⟩
    · obtain ⟨hnot, above, below, hlines, hname, habove⟩ := ih hm
      have hnone : ¬ (m.name ∈ loadedNames (line :: above) ∨ m.name ∈ seen) := by
        rw [← hload.mem_or_seen_iff hline]
        exact not_or.mpr ⟨habove, hnot⟩
      exact ⟨(not_or.mp hnone).2, line :: above, below, by rw [hlines, List.cons_append], hname,
        (not_or.mp hnone).1⟩

section Resolved

variable {text : String} {resolution : Resolution} {filename : Option String} {line : Line}
  (h : (source.resolve (Line.scan text)).outcome = .ok resolution)
include h

theorem onLine_diagnostics {load : Load} (hload : (line, load) ∈ resolution.loads) :
    onLine line (source.diagnostics filename resolution) =
      (source.loadProblems load).map (Diagnostic.ofLine filename line) :=
  onLine_flatMap line_of_mem_loadDiagnostics (loads_pairwise h) hload

theorem onLine_of_malformed (hmem : line ∈ Line.scan text) (hline : line.is .load = true)
    (hname : Directive.loadName? line.trimmed = none) :
    onLine line (source.diagnostics filename resolution) =
      [.ofLine filename line .invalidLoad] := by
  obtain ⟨above, below, hlines⟩ := List.append_of_mem hmem
  have hresolves := resolve_eq_ok_iff.mp h
  rw [hlines] at hresolves
  obtain ⟨load, _, hload, _, hloadsAs⟩ := hresolves.exists_load_at hline
  rw [onLine_diagnostics h hload]
  cases hloadsAs with
  | malformed _ => rfl
  | repeated hother _ | fresh hother _ _ => simp [hname] at hother

theorem onLine_of_loadsAgain {name : String} (hagain : LoadsAgain (Line.scan text) name line) :
    onLine line (source.diagnostics filename resolution) = [] := by
  obtain ⟨above, below, hlines, hname, habove⟩ := hagain
  obtain ⟨hline, hname⟩ := Line.loadName?_of_loadedName? hname
  have hresolves := resolve_eq_ok_iff.mp h
  rw [hlines] at hresolves
  obtain ⟨load, seenAbove, hload, hseen, hloadsAs⟩ := hresolves.exists_load_at hline
  rw [onLine_diagnostics h hload]
  cases hloadsAs with
  | malformed hother => simp [hname] at hother
  | repeated _ _ => rfl
  | fresh hother hnot _ =>
    rw [hname, Option.some.injEq] at hother
    rw [hother] at habove
    exact absurd ((hseen _).mpr (.inl habove)) hnot

theorem onLine_of_module {m : Module} (hm : m ∈ resolution.modules) :
    onLine m.line (source.diagnostics filename resolution) =
      (source.problems m.name m.inspection).map (Diagnostic.ofLine filename m.line) :=
  onLine_diagnostics h ((resolve_eq_ok_iff.mp h).mem_loads_of_mem_modules hm)

theorem exists_load_of_mem_diagnostics {d : Diagnostic}
    (hd : d ∈ source.diagnostics filename resolution) :
    ∃ (i : Nat) (line : Line), (Line.scan text)[i]? = some line ∧ d.line = i ∧
      line.is .load = true := by
  obtain ⟨⟨line, load⟩, hload, hd⟩ := List.mem_flatMap.mp hd
  have hresolves := resolve_eq_ok_iff.mp h
  have hmem : line ∈ Line.scan text := hresolves.sublist.subset (List.mem_map_of_mem hload)
  exact ⟨line.index, line, Line.getElem?_index_of_mem_scan hmem,
    line_of_mem_loadDiagnostics _ d hd, (hresolves.loadsAs_of_mem hload).1⟩

end Resolved

end ModuleSource

-- The table that the exports end up in plays no part here.
theorem loads_reported_of_resolve {source : ModuleSource} {text : String}
    {resolution : Resolution} (filename : Option String)
    (h : (source.resolve (Line.scan text)).outcome = .ok resolution) :
    LoadsReported (Line.scan text) resolution.modules
      (source.diagnostics filename resolution) where
  names := ModuleSource.moduleNames_eq_of_resolve h
  line := by
    intro m hm
    exact ((ModuleSource.resolve_eq_ok_iff.mp h).loadsFirst hm).2
  malformed := by
    intro line hmem hline hname
    refine ⟨by rw [ModuleSource.onLine_of_malformed h hmem hline hname]; rfl, ?_⟩
    intro m hm heq
    obtain ⟨_, _, _, _, hloaded, _⟩ := (ModuleSource.resolve_eq_ok_iff.mp h).loadsFirst hm
    rw [heq, Line.loadedName?, if_pos hline, hname] at hloaded
    simp at hloaded
  repeated := by
    intro line name hagain
    exact ModuleSource.onLine_of_loadsAgain h hagain
  status := by
    intro m hm status
    rw [ModuleSource.onLine_of_module h hm, List.map_map]
    exact source.status_eq_iff_mem_reports m.name m.inspection status
  place := by
    intro d hd
    exact ModuleSource.exists_load_of_mem_diagnostics h hd

/-- One module is whole, one is missing, one has a file that is not ASCII and no other, one has an
implementation only; a line names nothing and a name comes twice. -/
def mixedLoads : Document :=
  ⟨Path.ofString "main.stack",
    "LOAD a\n  LOAD \"b\"\r\nLOAD\nLOAD c\nLOAD\" a \"\nLOAD d", "stackscript"⟩

def mixedLoadsSource : ModuleSource :=
  mixedLoads.source
    (.ofFiles [("a.stackm", "EXTERN f"), ("a.stack", "f:"), ("c.stackm", "EXTERN é"),
      ("d.stack", "g:")]) { encoding := "ascii" }

theorem loads_reported_of_mixedLoads :
    ∃ resolution, (mixedLoadsSource.resolve (Line.scan mixedLoads.text)).outcome =
        .ok resolution ∧
      resolution.modules.map (fun m => (m.name, m.line.index, m.status)) =
        [("a", 0, .loaded), ("b", 1, .missingBoth), ("c", 3, .readError),
          ("d", 5, .missingMetadata)] ∧
      (mixedLoadsSource.diagnostics none resolution).map (fun d => (d.line, d.code.getD "")) =
        [(1, "RES-0010"), (1, "RES-0011"), (2, "SYN-0010"), (3, "RES-0011"), (3, "IO-0010"),
          (5, "RES-0010")] ∧
      LoadsReported (Line.scan mixedLoads.text) resolution.modules
        (mixedLoadsSource.diagnostics none resolution) := by
  have hrun : (mixedLoadsSource.resolve (Line.scan mixedLoads.text)).outcome.toOption.map
      (fun resolution =>
        (resolution.modules.map (fun m => (m.name, m.line.index, m.status)),
          (mixedLoadsSource.diagnostics none resolution).map
            (fun d => (d.line, d.code.getD "")))) =
        some ([("a", 0, .loaded), ("b", 1, .missingBoth), ("c", 3, .readError),
            ("d", 5, .missingMetadata)],
          [(1, "RES-0010"), (1, "RES-0011"), (2, "SYN-0010"), (3, "RES-0011"), (3, "IO-0010"),
            (5, "RES-0010")]) := by
    decide +kernel
  obtain ⟨resolution, hresolve, hfound⟩ := Run.exists_outcome_of_map_eq hrun
  obtain ⟨hmodules, hcodes⟩ := Prod.mk.inj hfound
  exact ⟨resolution, hresolve, hmodules, hcodes, loads_reported_of_resolve none hresolve⟩

section Documents

variable {workspace : Workspace} {context : Context} {document : Document} {report : Report}
  {name : String}

-- Whatever else a document holds, the module and its line show what is found under the name.
theorem exists_module_of_loadedName
    (h : (validate workspace context document).outcome = .ok report)
    (hname : name ∈ loadedNames report.lines) :
    ∃ m, report.modules.find? (fun m => m.name == name) = some m ∧
      LoadsFirst report.lines name m.line ∧
      (document.source workspace context).summary? name = some m.summary ∧
      (onLine m.line (report.ofStage .modules)).map (fun d => (d.code, d.message)) =
        ((document.source workspace context).problemsOf name).map
          (fun p => (some p.code.text, p.message)) := by
  obtain ⟨_, resolution, hresolve, hreport⟩ := validate_eq_ok_iff.mp h
  subst hreport
  obtain ⟨m, hm, rfl, hfind⟩ := ModuleSource.find?_module_of_resolve hresolve hname
  refine ⟨m, hfind, ((ModuleSource.resolve_eq_ok_iff.mp hresolve).loadsFirst hm).2,
    ModuleSource.summary?_of_resolve hresolve hm, ?_⟩
  rw [Document.ofStage_report hresolve, Document.reportedBy,
    ModuleSource.onLine_of_module hresolve hm,
    ModuleSource.problemsOf_eq (ModuleSource.inspect_of_resolve hresolve hm), List.map_map]
  rfl

end Documents

-- The document has a say in where a module is looked for and on which line it is reported, and in
-- nothing else.
theorem module_told_alike {workspace : Workspace} {context : Context} {first second : Document}
    {left right : Report} (hdirectory : first.directory workspace = second.directory workspace)
    (hleft : (validate workspace context first).outcome = .ok left)
    (hright : (validate workspace context second).outcome = .ok right) {name : String}
    (hfirst : name ∈ loadedNames left.lines) (hsecond : name ∈ loadedNames right.lines) :
    ∃ m n, left.modules.find? (fun m => m.name == name) = some m ∧
      right.modules.find? (fun m => m.name == name) = some n ∧
      LoadsFirst left.lines name m.line ∧ LoadsFirst right.lines name n.line ∧
      m.summary = n.summary ∧
      (onLine m.line (left.ofStage .modules)).map (fun d => (d.code, d.message)) =
        (onLine n.line (right.ofStage .modules)).map (fun d => (d.code, d.message)) := by
  have hsource : first.source workspace context = second.source workspace context := by
    simp only [Document.source, hdirectory]
  obtain ⟨m, hm, hmLine, hmSummary, hmProblems⟩ := exists_module_of_loadedName hleft hfirst
  obtain ⟨n, hn, hnLine, hnSummary, hnProblems⟩ := exists_module_of_loadedName hright hsecond
  rw [← hsource] at hnSummary hnProblems
  have hsummary : m.summary = n.summary := Option.some.inj (hmSummary.symm.trans hnSummary)
  exact ⟨m, n, hm, hn, hmLine, hnLine, hsummary, hmProblems.trans hnProblems.symm⟩

/-- Loads the last module of `mixedLoads` again, from another document and below other troubles. -/
def laterLoad : Document :=
  ⟨Path.ofString "./other.stack", "LOAD \"\nd.g:\nLOAD d/c\nLOAD \"d\"\nLOAD a\nCALL d.g",
    "stackscript"⟩

theorem module_told_alike_of_laterLoad :
    ∃ left right, (validate (.ofFiles [("d.stack", "g:")]) {} mixedLoads).outcome = .ok left ∧
      (validate (.ofFiles [("d.stack", "g:")]) {} laterLoad).outcome = .ok right ∧
      ∃ m n, left.modules.find? (fun m => m.name == "d") = some m ∧
        right.modules.find? (fun m => m.name == "d") = some n ∧
        LoadsFirst left.lines "d" m.line ∧ LoadsFirst right.lines "d" n.line ∧
        m.summary = ⟨"d", Path.ofString "/p/d.stackm", Path.ofString "/p/d.stack",
          .missingMetadata, ["g"]⟩ ∧
        (onLine m.line (left.ofStage .modules)).map (fun d => (d.code, d.message)) =
          [(some "RES-0010", "Missing module metadata file: d.stackm")] ∧
        m.summary = n.summary ∧
        (onLine m.line (left.ofStage .modules)).map (fun d => (d.code, d.message)) =
          (onLine n.line (right.ofStage .modules)).map (fun d => (d.code, d.message)) := by
  have hfirst : (validate (.ofFiles [("d.stack", "g:")]) {} mixedLoads).outcome.toOption.map
      (fun report => (loadedNames report.lines,
        (report.modules.find? (fun m => m.name == "d")).map (fun m => (m.summary,
          (onLine m.line (report.ofStage .modules)).map (fun d => (d.code, d.message)))))) =
        some (["a", "b", "c", "a", "d"],
          some (⟨"d", Path.ofString "/p/d.stackm", Path.ofString "/p/d.stack",
              .missingMetadata, ["g"]⟩,
            [(some "RES-0010", "Missing module metadata file: d.stackm")])) := by
    decide +kernel
  have hsecond : (validate (.ofFiles [("d.stack", "g:")]) {} laterLoad).outcome.toOption.map
      (fun report => loadedNames report.lines) = some ["d/c", "d", "a"] := by
    decide +kernel
  obtain ⟨left, hleft, hleftFound⟩ := exists_report_of_map_eq hfirst
  obtain ⟨right, hright, hrightNames⟩ := exists_report_of_map_eq hsecond
  obtain ⟨hleftNames, hleftModule⟩ := Prod.mk.inj hleftFound
  obtain ⟨m, n, hm, hn, hmLine, hnLine, hsummary, hmessages⟩ :=
    module_told_alike (by decide +kernel) hleft hright
      (show "d" ∈ loadedNames left.lines by rw [hleftNames]; decide)
      (show "d" ∈ loadedNames right.lines by rw [hrightNames]; decide)
  rw [hm, Option.map_some, Option.some.injEq, Prod.mk.injEq] at hleftModule
  exact ⟨left, right, hleft, hright, m, n, hm, hn, hmLine, hnLine, hleftModule.1, hleftModule.2,
    hsummary, hmessages⟩

end StackScript
