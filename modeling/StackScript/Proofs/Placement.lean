import StackScript.Proofs.Occurrence
import StackScript.Proofs.Provenance
import StackScript.Proofs.Stage

/-! The diagnostics of a report: each marks columns of one line of the document, and the stages
follow one another from the top of the document to its end. -/
namespace StackScript

/-- The text in the columns from `start` up to but excluding `stop`. -/
def slice (text : String) (start stop : Nat) : String :=
  String.ofList ((text.toList.drop start).take (stop - start))

/-- The diagnostic marks columns of the line at index `i`. -/
structure Diagnostic.Marks (d : Diagnostic) (i start stop : Nat) : Prop where
  line : d.line = i
  endLine : d.endLine = i
  column : d.column = start
  endColumn : d.endColumn = stop

/-- A diagnostic that fits the document of a report. -/
structure Report.Fits (report : Report) (d : Diagnostic) : Prop where
  filename : d.filename = some report.identity
  registered : ∃ family ∈ Code.families, ∃ code ∈ family.2, d.code = some code.text
  severity : d.severity = .warning ↔ d.code = some "STY-0010"
  /-- An undefined variable is marked where it is referred to, anything else along its line. -/
  place : ∃ (i start stop : Nat) (line : Line), report.lines[i]? = some line ∧
    d.Marks i start stop ∧ start ≤ stop ∧ stop ≤ line.length ∧
    (d.code = some "RES-0040" → ∃ name, d.message = "Undefined variable: " ++ name ∧
      slice line.raw start stop = "%VAR<" ++ name ++ ">") ∧
    (d.code ≠ some "RES-0040" → start = 0 ∧ stop = line.length)

/-- The stages stand one behind the other, and each goes through the document once. -/
structure Report.InOrder (report : Report) : Prop where
  stages : report.diagnostics = report.ofStage .declarations ++ report.ofStage .modules
    ++ report.ofStage .calls ++ report.ofStage .references ++ report.ofStage .halt
  declarations : (report.ofStage .declarations).Pairwise (fun a b => a.line < b.line)
  modules : (report.ofStage .modules).Pairwise (fun a b => a.line ≤ b.line)
  modules_onLine : ∀ line ∈ report.lines, (onLine line (report.ofStage .modules)).length ≤ 2
  calls : (report.ofStage .calls).Pairwise (fun a b => a.line < b.line)
  references : (report.ofStage .references).Pairwise
    (fun a b => a.line < b.line ∨ a.line = b.line ∧ a.column < b.column)
  halt : (report.ofStage .halt).length ≤ 1

theorem Code.registered (code : Code) : ∃ family ∈ families, code ∈ family.2 := by
  cases code <;> decide

theorem Code.severity_eq_warning_iff (code : Code) :
    code.severity = .warning ↔ some code.text = some "STY-0010" := by
  cases code <;> decide

theorem Code.text_eq_iff_references (code : Code) :
    some code.text = some "RES-0040" ↔ code.stage = .references := by
  cases code <;> decide

theorem VariableReference.slice_of_mem_find {raw : String} {ref : VariableReference}
    (h : ref ∈ find raw) :
    ref.start ≤ ref.stop ∧ ref.stop ≤ raw.length ∧
      slice raw ref.start ref.stop = "%VAR<" ++ ref.name ++ ">" := by
  obtain ⟨_, before, after, hraw, hstart, hstop⟩ := mem_findFrom_iff.mp h
  rw [Nat.zero_add] at hstart
  have hlength : (textOf ref.name.toList).length = ref.name.length + 6 := by
    rw [length_textOf, String.length_toList]
  have hwidth : ref.stop - ref.start = (textOf ref.name.toList).length := by omega
  have htotal : raw.length = before.length + (ref.name.length + 6) + after.length := by
    rw [← String.length_toList, hraw, List.length_append, List.length_append, hlength]
  refine ⟨by omega, by omega, ?_⟩
  unfold slice
  rw [hwidth, hstart, hraw, List.append_assoc, List.drop_left, List.take_left,
    ← String.toList_inj]
  simp [textOf]

section Reported

variable {report : Report} {text : String} (hlines : report.lines = Line.scan text)
include hlines

theorem Report.fits_ofSpan {line : Line} {start stop : Nat} {problem : Problem}
    (hline : line ∈ report.lines) (hstart : start ≤ stop) (hstop : stop ≤ line.length)
    (hreference : problem.code.stage = .references →
      ∃ name, problem.message = "Undefined variable: " ++ name ∧
        slice line.raw start stop = "%VAR<" ++ name ++ ">")
    (hwhole : problem.code.stage ≠ .references → start = 0 ∧ stop = line.length) :
    report.Fits (.ofSpan (some report.identity) line start stop problem) where
  filename := rfl
  registered := by
    obtain ⟨family, hfamily, hcode⟩ := problem.code.registered
    exact ⟨family, hfamily, _, hcode, rfl⟩
  severity := problem.code.severity_eq_warning_iff
  place := by
    have hplace : report.lines[line.index]? = some line := by
      rw [hlines] at hline ⊢
      exact Line.getElem?_index_of_mem_scan hline
    refine ⟨line.index, start, stop, line, hplace, ⟨rfl, rfl, rfl, rfl⟩, hstart, hstop, ?_, ?_⟩
    · intro hcode
      exact hreference (problem.code.text_eq_iff_references.mp hcode)
    · intro hcode
      apply hwhole
      intro hstage
      exact hcode (problem.code.text_eq_iff_references.mpr hstage)

theorem Reported.fits {stage : Stage} {d : Diagnostic}
    (h : Reported (some report.identity) report.lines stage d) : report.Fits d := by
  cases h with
  | line hline hstage hwhole =>
    apply report.fits_ofSpan hlines hline (Nat.zero_le _) (Nat.le_refl _)
    · intro hreferences
      exact absurd (hstage.symm.trans hreferences) hwhole
    · intro _
      exact ⟨rfl, rfl⟩
  | reference hline href =>
    obtain ⟨hstart, hstop, hslice⟩ := VariableReference.slice_of_mem_find href
    apply report.fits_ofSpan hlines hline hstart hstop
    · intro _
      exact ⟨_, rfl, hslice⟩
    · intro hstage
      exact absurd rfl hstage

end Reported

theorem pairwise_lt_filterMap {filename : Option String} {text : String}
    (problem? : Line → Option Problem) :
    ((Line.scan text).filterMap
        (fun line => (problem? line).map (Diagnostic.ofLine filename line))).Pairwise
      (fun a b => a.line < b.line) := by
  rw [List.pairwise_filterMap]
  apply (Line.scan_pairwise text).imp
  intro line below hlt d hd e he
  obtain ⟨_, _, hd⟩ := Option.map_eq_some_iff.mp hd
  obtain ⟨_, _, he⟩ := Option.map_eq_some_iff.mp he
  rw [← hd, ← he]
  exact Int.ofNat_lt.mpr hlt

namespace ModuleSource

variable {source : ModuleSource} {text : String} {resolution : Resolution}
  {filename : Option String}

theorem length_loadProblems_le (source : ModuleSource) (load : Load) :
    (source.loadProblems load).length ≤ 2 := by
  cases load with
  | malformed => exact Nat.le_succ 1
  | repeated _ => exact Nat.zero_le 2
  | fresh m =>
    rw [loadProblems]
    cases m.inspection with
    | unlocatable e => exact Nat.le_succ 1
    | located a b => cases a <;> cases b <;> simp [problems, Half.isMissing, Half.error?]

theorem line_of_mem_loadDiagnostics (load : Line × Load) :
    ∀ d ∈ (source.loadProblems load.2).map (Diagnostic.ofLine filename load.1),
      d.line = load.1.index := by
  intro d hd
  obtain ⟨problem, _, heq⟩ := List.mem_map.mp hd
  rw [← heq]
  rfl

variable (h : (source.resolve (Line.scan text)).outcome = .ok resolution)
include h

theorem loads_pairwise : resolution.loads.Pairwise (fun a b => a.1.index < b.1.index) := by
  have hsorted := (Line.scan_pairwise text).sublist (resolve_eq_ok_iff.mp h).sublist
  rw [List.pairwise_map] at hsorted
  exact hsorted

theorem diagnostics_pairwise :
    (source.diagnostics filename resolution).Pairwise (fun a b => a.line ≤ b.line) := by
  unfold diagnostics
  rw [List.pairwise_flatMap]
  refine ⟨?_, ?_⟩
  · intro load _
    apply List.pairwise_of_forall_mem_list
    intro d hd e he
    have hsame : d.line = e.line := (line_of_mem_loadDiagnostics load d hd).trans
      (line_of_mem_loadDiagnostics load e he).symm
    exact Int.le_of_eq hsame
  · apply (loads_pairwise h).imp
    intro load below hlt d hd e he
    rw [line_of_mem_loadDiagnostics load d hd, line_of_mem_loadDiagnostics below e he]
    exact Int.ofNat_le.mpr (Nat.le_of_lt hlt)

-- The files of a module make at most two problems, and a line loads at most one module.
theorem length_onLine_diagnostics_le (line : Line) :
    (onLine line (source.diagnostics filename resolution)).length ≤ 2 := by
  unfold diagnostics
  by_cases hload : ∃ load ∈ resolution.loads, load.1.index = line.index
  · obtain ⟨load, hmem, hindex⟩ := hload
    have hsame : onLine line = onLine load.1 := by
      unfold onLine
      rw [hindex]
    rw [hsame, onLine_flatMap line_of_mem_loadDiagnostics (loads_pairwise h) hmem,
      List.length_map]
    exact source.length_loadProblems_le load.2
  · have hother : ∀ load ∈ resolution.loads, load.1.index ≠ line.index := by
      intro load hmem hindex
      exact hload ⟨load, hmem, hindex⟩
    rw [onLine_flatMap_of_forall_ne line_of_mem_loadDiagnostics hother]
    exact Nat.zero_le 2

end ModuleSource

theorem Scope.variableDiagnostics_pairwise (scope : Scope) (filename : Option String)
    (text : String) :
    (scope.variableDiagnostics filename (Line.scan text)).Pairwise
      (fun a b => a.line < b.line ∨ a.line = b.line ∧ a.column < b.column) := by
  unfold variableDiagnostics
  rw [List.pairwise_flatMap]
  refine ⟨?_, ?_⟩
  · intro line _
    rw [List.pairwise_map]
    have hfound := VariableReference.findFrom_pairwise 0 line.raw.toList
    apply (hfound.sublist List.filter_sublist).imp
    intro ref later hlt
    exact .inr ⟨rfl, Int.ofNat_lt.mpr hlt⟩
  · apply (Line.scan_pairwise text).imp
    intro line below hlt d hd e he
    obtain ⟨_, _, hd⟩ := List.mem_map.mp hd
    obtain ⟨_, _, he⟩ := List.mem_map.mp he
    rw [← hd, ← he]
    exact .inl (Int.ofNat_lt.mpr hlt)

theorem length_haltDiagnostics_le (filename : Option String) (text : String)
    (lines : List Line) : (haltDiagnostics filename text lines).length ≤ 1 := by
  unfold haltDiagnostics
  split
  · exact Nat.zero_le 1
  · cases lines.getLast? <;> simp

theorem Document.inOrder_report {workspace : Workspace} {context : Context} {document : Document}
    {resolution : Resolution}
    (hresolve : ((document.source workspace context).resolve document.lines).outcome =
      .ok resolution) : (document.report workspace context resolution).InOrder where
  stages := by
    simp only [ofStage_report hresolve]
    exact document.diagnostics_report workspace context resolution
  declarations := by
    rw [ofStage_report hresolve]
    exact pairwise_lt_filterMap _
  modules := by
    rw [ofStage_report hresolve]
    exact ModuleSource.diagnostics_pairwise hresolve
  modules_onLine := by
    intro line _
    rw [ofStage_report hresolve]
    exact ModuleSource.length_onLine_diagnostics_le hresolve line
  calls := by
    rw [ofStage_report hresolve]
    exact pairwise_lt_filterMap _
  references := by
    rw [ofStage_report hresolve]
    exact Scope.variableDiagnostics_pairwise _ _ _
  halt := by
    rw [ofStage_report hresolve]
    exact length_haltDiagnostics_le _ _ _

theorem Document.fits_report {workspace : Workspace} {context : Context} {document : Document}
    {resolution : Resolution}
    (hresolve : ((document.source workspace context).resolve document.lines).outcome =
      .ok resolution) {d : Diagnostic}
    (hd : d ∈ (document.report workspace context resolution).diagnostics) :
    (document.report workspace context resolution).Fits d := by
  obtain ⟨stage, hstage⟩ := exists_stage_of_mem_diagnostics hd
  exact (reported_of_mem_reportedBy hresolve hstage).fits rfl

theorem fits_of_mem_diagnostics {workspace : Workspace} {context : Context}
    {document : Document} {report : Report}
    (h : (validate workspace context document).outcome = .ok report) {d : Diagnostic}
    (hd : d ∈ report.diagnostics) : report.Fits d := by
  obtain ⟨_, resolution, hresolve, hreport⟩ := validate_eq_ok_iff.mp h
  subst hreport
  exact Document.fits_report hresolve hd

theorem diagnostics_fit_in_order {workspace : Workspace} {context : Context}
    {document : Document} {report : Report}
    (h : (validate workspace context document).outcome = .ok report) :
    (∀ d ∈ report.diagnostics, report.Fits d) ∧ report.InOrder := by
  obtain ⟨_, resolution, hresolve, hreport⟩ := validate_eq_ok_iff.mp h
  subst hreport
  exact ⟨fun _ => Document.fits_report hresolve, Document.inOrder_report hresolve⟩

/-- Every stage finds something, and the references stand on one line. -/
def faultyDocument : Document :=
  ⟨Path.ofString "main.stack",
    "CALL f\n  LOAD a\t\r\nSET\nOUT %VAR<x>%VAR<y_1>\nEXTERN g", "stackscript"⟩

theorem diagnostics_fit_of_faultyDocument :
    ∃ report, (validate (.ofFiles []) {} faultyDocument).outcome = .ok report ∧
      report.diagnostics.map (fun d => (d.code.getD "", d.line, d.column, d.endColumn)) =
        [("SYN-0030", 2, 0, 3), ("SYN-0040", 4, 0, 8), ("RES-0010", 1, 0, 9),
          ("RES-0011", 1, 0, 9), ("RES-0030", 0, 0, 6), ("RES-0040", 3, 4, 11),
          ("RES-0040", 3, 11, 20), ("STY-0010", 4, 0, 8)] ∧
      (∀ d ∈ report.diagnostics, report.Fits d) ∧ report.InOrder := by
  have hrun : (validate (.ofFiles []) {} faultyDocument).outcome.toOption.map
      (fun report =>
        report.diagnostics.map (fun d => (d.code.getD "", d.line, d.column, d.endColumn))) =
        some [("SYN-0030", 2, 0, 3), ("SYN-0040", 4, 0, 8), ("RES-0010", 1, 0, 9),
          ("RES-0011", 1, 0, 9), ("RES-0030", 0, 0, 6), ("RES-0040", 3, 4, 11),
          ("RES-0040", 3, 11, 20), ("STY-0010", 4, 0, 8)] := by
    decide +kernel
  obtain ⟨report, hreport, hcodes⟩ := exists_report_of_map_eq hrun
  exact ⟨report, hreport, hcodes, diagnostics_fit_in_order hreport⟩

end StackScript
