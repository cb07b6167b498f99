import StackScript.Proofs.Placement

/-! The warning of a document that never halts: when it is given, and where it stands among the
diagnostics and in the document. -/
namespace StackScript

/-- The only warning of a report. It ends the list and marks the whole last line. -/
structure Report.WarnsLast (report : Report) (d : Diagnostic) : Prop where
  warnings : report.warnings = [d]
  last : report.diagnostics.getLast? = some d
  place : ∃ line, report.lines[report.lines.length - 1]? = some line ∧
    d.Marks (report.lines.length - 1) 0 line.length

theorem Stage.covers_halt_iff {d : Diagnostic} :
    halt.covers d = true ↔ d.code = some "STY-0010" := by
  simp [covers, codes]

namespace Report

variable {report : Report}

theorem mem_ofStage_halt_iff {d : Diagnostic} :
    d ∈ report.ofStage .halt ↔ d ∈ report.diagnostics ∧ d.code = some "STY-0010" := by
  rw [ofStage, List.mem_filter, Stage.covers_halt_iff]

-- A diagnostic that fits is a warning exactly if it has the code of the last stage.
theorem warnings_eq_ofStage_halt (hfits : ∀ d ∈ report.diagnostics, report.Fits d) :
    report.warnings = report.ofStage .halt := by
  unfold warnings ofStage
  apply List.filter_congr
  intro d hd
  rw [Bool.eq_iff_iff, beq_iff_eq, (hfits d hd).severity, Stage.covers_halt_iff]

end Report

theorem mentions_halt_iff {text : String} :
    mentions "HALT".toList text.toList = true ↔
      ∃ line ∈ Line.scan text, "HALT".toList <:+: line.raw.toList := by
  rw [mentions_iff_exists_line (by decide) (by decide)]
  simp only [List.mem_map, exists_exists_and_eq_and, mentions_iff_infix]

theorem Line.exists_last_scan (text : String) :
    ∃ line, (scan text)[(scan text).length - 1]? = some line := by
  have hpos : 0 < (scan text).length := List.length_pos_iff.mpr (scan_ne_nil text)
  exact ⟨_, List.getElem?_eq_getElem (by omega)⟩

section Report

variable {workspace : Workspace} {context : Context} {document : Document}
  {resolution : Resolution} {line : Line}
  (hresolve : ((document.source workspace context).resolve document.lines).outcome =
    .ok resolution)
  (hlast : document.lines[document.lines.length - 1]? = some line)
include hresolve hlast

theorem ofStage_halt_report :
    (document.report workspace context resolution).ofStage .halt =
      if mentions "HALT".toList document.text.toList then []
      else [.ofLine (some (document.identity workspace)) line .noHalt] := by
  rw [Document.ofStage_report hresolve, Document.reportedBy, haltDiagnostics,
    List.getLast?_eq_getElem?, hlast]
  rfl

theorem warnsLast_report (hhalt : mentions "HALT".toList document.text.toList ≠ true) :
    (document.report workspace context resolution).WarnsLast
      (.ofLine (some (document.identity workspace)) line .noHalt) := by
  have hstage := ofStage_halt_report hresolve hlast
  rw [if_neg hhalt] at hstage
  have hindex : line.index = document.lines.length - 1 := Line.index_of_getElem?_scan hlast
  refine ⟨?_, ?_, line, hlast, ?_⟩
  · rw [← hstage]
    apply Report.warnings_eq_ofStage_halt
    intro d hd
    exact Document.fits_report hresolve hd
  · rw [(Document.inOrder_report hresolve).stages, hstage, List.getLast?_concat]
  · exact ⟨congrArg Int.ofNat hindex, congrArg Int.ofNat hindex, rfl, rfl⟩

end Report

-- The text as a whole is searched, and the lines are spoken of: no match reaches across a line end.
theorem halt_warned_exactly {workspace : Workspace} {context : Context} {document : Document}
    {report : Report} (h : (validate workspace context document).outcome = .ok report) :
    ((∃ d ∈ report.diagnostics, d.code = some "STY-0010") ↔
      ∀ line ∈ report.lines, ¬ "HALT".toList <:+: line.raw.toList) ∧
    ∀ d ∈ report.diagnostics, d.code = some "STY-0010" → report.WarnsLast d := by
  obtain ⟨_, resolution, hresolve, hreport⟩ := validate_eq_ok_iff.mp h
  subst hreport
  obtain ⟨last, hlast⟩ := Line.exists_last_scan document.text
  have hstage := ofStage_halt_report hresolve hlast
  by_cases hhalt : mentions "HALT".toList document.text.toList = true
  · rw [if_pos hhalt] at hstage
    have hnone : ∀ d ∈ (document.report workspace context resolution).diagnostics,
        d.code ≠ some "STY-0010" := by
      intro d hd hcode
      have hmem := Report.mem_ofStage_halt_iff.mpr ⟨hd, hcode⟩
      rw [hstage] at hmem
      exact List.not_mem_nil hmem
    obtain ⟨line, hline, hword⟩ := mentions_halt_iff.mp hhalt
    refine ⟨iff_of_false ?_ ?_, ?_⟩
    · intro hwarned
      obtain ⟨d, hd, hcode⟩ := hwarned
      exact hnone d hd hcode
    · intro hall
      exact hall line hline hword
    · intro d hd hcode
      exact absurd hcode (hnone d hd)
  · rw [if_neg hhalt] at hstage
    refine ⟨iff_of_true ?_ ?_, ?_⟩
    · exact ⟨_, Report.mem_ofStage_halt_iff.mp (hstage ▸ List.mem_cons_self)⟩
    · intro line hline hword
      exact hhalt (mentions_halt_iff.mpr ⟨line, hline, hword⟩)
    · intro d hd hcode
      have hmem := Report.mem_ofStage_halt_iff.mpr ⟨hd, hcode⟩
      rw [hstage, List.mem_singleton] at hmem
      rw [hmem]
      exact warnsLast_report hresolve hlast hhalt

/-- The word is broken by a line end, and by a carriage return that belongs to one; the last line is
empty. -/
def brokenHalt : Document :=
  ⟨Path.ofString "main.stack", "HA\nLT\r\nCALL HAL\r\nT\r\n", "stackscript"⟩

theorem halt_warned_of_brokenHalt :
    ∃ report, (validate (.ofFiles []) {} brokenHalt).outcome = .ok report ∧
      report.diagnostics.map (fun d => (d.code, d.line)) =
        [(some "RES-0030", 2), (some "STY-0010", 4)] ∧
      (∀ line ∈ report.lines, ¬ "HALT".toList <:+: line.raw.toList) ∧
      ∃ d ∈ report.diagnostics, report.WarnsLast d := by
  have hrun : (validate (.ofFiles []) {} brokenHalt).outcome.toOption.map
      (fun report => report.diagnostics.map (fun d => (d.code, d.line))) =
        some [(some "RES-0030", 2), (some "STY-0010", 4)] := by
    decide +kernel
  obtain ⟨report, hreport, hshown⟩ := exists_report_of_map_eq hrun
  obtain ⟨hwarned, hlast⟩ := halt_warned_exactly hreport
  have hmem : (some "STY-0010", 4) ∈ report.diagnostics.map (fun d => (d.code, d.line)) := by
    rw [hshown]
    exact List.mem_cons_of_mem _ List.mem_cons_self
  obtain ⟨d, hd, heq⟩ := List.mem_map.mp hmem
  have hcode : d.code = some "STY-0010" := (Prod.mk.inj heq).1
  exact ⟨report, hreport, hshown, hwarned.mp ⟨d, hd, hcode⟩, d, hd, hlast d hd hcode⟩

end StackScript
