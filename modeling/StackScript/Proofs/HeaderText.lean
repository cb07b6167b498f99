import Std.Data.String.ToInt
import StackScript.Proofs.Placement

/-! The header of a diagnostic can be taken apart again, and what it leaves out follows from where
diagnostics stand: what is shown alike in a report is alike in every field. -/
namespace StackScript

-- A field that does not hold the mark behind it ends at the first such mark.
theorem field_inj {mark : Char} {field other rest more : List Char} (hfield : mark ∉ field)
    (hother : mark ∉ other) (h : field ++ mark :: rest = other ++ mark :: more) :
    field = other ∧ rest = more := by
  have hcut : ∀ {first behind : List Char}, mark ∉ first →
      (first ++ mark :: behind).takeWhile (· != mark) = first := by
    intro first behind hfirst
    have hall : ∀ c ∈ first, (c != mark) = true := by
      intro c hc
      rw [bne_iff_ne]
      intro heq
      exact hfirst (heq ▸ hc)
    rw [List.takeWhile_append_of_pos hall, List.takeWhile_cons_of_neg (by simp), List.append_nil]
  have heq : field = other := by rw [← hcut hfield, h, hcut hother]
  subst heq
  exact ⟨rfl, (List.cons.inj (List.append_cancel_left h)).2⟩

section Numeral

variable {c : Char} (hdigit : c.isDigit = false)
include hdigit

theorem not_mem_toDigits (n : Nat) : c ∉ Nat.toDigits 10 n := by
  intro hmem
  rw [Nat.isDigit_of_mem_toDigits (by decide) (by decide) hmem] at hdigit
  exact absurd hdigit (by decide)

theorem not_mem_toString (hminus : c ≠ '-') (n : Int) : c ∉ (toString n).toList := by
  rw [Int.toString_eq_repr, Int.repr_eq_if]
  split <;> simp [not_mem_toDigits hdigit, hminus]

end Numeral

theorem Severity.colon_not_mem_text (severity : Severity) : ':' ∉ severity.text.toList := by
  cases severity <;> decide

theorem Severity.text_injective {a b : Severity} (h : a.text = b.text) : a = b := by
  revert h
  cases a <;> cases b <;> decide

theorem Code.bracket_not_mem_text (code : Code) : ']' ∉ code.text.toList := by
  cases code <;> decide

namespace Diagnostic

variable {directory : Path} {d e : Diagnostic} {filename : String} {code : Code}

theorem codeMark_of_code (hcode : d.code = some code.text) :
    d.codeMark = "[" ++ code.text ++ "] " := by
  unfold codeMark
  rw [hcode]
  cases code <;> rfl

/-- The path of a file as headers show it. -/
def shownPath (directory : Path) (filename : String) : String :=
  (directory.join (Path.ofString filename)).collapse.toString

theorem toList_header (hfile : d.filename = some filename) (hcode : d.code = some code.text) :
    (d.header directory).toList =
      (shownPath directory filename).toList ++ ':' :: ((toString (d.line + 1)).toList ++
        ':' :: ((toString (d.column + 1)).toList ++ ':' :: ' ' :: (d.severity.text.toList ++
          ':' :: ' ' :: '[' :: (code.text.toList ++ ']' :: ' ' :: d.message.toList)))) := by
  rw [header, location, hfile, codeMark_of_code hcode]
  simp [shownPath, String.toList_append, List.append_assoc]

/-- Two diagnostics agree on all that a header shows besides the file. -/
structure ReadAlike (d e : Diagnostic) : Prop where
  line : d.line = e.line
  column : d.column = e.column
  severity : d.severity = e.severity
  code : d.code = e.code
  message : d.message = e.message

-- Fields are cut off one by one; only the message, which comes last, may hold any character.
theorem readAlike_of_header_eq {other : Code} (hd : d.filename = some filename)
    (he : e.filename = some filename) (hcode : d.code = some code.text)
    (hother : e.code = some other.text) (h : d.header directory = e.header directory) :
    d.ReadAlike e := by
  have hfields := congrArg String.toList h
  rw [toList_header hd hcode, toList_header he hother] at hfields
  have hcolon : ∀ n : Int, ':' ∉ (toString n).toList := not_mem_toString (by decide) (by decide)
  have hplace := (List.cons.inj (List.append_cancel_left hfields)).2
  obtain ⟨hline, hplace⟩ := field_inj (hcolon _) (hcolon _) hplace
  obtain ⟨hcolumn, hrest⟩ := field_inj (hcolon _) (hcolon _) hplace
  obtain ⟨hseverity, hrest⟩ := field_inj (Severity.colon_not_mem_text _)
    (Severity.colon_not_mem_text _) (List.cons.inj hrest).2
  obtain ⟨htext, hrest⟩ := field_inj code.bracket_not_mem_text other.bracket_not_mem_text
    (List.cons.inj (List.cons.inj hrest).2).2
  have hnumber : ∀ {m n : Int}, (toString (m + 1)).toList = (toString (n + 1)).toList → m = n := by
    intro m n heq
    rw [String.toList_inj, Int.toString_eq_repr, Int.toString_eq_repr, Int.repr_inj] at heq
    omega
  exact ⟨hnumber hline, hnumber hcolumn, Severity.text_injective (String.toList_inj.mp hseverity),
    by rw [hcode, hother, String.toList_inj.mp htext], String.toList_inj.mp (List.cons.inj hrest).2⟩

theorem ReadAlike.eq (h : d.ReadAlike e) (hfilename : d.filename = e.filename)
    (hendLine : d.endLine = e.endLine) (hendColumn : d.endColumn = e.endColumn) : d = e := by
  obtain ⟨hline, hcolumn, hseverity, hcode, hmessage⟩ := h
  cases d
  cases e
  simp_all

end Diagnostic

theorem length_slice {text : String} {start stop : Nat} (hstop : stop ≤ text.length) :
    (slice text start stop).length = stop - start := by
  rw [slice, String.length_ofList, List.length_take, List.length_drop, String.length_toList]
  omega

namespace Report.Fits

variable {report : Report} {d e : Diagnostic} (hd : report.Fits d) (he : report.Fits e)
include hd he

-- The marked columns end with the line, or as far behind their start as the text of the reference
-- is long.
theorem eq_of_readAlike (h : d.ReadAlike e) : d = e := by
  obtain ⟨i, start, stop, line, hline, hmarks, _, hstop, hreference, hwhole⟩ := hd.place
  obtain ⟨j, start', stop', line', hline', hmarks', _, hstop', hreference', hwhole'⟩ := he.place
  have hindex : i = j := by
    have hlines := h.line
    rw [hmarks.line, hmarks'.line] at hlines
    omega
  have hstart : start = start' := by
    have hcolumns := h.column
    rw [hmarks.column, hmarks'.column] at hcolumns
    omega
  subst hindex hstart
  obtain rfl : line = line' := Option.some.inj (hline.symm.trans hline')
  have hend : stop = stop' := by
    by_cases hvariable : d.code = some "RES-0040"
    · obtain ⟨name, hname, hslice⟩ := hreference hvariable
      obtain ⟨name', hname', hslice'⟩ := hreference' (h.code ▸ hvariable)
      have hsame : name = name' := by
        apply (String.append_right_inj "Undefined variable: ").mp
        rw [← hname, ← hname', h.message]
      have hlength : (slice line.raw start stop).length = (slice line.raw start stop').length := by
        rw [hslice, hslice', hsame]
      rw [length_slice hstop, length_slice hstop'] at hlength
      omega
    · rw [(hwhole hvariable).2, (hwhole' (h.code ▸ hvariable)).2]
  apply h.eq (hd.filename.trans he.filename.symm) (hmarks.endLine.trans hmarks'.endLine.symm)
  rw [hmarks.endColumn, hmarks'.endColumn, hend]

theorem eq_of_header_eq {directory : Path} (h : d.header directory = e.header directory) :
    d = e := by
  obtain ⟨_, _, code, _, hcode⟩ := hd.registered
  obtain ⟨_, _, other, _, hother⟩ := he.registered
  exact hd.eq_of_readAlike he
    (Diagnostic.readAlike_of_header_eq hd.filename he.filename hcode hother h)

end Report.Fits

-- Messages hold names and paths with any characters in them, and still the header tells the
-- diagnostics of one pass apart.
theorem header_identifies {workspace : Workspace} {context : Context} {document : Document}
    {report : Report} (h : (validate workspace context document).outcome = .ok report)
    (directory : Path) {d e : Diagnostic} (hd : d ∈ report.diagnostics)
    (he : e ∈ report.diagnostics) (heq : d.header directory = e.header directory) : d = e := by
  have hfits := fits_of_mem_diagnostics h hd
  have hother := fits_of_mem_diagnostics h he
  exact hfits.eq_of_header_eq hother heq

/-- Loads a module of which neither file is ASCII, and refers to one variable twice. -/
def doubledTroubles : Document :=
  ⟨Path.ofString "main.stack", "LOAD m\nHALT %VAR<v>%VAR<v>", "stackscript"⟩

def doubledTroublesWorkspace : Workspace :=
  .ofFiles [("m.stackm", "é"), ("m.stack", "é")]

/-- What is shown for each of the two files. -/
def unreadableHeader : String :=
  "/p/main.stack:1:1: error: [IO-0010] Error reading module: "
    ++ "'ascii' codec can't decode byte 0xc3 in position 0: ordinal not in range(128)"

-- Two diagnostics that are shown alike are the same, although they stand for two files; the
-- references differ in nothing but their columns, and they are shown differently.
theorem header_identifies_of_doubledTroubles :
    ∃ report, (validate doubledTroublesWorkspace { encoding := "ascii" }
        doubledTroubles).outcome = .ok report ∧
      report.diagnostics.map (Diagnostic.header (Path.ofString "/p")) =
        [unreadableHeader, unreadableHeader,
          "/p/main.stack:2:6: error: [RES-0040] Undefined variable: v",
          "/p/main.stack:2:13: error: [RES-0040] Undefined variable: v"] ∧
      ∃ d e, report.diagnostics[0]? = some d ∧ report.diagnostics[1]? = some e ∧ d = e := by
  have hrun : (validate doubledTroublesWorkspace { encoding := "ascii" }
      doubledTroubles).outcome.toOption.map
        (fun report => report.diagnostics.map (Diagnostic.header (Path.ofString "/p"))) =
        some [unreadableHeader, unreadableHeader,
          "/p/main.stack:2:6: error: [RES-0040] Undefined variable: v",
          "/p/main.stack:2:13: error: [RES-0040] Undefined variable: v"] := by
    decide +kernel
  obtain ⟨report, hreport, hheaders⟩ := exists_report_of_map_eq hrun
  obtain ⟨d, rest, hdiagnostics, hd, hrest⟩ := List.map_eq_cons_iff.mp hheaders
  obtain ⟨e, _, hmore, he, _⟩ := List.map_eq_cons_iff.mp hrest
  have hsame : d = e := by
    apply header_identifies hreport (Path.ofString "/p")
    · simp [hdiagnostics]
    · simp [hdiagnostics, hmore]
    · rw [hd, he]
  exact ⟨report, hreport, hheaders, d, e, by simp [hdiagnostics], by simp [hdiagnostics, hmore],
    hsame⟩

end StackScript
