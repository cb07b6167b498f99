import Mathlib.Data.Nat.Digits.Lemmas
import StackScript.CommandLine.Request
import StackScript.Proofs.HeaderText

/-! Diagnostics with their source lines: each is shown by three messages, and the carets of the last
one stand under the columns that the diagnostic marks. -/
namespace StackScript

/-- The length of what stands in front of the line at an index: its number, counted from one, in a
column, and a bar between spaces. -/
def gutterLength (i : Nat) : Nat :=
  max 5 (Nat.digits 10 (i + 1)).length + 3

/-- Two messages that point at the columns from `start` up to but excluding `stop` of a line: the
line behind its gutter, and carets below. Where there are no columns, one caret shows the place. -/
structure PointsAt (line : Line) (gutter start stop : Nat) (source carets : String) : Prop where
  front : ∃ front : String, source = front ++ line.raw ∧ front.length = gutter ∧
    ∀ k, front.toList[k]? = some '|' ↔ k = gutter - 2
  bar : ∀ k, carets.toList[k]? = some '|' ↔ k = gutter - 2
  caret : ∀ k, carets.toList[k]? = some '^' ↔
    gutter + start ≤ k ∧ k < gutter + max (start + 1) stop
  length : carets.length = gutter + max (start + 1) stop
  above : start < stop →
    slice source (gutter + start) (gutter + max (start + 1) stop) = slice line.raw start stop

/-- The messages that show a diagnostic of a report: its header, and two that point at what it marks
in its line. -/
inductive Report.Shows (report : Report) (directory : Path) (d : Diagnostic) : List String → Prop
  | intro {i start stop : Nat} {line : Line} {source carets : String}
      (hline : report.lines[i]? = some line) (hmarks : d.Marks i start stop)
      (hstart : start ≤ stop) (hstop : stop ≤ line.length)
      (hpoints : PointsAt line (gutterLength i) start stop source carets) :
      Shows report directory d [d.header directory, source, carets]

theorem length_toString_of_pos {n : Nat} (hpos : 0 < n) :
    (toString n).length = (Nat.digits 10 n).length := by
  have hdigits : 0 < (Nat.digits 10 n).length :=
    List.length_pos_iff.mpr (Nat.digits_ne_nil_iff_ne_zero.mpr (Nat.ne_of_gt hpos))
  rw [Nat.toString_eq_repr, ← String.length_toList, Nat.toList_repr]
  apply Nat.le_antisymm
  · rw [Nat.length_toDigits_le_iff (by decide) hdigits]
    exact Nat.lt_base_pow_length_digits (by decide)
  · rw [Nat.digits_length_le_iff (by decide)]
    exact (Nat.length_toDigits_le_iff (by decide) Nat.length_toDigits_pos).mp (Nat.le_refl _)

theorem not_mem_flushRight {c : Char} (hdigit : c.isDigit = false) (hspace : c ≠ ' ')
    (width n : Nat) : c ∉ (Text.flushRight width (toString n)).toList := by
  rw [Text.flushRight, Text.spaces, String.toList_append, List.mem_append, not_or,
    String.toList_ofList, Nat.toString_eq_repr, Nat.toList_repr]
  refine ⟨?_, not_mem_toDigits hdigit n⟩
  intro hmem
  exact hspace (List.eq_of_mem_replicate hmem)

section Mark

-- Where a mark stands that is found nowhere else in a text.
variable {mark : Char} {front rest : List Char} {k : Nat}

theorem getElem?_mark_iff (hfront : mark ∉ front) (hrest : mark ∉ rest) :
    (front ++ mark :: rest)[k]? = some mark ↔ k = front.length := by
  grind

theorem getElem?_marks_iff (hfront : mark ∉ front) (n : Nat) :
    (front ++ List.replicate n mark)[k]? = some mark ↔
      front.length ≤ k ∧ k < front.length + n := by
  grind

end Mark

theorem slice_append (front text : String) (start stop : Nat) :
    slice (front ++ text) (front.length + start) (front.length + stop) =
      slice text start stop := by
  rw [slice, slice, String.toList_append, ← String.length_toList, Nat.add_sub_add_left]
  congr 2
  exact List.drop_length_add_append _

namespace Diagnostic

variable {d : Diagnostic} {i start stop : Nat} {line : Line} {lines : List Line}

theorem gutterWidth_add (i : Nat) : gutterWidth (i + 1) + 3 = gutterLength i := by
  rw [gutterWidth, length_toString_of_pos (Nat.succ_pos i), gutterLength]

section Marked

variable (hmarks : d.Marks i start stop)
include hmarks

theorem sourceLine?_of_marks (hline : lines[i]? = some line) : d.sourceLine? lines = some line := by
  rw [sourceLine?, hmarks.line, if_neg (by omega), Int.toNat_natCast, hline]

theorem toNat_caretCount (line : Line) :
    start + (d.caretCount line).toNat = max (start + 1) stop := by
  rw [caretCount, markEnd, hmarks.endLine, hmarks.line, if_pos rfl, hmarks.column,
    hmarks.endColumn]
  omega

theorem toList_caretLine (line : Line) (width : Nat) :
    (d.caretLine line width).toList =
      List.replicate (width + 1) ' ' ++ '|' :: (List.replicate (start + 1) ' '
        ++ List.replicate (d.caretCount line).toNat '^') := by
  rw [List.replicate_succ', List.replicate_succ]
  simp [caretLine, Text.spaces, hmarks.column]

theorem getElem?_caretLine_bar_iff (line : Line) (width k : Nat) :
    (d.caretLine line width).toList[k]? = some '|' ↔ k = width + 1 := by
  rw [toList_caretLine hmarks, getElem?_mark_iff (by simp) (by simp), List.length_replicate]

theorem getElem?_caretLine_caret_iff (line : Line) (width k : Nat) :
    (d.caretLine line width).toList[k]? = some '^' ↔
      width + 3 + start ≤ k ∧ k < width + 3 + max (start + 1) stop := by
  have hcount := toNat_caretCount hmarks line
  rw [toList_caretLine hmarks, ← List.cons_append, ← List.append_assoc,
    getElem?_marks_iff (by simp)]
  simp only [List.length_append, List.length_cons, List.length_replicate]
  omega

theorem length_caretLine (line : Line) (width : Nat) :
    (d.caretLine line width).length = width + 3 + max (start + 1) stop := by
  have hcount := toNat_caretCount hmarks line
  rw [← String.length_toList, toList_caretLine hmarks]
  simp only [List.length_append, List.length_cons, List.length_replicate]
  omega

end Marked

/-- The number of the line at an index, as it is shown. -/
def numberColumn (i : Nat) : String :=
  Text.flushRight (gutterWidth (i + 1)) (toString (i + 1))

theorem length_numberColumn (i : Nat) : (numberColumn i).length = gutterWidth (i + 1) := by
  rw [numberColumn, Text.length_flushRight, gutterWidth, Nat.max_assoc, Nat.max_self]

theorem length_gutter (i : Nat) : (numberColumn i ++ " | ").length = gutterLength i := by
  rw [String.length_append, length_numberColumn, ← gutterWidth_add]
  rfl

theorem getElem?_gutter_bar_iff (i k : Nat) :
    (numberColumn i ++ " | ").toList[k]? = some '|' ↔ k = gutterWidth (i + 1) + 1 := by
  have htext : (numberColumn i ++ " | ").toList =
      ((numberColumn i).toList ++ [' ']) ++ '|' :: [' '] := by
    simp
  have hfront : '|' ∉ (numberColumn i).toList ++ [' '] := by
    rw [List.mem_append, not_or]
    exact ⟨not_mem_flushRight (by decide) (by decide) _ _, by decide⟩
  rw [htext, getElem?_mark_iff hfront (by decide), List.length_append, String.length_toList,
    length_numberColumn]
  rfl

theorem pointsAt_snippet (hmarks : d.Marks i start stop) (line : Line) :
    PointsAt line (gutterLength i) start stop (numberColumn i ++ " | " ++ line.raw)
      (d.caretLine line (gutterWidth (i + 1))) := by
  have hwidth := gutterWidth_add i
  refine ⟨⟨numberColumn i ++ " | ", rfl, length_gutter i, ?_⟩, ?_, ?_, ?_, ?_⟩
  · intro k
    rw [getElem?_gutter_bar_iff, ← hwidth]
    rfl
  · intro k
    rw [getElem?_caretLine_bar_iff hmarks, ← hwidth]
    rfl
  · intro k
    rw [getElem?_caretLine_caret_iff hmarks, hwidth]
  · rw [length_caretLine hmarks, hwidth]
  · intro hlt
    have hstop : max (start + 1) stop = stop := Nat.max_eq_right hlt
    rw [hstop, ← length_gutter i]
    exact slice_append _ _ _ _

theorem snippet_of_marks (hmarks : d.Marks i start stop) (hline : lines[i]? = some line)
    (directory : Path) :
    d.snippet directory lines =
      [d.header directory, numberColumn i ++ " | " ++ line.raw,
        d.caretLine line (gutterWidth (i + 1))] := by
  rw [snippet, sourceLine?_of_marks hmarks hline, hmarks.line, Int.toNat_natCast]
  rfl

end Diagnostic

theorem Report.Fits.shows_snippet {report : Report} {d : Diagnostic} (h : report.Fits d)
    (directory : Path) : report.Shows directory d (d.snippet directory report.lines) := by
  obtain ⟨i, start, stop, line, hline, hmarks, hstart, hstop, _⟩ := h.place
  rw [Diagnostic.snippet_of_marks hmarks hline]
  exact .intro hline hmarks hstart hstop (Diagnostic.pointsAt_snippet hmarks line)

theorem messages_logDiagnostics {settings : LogSettings}
    (hadmits : ∀ message, settings.admits ⟨.error, message⟩ = true) (time : String)
    (directory : Path) (lines : List Line) (diagnostics : List Diagnostic) :
    Log.messages time (some settings)
        (CommandLine.logDiagnostics (some settings) directory lines diagnostics).log =
      (diagnostics.flatMap (Diagnostic.snippet directory lines)).map
        (fun message => (if settings.rich then time ++ " [ERROR] " else "") ++ message) := by
  have hnotes : (fun message => Log.note (some settings) ⟨.error, message⟩) =
      fun message => [LogEntry.mk .error message] := by
    funext message
    rw [Log.note, if_pos (hadmits message)]
  rw [CommandLine.logDiagnostics, hnotes, Log.messages, ← List.map_eq_flatMap, List.map_map]
  simp only [Function.comp_def, LogSettings.write_error]

-- Every diagnostic of a pass marks columns of a line that is there, so none is cut to its header.
theorem snippets_point_at_marks {workspace : Workspace} {context : Context} {document : Document}
    {report : Report} (h : (validate workspace context document).outcome = .ok report)
    (directory : Path) (time : String) {settings : LogSettings}
    (hadmits : ∀ message, settings.admits ⟨.error, message⟩ = true) :
    Log.messages time (some settings)
        (CommandLine.logDiagnostics (some settings) directory report.lines
          report.diagnostics).log =
      (report.diagnostics.flatMap (Diagnostic.snippet directory report.lines)).map
        (fun message => (if settings.rich then time ++ " [ERROR] " else "") ++ message) ∧
    ∀ d ∈ report.diagnostics, report.Shows directory d (d.snippet directory report.lines) := by
  refine ⟨messages_logDiagnostics hadmits time directory report.lines report.diagnostics, ?_⟩
  intro d hd
  exact (fits_of_mem_diagnostics h hd).shows_snippet directory

/-- A reference behind a tab, and an empty last line. -/
def markedTwice : Document :=
  ⟨Path.ofString "main.stack", "OUT\t%VAR<x>\n", "stackscript"⟩

-- The tab counts as one column, and the line without columns gets one caret.
theorem snippets_point_of_markedTwice :
    ∃ report, (validate (.ofFiles []) {} markedTwice).outcome = .ok report ∧
      Log.messages "" (some { level := .error })
          (CommandLine.logDiagnostics (some { level := .error }) (Path.ofString "/p") report.lines
            report.diagnostics).log =
        ["/p/main.stack:1:5: error: [RES-0040] Undefined variable: x",
          "    1 | OUT\t%VAR<x>",
          "      |     ^^^^^^^",
          "/p/main.stack:2:1: warning: [STY-0010] No HALT instruction found",
          "    2 | ",
          "      | ^"] ∧
      ∀ d ∈ report.diagnostics,
        report.Shows (Path.ofString "/p") d (d.snippet (Path.ofString "/p") report.lines) := by
  have hrun : (validate (.ofFiles []) {} markedTwice).outcome.toOption.map (fun report =>
      report.diagnostics.flatMap (Diagnostic.snippet (Path.ofString "/p") report.lines)) =
        some ["/p/main.stack:1:5: error: [RES-0040] Undefined variable: x",
          "    1 | OUT\t%VAR<x>",
          "      |     ^^^^^^^",
          "/p/main.stack:2:1: warning: [STY-0010] No HALT instruction found",
          "    2 | ",
          "      | ^"] := by
    decide +kernel
  obtain ⟨report, hreport, htexts⟩ := exists_report_of_map_eq hrun
  obtain ⟨hmessages, hshows⟩ := snippets_point_at_marks hreport (Path.ofString "/p") ""
    (show ∀ message, LogSettings.admits { level := .error } ⟨.error, message⟩ = true from
      fun _ => rfl)
  rw [htexts] at hmessages
  exact ⟨report, hreport, hmessages, hshows⟩

end StackScript
