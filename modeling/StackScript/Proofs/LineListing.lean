import StackScript.Proofs.CheckedFiles
import StackScript.Proofs.JoinedLines
import StackScript.Proofs.PathText
import StackScript.Proofs.SnippetView

/-! The listing of lines loses nothing: each line of it is a number, a bar and a line of the file,
and what stands behind the bars is the text of the file. -/
namespace StackScript

namespace Text

theorem return_not_mem_unifyNewlinesOnto {done cs : List Char} (h : '\r' ∉ done) :
    '\r' ∉ unifyNewlinesOnto done cs := by
  have hcons : ∀ {c : Char} {done : List Char}, c ≠ '\r' → '\r' ∉ done → '\r' ∉ c :: done := by
    intro c done hc hdone
    rw [List.mem_cons, not_or]
    exact ⟨hc.symm, hdone⟩
  fun_induction unifyNewlinesOnto done cs with
  | case1 done => exact h
  | case2 done cs ih => exact ih (hcons (by decide) h)
  | case3 done cs hno ih => exact ih (hcons (by decide) h)
  | case4 done c cs hno hc ih =>
    apply ih
    apply hcons _ h
    intro heq
    exact hc heq

theorem return_not_mem_unifyNewlines (s : String) : '\r' ∉ (unifyNewlines s).toList := by
  rw [unifyNewlines, String.toList_ofList, List.mem_reverse]
  exact return_not_mem_unifyNewlinesOnto List.not_mem_nil

end Text

theorem FileSystem.return_not_mem_readText {files : FileSystem} {encoding text : String}
    {path : Path} (h : files.readText encoding path = .ok (.ok text)) : '\r' ∉ text.toList := by
  unfold readText at h
  split at h
  · cases h
  · split at h
    · cases h
    · split at h
      · cases h
      · split at h
        · cases h
        · split at h
          · cases h
          · cases h
            exact Text.return_not_mem_unifyNewlines _

namespace Line

variable {text : String} (hreturn : '\r' ∉ text.toList)
include hreturn

theorem return_not_mem_piece {piece : List Char} (hpiece : piece ∈ text.toList.splitOn '\n') :
    '\r' ∉ piece := by
  have hjoin : ['\n'].intercalate (text.toList.splitOn '\n') = text.toList :=
    List.intercalate_splitOn '\n'
  rw [← hjoin, mem_intercalate_iff (by decide)] at hreturn
  intro hmem
  exact hreturn ⟨piece, hpiece, hmem⟩

-- Without carriage returns there is nothing that scanning drops besides the line feeds.
theorem map_raw_scan_of_no_return :
    (scan text).map (fun line => line.raw.toList) = text.toList.splitOn '\n' := by
  have hkept : ∀ piece ∈ text.toList.splitOn '\n', withoutReturn piece = piece := by
    intro piece hpiece
    apply withoutReturn_of_ne
    intro hlast
    exact return_not_mem_piece hreturn hpiece (List.mem_of_getLast? hlast)
  have hmap : (scan text).map (fun line => line.raw.toList) =
      ((scan text).map raw).map String.toList := by
    rw [List.map_map]
    rfl
  rw [hmap, map_raw_scan, List.map_map]
  refine (List.map_congr_left ?_).trans (List.map_id _)
  intro piece hpiece
  rw [Function.comp_apply, String.toList_ofList, hkept piece hpiece]
  rfl

theorem raw_mem_splitOn {line : Line} (hline : line ∈ scan text) :
    line.raw.toList ∈ text.toList.splitOn '\n' := by
  rw [← map_raw_scan_of_no_return hreturn]
  exact List.mem_map.mpr ⟨line, hline, rfl⟩

end Line

namespace CommandLine

/-- What stands behind the first bar between spaces. -/
def behindBar : List Char → List Char
  | [] => []
  | ' ' :: '|' :: ' ' :: rest => rest
  | _ :: rest => behindBar rest

/-- What stands behind the first bars of the lines of a listing, one below the other. -/
def textBehindBars (listing : String) : String :=
  String.ofList (['\n'].intercalate ((listing.toList.splitOn '\n').dropLast.map behindBar))

/-- A row that shows a line: its index at the right edge of five columns or as many as it needs, a
bar between spaces, and what the line holds. -/
structure IsRow (i : Nat) (raw row : String) : Prop where
  shape : ∃ blanks : Nat, row = Text.spaces blanks ++ toString i ++ " | " ++ raw ∧
    blanks + (toString i).length = max 5 (toString i).length
  noFeed : '\n' ∉ raw.toList
  noReturn : '\r' ∉ raw.toList

/-- The listing shows the lines of a text and leaves nothing of it out. -/
structure ShowsLines (text listing : String) : Prop where
  rows : ∃ rows : List String, listing = String.join (rows.map (· ++ "\n")) ∧
    rows.length = (Line.scan text).length ∧
    ∀ i row, rows[i]? = some row →
      ∃ line, (Line.scan text)[i]? = some line ∧ IsRow i line.raw row
  textBehindBars_eq : textBehindBars listing = text

-- The first bar is the one behind the number if there is none in front of it.
theorem behindBar_append {front : List Char} (h : '|' ∉ front) (rest : List Char) :
    behindBar (front ++ ' ' :: '|' :: ' ' :: rest) = rest := by
  induction front with
  | nil => rfl
  | cons c front ih =>
    rw [List.mem_cons, not_or] at h
    have hnext : ∀ more, front ++ ' ' :: '|' :: ' ' :: rest ≠ '|' :: more := by
      intro more heq
      cases front with
      | nil => exact absurd (List.cons.inj heq).1 (by decide)
      | cons d front => exact h.2 (by rw [(List.cons.inj heq).1]; exact List.mem_cons_self)
    rw [List.cons_append, behindBar]
    · exact ih h.2
    · intro more _ heq
      exact hnext _ heq

theorem toList_showLine (line : Line) :
    (showLine line).toList =
      (Text.flushRight 5 (toString line.index)).toList ++ ' ' :: '|' :: ' ' :: line.raw.toList := by
  simp [showLine]

theorem behindBar_showLine (line : Line) : behindBar (showLine line).toList = line.raw.toList := by
  rw [toList_showLine]
  exact behindBar_append (not_mem_flushRight (by decide) (by decide) 5 line.index) _

theorem feed_not_mem_showLine {line : Line} (h : '\n' ∉ line.raw.toList) :
    '\n' ∉ (showLine line).toList := by
  have hnumber : '\n' ∉ (Text.flushRight 5 (toString line.index)).toList :=
    not_mem_flushRight (by decide) (by decide) 5 line.index
  rw [toList_showLine, List.mem_append, not_or]
  refine ⟨hnumber, ?_⟩
  simp [h]

theorem splitOn_join_rows {rows : List String} (h : ∀ row ∈ rows, '\n' ∉ row.toList) :
    (String.join (rows.map (· ++ "\n"))).toList.splitOn '\n' = rows.map String.toList ++ [[]] := by
  induction rows with
  | nil => rfl
  | cons row rows ih =>
    have hrow : '\n' ∉ row.toList := h row List.mem_cons_self
    have hrows : ∀ other ∈ rows, '\n' ∉ other.toList :=
      fun other hother => h other (List.mem_cons_of_mem row hother)
    have htext : (String.join ((row :: rows).map (· ++ "\n"))).toList =
        row.toList ++ '\n' :: (String.join (rows.map (· ++ "\n"))).toList := by
      simp
    rw [htext, List.splitOn_append_cons_self_of_not_mem hrow, ih hrows, List.map_cons,
      List.cons_append]

theorem isRow_showLine {line : Line} (hfeed : '\n' ∉ line.raw.toList)
    (hreturn : '\r' ∉ line.raw.toList) : IsRow line.index line.raw (showLine line) := by
  refine ⟨⟨5 - (toString line.index).length, rfl, ?_⟩, hfeed, hreturn⟩
  omega

theorem showsLines_dumpLines (document : Document) (hreturn : '\r' ∉ document.text.toList) :
    ShowsLines document.text (dumpLines document).text := by
  have hfeed : ∀ line ∈ document.lines, '\n' ∉ line.raw.toList :=
    fun line hline => not_mem_of_mem_splitOn (Line.raw_mem_splitOn hreturn hline)
  have hreturns : ∀ line ∈ document.lines, '\r' ∉ line.raw.toList :=
    fun line hline => Line.return_not_mem_piece hreturn (Line.raw_mem_splitOn hreturn hline)
  refine ⟨⟨document.lines.map showLine, rfl, List.length_map _, ?_⟩, ?_⟩
  · intro i row hrow
    rw [List.getElem?_map, Option.map_eq_some_iff] at hrow
    obtain ⟨line, hline, heq⟩ := hrow
    have hmem : line ∈ document.lines := List.mem_of_getElem? hline
    have hindex : line.index = i := Line.index_of_getElem?_scan hline
    refine ⟨line, hline, ?_⟩
    rw [← heq, ← hindex]
    exact isRow_showLine (hfeed line hmem) (hreturns line hmem)
  · have hrows : ∀ row ∈ document.lines.map showLine, '\n' ∉ row.toList := by
      intro row hrow
      obtain ⟨line, hline, heq⟩ := List.mem_map.mp hrow
      rw [← heq]
      exact feed_not_mem_showLine (hfeed line hline)
    have hbehind : ((document.lines.map showLine).map String.toList).map behindBar =
        document.lines.map (fun line => line.raw.toList) := by
      simp only [List.map_map, Function.comp_def, behindBar_showLine]
    have hsplit : (dumpLines document).text.toList.splitOn '\n' =
        (document.lines.map showLine).map String.toList ++ [[]] := splitOn_join_rows hrows
    have hraws : document.lines.map (fun line => line.raw.toList) =
        document.text.toList.splitOn '\n' := Line.map_raw_scan_of_no_return hreturn
    rw [textBehindBars, hsplit, List.dropLast_concat, hbehind, hraws, List.intercalate_splitOn,
      String.ofList_toList]

-- Reading the file leaves no carriage return that scanning could drop.
theorem lines_listed {workspace : Workspace} {context : Context} {file text : String}
    (hread : workspace.files.readText context.encoding (Path.ofString file) = .ok (.ok text)) :
    ∃ output, ((Request.lines file).run workspace context).outcome = .ok output ∧
      output.exitCode = 0 ∧ ShowsLines text output.text := by
  have hdocument : ∃ document, documentAt workspace context file = .ok (.ok document) ∧
      document.text = text := by
    refine ⟨⟨Path.ofString file, text, context.languageId⟩, ?_, rfl⟩
    rw [documentAt, Document.read, hread]
  have hreturn : '\r' ∉ text.toList := FileSystem.return_not_mem_readText hread
  obtain ⟨document, hdocument, htext⟩ := hdocument
  subst htext
  refine ⟨dumpLines document, ?_, rfl, showsLines_dumpLines document hreturn⟩
  rw [Request.run, withDocument_of_readable hdocument]
  rfl

/-- A bar in a line, all line ends there are, an empty line, and a character that ends lines
elsewhere. -/
def barredText : String :=
  "a | b\r\n | \r\r\nc\u2028d\n\u0085"

theorem lines_listed_of_barredText :
    (Workspace.ofFiles [("main.stack", barredText)]).files.readText "utf-8"
        (Path.ofString "main.stack") = .ok (.ok "a | b\n | \n\nc\u2028d\n\u0085") ∧
      ∃ output, ((Request.lines "main.stack").run
          (.ofFiles [("main.stack", barredText)]) {}).outcome = .ok output ∧
        output.text = "    0 | a | b\n    1 |  | \n    2 | \n    3 | c\u2028d\n    4 | \u0085\n" ∧
        textBehindBars output.text = "a | b\n | \n\nc\u2028d\n\u0085" := by
  have hread : (Workspace.ofFiles [("main.stack", barredText)]).files.readText
      (Context.encoding {}) (Path.ofString "main.stack") =
        .ok (.ok "a | b\n | \n\nc\u2028d\n\u0085") := by
    decide +kernel
  obtain ⟨output, hrun, _, hshows⟩ := lines_listed hread
  refine ⟨hread, output, hrun, ?_, hshows.textBehindBars_eq⟩
  have htext : ((Request.lines "main.stack").run
      (.ofFiles [("main.stack", barredText)]) {}).outcome.toOption.map Output.text =
        some "    0 | a | b\n    1 |  | \n    2 | \n    3 | c\u2028d\n    4 | \u0085\n" := by
    decide +kernel
  rw [hrun] at htext
  exact Option.some.inj htext

end CommandLine

end StackScript
