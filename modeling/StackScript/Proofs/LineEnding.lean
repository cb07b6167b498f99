import StackScript.Proofs.LineOrder
import StackScript.Proofs.Utf8

/-! Line ends do not matter: a document that is read from a file, its text held in memory, and the
same text with bare line feeds are told the same. -/
namespace StackScript

/-- Every carriage return stands right before a line feed. -/
def ReturnsEndLines (cs : List Char) : Prop :=
  ∀ i, cs[i]? = some '\r' → cs[i + 1]? = some '\n'

namespace ReturnsEndLines

variable {c : Char} {cs : List Char}

theorem tail (h : ReturnsEndLines (c :: cs)) : ReturnsEndLines cs := by
  intro i hi
  exact h (i + 1) hi

theorem head_ne (h : ReturnsEndLines (c :: cs))
    (hno : ∀ rest, c = '\r' → cs = '\n' :: rest → False) : c ≠ '\r' := by
  intro hc
  have hnext : cs[0]? = some '\n' := h 0 (by rw [hc]; rfl)
  cases cs with
  | nil => exact absurd hnext (by decide)
  | cons d rest => exact hno rest hc (by rw [Option.some.inj hnext])

instance (cs : List Char) : Decidable (ReturnsEndLines cs) :=
  decidable_of_iff (∀ i < cs.length, cs[i]? = some '\r' → cs[i + 1]? = some '\n') (by
    constructor
    · intro h i hi
      exact h i (List.getElem?_eq_some_iff.mp hi).1 hi
    · intro h i _
      exact h i)

end ReturnsEndLines

namespace Text

/-- The characters with every CR LF turned into LF. -/
def feedsOnly : List Char → List Char
  | [] => []
  | '\r' :: '\n' :: cs => '\n' :: feedsOnly cs
  | c :: cs => c :: feedsOnly cs

-- A lone carriage return is the only line end that reading a file changes in any other way.
theorem unifyNewlinesOnto_eq {done cs : List Char} (h : ReturnsEndLines cs) :
    unifyNewlinesOnto done cs = (feedsOnly cs).reverse ++ done := by
  fun_induction unifyNewlinesOnto done cs with
  | case1 done => rfl
  | case2 done cs ih =>
    rw [ih h.tail.tail, feedsOnly, List.reverse_cons, List.append_assoc, List.singleton_append]
  | case3 done cs hno ih => exact absurd rfl (h.head_ne (fun rest _ => hno rest))
  | case4 done c cs hno hc ih =>
    rw [ih h.tail, feedsOnly, List.reverse_cons, List.append_assoc, List.singleton_append]
    exact hno

theorem unifyNewlines_eq {s : String} (h : ReturnsEndLines s.toList) :
    unifyNewlines s = String.ofList (feedsOnly s.toList) := by
  rw [unifyNewlines, unifyNewlinesOnto_eq h, List.append_nil, List.reverse_reverse]

theorem feedsOnly_of_no_return {cs : List Char} (h : '\r' ∉ cs) : feedsOnly cs = cs := by
  fun_induction feedsOnly cs with
  | case1 => rfl
  | case2 cs ih => exact absurd List.mem_cons_self h
  | case3 c cs hno ih => rw [ih (fun hmem => h (List.mem_cons_of_mem c hmem))]

theorem unifyNewlines_of_no_return {s : String} (h : '\r' ∉ s.toList) : unifyNewlines s = s := by
  have hends : ReturnsEndLines s.toList := by
    intro i hi
    exact absurd (List.mem_of_getElem? hi) h
  rw [unifyNewlines_eq hends, feedsOnly_of_no_return h, String.ofList_toList]

end Text

namespace Line

/-- The texts of the lines, without their ends. -/
def pieces (cs : List Char) : List (List Char) :=
  (cs.splitOn '\n').map withoutReturn

theorem scan_eq_mapIdx_pieces (text : String) :
    scan text = (pieces text.toList).mapIdx (fun i cs => ⟨i, String.ofList cs⟩) := by
  apply List.ext_getElem?
  intro i
  rw [getElem?_scan, List.getElem?_mapIdx, pieces, List.getElem?_map, Option.map_map]
  rfl

theorem withoutReturn_cons {c : Char} (hc : c ≠ '\r') (cs : List Char) :
    withoutReturn (c :: cs) = c :: withoutReturn cs := by
  cases cs with
  | nil => simp [withoutReturn, hc]
  | cons d cs =>
    unfold withoutReturn
    rw [List.getLast?_cons_cons]
    split <;> rfl

theorem pieces_feed (cs : List Char) : pieces ('\n' :: cs) = [] :: pieces cs := by
  have hsplit : ('\n' :: cs).splitOn '\n' = [] :: cs.splitOn '\n' :=
    List.splitOn_append_cons_self_of_not_mem List.not_mem_nil cs
  rw [pieces, hsplit]
  rfl

theorem pieces_return_feed (cs : List Char) : pieces ('\r' :: '\n' :: cs) = [] :: pieces cs := by
  have hfeed : '\n' ∉ ['\r'] := by decide
  have hsplit : ('\r' :: '\n' :: cs).splitOn '\n' = ['\r'] :: cs.splitOn '\n' :=
    List.splitOn_append_cons_self_of_not_mem hfeed cs
  rw [pieces, hsplit]
  rfl

theorem pieces_cons {c : Char} (hfeed : c ≠ '\n') (hreturn : c ≠ '\r') (cs : List Char) :
    pieces (c :: cs) = (pieces cs).modifyHead (List.cons c) := by
  rw [pieces, List.splitOn_cons_eq_if_modifyHead, if_neg (by simpa using hfeed), pieces]
  cases cs.splitOn '\n' with
  | nil => rfl
  | cons first rest =>
    rw [List.modifyHead_cons, List.map_cons, withoutReturn_cons hreturn]
    rfl

theorem pieces_feedsOnly {cs : List Char} (h : ReturnsEndLines cs) :
    pieces (Text.feedsOnly cs) = pieces cs := by
  fun_induction Text.feedsOnly cs with
  | case1 => rfl
  | case2 cs ih => rw [pieces_feed, pieces_return_feed, ih h.tail.tail]
  | case3 c cs hno ih =>
    by_cases hfeed : c = '\n'
    · rw [hfeed, pieces_feed, pieces_feed, ih h.tail]
    · have hreturn := h.head_ne hno
      rw [pieces_cons hfeed hreturn, pieces_cons hfeed hreturn, ih h.tail]

theorem scan_feedsOnly {text : String} (h : ReturnsEndLines text.toList) :
    scan (String.ofList (Text.feedsOnly text.toList)) = scan text := by
  rw [scan_eq_mapIdx_pieces, String.toList_ofList, pieces_feedsOnly h, ← scan_eq_mapIdx_pieces]

end Line

theorem haltDiagnostics_eq_of_scan {text other : String} (h : Line.scan text = Line.scan other)
    (filename : Option String) (lines : List Line) :
    haltDiagnostics filename text lines = haltDiagnostics filename other lines := by
  have hsame : SameLines (Line.scan text) (Line.scan other) := by
    rw [h]
    exact List.Perm.refl _
  rw [haltDiagnostics, haltDiagnostics, hsame.mentions_eq (by decide) (by decide)]

-- Beyond its lines, the text of a document is only looked through for a word without line ends.
theorem validate_eq_of_lines {workspace : Workspace} {context : Context}
    {first second : Document} (hpath : first.path = second.path)
    (hlines : first.lines = second.lines) :
    validate workspace context first = validate workspace context second := by
  have hidentity : first.identity workspace = second.identity workspace := by
    rw [Document.identity, Document.identity, hpath]
  have hsource : first.source workspace context = second.source workspace context := by
    simp only [Document.source, Document.directory, hpath]
  have hreferences : ∀ (scope : Scope) filename lines,
      scope.diagnostics filename first.text lines =
        scope.diagnostics filename second.text lines := by
    intro scope filename lines
    rw [Scope.diagnostics, Scope.diagnostics, haltDiagnostics_eq_of_scan hlines]
  simp only [validate, hpath, hidentity, hlines, hsource, hreferences]

/-- The file at the path can be opened and has the given bytes. -/
structure FileSystem.Holds (files : FileSystem) (path : Path) (bytes : List UInt8) : Prop where
  nameable : files.refusal? path = none
  opens_eq : files.opens path = .ok ()
  read_eq : files.read path = .ok bytes

theorem FileSystem.Holds.readText_eq {files : FileSystem} {path : Path} {text : String}
    (h : files.Holds path (Text.Utf8.encode text)) :
    files.readText "utf-8" path = .ok (.ok (Text.unifyNewlines text)) := by
  have hname : Text.Encoding.ofName? "utf-8" = some .utf8 := rfl
  simp only [readText, h.nameable, h.opens_eq, hname, h.read_eq, Text.Encoding.decode,
    Text.Utf8.decode_encode]

/-- A text that is not saved, as if it were the document at the path. -/
def Document.unsaved (context : Context) (path : Path) (text : String) : Document :=
  ⟨path, text, context.languageId⟩

-- Reading a file unifies its line ends and scanning a text drops them; a pass sees no difference.
theorem validate_stored_eq_unsaved {workspace : Workspace} {path : Path} {text : String}
    (hstored : workspace.files.Holds path (Text.Utf8.encode text))
    (hreturns : ReturnsEndLines text.toList) (context : Context) (languageId : String) :
    ∃ document, Document.read workspace.files path languageId "utf-8" = .ok (.ok document) ∧
      validate workspace context document =
        validate workspace context (.unsaved context path text) ∧
      validate workspace context
          (.unsaved context path (String.ofList (Text.feedsOnly text.toList))) =
        validate workspace context (.unsaved context path text) := by
  have hscan := Line.scan_feedsOnly hreturns
  refine ⟨⟨path, Text.unifyNewlines text, languageId⟩, ?_, ?_, ?_⟩
  · rw [Document.read, hstored.readText_eq]
  · rw [Text.unifyNewlines_eq hreturns]
    exact validate_eq_of_lines rfl hscan
  · exact validate_eq_of_lines rfl hscan

/-- Both line ends, an empty line, a word cut by a line end, and a line end at the end. -/
def mixedEnds : String :=
  "LOAD a\r\nCALL a.b.f\n\r\nHAL\nT:\r\nPUSH %VAR<x>\r\n"

def mixedEndsWorkspace : Workspace :=
  .ofFiles (("main.stack", mixedEnds) :: sharedNamesFiles)

theorem validate_mixedEnds_eq_unsaved :
    ∃ document, Document.read mixedEndsWorkspace.files (Path.ofString "main.stack") "stackscript"
        "utf-8" = .ok (.ok document) ∧
      validate mixedEndsWorkspace {} document =
        validate mixedEndsWorkspace {} (.unsaved {} (Path.ofString "main.stack") mixedEnds) ∧
      (validate mixedEndsWorkspace {} document).outcome.toOption.map
          (fun report => report.diagnostics.map Diagnostic.message) =
        some ["Undefined variable: x", "No HALT instruction found"] := by
  have hstored : mixedEndsWorkspace.files.Holds (Path.ofString "main.stack")
      (Text.Utf8.encode mixedEnds) := ⟨by rfl, by rfl, by rfl⟩
  have hreturns : ReturnsEndLines mixedEnds.toList := by decide
  obtain ⟨document, hread, hunsaved, _⟩ :=
    validate_stored_eq_unsaved hstored hreturns {} "stackscript"
  refine ⟨document, hread, hunsaved, ?_⟩
  rw [hunsaved]
  decide +kernel

end StackScript
