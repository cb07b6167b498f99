import StackScript.Reference

/-! The lines of a text: their places, their raw texts, and the words that stand in them. -/
namespace StackScript

namespace Line

variable {text : String} {line : Line} {i : Nat}

theorem getElem?_scan (text : String) (i : Nat) :
    (scan text)[i]? =
      (text.toList.splitOn '\n')[i]?.map (fun cs => ⟨i, String.ofList (withoutReturn cs)⟩) := by
  rw [scan, List.getElem?_mapIdx]

theorem index_of_getElem?_scan (h : (scan text)[i]? = some line) : line.index = i := by
  rw [getElem?_scan, Option.map_eq_some_iff] at h
  obtain ⟨cs, _, hline⟩ := h
  rw [← hline]

theorem getElem?_index_of_mem_scan (h : line ∈ scan text) :
    (scan text)[line.index]? = some line := by
  obtain ⟨i, hi⟩ := List.mem_iff_getElem?.mp h
  rw [index_of_getElem?_scan hi]
  exact hi

theorem scan_pairwise (text : String) : (scan text).Pairwise (fun a b => a.index < b.index) := by
  rw [List.pairwise_iff_getElem]
  intro i j hi hj hlt
  have hindex : ∀ k (hk : k < (scan text).length), ((scan text)[k]).index = k := by
    intro k hk
    exact index_of_getElem?_scan (List.getElem?_eq_getElem hk)
  rw [hindex i hi, hindex j hj]
  exact hlt

theorem map_raw_scan (text : String) :
    (scan text).map raw =
      (text.toList.splitOn '\n').map (fun cs => String.ofList (withoutReturn cs)) := by
  apply List.ext_getElem?
  intro i
  rw [List.getElem?_map, getElem?_scan, List.getElem?_map, Option.map_map]
  rfl

/-- The line, moved down. -/
def shift (n : Nat) (line : Line) : Line :=
  ⟨line.index + n, line.raw⟩

-- A line feed between two texts ends the last line of the first, with its carriage return.
theorem scan_append (text more : String) :
    scan (text ++ "\n" ++ more) = scan text ++ (scan more).map (shift (scan text).length) := by
  have hfeed : (text ++ "\n" ++ more).toList = text.toList ++ '\n' :: more.toList := by
    rw [String.toList_append, String.toList_append, List.append_assoc]
    rfl
  have hlength : (scan text).length = (text.toList.splitOn '\n').length := by
    rw [scan, List.length_mapIdx]
  rw [scan, hfeed, List.splitOn_append_cons_self, List.mapIdx_append, ← scan, ← hlength]
  congr 1
  rw [List.mapIdx_eq_iff]
  intro i
  rw [List.getElem?_map, getElem?_scan, Option.map_map]
  rfl

theorem index_lt_of_mem_scan (h : line ∈ scan text) : line.index < (scan text).length := by
  have hplace := getElem?_index_of_mem_scan h
  exact (List.getElem?_eq_some_iff.mp hplace).1

end Line

section Word

variable {word cs : List Char} {sep : Char}

theorem mentions_iff_infix : mentions word cs = true ↔ word <:+: cs := by
  induction cs with
  | nil =>
    unfold mentions
    rw [List.isEmpty_iff, List.infix_nil]
  | cons c cs ih =>
    unfold mentions
    rw [Bool.or_eq_true, List.isPrefixOf_iff_prefix, ih, List.infix_cons_iff]

-- A word without the separator cannot reach across one.
theorem infix_append_cons_iff (hsep : sep ∉ word) {first second : List Char} :
    word <:+: first ++ sep :: second ↔ word <:+: first ∨ word <:+: second := by
  constructor
  · intro h
    obtain ⟨before, after, heq⟩ := h
    rcases List.append_eq_append_iff.mp heq with ⟨rest, hfirst, _⟩ | ⟨rest, hword, hsecond⟩
    · exact .inl ⟨before, rest, hfirst.symm⟩
    · cases rest with
      | nil =>
        rw [List.append_nil] at hword
        exact .inl ⟨before, [], by rw [List.append_nil, hword]⟩
      | cons c rest =>
        -- the separator is the first character that the word shares with what follows
        rw [List.cons_append, List.cons.injEq] at hsecond
        obtain ⟨hc, hrest⟩ := hsecond
        subst hc
        rcases List.append_eq_append_iff.mp hword with ⟨inner, hfirst, hword⟩ | ⟨inner, _, hword⟩
        · exact absurd (by rw [hword]; simp) hsep
        · cases inner with
          | nil =>
            rw [List.nil_append] at hword
            exact absurd (by rw [← hword]; simp) hsep
          | cons d inner =>
            rw [List.cons_append, List.cons.injEq] at hword
            exact .inr ⟨inner, after, by rw [hrest, hword.2]⟩
  · intro h
    rcases h with ⟨before, after, heq⟩ | ⟨before, after, heq⟩
    · exact ⟨before, after ++ sep :: second, by rw [← heq]; simp⟩
    · exact ⟨first ++ sep :: before, after, by rw [← heq]; simp⟩

theorem infix_intercalate_iff (hsep : sep ∉ word) {pieces : List (List Char)}
    (hpieces : pieces ≠ []) :
    word <:+: [sep].intercalate pieces ↔ ∃ piece ∈ pieces, word <:+: piece := by
  induction pieces with
  | nil => exact absurd rfl hpieces
  | cons piece rest ih =>
    cases rest with
    | nil => simp
    | cons next rest =>
      rw [List.intercalate_cons_cons, List.append_assoc, List.singleton_append,
        infix_append_cons_iff hsep, ih (by simp)]
      simp only [List.mem_cons, exists_eq_or_imp]

theorem infix_iff_splitOn (hsep : sep ∉ word) :
    word <:+: cs ↔ ∃ piece ∈ cs.splitOn sep, word <:+: piece := by
  rw [← infix_intercalate_iff hsep (List.splitOn_ne_nil sep cs), List.intercalate_splitOn]

theorem infix_withoutReturn_iff (hreturn : '\r' ∉ word) :
    word <:+: Line.withoutReturn cs ↔ word <:+: cs := by
  unfold Line.withoutReturn
  by_cases hlast : cs.getLast? = some '\r'
  · rw [if_pos hlast]
    obtain ⟨front, hcs⟩ := List.getLast?_eq_some_iff.mp hlast
    subst hcs
    rw [List.dropLast_concat, infix_append_cons_iff hreturn, List.infix_nil]
    constructor
    · exact .inl
    · intro h
      rcases h with h | hempty
      · exact h
      · rw [hempty]
        exact List.nil_infix
  · rw [if_neg hlast]

/-- A word without line ends stands in a text exactly if it stands in one of its lines. -/
theorem mentions_iff_exists_line (hfeed : '\n' ∉ word) (hreturn : '\r' ∉ word) {text : String} :
    mentions word text.toList = true ↔
      ∃ raw ∈ (Line.scan text).map Line.raw, mentions word raw.toList = true := by
  rw [Line.map_raw_scan, mentions_iff_infix, infix_iff_splitOn hfeed]
  constructor
  · intro h
    obtain ⟨piece, hpiece, hword⟩ := h
    refine ⟨_, List.mem_map_of_mem hpiece, ?_⟩
    rw [String.toList_ofList, mentions_iff_infix, infix_withoutReturn_iff hreturn]
    exact hword
  · intro h
    obtain ⟨raw, hraw, hword⟩ := h
    obtain ⟨piece, hpiece, heq⟩ := List.mem_map.mp hraw
    rw [← heq, String.toList_ofList, mentions_iff_infix, infix_withoutReturn_iff hreturn] at hword
    exact ⟨piece, hpiece, hword⟩

end Word

end StackScript
