import StackScript.Module

/-! Which characters of the text of a path its parts keep. -/
namespace StackScript

theorem mem_intercalate_iff {sep c : Char} (hsep : c ≠ sep) {pieces : List (List Char)} :
    c ∈ [sep].intercalate pieces ↔ ∃ piece ∈ pieces, c ∈ piece := by
  induction pieces with
  | nil => simp
  | cons piece rest ih =>
    cases rest with
    | nil => simp
    | cons next rest =>
      rw [List.intercalate_cons_cons, List.mem_append, List.mem_append, ih,
        List.mem_singleton]
      simp only [List.mem_cons, exists_eq_or_imp, hsep, or_false]

theorem not_mem_of_mem_splitOn {sep : Char} {cs piece : List Char}
    (h : piece ∈ cs.splitOn sep) : sep ∉ piece := by
  induction cs generalizing piece with
  | nil =>
    rw [List.splitOn_nil, List.mem_singleton] at h
    simp [h]
  | cons c cs ih =>
    rw [List.splitOn_cons_eq_if_modifyHead] at h
    split at h
    · rcases List.mem_cons.mp h with hpiece | hpiece
      · simp [hpiece]
      · exact ih hpiece
    · rename_i hc
      -- the character goes to the front of the first piece of the rest
      obtain ⟨first, rest, hsplit⟩ := List.exists_cons_of_ne_nil (List.splitOn_ne_nil sep cs)
      rw [hsplit, List.modifyHead_cons] at h
      rw [hsplit] at ih
      rcases List.mem_cons.mp h with hpiece | hpiece
      · have hfirst : sep ∉ first := ih List.mem_cons_self
        rw [hpiece, List.mem_cons, not_or]
        exact ⟨fun heq => hc (by simp [heq]), hfirst⟩
      · exact ih (List.mem_cons_of_mem _ hpiece)

theorem IsPart.append {part suffix : String} (h : IsPart part) (hsuffix : '/' ∉ suffix.toList) :
    IsPart (part ++ suffix) := by
  obtain ⟨hempty, hdot, hslash⟩ := h
  refine ⟨?_, ?_, ?_⟩
  · intro heq
    exact hempty (String.append_eq_empty_iff.mp heq).1
  · intro heq
    -- a text of one character is either of the two, and the part is not empty
    have hlist : part.toList ++ suffix.toList = ['.'] := by
      rw [← String.toList_append, heq]
      rfl
    rcases List.append_eq_singleton_iff.mp hlist with ⟨hpart, _⟩ | ⟨hpart, _⟩
    · exact hempty (String.toList_inj.mp hpart)
    · exact hdot (String.toList_inj.mp hpart)
  · rw [String.toList_append, List.mem_append, not_or]
    exact ⟨hslash, hsuffix⟩

namespace Path

theorem parts_join_of_relative {p q : Path} (hq : q.isAbsolute = false) :
    (p.join q).parts = p.parts ++ q.parts := by
  rw [join, if_neg (by simp [hq])]

theorem anchor_join_of_relative {p q : Path} (hq : q.isAbsolute = false) :
    (p.join q).anchor = p.anchor := by
  rw [join, if_neg (by simp [hq])]

/-- The character stands in some part of the path. -/
def Mentions (p : Path) (c : Char) : Prop :=
  ∃ part ∈ p.parts, c ∈ part.toList

theorem isPart_name {p : Path} (h : p.parts ≠ []) : IsPart p.name := by
  rw [name, List.getLast?_eq_some_getLast h, Option.getD_some]
  exact p.isPart _ (List.getLast_mem h)

theorem isAbsolute_ofString_of_head {s : String} (h : s.toList.head? ≠ some '/') :
    (ofString s).isAbsolute = false := by
  have hanchor : anchorOf s.toList = .relative := by
    cases hs : s.toList with
    | nil => rfl
    | cons c cs =>
      have hc : c ≠ '/' := by simpa [hs] using h
      unfold anchorOf
      split <;> simp_all
  rw [isAbsolute, ofString, hanchor]
  rfl

theorem isAbsolute_ofString_of_isPart {s : String} (h : IsPart s) :
    (ofString s).isAbsolute = false := by
  apply isAbsolute_ofString_of_head
  intro hhead
  exact h.2.2 (List.mem_of_mem_head? hhead)

theorem parts_ofString_of_isPart {s : String} (h : IsPart s) : (ofString s).parts = [s] := by
  change partsOf s.toList = [s]
  rw [partsOf, List.splitOn_eq_singleton h.2.2]
  simp [h]

theorem parent_join_of_isPart {p : Path} {part : String} (h : IsPart part) :
    (p.join (ofString part)).parent = p := by
  have hrelative := isAbsolute_ofString_of_isPart h
  simp only [parent, anchor_join_of_relative hrelative, parts_join_of_relative hrelative,
    parts_ofString_of_isPart h, List.dropLast_concat]

theorem name_join_of_isPart {p : Path} {part : String} (h : IsPart part) :
    (p.join (ofString part)).name = part := by
  have hrelative := isAbsolute_ofString_of_isPart h
  simp [name, parts_join_of_relative hrelative, parts_ofString_of_isPart h]

section Kept

-- Slashes separate the parts, and a part that is a single dot is dropped.
variable {c : Char} (hslash : c ≠ '/') (hdot : c ≠ '.')

include hslash hdot

theorem mem_toString_iff {p : Path} : c ∈ p.toString.toList ↔ p.Mentions c := by
  have hparts : c ∈ ("/".intercalate p.parts).toList ↔ p.Mentions c := by
    rw [String.toList_intercalate]
    change c ∈ ['/'].intercalate _ ↔ _
    rw [mem_intercalate_iff hslash, Mentions]
    simp only [List.mem_map]
    constructor
    · intro h
      obtain ⟨_, ⟨part, hpart, rfl⟩, hc⟩ := h
      exact ⟨part, hpart, hc⟩
    · intro h
      obtain ⟨part, hpart, hc⟩ := h
      exact ⟨_, ⟨part, hpart, rfl⟩, hc⟩
  have hanchor : c ∉ p.anchor.text.toList := by
    cases p.anchor <;> simp [Anchor.text, hslash]
  rw [toString]
  split
  · rename_i hempty
    simp only [Bool.and_eq_true, List.isEmpty_iff] at hempty
    simp [Mentions, hempty.2, hdot]
  · rw [String.toList_append, List.mem_append, hparts]
    simp [hanchor]

end Kept

end Path

namespace ModuleLayout

variable {layout : ModuleLayout} {name suffix : String}

theorem file_of_isPart (hname : IsPart name) :
    layout.file name suffix = layout.root.join (Path.ofString (name ++ suffix)) := by
  have hparent : (layout.base name).parent = layout.root := Path.parent_join_of_isPart hname
  have hlast : (layout.base name).name = name := Path.name_join_of_isPart hname
  simp only [file, hparent, hlast]

variable {c : Char} (hslash : c ≠ '/') (hdot : c ≠ '.')
include hslash hdot

end ModuleLayout

end StackScript
