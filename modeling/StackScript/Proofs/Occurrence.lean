import StackScript.VariableReference

/-! The references found in a line are the places where the text of a reference stands. -/
namespace StackScript.VariableReference

/-- The text of a reference to a variable. -/
def textOf (name : List Char) : List Char :=
  '%' :: 'V' :: 'A' :: 'R' :: '<' :: (name ++ ['>'])

theorem length_textOf (name : List Char) : (textOf name).length = name.length + 6 := by
  simp [textOf]

theorem isWordChar_of_isIdentifier {name : List Char} (h : isIdentifier name = true) :
    ∀ c ∈ name, isWordChar c = true := by
  cases name with
  | nil => simp
  | cons c cs =>
    simp only [isIdentifier, Bool.and_eq_true, Bool.or_eq_true, List.all_eq_true] at h
    intro d hd
    rcases List.mem_cons.mp hd with heq | hd
    · subst heq
      rcases h.1 with hc | hc
      · simp [isWordChar, Char.isAlphanum, hc]
      · simp [isWordChar, hc]
    · exact h.2 d hd

theorem takeWhile_name {name : List Char} (h : ∀ c ∈ name, isWordChar c = true)
    (after : List Char) : (name ++ '>' :: after).takeWhile isWordChar = name := by
  rw [List.takeWhile_append_of_pos h, List.takeWhile_cons_of_neg (by decide), List.append_nil]

theorem nameAtStart?_eq_some_iff {cs name : List Char} :
    nameAtStart? cs = some name ↔
      isIdentifier name = true ∧ ∃ after, cs = textOf name ++ after := by
  constructor
  · intro h
    unfold nameAtStart? at h
    split at h
    · rename_i rest
      simp only [Option.ite_none_right_eq_some, Bool.and_eq_true, beq_iff_eq,
        Option.some.injEq] at h
      obtain ⟨⟨hid, hhead⟩, hname⟩ := h
      rw [hname] at hid hhead
      obtain ⟨after, hdrop⟩ := List.head?_eq_some_iff.mp hhead
      have hrest : rest = name ++ '>' :: after := by
        rw [← hdrop, ← hname]
        exact (List.take_append_drop _ rest).symm.trans (by
          rw [← List.prefix_iff_eq_take.mp (List.takeWhile_prefix isWordChar)])
      exact ⟨hid, after, by simp [textOf, hrest]⟩
    · simp at h
  · intro h
    obtain ⟨hid, after, hcs⟩ := h
    have htake := takeWhile_name (isWordChar_of_isIdentifier hid) after
    have hcs' : cs = '%' :: 'V' :: 'A' :: 'R' :: '<' :: (name ++ '>' :: after) := by
      rw [hcs]
      simp [textOf]
    rw [hcs', nameAtStart?, htake]
    simp [hid]

theorem mem_findFrom_cons {column : Nat} {c : Char} {cs : List Char} {ref : VariableReference} :
    ref ∈ findFrom column (c :: cs) ↔
      (nameAtStart? (c :: cs) = some ref.name.toList ∧ ref.start = column ∧
        ref.stop = ref.start + ref.name.length + 6) ∨ ref ∈ findFrom (column + 1) cs := by
  rw [findFrom]
  cases hname : nameAtStart? (c :: cs) with
  | none => simp
  | some name =>
    simp only [List.mem_cons, Option.some.injEq]
    refine or_congr ?_ Iff.rfl
    constructor
    · intro h
      subst h
      simp
    · intro h
      obtain ⟨hname, hstart, hstop⟩ := h
      rcases ref with ⟨text, start, stop⟩
      simp only at hname hstart hstop
      subst hname hstart hstop
      simp [String.length_toList]

/-- A reference is found exactly where its text stands, whatever stands around it. -/
theorem mem_findFrom_iff {column : Nat} {cs : List Char} {ref : VariableReference} :
    ref ∈ findFrom column cs ↔
      isIdentifier ref.name.toList = true ∧
        ∃ before after, cs = before ++ textOf ref.name.toList ++ after ∧
          ref.start = column + before.length ∧ ref.stop = ref.start + ref.name.length + 6 := by
  induction cs generalizing column with
  | nil => simp [findFrom, textOf]
  | cons c cs ih =>
    rw [mem_findFrom_cons, nameAtStart?_eq_some_iff, ih]
    constructor
    · intro h
      rcases h with ⟨⟨hid, after, hcs⟩, hstart, hstop⟩ | ⟨hid, before, after, hcs, hstart, hstop⟩
      · exact ⟨hid, [], after, hcs, hstart, hstop⟩
      · refine ⟨hid, c :: before, after, ?_, ?_, hstop⟩
        · rw [hcs, List.cons_append, List.cons_append]
        · rw [hstart, List.length_cons]
          omega
    · intro h
      obtain ⟨hid, before, after, hcs, hstart, hstop⟩ := h
      cases before with
      | nil => exact .inl ⟨⟨hid, after, hcs⟩, hstart, hstop⟩
      | cons d before =>
        rw [List.cons_append, List.cons_append, List.cons.injEq] at hcs
        rw [List.length_cons] at hstart
        exact .inr ⟨hid, before, after, hcs.2, by omega, hstop⟩

theorem findFrom_pairwise (column : Nat) (cs : List Char) :
    (findFrom column cs).Pairwise (fun a b => a.start < b.start) := by
  induction cs generalizing column with
  | nil => exact .nil
  | cons c cs ih =>
    unfold findFrom
    split
    · rw [List.pairwise_cons]
      refine ⟨?_, ih _⟩
      -- whatever is found further on starts behind this column
      intro ref href
      obtain ⟨_, before, _, _, hstart, _⟩ := mem_findFrom_iff.mp href
      change column < ref.start
      omega
    · exact ih _

end StackScript.VariableReference
