import StackScript.Proofs.Placement

/-! The references of a line as spans: every span that holds the text of a reference is found once,
and no two of them overlap. -/
namespace StackScript.VariableReference

/-- An ASCII letter or an underscore, then ASCII letters, digits and underscores. -/
def IsName (name : String) : Prop :=
  ∃ c cs, name.toList = c :: cs ∧ (c.isAlpha = true ∨ c = '_') ∧
    ∀ d ∈ cs, d.isAlpha = true ∨ d.isDigit = true ∨ d = '_'

/-- The columns of the reference lie in the line and hold its text. -/
structure Spans (raw : String) (ref : VariableReference) : Prop where
  start_lt_stop : ref.start < ref.stop
  stop_le_length : ref.stop ≤ raw.length
  slice_eq : slice raw ref.start ref.stop = "%VAR<" ++ ref.name ++ ">"
  isName : IsName ref.name

theorem isIdentifier_iff_isName {name : String} :
    isIdentifier name.toList = true ↔ IsName name := by
  unfold IsName
  cases name.toList with
  | nil => simp [isIdentifier]
  | cons c cs => simp [isIdentifier, isWordChar, Char.isAlphanum, or_assoc]

theorem toList_referenceText (name : String) :
    ("%VAR<" ++ name ++ ">").toList = textOf name.toList := by
  simp [textOf]

-- The text of a reference, cut out of the line, leaves what stands before and after it.
theorem Spans.mem_find {raw : String} {ref : VariableReference} (h : Spans raw ref) :
    ref ∈ find raw := by
  have hslice : (raw.toList.drop ref.start).take (ref.stop - ref.start) =
      textOf ref.name.toList := by
    rw [← toList_referenceText, ← h.slice_eq, slice, String.toList_ofList]
  have hlt := h.start_lt_stop
  have hle := h.stop_le_length
  have hwidth : ref.stop - ref.start = ref.name.length + 6 := by
    have hlength := congrArg List.length hslice
    rw [List.length_take, List.length_drop, length_textOf, String.length_toList,
      String.length_toList] at hlength
    omega
  rw [find, mem_findFrom_iff]
  refine ⟨isIdentifier_iff_isName.mpr h.isName, raw.toList.take ref.start,
    (raw.toList.drop ref.start).drop (ref.stop - ref.start), ?_, ?_, by omega⟩
  · rw [← hslice, List.append_assoc, List.take_append_drop, List.take_append_drop]
  · rw [List.length_take, String.length_toList]
    omega

theorem mem_find_iff_spans {raw : String} {ref : VariableReference} :
    ref ∈ find raw ↔ Spans raw ref := by
  constructor
  · intro h
    obtain ⟨_, hstop, hslice⟩ := slice_of_mem_find h
    obtain ⟨hid, _, _, _, _, hwidth⟩ := mem_findFrom_iff.mp h
    exact ⟨by omega, hstop, hslice, isIdentifier_iff_isName.mp hid⟩
  · exact Spans.mem_find

theorem nameAtStart?_of_ne {c : Char} {cs : List Char} (hc : c ≠ '%') :
    nameAtStart? (c :: cs) = none := by
  unfold nameAtStart?
  split
  · rename_i heq
    exact absurd (List.cons.inj heq).1 hc
  · rfl

-- Nothing is found before the next percent sign.
theorem findFrom_append_of_not_mem {first : List Char} (hfirst : '%' ∉ first) (column : Nat)
    (rest : List Char) :
    findFrom column (first ++ rest) = findFrom (column + first.length) rest := by
  induction first generalizing column with
  | nil => rfl
  | cons c first ih =>
    rw [List.mem_cons, not_or] at hfirst
    rw [List.cons_append, findFrom, nameAtStart?_of_ne (Ne.symm hfirst.1), ih hfirst.2,
      List.length_cons, Nat.add_assoc, Nat.add_comm 1]

/-- The text of a reference without its percent sign. -/
def tailOf (name : List Char) : List Char :=
  'V' :: 'A' :: 'R' :: '<' :: (name ++ ['>'])

theorem not_mem_tailOf {name : List Char} (h : isIdentifier name = true) : '%' ∉ tailOf name := by
  intro hmem
  have hname : '%' ∈ name := by simpa [tailOf] using hmem
  exact absurd (isWordChar_of_isIdentifier h '%' hname) (by decide)

theorem eq_tailOf_append {c : Char} {cs name : List Char}
    (h : nameAtStart? (c :: cs) = some name) :
    isIdentifier name = true ∧ ∃ after, cs = tailOf name ++ after := by
  obtain ⟨hid, after, hcs⟩ := nameAtStart?_eq_some_iff.mp h
  exact ⟨hid, after, (List.cons.inj hcs).2⟩

-- What is found behind a reference is found behind its end, for the rest of its text holds no
-- percent sign.
theorem findFrom_behind {c : Char} {cs name : List Char} (column : Nat)
    (h : nameAtStart? (c :: cs) = some name) :
    findFrom (column + 1) cs =
      findFrom (column + name.length + 6) (cs.drop (name.length + 5)) := by
  obtain ⟨hid, after, hcs⟩ := eq_tailOf_append h
  have hlength : (tailOf name).length = name.length + 5 := by simp [tailOf]
  rw [hcs, findFrom_append_of_not_mem (not_mem_tailOf hid), ← hlength, List.drop_left, hlength]
  congr 1
  omega

theorem findFrom_apart (column : Nat) (cs : List Char) :
    (findFrom column cs).Pairwise (fun a b => a.stop ≤ b.start) := by
  induction cs generalizing column with
  | nil => exact .nil
  | cons c cs ih =>
    rw [findFrom]
    cases hname : nameAtStart? (c :: cs) with
    | none => exact ih _
    | some name =>
      refine List.pairwise_cons.mpr ⟨?_, ih _⟩
      intro ref href
      rw [findFrom_behind column hname] at href
      obtain ⟨_, before, _, _, hstart, _⟩ := mem_findFrom_iff.mp href
      change column + name.length + 6 ≤ ref.start
      omega

/-- The references in a piece of a line, looking behind a reference for the next one. -/
def findSkipping (column : Nat) : List Char → List VariableReference
  | [] => []
  | c :: cs =>
      match nameAtStart? (c :: cs) with
      | some name =>
          ⟨String.ofList name, column, column + name.length + 6⟩
            :: findSkipping (column + name.length + 6) (cs.drop (name.length + 5))
      | none => findSkipping (column + 1) cs
termination_by cs => cs.length
decreasing_by
  · rw [List.length_drop, List.length_cons]
    omega
  · exact Nat.lt_succ_self _

theorem findSkipping_eq_findFrom (column : Nat) (cs : List Char) :
    findSkipping column cs = findFrom column cs := by
  fun_induction findSkipping column cs with
  | case1 => rfl
  | case2 column c cs name hname ih =>
    simp only [findFrom, hname]
    rw [ih, ← findFrom_behind column hname]
  | case3 column c cs hname ih =>
    simp only [findFrom, hname]
    exact ih

-- A scanner may go on one column further or behind what it found: it meets the same references.
theorem find_exact (raw : String) :
    (∀ ref, ref ∈ find raw ↔ Spans raw ref) ∧ (find raw).Nodup ∧
      (find raw).Pairwise (fun a b => a.start < b.start ∧ a.stop ≤ b.start) ∧
      find raw = findSkipping 0 raw.toList := by
  have hordered := findFrom_pairwise 0 raw.toList
  refine ⟨fun _ => mem_find_iff_spans, ?_, hordered.and (findFrom_apart 0 raw.toList),
    (findSkipping_eq_findFrom 0 raw.toList).symm⟩
  apply hordered.imp
  intro a b hlt heq
  rw [heq] at hlt
  exact Nat.lt_irrefl _ hlt

-- An opener that leads nowhere hides no reference behind it.
example : find "%VAR<%VAR<y>%VAR<x%VAR<y1>>%VAR<1>" = [⟨"y", 5, 12⟩, ⟨"y1", 18, 26⟩] := by
  decide

end StackScript.VariableReference
