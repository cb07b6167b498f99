import StackScript.QualifiedName

/-! The readings of a dotted name: every cut at a dot, and the longer module first. -/
namespace StackScript.QualifiedName

theorem mem_readingsOnto {found : List (String × String)} {before cs : List Char}
    {reading : String × String} :
    reading ∈ readingsOnto found before cs ↔
      reading ∈ found ∨ ∃ first second, cs = first ++ '.' :: second ∧
        reading = (String.ofList (before.reverse ++ first), String.ofList second) := by
  induction cs generalizing found before with
  | nil => simp [readingsOnto]
  | cons c cs ih =>
    -- a cut of the whole is the cut right here or a cut further on
    have hcuts : (∃ first second, c :: cs = first ++ '.' :: second ∧
        reading = (String.ofList (before.reverse ++ first), String.ofList second)) ↔
        (c = '.' ∧ reading = (String.ofList before.reverse, String.ofList cs)) ∨
          ∃ first second, cs = first ++ '.' :: second ∧
            reading = (String.ofList ((c :: before).reverse ++ first), String.ofList second) := by
      constructor
      · intro h
        obtain ⟨first, second, hcs, hreading⟩ := h
        cases first with
        | nil =>
          obtain ⟨hc, hrest⟩ := List.cons.inj hcs
          subst hrest
          exact .inl ⟨hc, by simpa using hreading⟩
        | cons d first =>
          obtain ⟨hc, hrest⟩ := List.cons.inj hcs
          subst hc
          exact .inr ⟨first, second, hrest, by simpa using hreading⟩
      · intro h
        rcases h with ⟨hc, hreading⟩ | ⟨first, second, hcs, hreading⟩
        · exact ⟨[], cs, by simp [hc], by simpa using hreading⟩
        · exact ⟨c :: first, second, by simp [hcs], by simpa using hreading⟩
    unfold readingsOnto
    by_cases hc : c = '.'
    · rw [hcuts, ih]
      simp only [hc, beq_self_eq_true, if_true, List.mem_cons, true_and]
      rw [← or_assoc, or_comm (a := reading ∈ found)]
    · rw [hcuts, ih]
      simp only [beq_iff_eq, hc, if_false, false_and, false_or]

theorem mem_readings {name : String} {reading : String × String} :
    reading ∈ readings name ↔ qualify reading.1 reading.2 = name := by
  unfold readings
  rw [mem_readingsOnto]
  simp only [List.not_mem_nil, List.reverse_nil, List.nil_append, false_or]
  constructor
  · intro h
    obtain ⟨first, second, hname, hreading⟩ := h
    rw [hreading, qualify, ← String.toList_inj, hname]
    simp
  · intro h
    refine ⟨reading.1.toList, reading.2.toList, ?_, by simp⟩
    rw [← h, qualify]
    simp

-- The walk goes from left to right and puts what it finds in front.
theorem readingsOnto_pairwise {found : List (String × String)} {before cs : List Char}
    (hfound : found.Pairwise (fun a b => b.1.length < a.1.length))
    (hshort : ∀ reading ∈ found, reading.1.length < before.length) :
    (readingsOnto found before cs).Pairwise (fun a b => b.1.length < a.1.length) := by
  induction cs generalizing found before with
  | nil => exact hfound
  | cons c cs ih =>
    have hlonger : ∀ reading ∈ found, reading.1.length < (c :: before).length := by
      intro reading hreading
      have h := hshort reading hreading
      rw [List.length_cons]
      omega
    unfold readingsOnto
    by_cases hc : c = '.'
    · have hlength : (String.ofList before.reverse).length = before.length := by simp
      simp only [hc, beq_self_eq_true, if_true]
      apply ih
      · rw [List.pairwise_cons]
        refine ⟨?_, hfound⟩
        intro reading hreading
        rw [hlength]
        exact hshort reading hreading
      · intro reading hreading
        rcases List.mem_cons.mp hreading with h | h
        · rw [h, hlength, List.length_cons]
          omega
        · exact hc ▸ hlonger reading h
    · simp only [beq_iff_eq, hc, if_false]
      exact ih hfound hlonger

theorem readings_pairwise (name : String) :
    (readings name).Pairwise (fun a b => b.1.length < a.1.length) :=
  readingsOnto_pairwise .nil (by simp)

theorem mem_toList_qualify (owner name : String) : '.' ∈ (qualify owner name).toList := by
  rw [qualify, String.toList_append, String.toList_append]
  simp

theorem exists_qualify_of_mem {s : String} (hdot : '.' ∈ s.toList) :
    ∃ owner name, qualify owner name = s := by
  obtain ⟨first, second, hs⟩ := List.append_of_mem hdot
  refine ⟨String.ofList first, String.ofList second, ?_⟩
  rw [qualify, ← String.toList_inj, hs]
  simp

theorem readings_eq_nil_iff {name : String} : readings name = [] ↔ '.' ∉ name.toList := by
  rw [List.eq_nil_iff_forall_not_mem]
  constructor
  · intro h hdot
    obtain ⟨owner, rest, hname⟩ := exists_qualify_of_mem hdot
    exact h (owner, rest) (mem_readings.mpr hname)
  · intro h reading hreading
    apply h
    rw [← mem_readings.mp hreading]
    exact mem_toList_qualify _ _

-- Of the readings that meet a test the one with the longest module is found.
theorem length_le_of_find? {name : String} {test : String × String → Bool}
    {reading other : String × String} (hfind : (readings name).find? test = some reading)
    (hother : qualify other.1 other.2 = name) (htest : test other = true) :
    other.1.length ≤ reading.1.length := by
  obtain ⟨_, above, below, hreadings, habove⟩ := List.find?_eq_some_iff_append.mp hfind
  have hmem := mem_readings.mpr hother
  have hpairwise := readings_pairwise name
  rw [hreadings] at hmem hpairwise
  rcases List.mem_append.mp hmem with h | h
  · have hnot := habove other h
    rw [htest] at hnot
    exact absurd hnot (by decide)
  · rcases List.mem_cons.mp h with heq | hbelow
    · exact Nat.le_of_eq (by rw [heq])
    · have hlt := (List.pairwise_cons.mp (List.pairwise_append.mp hpairwise).2.1).1 other hbelow
      omega

theorem qualify_qualify (owner middle name : String) :
    qualify (qualify owner middle) name = qualify owner (qualify middle name) := by
  simp only [qualify, String.append_assoc]

theorem length_qualify (owner name : String) :
    (qualify owner name).length = owner.length + 1 + name.length := by
  rw [qualify, String.length_append, String.length_append]
  rfl

-- Between two cuts of one name stands what the longer module has more than the shorter.
theorem exists_middle {owner name other rest : String}
    (h : qualify owner name = qualify other rest) (hlt : owner.length < other.length) :
    ∃ middle, other = qualify owner middle ∧ name = qualify middle rest := by
  have hcs : owner.toList ++ '.' :: name.toList = other.toList ++ '.' :: rest.toList := by
    have htext := congrArg String.toList h
    simpa [qualify] using htext
  rw [← String.length_toList, ← String.length_toList] at hlt
  rcases List.append_eq_append_iff.mp hcs with ⟨more, hother, hname⟩ | ⟨more, howner, _⟩
  · cases more with
    | nil =>
      rw [hother, List.append_nil] at hlt
      omega
    | cons c middle =>
      obtain ⟨hc, hmiddle⟩ := List.cons.inj hname
      subst hc
      refine ⟨String.ofList middle, ?_, ?_⟩
      · rw [qualify, ← String.toList_inj, hother]
        simp
      · rw [qualify, ← String.toList_inj, hmiddle]
        simp
  · rw [howner, List.length_append] at hlt
    omega

section Ends

variable {name owner rest : String} (hreading : qualify owner rest = name)
include hreading

/-- A cut with no dot behind it is one that no longer module allows. -/
theorem dot_not_mem_rest_iff :
    '.' ∉ rest.toList ↔ ∀ other ∈ readings name, ¬ owner.length < other.1.length := by
  constructor
  · intro hdot other hother hlt
    have heq : qualify owner rest = qualify other.1 other.2 := by
      rw [hreading, mem_readings.mp hother]
    obtain ⟨middle, _, hrest⟩ := exists_middle heq hlt
    rw [hrest] at hdot
    exact hdot (mem_toList_qualify middle other.2)
  · intro hlongest hdot
    obtain ⟨middle, last, hrest⟩ := exists_qualify_of_mem hdot
    have hmem : (qualify owner middle, last) ∈ readings name := by
      rw [mem_readings, qualify_qualify, hrest, hreading]
    have hlonger : owner.length < (qualify owner middle).length := by
      rw [length_qualify]
      omega
    exact hlongest _ hmem hlonger

/-- A cut with no dot in front of it is one that no shorter module allows. -/
theorem dot_not_mem_owner_iff :
    '.' ∉ owner.toList ↔ ∀ other ∈ readings name, ¬ other.1.length < owner.length := by
  constructor
  · intro hdot other hother hlt
    have heq : qualify other.1 other.2 = qualify owner rest := by
      rw [hreading, mem_readings.mp hother]
    obtain ⟨middle, howner, _⟩ := exists_middle heq hlt
    rw [howner] at hdot
    exact hdot (mem_toList_qualify other.1 middle)
  · intro hshortest hdot
    obtain ⟨first, middle, howner⟩ := exists_qualify_of_mem hdot
    have hmem : (first, qualify middle rest) ∈ readings name := by
      rw [mem_readings, ← qualify_qualify, howner, hreading]
    have hshorter : first.length < owner.length := by
      rw [← howner, length_qualify]
      omega
    exact hshortest _ hmem hshorter

end Ends

theorem head?_eq_some_iff_of_pairwise {α : Type} {r : α → α → Prop}
    (hasymm : ∀ a b, r a b → ¬ r b a) {l : List α} (h : l.Pairwise r) {a : α} :
    l.head? = some a ↔ a ∈ l ∧ ∀ b ∈ l, ¬ r b a := by
  cases l with
  | nil => simp
  | cons first more =>
    have hfirst := (List.pairwise_cons.mp h).1
    rw [List.head?_cons, Option.some.injEq]
    constructor
    · intro heq
      subst heq
      refine ⟨List.mem_cons_self, ?_⟩
      intro b hb hr
      rcases List.mem_cons.mp hb with heq | hmore
      · subst heq
        exact hasymm b b hr hr
      · exact hasymm first b (hfirst b hmore) hr
    · intro hleast
      rcases List.mem_cons.mp hleast.1 with heq | hmore
      · exact heq.symm
      · exact absurd (hfirst a hmore) (hleast.2 first List.mem_cons_self)

-- The longest module stands first, so what is behind its dot has none.
theorem head?_readings_eq_some_iff {name owner rest : String} :
    (readings name).head? = some (owner, rest) ↔
      qualify owner rest = name ∧ '.' ∉ rest.toList := by
  have hasymm : ∀ a b : String × String, b.1.length < a.1.length → ¬ a.1.length < b.1.length := by
    intro a b hlt
    omega
  rw [head?_eq_some_iff_of_pairwise hasymm (readings_pairwise name), mem_readings]
  exact and_congr_right (fun hreading => (dot_not_mem_rest_iff hreading).symm)

-- The shortest module stands last, so it has no dot of its own.
theorem getLast?_readings_eq_some_iff {name owner rest : String} :
    (readings name).getLast? = some (owner, rest) ↔
      qualify owner rest = name ∧ '.' ∉ owner.toList := by
  have hasymm : ∀ a b : String × String, a.1.length < b.1.length → ¬ b.1.length < a.1.length := by
    intro a b hlt
    omega
  have hreverse : (readings name).reverse.Pairwise (fun a b => a.1.length < b.1.length) := by
    rw [List.pairwise_reverse]
    exact readings_pairwise name
  rw [List.getLast?_eq_head?_reverse, head?_eq_some_iff_of_pairwise hasymm hreverse,
    List.mem_reverse, mem_readings]
  simp only [List.mem_reverse]
  exact and_congr_right (fun hreading => (dot_not_mem_owner_iff hreading).symm)

theorem length_readingsOnto (found : List (String × String)) (before cs : List Char) :
    (readingsOnto found before cs).length = found.length + cs.count '.' := by
  induction cs generalizing found before with
  | nil => rfl
  | cons c cs ih =>
    unfold readingsOnto
    rw [ih, List.count_cons]
    by_cases hc : c = '.'
    · simp only [hc, beq_self_eq_true, if_true, List.length_cons]
      omega
    · simp only [beq_iff_eq, hc, if_false]
      omega

/-- What stands between the dots of a name. -/
def parts (name : String) : List String :=
  (name.toList.splitOn '.').map String.ofList

/-- The first parts of a name against the others, one part fewer from each to the next. -/
def joinedReadings (name : String) : List (String × String) :=
  (List.range' 1 ((parts name).length - 1)).reverse.map (fun i =>
    (".".intercalate ((parts name).take i), ".".intercalate ((parts name).drop i)))

theorem intercalate_parts (name : String) : ".".intercalate (parts name) = name := by
  rw [← String.toList_inj, String.toList_intercalate, parts, List.map_map]
  simp [Function.comp_def]

theorem parts_ne_nil (name : String) : parts name ≠ [] := by
  simp [parts, List.splitOn_ne_nil]

theorem take_parts_ne_nil (name : String) {i : Nat} (h : 1 ≤ i) : (parts name).take i ≠ [] := by
  rw [ne_eq, List.take_eq_nil_iff, not_or]
  exact ⟨by omega, parts_ne_nil name⟩

theorem parts_qualify (owner rest : String) :
    parts (qualify owner rest) = parts owner ++ parts rest := by
  have htext : (qualify owner rest).toList = owner.toList ++ '.' :: rest.toList := by
    simp [qualify]
  rw [parts, htext, List.splitOn_append_cons_self, List.map_append, parts, parts]

theorem mem_joinedReadings {name : String} {reading : String × String} :
    reading ∈ joinedReadings name ↔ qualify reading.1 reading.2 = name := by
  rw [joinedReadings, List.mem_map]
  constructor
  · rintro ⟨i, hi, rfl⟩
    rw [List.mem_reverse, List.mem_range'_1] at hi
    have hsecond : (parts name).drop i ≠ [] := by
      rw [ne_eq, List.drop_eq_nil_iff]
      omega
    rw [qualify, ← String.intercalate_append_of_ne_nil (take_parts_ne_nil name hi.1) hsecond,
      List.take_append_drop, intercalate_parts]
  · intro h
    have hparts : parts name = parts reading.1 ++ parts reading.2 := by
      rw [← h, parts_qualify]
    have hfirst := List.length_pos_iff.mpr (parts_ne_nil reading.1)
    have hsecond := List.length_pos_iff.mpr (parts_ne_nil reading.2)
    refine ⟨(parts reading.1).length, ?_, ?_⟩
    · rw [List.mem_reverse, List.mem_range'_1, hparts, List.length_append]
      omega
    · rw [hparts, List.take_left, List.drop_left, intercalate_parts, intercalate_parts]

theorem length_intercalate_take_lt {name : String} {i j : Nat} (hpos : 1 ≤ i) (hlt : i < j)
    (hbound : j < (parts name).length) :
    (".".intercalate ((parts name).take i)).length <
      (".".intercalate ((parts name).take j)).length := by
  have htake : (parts name).take j = (parts name).take i ++ ((parts name).take j).drop i := by
    have hfirst : ((parts name).take j).take i = (parts name).take i := by
      rw [List.take_take, Nat.min_eq_left (Nat.le_of_lt hlt)]
    rw [← hfirst, List.take_append_drop]
  have hmore : ((parts name).take j).drop i ≠ [] := by
    rw [ne_eq, List.drop_eq_nil_iff, List.length_take]
    omega
  have hdot : ".".length = 1 := rfl
  rw [htake, String.intercalate_append_of_ne_nil (take_parts_ne_nil name hpos) hmore,
    String.length_append, String.length_append, hdot]
  omega

theorem joinedReadings_pairwise (name : String) :
    (joinedReadings name).Pairwise (fun a b => b.1.length < a.1.length) := by
  have hbounds : ∀ i ∈ List.range' 1 ((parts name).length - 1),
      1 ≤ i ∧ i < (parts name).length := by
    intro i hi
    rw [List.mem_range'_1] at hi
    omega
  rw [joinedReadings, List.pairwise_map, List.pairwise_reverse]
  refine List.Pairwise.imp_of_mem ?_ (List.pairwise_lt_range' 1)
  intro i j hi hj hlt
  exact length_intercalate_take_lt (hbounds i hi).1 hlt (hbounds j hj).2

theorem nodup_of_pairwise_length {l : List (String × String)}
    (h : l.Pairwise (fun a b => b.1.length < a.1.length)) : l.Nodup := by
  apply h.imp
  intro a b hlt heq
  rw [heq] at hlt
  omega

-- Both lists have the same readings in the same strict order, so they are one.
theorem readings_eq_joinedReadings (name : String) : readings name = joinedReadings name := by
  have hleft := readings_pairwise name
  have hright := joinedReadings_pairwise name
  have hperm : (readings name).Perm (joinedReadings name) := by
    rw [List.perm_ext_iff_of_nodup (nodup_of_pairwise_length hleft)
      (nodup_of_pairwise_length hright)]
    intro reading
    rw [mem_readings, mem_joinedReadings]
  refine hperm.eq_of_pairwise ?_ hleft hright
  intro a b _ _ hab hba
  omega

-- Every dot is one cut, and the cuts go from the last dot to the first.
theorem readings_invert_qualify (name : String) :
    (∀ owner rest, (owner, rest) ∈ readings name ↔ qualify owner rest = name) ∧
      (readings name).Nodup ∧
      (readings name).length = name.toList.count '.' ∧
      (readings name).Pairwise (fun a b => b.1.length < a.1.length) ∧
      (∀ owner rest, (readings name).head? = some (owner, rest) ↔
        qualify owner rest = name ∧ '.' ∉ rest.toList) ∧
      (∀ owner rest, (readings name).getLast? = some (owner, rest) ↔
        qualify owner rest = name ∧ '.' ∉ owner.toList) ∧
      readings name = joinedReadings name := by
  refine ⟨fun _ _ => mem_readings, nodup_of_pairwise_length (readings_pairwise name), ?_,
    readings_pairwise name, fun _ _ => head?_readings_eq_some_iff,
    fun _ _ => getLast?_readings_eq_some_iff, readings_eq_joinedReadings name⟩
  rw [readings, length_readingsOnto, List.length_nil, Nat.zero_add]

-- A dot at the start and two in a row.
example : readings ".a..f" = [(".a.", "f"), (".a", ".f"), ("", "a..f")] := by decide

end StackScript.QualifiedName
