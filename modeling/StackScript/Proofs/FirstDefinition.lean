import StackScript.Symbol

/-! The first definition of a name wins: what a table holds after any list of definitions. -/
namespace StackScript

/-- Induction for functions that go on with a filtered tail. -/
theorem filteredTailInduction {α : Type} {motive : List α → Prop} (nil : motive [])
    (cons : ∀ a l, (∀ p : α → Bool, motive (l.filter p)) → motive (a :: l)) (l : List α) :
    motive l := by
  induction hn : l.length using Nat.strongRecOn generalizing l with
  | ind n ih =>
    cases l with
    | nil => exact nil
    | cons a l =>
      apply cons
      intro p
      have hle := List.length_filter_le p l
      rw [List.length_cons] at hn
      exact ih _ (by omega) _ rfl

theorem nodup_eraseDups (names : List String) : names.eraseDups.Nodup := by
  induction names using filteredTailInduction with
  | nil => simp
  | cons name rest ih =>
    rw [List.eraseDups_cons, List.nodup_cons, List.mem_eraseDups]
    exact ⟨by simp, ih _⟩

namespace Symbol

/-- The first symbol of each name, in order. -/
def firsts (symbols : List Symbol) : List Symbol :=
  symbols.eraseDupsBy (fun a b => a.name == b.name)

theorem firsts_nil : firsts [] = [] := rfl

-- The rest goes on without the symbols that share the first name.
theorem firsts_cons (s : Symbol) (rest : List Symbol) :
    firsts (s :: rest) = s :: firsts (rest.filter (fun t => !t.name == s.name)) := by
  have hfilter : (rest.filter fun t => (t.name == s.name) = false) =
      rest.filter (fun t => !t.name == s.name) := by
    congr 1
    funext t
    cases t.name == s.name <;> rfl
  rw [firsts, List.eraseDupsBy_cons, hfilter, firsts]

theorem map_name_firsts (symbols : List Symbol) :
    (firsts symbols).map name = (symbols.map name).eraseDups := by
  induction symbols using filteredTailInduction with
  | nil => rfl
  | cons s rest ih =>
    rw [firsts_cons, List.map_cons, ih, List.map_cons, List.eraseDups_cons, List.filter_map]
    rfl

/-- A list of symbols that their names determine keeps the first of each name. -/
theorem firsts_map {f : String → Symbol} (hf : ∀ name, (f name).name = name)
    (names : List String) : firsts (names.map f) = names.eraseDups.map f := by
  induction names using filteredTailInduction with
  | nil => rfl
  | cons name rest ih =>
    rw [List.map_cons, firsts_cons, List.filter_map, ih, List.eraseDups_cons, List.map_cons]
    congr 4
    funext other
    simp only [Function.comp_apply, hf]

-- What comes later counts only under names that are not taken yet.
theorem firsts_append (first second : List Symbol) :
    firsts (first ++ second) =
      firsts first ++ firsts (second.filter (fun s => !(first.map name).contains s.name)) := by
  induction first using filteredTailInduction generalizing second with
  | nil => rw [List.nil_append, firsts_nil, List.nil_append, List.filter_eq_self.mpr (by simp)]
  | cons s rest ih =>
    rw [List.cons_append, firsts_cons, List.filter_append, ih, firsts_cons, List.cons_append,
      List.filter_filter]
    congr 4
    funext t
    by_cases ht : t.name = s.name
    · simp [ht]
    · -- the symbols that share the first name have no say in whether this one is taken
      have hkept : (∃ u, (u ∈ rest ∧ ¬ u.name = s.name) ∧ u.name = t.name) ↔
          ∃ u ∈ rest, u.name = t.name := by
        constructor
        · rintro ⟨u, ⟨hu, _⟩, hname⟩
          exact ⟨u, hu, hname⟩
        · rintro ⟨u, hu, hname⟩
          exact ⟨u, ⟨hu, hname ▸ ht⟩, hname⟩
      simp [ht, hkept]

/-- What is kept under a name is what comes first under it. -/
theorem find?_of_mem_firsts {symbols : List Symbol} {s : Symbol} (hs : s ∈ firsts symbols) :
    symbols.find? (fun t => t.name == s.name) = some s := by
  induction symbols using filteredTailInduction with
  | nil => simp [firsts_nil] at hs
  | cons t rest ih =>
    rw [firsts_cons, List.mem_cons] at hs
    rcases hs with rfl | hs
    · simp
    · have hfind := ih _ hs
      have hmem := List.mem_of_find?_eq_some hfind
      have hne : s.name ≠ t.name := by simpa using (List.mem_filter.mp hmem).2
      rw [List.find?_filter] at hfind
      rw [List.find?_cons_of_neg (by simpa using hne.symm), ← hfind]
      congr 1
      funext u
      by_cases hu : u.name = s.name
      · simp [hu, hne]
      · simp [hu]

theorem find?_firsts (symbols : List Symbol) (name : String) :
    (firsts symbols).find? (fun s => s.name == name) =
      symbols.find? (fun s => s.name == name) := by
  cases hfind : (firsts symbols).find? (fun s => s.name == name) with
  | some s =>
    have hname : s.name = name := by simpa using List.find?_some hfind
    rw [← hname]
    exact (find?_of_mem_firsts (List.mem_of_find?_eq_some hfind)).symm
  | none =>
    -- a name that is kept nowhere is not there
    have hnot : name ∉ symbols.map Symbol.name := by
      rw [← List.mem_eraseDups, ← map_name_firsts, List.mem_map]
      intro h
      obtain ⟨s, hs, hname⟩ := h
      exact List.find?_eq_none.mp hfind s hs (by simpa using hname)
    symm
    rw [List.find?_eq_none]
    intro s hs hname
    exact hnot (List.mem_map.mpr ⟨s, hs, by simpa using hname⟩)

end Symbol

namespace SymbolTable

theorem has_eq_true_iff {table : SymbolTable} {kind : SymbolKind} {name : String} :
    table.has kind name = true ↔ ∃ s ∈ table.ofKind kind, s.name = name := by
  simp [has]

-- A definition leaves the symbols of the other kind alone.
theorem ofKind_define_of_ne (table : SymbolTable) {s : Symbol} {kind : SymbolKind}
    (hne : s.kind ≠ kind) : (table.define s).1.ofKind kind = table.ofKind kind := by
  unfold define
  split
  · rfl
  · exact ofKind_push_of_ne table s hne

theorem define_of_has (table : SymbolTable) {s : Symbol}
    (hhas : table.has s.kind s.name = true) : (table.define s).1 = table := by
  rw [define, if_pos hhas]

theorem ofKind_define_of_not_has (table : SymbolTable) {s : Symbol}
    (hhas : table.has s.kind s.name = false) :
    (table.define s).1.ofKind s.kind = table.ofKind s.kind ++ [s] := by
  rw [define, if_neg (by simp [hhas])]
  exact ofKind_push_self table s

theorem defineAll_cons (table : SymbolTable) (s : Symbol) (rest : List Symbol) :
    table.defineAll (s :: rest) = (table.define s).1.defineAll rest := rfl

theorem defineAll_append (table : SymbolTable) (first second : List Symbol) :
    table.defineAll (first ++ second) = (table.defineAll first).defineAll second := by
  simp [defineAll]

/-- The symbols of a kind that a list of definitions adds: the first of each name that is not taken
already. -/
def added (table : SymbolTable) (symbols : List Symbol) (kind : SymbolKind) : List Symbol :=
  Symbol.firsts (symbols.filter (fun s => s.kind == kind && !table.has kind s.name))

theorem has_define_of_not_has (table : SymbolTable) {s : Symbol}
    (hhas : table.has s.kind s.name = false) (name : String) :
    (table.define s).1.has s.kind name = (table.has s.kind name || s.name == name) := by
  rw [has, ofKind_define_of_not_has table hhas, List.any_append, has]
  simp

theorem has_define_of_ne (table : SymbolTable) {s : Symbol} {kind : SymbolKind}
    (hne : s.kind ≠ kind) (name : String) :
    (table.define s).1.has kind name = table.has kind name := by
  rw [has, ofKind_define_of_ne table hne, has]

-- By induction over the definitions: a name that is taken at some point stays with who took it.
theorem ofKind_defineAll (table : SymbolTable) (symbols : List Symbol) (kind : SymbolKind) :
    (table.defineAll symbols).ofKind kind = table.ofKind kind ++ table.added symbols kind := by
  induction symbols generalizing table with
  | nil => simp [defineAll, added, Symbol.firsts_nil]
  | cons s rest ih =>
    rw [defineAll_cons, ih]
    by_cases hkind : s.kind = kind
    · subst hkind
      cases hhas : table.has s.kind s.name with
      | true =>
        rw [define_of_has table hhas, added, added, List.filter_cons_of_neg (by simp [hhas])]
      | false =>
        -- the new symbol stands first, and everything of its name is taken from here on
        rw [ofKind_define_of_not_has table hhas, added, added,
          List.filter_cons_of_pos (by simp [hhas]), Symbol.firsts_cons, List.filter_filter,
          List.append_assoc, List.singleton_append]
        congr 4
        funext t
        rw [has_define_of_not_has table hhas, Bool.not_or, Bool.beq_comm (a := s.name)]
        cases t.kind == s.kind <;> cases t.name == s.name <;> simp
    · rw [ofKind_define_of_ne table hkind, added, added,
        List.filter_cons_of_neg (by simp [hkind])]
      congr 3
      funext t
      rw [has_define_of_ne table hkind]

theorem ofKind_defineAll_empty (symbols : List Symbol) (kind : SymbolKind) :
    (({} : SymbolTable).defineAll symbols).ofKind kind =
      Symbol.firsts (symbols.filter (fun s => s.kind == kind)) := by
  have hempty : ({} : SymbolTable).ofKind kind = [] := by cases kind <;> rfl
  rw [ofKind_defineAll, hempty, List.nil_append, added]
  simp [has, hempty]

theorem nodup_defineAll_empty (symbols : List Symbol) (kind : SymbolKind) :
    (((({} : SymbolTable).defineAll symbols).ofKind kind).map Symbol.name).Nodup := by
  rw [ofKind_defineAll_empty, Symbol.map_name_firsts]
  exact nodup_eraseDups _

theorem kind_of_mem_defineAll_empty {symbols : List Symbol} {kind : SymbolKind} {s : Symbol}
    (hs : s ∈ (({} : SymbolTable).defineAll symbols).ofKind kind) : s.kind = kind := by
  rw [ofKind_defineAll_empty] at hs
  have hmem := List.mem_of_find?_eq_some (Symbol.find?_of_mem_firsts hs)
  simpa using (List.mem_filter.mp hmem).2

theorem has_defineAll {table : SymbolTable} {symbols : List Symbol} {kind : SymbolKind}
    {name : String} :
    (table.defineAll symbols).has kind name = true ↔
      table.has kind name = true ∨ ∃ s ∈ symbols, s.kind = kind ∧ s.name = name := by
  have hadded : (∃ s ∈ table.added symbols kind, s.name = name) ↔
      ∃ s ∈ symbols, (s.kind = kind ∧ table.has kind s.name = false) ∧ s.name = name := by
    rw [← List.mem_map, added, Symbol.map_name_firsts, List.mem_eraseDups, List.mem_map]
    simp only [List.mem_filter, Bool.and_eq_true, beq_iff_eq, Bool.not_eq_true', and_assoc]
  rw [has_eq_true_iff, ofKind_defineAll]
  simp only [List.mem_append, or_and_right, exists_or, hadded, ← has_eq_true_iff]
  cases hhas : table.has kind name with
  | true => simp
  | false =>
    -- the name is free, so the first symbol that has it is among those added
    simp only [Bool.false_eq_true, false_or]
    constructor
    · intro h
      obtain ⟨s, hs, ⟨hkind, _⟩, hname⟩ := h
      exact ⟨s, hs, hkind, hname⟩
    · intro h
      obtain ⟨s, hs, hkind, hname⟩ := h
      rw [← hname] at hhas
      exact ⟨s, hs, ⟨hkind, hhas⟩, hname⟩

end SymbolTable

end StackScript
