import Mathlib.Data.Finset.Card
import StackScript.Proofs.FirstDefinition

/-! Sequences of definitions on an empty table: what each of them answers, and what the table holds
in the end. -/
namespace StackScript

/-- The name of a symbol within its kind. -/
def Symbol.key (s : Symbol) : SymbolKind × String :=
  (s.kind, s.name)

/-- The ways to define something in a table. -/
inductive Definition where
  | define (symbol : Symbol)
  | defineFunction (name : String) (origin : Option String)
  | defineVariable (name : String)
deriving DecidableEq

namespace Definition

def symbol : Definition → Symbol
  | .define symbol => symbol
  | .defineFunction name origin => .ofFunction name origin
  | .defineVariable name => .ofVariable name

def key (definition : Definition) : SymbolKind × String :=
  definition.symbol.key

/-- What the definitions of one kind define, in order and with repetitions. -/
def symbolsOf (definitions : List Definition) (kind : SymbolKind) : List Symbol :=
  (definitions.map symbol).filter (fun s => s.kind == kind)

/-- What the definitions of one kind define that were answered with true. -/
def taken (answered : List (Definition × Bool)) (kind : SymbolKind) : List Symbol :=
  (answered.filter (fun a => a.2 && a.1.symbol.kind == kind)).map (fun a => a.1.symbol)

end Definition

namespace SymbolTable

/-- The table after a sequence of definitions, and the answers to them. -/
def run : SymbolTable → List Definition → SymbolTable × List Bool
  | table, [] => (table, [])
  | table, definition :: rest =>
      let step := table.define definition.symbol
      let final := step.1.run rest
      (final.1, step.2 :: final.2)

/-- What a sequence of definitions on an empty table comes to: a table and one answer to each of
them. -/
structure TableLaw (definitions : List Definition) (table : SymbolTable) (answers : List Bool) :
    Prop where
  length_answers : answers.length = definitions.length
  /-- A definition is accepted exactly if none before it had the same name in the same kind. -/
  answer_iff : ∀ i definition, definitions[i]? = some definition →
    (answers[i]? = some true ↔ ∀ earlier ∈ definitions.take i, earlier.key ≠ definition.key)
  /-- The table holds what was accepted, in order. -/
  ofKind_eq : ∀ kind, table.ofKind kind = Definition.taken (definitions.zip answers) kind
  nodup : ∀ kind, ((table.ofKind kind).map Symbol.name).Nodup
  kind_eq : ∀ kind, ∀ s ∈ table.ofKind kind, s.kind = kind
  /-- Under each name stands what was defined first under it. -/
  find?_eq : ∀ kind name, (table.ofKind kind).find? (fun s => s.name == name) =
    (Definition.symbolsOf definitions kind).find? (fun s => s.name == name)
  hasFunction_iff : ∀ name, table.hasFunction name = true ↔
    name ∈ table.functions.map Symbol.name
  hasVariable_iff : ∀ name, table.hasVariable name = true ↔ name ∈ table.vars.map Symbol.name
  mem_names_iff : ∀ kind name, name ∈ (table.ofKind kind).map Symbol.name ↔
    ∃ definition ∈ definitions, definition.key = (kind, name)
  size_eq : table.size = (definitions.map Definition.key).toFinset.card

theorem run_cons (table : SymbolTable) (definition : Definition) (rest : List Definition) :
    table.run (definition :: rest) =
      (((table.define definition.symbol).1.run rest).1,
        (table.define definition.symbol).2 ::
          ((table.define definition.symbol).1.run rest).2) := rfl

theorem run_fst (table : SymbolTable) (definitions : List Definition) :
    (table.run definitions).1 = table.defineAll (definitions.map Definition.symbol) := by
  induction definitions generalizing table with
  | nil => rfl
  | cons definition rest ih => rw [run_cons, ih, List.map_cons, defineAll_cons]

theorem length_run_snd (table : SymbolTable) (definitions : List Definition) :
    (table.run definitions).2.length = definitions.length := by
  induction definitions generalizing table with
  | nil => rfl
  | cons definition rest ih => rw [run_cons, List.length_cons, ih, List.length_cons]

-- Each answer is given on the table that the definitions before it have left.
theorem getElem?_run_snd (table : SymbolTable) (definitions : List Definition) (i : Nat) :
    (table.run definitions).2[i]? = definitions[i]?.map (fun definition =>
      !(table.run (definitions.take i)).1.has definition.symbol.kind definition.symbol.name) := by
  induction definitions generalizing table i with
  | nil => rfl
  | cons definition rest ih =>
    rw [run_cons]
    cases i with
    | zero =>
      rw [List.getElem?_cons_zero, List.getElem?_cons_zero, define_snd]
      rfl
    | succ i =>
      rw [List.getElem?_cons_succ, List.getElem?_cons_succ, ih, List.take_succ_cons, run_cons]

theorem ofKind_define (table : SymbolTable) (definition : Definition) (kind : SymbolKind) :
    (table.define definition.symbol).1.ofKind kind = table.ofKind kind
      ++ Definition.taken [(definition, (table.define definition.symbol).2)] kind := by
  rw [define_snd]
  by_cases hkind : definition.symbol.kind = kind
  · subst hkind
    cases hhas : table.has definition.symbol.kind definition.symbol.name with
    | true => simp [define_of_has table hhas, Definition.taken]
    | false => simp [ofKind_define_of_not_has table hhas, Definition.taken]
  · simp [ofKind_define_of_ne table hkind, Definition.taken, hkind]

theorem ofKind_run (table : SymbolTable) (definitions : List Definition) (kind : SymbolKind) :
    (table.run definitions).1.ofKind kind = table.ofKind kind
      ++ Definition.taken (definitions.zip (table.run definitions).2) kind := by
  induction definitions generalizing table with
  | nil => exact (List.append_nil _).symm
  | cons definition rest ih =>
    have hsplit : ∀ answer answers, Definition.taken
        ((definition :: rest).zip (answer :: answers)) kind =
          Definition.taken [(definition, answer)] kind
            ++ Definition.taken (rest.zip answers) kind := by
      intro answer answers
      rw [List.zip_cons_cons, ← List.singleton_append, Definition.taken, List.filter_append,
        List.map_append]
      rfl
    rw [run_cons, ih, ofKind_define, List.append_assoc, hsplit]

theorem has_run_empty_iff {definitions : List Definition} {kind : SymbolKind} {name : String} :
    (({} : SymbolTable).run definitions).1.has kind name = true ↔
      ∃ definition ∈ definitions, definition.key = (kind, name) := by
  have hempty : ({} : SymbolTable).has kind name = false := by cases kind <;> rfl
  rw [run_fst, has_defineAll, hempty]
  simp [Definition.key, Symbol.key]

theorem answer_run_empty_iff {definitions : List Definition} {i : Nat} {definition : Definition}
    (h : definitions[i]? = some definition) :
    (({} : SymbolTable).run definitions).2[i]? = some true ↔
      ∀ earlier ∈ definitions.take i, earlier.key ≠ definition.key := by
  rw [getElem?_run_snd, h, Option.map_some, Option.some.injEq, Bool.not_eq_true',
    ← Bool.not_eq_true, has_run_empty_iff]
  simp only [not_exists, not_and]
  rfl

theorem has_iff_mem_names {table : SymbolTable} {kind : SymbolKind} {name : String} :
    table.has kind name = true ↔ name ∈ (table.ofKind kind).map Symbol.name := by
  rw [has_eq_true_iff, List.mem_map]

-- The names of a kind are distinct, and symbols of two kinds never share a key.
theorem nodup_keys {table : SymbolTable}
    (hnodup : ∀ kind, ((table.ofKind kind).map Symbol.name).Nodup)
    (hkind : ∀ kind, ∀ s ∈ table.ofKind kind, s.kind = kind) :
    ((table.ofKind .function ++ table.ofKind .var).map Symbol.key).Nodup := by
  have hkeys : ∀ kind, ((table.ofKind kind).map Symbol.key).Nodup := by
    intro kind
    apply List.Nodup.of_map Prod.snd
    rw [List.map_map]
    exact hnodup kind
  rw [List.map_append, List.nodup_append]
  refine ⟨hkeys .function, hkeys .var, ?_⟩
  intro a ha b hb heq
  obtain ⟨s, hs, hsKey⟩ := List.mem_map.mp ha
  obtain ⟨t, ht, htKey⟩ := List.mem_map.mp hb
  have hsKind := hkind .function s hs
  have htKind := hkind .var t ht
  have hsame : s.kind = t.kind := congrArg Prod.fst (hsKey.trans (heq.trans htKey.symm))
  rw [hsKind, htKind] at hsame
  exact absurd hsame (by decide)

theorem size_eq_card {table : SymbolTable} {keys : List (SymbolKind × String)}
    (hnodup : ∀ kind, ((table.ofKind kind).map Symbol.name).Nodup)
    (hkind : ∀ kind, ∀ s ∈ table.ofKind kind, s.kind = kind)
    (hkeys : ∀ kind name, table.has kind name = true ↔ (kind, name) ∈ keys) :
    table.size = keys.toFinset.card := by
  have hmem : ∀ kind name,
      (kind, name) ∈ (table.ofKind .function ++ table.ofKind .var).map Symbol.key ↔
        (kind, name) ∈ keys := by
    intro kind name
    rw [← hkeys, has_eq_true_iff, List.mem_map]
    simp only [Symbol.key, Prod.mk.injEq, List.mem_append]
    constructor
    · intro h
      obtain ⟨s, hs, hsKind, hname⟩ := h
      subst hsKind
      refine ⟨s, ?_, hname⟩
      rcases hs with hs | hs
      · rwa [hkind .function s hs]
      · rwa [hkind .var s hs]
    · intro h
      obtain ⟨s, hs, hname⟩ := h
      refine ⟨s, ?_, hkind kind s hs, hname⟩
      cases kind with
      | function => exact .inl hs
      | var => exact .inr hs
  have hset : ((table.ofKind .function ++ table.ofKind .var).map Symbol.key).toFinset =
      keys.toFinset := by
    ext key
    rw [List.mem_toFinset, List.mem_toFinset]
    exact hmem key.1 key.2
  rw [← hset, List.toFinset_card_of_nodup (nodup_keys hnodup hkind), List.length_map,
    List.length_append]
  rfl

theorem nodup_run_empty (definitions : List Definition) (kind : SymbolKind) :
    (((({} : SymbolTable).run definitions).1.ofKind kind).map Symbol.name).Nodup := by
  rw [run_fst]
  exact nodup_defineAll_empty _ kind

theorem kind_of_mem_run_empty {definitions : List Definition} {kind : SymbolKind} {s : Symbol}
    (hs : s ∈ (({} : SymbolTable).run definitions).1.ofKind kind) : s.kind = kind := by
  rw [run_fst] at hs
  exact kind_of_mem_defineAll_empty hs

theorem tableLaw_run (definitions : List Definition) :
    TableLaw definitions (run {} definitions).1 (run {} definitions).2 where
  length_answers := length_run_snd {} definitions
  answer_iff := fun _ _ => answer_run_empty_iff
  ofKind_eq := by
    intro kind
    rw [ofKind_run]
    cases kind <;> rfl
  nodup := nodup_run_empty definitions
  kind_eq := fun _ _ => kind_of_mem_run_empty
  find?_eq := by
    intro kind name
    rw [run_fst, ofKind_defineAll_empty, Symbol.find?_firsts]
    rfl
  hasFunction_iff := fun _ => has_iff_mem_names
  hasVariable_iff := fun _ => has_iff_mem_names
  mem_names_iff := by
    intro kind name
    rw [← has_iff_mem_names]
    exact has_run_empty_iff
  size_eq := by
    apply size_eq_card (nodup_run_empty definitions) (fun _ _ => kind_of_mem_run_empty)
    intro kind name
    rw [has_run_empty_iff, List.mem_map]

theorem eq_of_ofKind {first second : SymbolTable}
    (h : ∀ kind, first.ofKind kind = second.ofKind kind) : first = second := by
  have hfunctions : first.functions = second.functions := h .function
  have hvars : first.vars = second.vars := h .var
  cases first
  cases second
  dsimp only at hfunctions hvars
  rw [hfunctions, hvars]

-- A kind sees only the definitions of its own, so how the two are mixed does not show.
theorem run_eq_of_symbolsOf {definitions others : List Definition}
    (h : ∀ kind, Definition.symbolsOf definitions kind = Definition.symbolsOf others kind) :
    (run {} definitions).1 = (run {} others).1 := by
  apply eq_of_ofKind
  intro kind
  rw [run_fst, run_fst, ofKind_defineAll_empty, ofKind_defineAll_empty]
  exact congrArg Symbol.firsts (h kind)

-- What is said of a whole sequence holds after each part of it, which is a sequence as well.
theorem tableLaw_of_definitions (definitions : List Definition) :
    TableLaw definitions (run {} definitions).1 (run {} definitions).2 ∧
      ∀ others, (∀ kind, Definition.symbolsOf definitions kind =
          Definition.symbolsOf others kind) →
        (run {} others).1 = (run {} definitions).1 := by
  refine ⟨tableLaw_run definitions, ?_⟩
  intro others h
  exact (run_eq_of_symbolsOf h).symm

/-- Two names, each in both kinds, with repetitions of another origin. -/
def sharedDefinitions : List Definition :=
  [.defineFunction "f" none, .define ⟨"f", .var, some "m"⟩, .defineFunction "f" (some "m"),
    .defineVariable "f", .define ⟨"g", .function, some "m"⟩, .defineVariable "g",
    .defineFunction "g" none]

/-- The same, with everything of one kind in front. -/
def sortedDefinitions : List Definition :=
  sharedDefinitions.filter (fun d => d.symbol.kind == .var)
    ++ sharedDefinitions.filter (fun d => d.symbol.kind == .function)

theorem tableLaw_of_sharedDefinitions :
    (∀ kind, Definition.symbolsOf sharedDefinitions kind =
        Definition.symbolsOf sortedDefinitions kind) ∧
      (run {} sortedDefinitions).1 = (run {} sharedDefinitions).1 ∧
      run {} sharedDefinitions =
        (⟨[.ofFunction "f" none, .ofFunction "g" (some "m")],
          [⟨"f", .var, some "m"⟩, .ofVariable "g"]⟩,
          [true, true, false, false, true, true, false]) := by
  have hsame : ∀ kind, Definition.symbolsOf sharedDefinitions kind =
      Definition.symbolsOf sortedDefinitions kind := by
    intro kind
    cases kind <;> decide
  exact ⟨hsame, (tableLaw_of_definitions sharedDefinitions).2 sortedDefinitions hsame, by decide⟩

end SymbolTable

end StackScript
