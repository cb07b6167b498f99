import StackScript.Disk
import StackScript.Proofs.Pass

/-! The symbols of a pass in terms of the names that its lines and modules give, in order of
definition. -/
namespace StackScript

/-- The variables that `SET` lines declare, with repetitions. -/
def variableNames (lines : List Line) : List String :=
  lines.filterMap Line.setVariable?

/-- The qualified names that modules export, in order. -/
def qualifiedNames (modules : List Module) : List String :=
  modules.flatMap Module.qualifiedExports

/-- The first module that exports a qualified name. -/
def ownerOf? (modules : List Module) (name : String) : Option String :=
  (modules.find? (fun m => m.qualifiedExports.contains name)).map Module.name

theorem mem_qualifiedNames {modules : List Module} {name : String} :
    name ∈ qualifiedNames modules ↔ ∃ m ∈ modules, ∃ e ∈ m.exports, qualify m.name e = name := by
  simp only [qualifiedNames, List.mem_flatMap, Module.qualifiedExports, List.mem_map]

theorem map_name_symbols (modules : List Module) :
    (modules.flatMap Module.symbols).map Symbol.name = qualifiedNames modules := by
  simp [qualifiedNames, Module.symbols, Symbol.ofFunction, List.map_flatMap, Function.comp_def]

theorem find?_map_ofFunction (names : List String) (origin : Option String) (name : String) :
    (names.map (fun n => Symbol.ofFunction n origin)).find? (fun s => s.name == name) =
      if names.contains name then some (Symbol.ofFunction name origin) else none := by
  induction names with
  | nil => rfl
  | cons n rest ih =>
    by_cases hn : n = name
    · rw [List.map_cons, List.find?_cons_of_pos (by simpa [Symbol.ofFunction] using hn)]
      simp [hn]
    · have hn' : (name == n) = false := by simpa using fun h => hn h.symm
      rw [List.map_cons, List.find?_cons_of_neg (by simpa [Symbol.ofFunction] using hn), ih,
        List.contains_cons, hn', Bool.false_or]

-- Under a qualified name the first module that exports it is found.
theorem find?_flatMap_symbols (modules : List Module) (name : String) :
    (modules.flatMap Module.symbols).find? (fun s => s.name == name) =
      (ownerOf? modules name).map (fun owner => Symbol.ofFunction name (some owner)) := by
  induction modules with
  | nil => rfl
  | cons m rest ih =>
    rw [List.flatMap_cons, List.find?_append, ih, Module.symbols, find?_map_ofFunction, ownerOf?,
      ownerOf?, List.find?_cons]
    cases m.qualifiedExports.contains name <;> rfl

theorem filter_function_symbols (lines : List Line) :
    (lines.flatMap Line.symbols).filter (fun s => s.kind == .function) =
      (labelNames lines).map (fun name => Symbol.ofFunction name none) := by
  induction lines with
  | nil => rfl
  | cons line rest ih =>
    rw [List.flatMap_cons, List.filter_append, ih, labelNames, labelNames]
    cases hlabel : line.label? <;> cases hset : line.setVariable? <;>
      simp [Line.symbols, hlabel, hset, Symbol.ofFunction, Symbol.ofVariable]

theorem filter_var_symbols (lines : List Line) :
    (lines.flatMap Line.symbols).filter (fun s => s.kind == .var) =
      (variableNames lines).map Symbol.ofVariable := by
  induction lines with
  | nil => rfl
  | cons line rest ih =>
    rw [List.flatMap_cons, List.filter_append, ih, variableNames, variableNames]
    cases hlabel : line.label? <;> cases hset : line.setVariable? <;>
      simp [Line.symbols, hlabel, hset, Symbol.ofFunction, Symbol.ofVariable]

theorem kind_of_mem_symbols {modules : List Module} {s : Symbol}
    (hs : s ∈ modules.flatMap Module.symbols) : s.kind = .function := by
  simp only [List.mem_flatMap, Module.symbols, List.mem_map] at hs
  obtain ⟨m, _, name, _, heq⟩ := hs
  rw [← heq]
  rfl

namespace Document

variable (document : Document) (resolution : Resolution)

theorem finalSymbols_eq :
    document.finalSymbols resolution =
      ({} : SymbolTable).defineAll
        (document.lines.flatMap Line.symbols ++ resolution.modules.flatMap Module.symbols) := by
  rw [SymbolTable.defineAll_append]
  rfl

/-- Everything that is defined as a function, in order of definition. -/
def functionSymbols : List Symbol :=
  (labelNames document.lines).map (fun name => Symbol.ofFunction name none)
    ++ resolution.modules.flatMap Module.symbols

theorem functions_eq_firsts :
    (document.finalSymbols resolution).functions =
      Symbol.firsts (document.functionSymbols resolution) := by
  have hmodules : (resolution.modules.flatMap Module.symbols).filter
      (fun s => s.kind == .function) = resolution.modules.flatMap Module.symbols := by
    rw [List.filter_eq_self]
    intro s hs
    rw [kind_of_mem_symbols hs]
    rfl
  change (document.finalSymbols resolution).ofKind .function = _
  rw [finalSymbols_eq, SymbolTable.ofKind_defineAll_empty, List.filter_append,
    filter_function_symbols, hmodules, functionSymbols]

theorem vars_eq :
    (document.finalSymbols resolution).vars =
      (variableNames document.lines).eraseDups.map Symbol.ofVariable := by
  have hmodules : (resolution.modules.flatMap Module.symbols).filter (fun s => s.kind == .var) =
      [] := by
    rw [List.filter_eq_nil_iff]
    intro s hs
    rw [kind_of_mem_symbols hs]
    decide
  change (document.finalSymbols resolution).ofKind .var = _
  rw [finalSymbols_eq, SymbolTable.ofKind_defineAll_empty, List.filter_append, filter_var_symbols,
    hmodules, List.append_nil, Symbol.firsts_map (fun _ => rfl)]

theorem map_name_functions :
    (document.finalSymbols resolution).functions.map Symbol.name =
      (labelNames document.lines ++ qualifiedNames resolution.modules).eraseDups := by
  rw [functions_eq_firsts, Symbol.map_name_firsts, functionSymbols, List.map_append,
    map_name_symbols, List.map_map]
  simp [Function.comp_def, Symbol.ofFunction]

/-- The module that a function of the document's table comes from, if it is none of its labels. -/
def originOf (name : String) : Option String :=
  if (labelNames document.lines).contains name then none else ownerOf? resolution.modules name

-- Labels come before exports, so a label hides an export of the same name.
theorem eq_ofFunction_of_mem {s : Symbol}
    (hs : s ∈ (document.finalSymbols resolution).functions) :
    s = Symbol.ofFunction s.name (document.originOf resolution s.name) := by
  rw [functions_eq_firsts] at hs
  have hfind := Symbol.find?_of_mem_firsts hs
  rw [functionSymbols, List.find?_append, find?_map_ofFunction, find?_flatMap_symbols] at hfind
  rw [originOf]
  cases hlabel : (labelNames document.lines).contains s.name with
  | true =>
    rw [hlabel, if_pos rfl, Option.some_or, Option.some.injEq] at hfind
    rw [if_pos rfl, hfind]
  | false =>
    rw [hlabel, if_neg (by decide), Option.none_or, Option.map_eq_some_iff] at hfind
    obtain ⟨owner, howner, heq⟩ := hfind
    rw [if_neg (by decide), howner, heq]

-- Exports come behind the labels, and only those that are not labels already.
theorem functions_eq :
    (document.finalSymbols resolution).functions =
      (labelNames document.lines).eraseDups.map (fun name => Symbol.ofFunction name none)
        ++ Symbol.firsts ((resolution.modules.flatMap Module.symbols).filter
          (fun s => !(labelNames document.lines).contains s.name)) := by
  have hnames : ((labelNames document.lines).map
      (fun name => Symbol.ofFunction name none)).map Symbol.name = labelNames document.lines := by
    rw [List.map_map]
    exact List.map_id _
  rw [functions_eq_firsts, functionSymbols, Symbol.firsts_append, hnames,
    Symbol.firsts_map (fun _ => rfl)]

theorem hasFunction_finalSymbols {name : String} :
    (document.finalSymbols resolution).hasFunction name = true ↔
      name ∈ labelNames document.lines ∨
        ∃ m ∈ resolution.modules, ∃ e ∈ m.exports, qualify m.name e = name := by
  rw [SymbolTable.hasFunction, SymbolTable.has_eq_true_iff, ← List.mem_map, ← mem_qualifiedNames,
    ← List.mem_append]
  change name ∈ (document.finalSymbols resolution).functions.map Symbol.name ↔ _
  rw [map_name_functions, List.mem_eraseDups]

theorem hasVariable_finalSymbols {name : String} :
    (document.finalSymbols resolution).hasVariable name = true ↔
      name ∈ variableNames document.lines := by
  rw [SymbolTable.hasVariable, SymbolTable.has_eq_true_iff, ← List.mem_map]
  change name ∈ (document.finalSymbols resolution).vars.map Symbol.name ↔ _
  rw [vars_eq, List.map_map, Function.comp_def]
  simp [Symbol.ofVariable]

end Document

theorem ownerOf?_eq_some_iff {modules : List Module} {name owner : String} :
    ownerOf? modules name = some owner ↔
      ∃ above m below, modules = above ++ m :: below ∧ m.name = owner ∧
        (∃ e ∈ m.exports, qualify m.name e = name) ∧
        ∀ other ∈ above, ∀ e ∈ other.exports, qualify other.name e ≠ name := by
  have hcontains : ∀ m : Module, m.qualifiedExports.contains name = true ↔
      ∃ e ∈ m.exports, qualify m.name e = name := by
    intro m
    simp [Module.qualifiedExports]
  simp only [ownerOf?, Option.map_eq_some_iff, List.find?_eq_some_iff_append, hcontains]
  constructor
  · intro h
    obtain ⟨m, ⟨hexports, above, below, hmodules, habove⟩, hname⟩ := h
    refine ⟨above, m, below, hmodules, hname, hexports, ?_⟩
    intro other hother e he heq
    have hother' := habove other hother
    rw [Bool.not_eq_true', ← Bool.not_eq_true, hcontains] at hother'
    exact hother' ⟨e, he, heq⟩
  · intro h
    obtain ⟨above, m, below, hmodules, hname, hexports, habove⟩ := h
    refine ⟨m, ⟨hexports, above, below, hmodules, ?_⟩, hname⟩
    intro other hother
    rw [Bool.not_eq_true', ← Bool.not_eq_true, hcontains]
    intro hex
    obtain ⟨e, he, heq⟩ := hex
    exact habove other hother e he heq

namespace Document

variable {document : Document} {resolution : Resolution} {s : Symbol}

theorem nodup_finalSymbols (document : Document) (resolution : Resolution) (kind : SymbolKind) :
    (((document.finalSymbols resolution).ofKind kind).map Symbol.name).Nodup := by
  rw [finalSymbols_eq]
  exact SymbolTable.nodup_defineAll_empty _ kind

theorem kind_of_mem_finalSymbols {kind : SymbolKind}
    (hs : s ∈ (document.finalSymbols resolution).ofKind kind) : s.kind = kind := by
  rw [finalSymbols_eq] at hs
  exact SymbolTable.kind_of_mem_defineAll_empty hs

theorem origin_eq_of_mem (hs : s ∈ (document.finalSymbols resolution).functions) :
    s.origin = document.originOf resolution s.name := by
  rw [document.eq_ofFunction_of_mem resolution hs]
  rfl

theorem origin_of_label (hs : s ∈ (document.finalSymbols resolution).functions)
    (hlabel : s.name ∈ labelNames document.lines) : s.origin = none := by
  rw [origin_eq_of_mem hs, originOf, if_pos (by simpa using hlabel)]

-- Of several modules that export a name the first one has it.
theorem origin_of_export (hs : s ∈ (document.finalSymbols resolution).functions)
    (hlabel : s.name ∉ labelNames document.lines) :
    ∃ above m below, resolution.modules = above ++ m :: below ∧ s.origin = some m.name ∧
      (∃ e ∈ m.exports, qualify m.name e = s.name) ∧
      ∀ other ∈ above, ∀ e ∈ other.exports, qualify other.name e ≠ s.name := by
  have horigin := origin_eq_of_mem hs
  rw [originOf, if_neg (by simpa using hlabel)] at horigin
  -- the name is no label, so some module exports it and there is a first one that does
  have hname : s.name ∈ qualifiedNames resolution.modules := by
    have hmem := List.mem_map_of_mem (f := Symbol.name) hs
    rw [map_name_functions, List.mem_eraseDups, List.mem_append] at hmem
    exact hmem.resolve_left hlabel
  obtain ⟨m, hm, e, he, heq⟩ := mem_qualifiedNames.mp hname
  cases howner : ownerOf? resolution.modules s.name with
  | none =>
    rw [ownerOf?, Option.map_eq_none_iff, List.find?_eq_none] at howner
    exact absurd (by simpa [Module.qualifiedExports] using ⟨e, he, heq⟩) (howner m hm)
  | some owner =>
    obtain ⟨above, m, below, hmodules, hm, hrest⟩ := ownerOf?_eq_some_iff.mp howner
    exact ⟨above, m, below, hmodules, by rw [horigin, howner, hm], hrest⟩

end Document

/-- Files next to a document, by name, as a workspace. -/
def Workspace.ofFiles (files : List (String × String)) : Workspace where
  directory := .ok (Path.ofString "/p")
  files := Disk.fileSystem
    ⟨(["p"], .directory) ::
      files.map (fun file => (["p", file.1], .file (Text.Utf8.encode file.2)))⟩ ["p"]

def sharedNames : Document :=
  ⟨Path.ofString "main.stack", "LOAD a\nLOAD \"a.b\"\na.g:\nSET x 1", "stackscript"⟩

def sharedNamesFiles : List (String × String) :=
  [("a.stackm", "EXTERN b.f g"), ("a.stack", ""), ("a.b.stackm", ""), ("a.b.stack", "f:")]

end StackScript
