import StackScript.Proofs.DeclaredSymbols

/-! Where the symbols of a pass come from: labels and variables from lines of the document, all
other functions from the modules it loads. -/
namespace StackScript

/-- The functions that modules give under their own names, in order. -/
def exportedSymbols (modules : List Module) : List Symbol :=
  modules.flatMap (fun m =>
    m.exports.map (fun e => ⟨m.name ++ "." ++ e, .function, some m.name⟩))

/-- What the table of a pass over the given lines holds, in order of definition. -/
structure Provenance (lines : List Line) (modules : List Module) (table : SymbolTable) : Prop where
  /-- The modules are the loaded ones, where each is loaded first. -/
  loaded : ∃ names, Gathers Line.Loads lines names ∧ modules.map Module.name = names.eraseDups
  /-- The labels come first, then the exports whose names are not taken; each name once. -/
  functions : ∃ labels, Gathers Line.Labels lines labels ∧
    table.functions = labels.eraseDups.map (fun name => ⟨name, .function, none⟩)
      ++ ((exportedSymbols modules).filter (fun s => s.name ∉ labels)).eraseDupsBy
        (fun a b => a.name == b.name)
  vars : ∃ names, Gathers Line.Sets lines names ∧
    table.vars = names.eraseDups.map (fun name => ⟨name, .var, none⟩)
  nodup : ∀ kind, ((table.ofKind kind).map Symbol.name).Nodup
  kind_eq : ∀ kind, ∀ s ∈ table.ofKind kind, s.kind = kind
  mem_functions_iff : ∀ name, (∃ s ∈ table.functions, s.name = name) ↔
    (∃ line ∈ lines, line.Labels name) ∨
      ∃ m ∈ modules, ∃ e ∈ m.exports, m.name ++ "." ++ e = name
  origin_of_label : ∀ s ∈ table.functions, (∃ line ∈ lines, line.Labels s.name) → s.origin = none
  /-- Of several modules that export a name the first one has it. -/
  origin_of_export : ∀ s ∈ table.functions, (∀ line ∈ lines, ¬ line.Labels s.name) →
    ∃ above m below, modules = above ++ m :: below ∧ s.origin = some m.name ∧
      (∃ e ∈ m.exports, m.name ++ "." ++ e = s.name) ∧
      ∀ other ∈ above, ∀ e ∈ other.exports, other.name ++ "." ++ e ≠ s.name

theorem flatMap_symbols_eq (modules : List Module) :
    modules.flatMap Module.symbols = exportedSymbols modules := by
  unfold exportedSymbols
  congr 1
  funext m
  rw [Module.symbols, Module.qualifiedExports, List.map_map]
  rfl

theorem Document.provenance {workspace : Workspace} {context : Context} {document : Document}
    {resolution : Resolution}
    (h : ((document.source workspace context).resolve document.lines).outcome = .ok resolution) :
    Provenance document.lines resolution.modules (document.finalSymbols resolution) where
  loaded := ⟨_, Line.gathers_loadedNames document.lines, ModuleSource.moduleNames_eq_of_resolve h⟩
  functions := by
    refine ⟨_, Line.gathers_labelNames document.lines, ?_⟩
    have hfilter : (exportedSymbols resolution.modules).filter
        (fun s => !(labelNames document.lines).contains s.name) =
        (exportedSymbols resolution.modules).filter
          (fun s => s.name ∉ labelNames document.lines) := by
      congr 1
      funext s
      simp
    rw [functions_eq, flatMap_symbols_eq, hfilter]
    rfl
  vars := ⟨_, Line.gathers_variableNames document.lines, document.vars_eq resolution⟩
  nodup := document.nodup_finalSymbols resolution
  kind_eq := fun _ _ => kind_of_mem_finalSymbols
  mem_functions_iff := by
    intro name
    rw [← mem_labelNames_iff]
    exact SymbolTable.has_eq_true_iff.symm.trans (document.hasFunction_finalSymbols resolution)
  origin_of_label := by
    intro s hs hlabel
    exact origin_of_label hs (mem_labelNames_iff.mpr hlabel)
  origin_of_export := by
    intro s hs hlabel
    apply origin_of_export hs
    rw [mem_labelNames_iff]
    rintro ⟨line, hline, hname⟩
    exact hlabel line hline hname

-- The table follows from the lines and the modules.
theorem provenance_of_validate {workspace : Workspace} {context : Context} {document : Document}
    {report : Report} (h : (validate workspace context document).outcome = .ok report) :
    Provenance document.lines report.modules report.symbols := by
  obtain ⟨_, resolution, hresolve, hreport⟩ := validate_eq_ok_iff.mp h
  subst hreport
  exact Document.provenance hresolve

/-- Loads the modules of `sharedNamesFiles`, with a label that one of them exports, a label and a
variable that come twice, a name behind `EXTERN`, and a `SET` without one. -/
def takenNames : Document :=
  ⟨Path.ofString "main.stack",
    "LOAD a\nSET y 1\nLOAD \"a.b\"\na.g:\nf:\nSET x\na.g:\nSET y 2\nEXTERN q\nSET",
    "stackscript"⟩

-- Two modules share `a.b.f`, and `a.g` is a label of the document.
theorem provenance_of_sharedNames :
    ∃ report, (validate (.ofFiles sharedNamesFiles) {} takenNames).outcome = .ok report ∧
      report.modules.map (fun m => (m.name, m.exports)) =
        [("a", ["b.f", "g"]), ("a.b", ["f"])] ∧
      report.symbols.functions =
        [⟨"a.g", .function, none⟩, ⟨"f", .function, none⟩, ⟨"a.b.f", .function, some "a"⟩] ∧
      report.symbols.vars = [⟨"y", .var, none⟩, ⟨"x", .var, none⟩] ∧
      Provenance takenNames.lines report.modules report.symbols := by
  have hrun : (validate (.ofFiles sharedNamesFiles) {} takenNames).outcome.toOption.map
      (fun report => (report.modules.map (fun m => (m.name, m.exports)),
        report.symbols.functions, report.symbols.vars)) =
      some ([("a", ["b.f", "g"]), ("a.b", ["f"])],
        [⟨"a.g", .function, none⟩, ⟨"f", .function, none⟩, ⟨"a.b.f", .function, some "a"⟩],
        [⟨"y", .var, none⟩, ⟨"x", .var, none⟩]) := by
    decide +kernel
  obtain ⟨report, hreport, hfound⟩ := exists_report_of_map_eq hrun
  obtain ⟨hmodules, hsymbols⟩ := Prod.mk.inj hfound
  obtain ⟨hfunctions, hvars⟩ := Prod.mk.inj hsymbols
  exact ⟨report, hreport, hmodules, hfunctions, hvars, provenance_of_validate hreport⟩

end StackScript
