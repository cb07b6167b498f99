import StackScript.Proofs.BareName

/-! What one file of a module contributes, depending on the state of the other. -/
namespace StackScript

/-- All of the names are exports of the module and, qualified, functions of the table. -/
def Contributes (m : Module) (table : SymbolTable) (names : List String) : Prop :=
  ∀ e ∈ names, e ∈ m.exports ∧ table.hasFunction (qualify m.name e) = true

theorem hasFunction_of_mem_exports (table : SymbolTable) {resolution : Resolution} {m : Module}
    {e : String} (hm : m ∈ resolution.modules) (he : e ∈ m.exports) :
    (table.defineAll resolution.symbols).hasFunction (qualify m.name e) = true := by
  rw [SymbolTable.hasFunction, SymbolTable.has_defineAll]
  have hsymbol : Symbol.ofFunction (qualify m.name e) (some m.name) ∈ m.symbols :=
    List.mem_map_of_mem (List.mem_map_of_mem he)
  exact .inr ⟨_, List.mem_flatMap.mpr ⟨m, hm, hsymbol⟩, rfl, rfl⟩

namespace ModuleSource

variable {source : ModuleSource} {lines : List Line} {resolution : Resolution} {m : Module}

-- An unlocatable module has no exports at all, a located one has those of both files.
theorem contributes_iff (table : SymbolTable) {names : List String}
    (h : (source.resolve lines).outcome = .ok resolution) (hm : m ∈ resolution.modules)
    (hnames : ∀ e ∈ names, source.Exports m.name e) :
    Contributes m (table.defineAll resolution.symbols) names ↔
      source.Locatable (source.layout.metadata m.name) ∧
        source.Locatable (source.layout.implementation m.name) ∨ names = [] := by
  have hinspect := inspect_of_resolve h hm
  rw [← located_iff hinspect]
  constructor
  · intro hall
    cases names with
    | nil => exact .inr rfl
    | cons e rest =>
      left
      have he : e ∈ m.inspection.exports := (hall e List.mem_cons_self).1
      cases hstate : m.inspection with
      | unlocatable error => simp [hstate, Inspection.exports] at he
      | located a b => exact ⟨a, b, rfl⟩
  · intro hcases e he
    rcases hcases with ⟨a, b, heq⟩ | hnil
    · have hexports : e ∈ m.exports := by
        rw [heq] at hinspect
        rw [Module.exports, heq, mem_exports_iff hinspect]
        exact hnames e he
      exact ⟨hexports, hasFunction_of_mem_exports table hm hexports⟩
    · simp [hnil] at he

end ModuleSource

/-- Each readable file of a loaded module contributes exactly if it can be told whether the other
file is there, unless it has nothing to contribute. -/
def HalvesContribute (source : ModuleSource) (lines : List Line) (modules : List Module)
    (table : SymbolTable) : Prop :=
  ∀ name ∈ loadedNames lines, ∃ m, modules.find? (fun m => m.name == name) = some m ∧
    (∀ text, source.Readable (source.layout.implementation name) text →
      (Contributes m table (labelNames (Line.scan text)) ↔
        source.Locatable (source.layout.metadata name) ∨ labelNames (Line.scan text) = [])) ∧
    ∀ text, source.Readable (source.layout.metadata name) text →
      (Contributes m table (externalNames (Line.scan text)) ↔
        source.Locatable (source.layout.implementation name) ∨
          externalNames (Line.scan text) = [])

theorem halvesContribute_of_resolve {source : ModuleSource} {lines : List Line}
    {resolution : Resolution} (table : SymbolTable)
    (h : (source.resolve lines).outcome = .ok resolution) :
    HalvesContribute source lines resolution.modules (table.defineAll resolution.symbols) := by
  intro name hname
  obtain ⟨m, hm, rfl, hfind⟩ := ModuleSource.find?_module_of_resolve h hname
  refine ⟨m, hfind, ?_, ?_⟩
  · intro text hread
    have hnames : ∀ e ∈ labelNames (Line.scan text), source.Exports m.name e :=
      fun e he => .inr ⟨text, hread, mem_labelNames.mp he⟩
    rw [ModuleSource.contributes_iff table h hm hnames]
    simp only [hread.locatable, and_true]
  · intro text hread
    have hnames : ∀ e ∈ externalNames (Line.scan text), source.Exports m.name e :=
      fun e he => .inl ⟨text, hread, mem_externalNames.mp he⟩
    rw [ModuleSource.contributes_iff table h hm hnames]
    simp only [hread.locatable, true_and]

theorem halves_contribute (source : ModuleSource) (lines : List Line) (table : SymbolTable)
    (workspace : Workspace) (context : Context) (document : Document) :
    (∀ resolution, (source.resolve lines).outcome = .ok resolution →
      HalvesContribute source lines resolution.modules (table.defineAll resolution.symbols)) ∧
    ∀ report, (validate workspace context document).outcome = .ok report →
      HalvesContribute (document.source workspace context) document.lines report.modules
        report.symbols := by
  constructor
  · intro resolution h
    exact halvesContribute_of_resolve table h
  · intro report h
    obtain ⟨_, resolution, hresolve, hreport⟩ := validate_eq_ok_iff.mp h
    subst hreport
    exact halvesContribute_of_resolve _ hresolve

/-- The metadata file is missing. -/
def oneHalf : Document :=
  .loading "a"

theorem halves_contribute_of_oneHalf :
    ∃ report, (validate (.ofFiles [("a.stack", "f:")]) {} oneHalf).outcome = .ok report ∧
      report.symbols.functions = [Symbol.ofFunction "a.f" (some "a")] ∧
      HalvesContribute (oneHalf.source (.ofFiles [("a.stack", "f:")]) {}) oneHalf.lines
        report.modules report.symbols := by
  have hrun : (validate (.ofFiles [("a.stack", "f:")]) {} oneHalf).outcome.toOption.map
      (fun report => report.symbols.functions) =
        some [Symbol.ofFunction "a.f" (some "a")] := by
    decide +kernel
  obtain ⟨report, hreport, hfunctions⟩ := exists_report_of_map_eq hrun
  have hhalves := halves_contribute (oneHalf.source (.ofFiles [("a.stack", "f:")]) {})
    oneHalf.lines {} (.ofFiles [("a.stack", "f:")]) {} oneHalf
  exact ⟨report, hreport, hfunctions, hhalves.2 report hreport⟩

section LongName

-- A name that leaves room for the suffix of the implementation file, but not for the other one.
variable {name : String} (hbare : IsBareName name) (hlong : name.utf8ByteSize = 249)

/-- The source of a document that loads `name`, with an implementation file and no metadata. -/
def longSource (name : String) : ModuleSource :=
  (Document.loading name).source (.ofFiles [(name ++ ".stack", "f:")]) {}

include hbare in
theorem file_longSource {suffix : String} :
    (longSource name).layout.file name suffix = Workspace.beside (name ++ suffix) := by
  have hroot : (longSource name).layout.root = Path.ofString "/p" := by
    change ((Path.ofString "/p").join (Path.ofString "main.stack")).parent = _
    decide +kernel
  rw [ModuleLayout.file_of_isPart hbare.isPart, hroot, Workspace.beside]

include hbare in
theorem refusal?_file_longSource {s : String} (hslash : '/' ∉ s.toList)
    (hnul : '\x00' ∉ s.toList) :
    (longSource name).files.refusal? (Workspace.beside (name ++ s)) = none := by
  refine Workspace.refusal?_beside (hbare.isPart.append hslash) ?_ _
  rw [String.toList_append, List.mem_append, not_or]
  exact ⟨fun hmem => hbare.ordinary _ hmem (by decide), hnul⟩

include hbare hlong

theorem inspect_longSource : ∃ e,
    ((longSource name).inspect name).outcome = .ok (.unlocatable e) := by
  have hprobe : (longSource name).files.probe (Workspace.beside (name ++ ".stackm")) =
      .error .nameTooLong := by
    apply Workspace.probe_beside_of_long (hbare.isPart.append (by decide))
    rw [String.utf8ByteSize_append, hlong]
    decide
  have hpresent : (longSource name).files.present ((longSource name).layout.metadata name) =
      .ok (.error (.file (Workspace.beside (name ++ ".stackm")) .nameTooLong)) := by
    change (longSource name).files.present ((longSource name).layout.file name ".stackm") = _
    rw [file_longSource hbare, FileSystem.present,
      refusal?_file_longSource hbare (by decide) (by decide), hprobe]
    rfl
  exact ⟨_, ModuleSource.inspect_of_fault (ModuleSource.locate_eq_fault_iff.mpr (.inl hpresent))⟩

theorem readable_longSource :
    (longSource name).Readable ((longSource name).layout.implementation name) "f:" := by
  have hdots : name ++ ".stack" ≠ ".." := by
    intro heq
    have hsize := congrArg String.utf8ByteSize heq
    rw [String.utf8ByteSize_append, hlong] at hsize
    exact absurd hsize (by decide)
  have hpart : IsPart (name ++ ".stack") := hbare.isPart.append (by decide)
  have hshort : (name ++ ".stack").utf8ByteSize ≤ Disk.longestName := by
    rw [String.utf8ByteSize_append, hlong]
    decide
  have hprobe : (longSource name).files.probe (Workspace.beside (name ++ ".stack")) = .ok () :=
    Workspace.probe_beside hpart hdots hshort
  have hread : (longSource name).files.read (Workspace.beside (name ++ ".stack")) =
      .ok (Text.Utf8.encode "f:") :=
    Workspace.read_beside hpart hdots hshort
  have hopens : (longSource name).files.opens (Workspace.beside (name ++ ".stack")) = .ok () :=
    Workspace.opens_beside hpart hdots hshort
  have hrefusal := refusal?_file_longSource hbare (s := ".stack") (by decide) (by decide)
  change (longSource name).Readable ((longSource name).layout.file name ".stack") "f:"
  rw [file_longSource hbare]
  constructor
  · rw [FileSystem.present, hrefusal, hprobe]
  · have hencoding : Text.Encoding.ofName? (longSource name).encoding = some .utf8 := by
      change Text.Encoding.ofName? "utf-8" = some .utf8
      decide
    have hdecode : Text.Encoding.utf8.decode (Text.Utf8.encode "f:") = .ok "f:" := by
      rfl
    have hunify : Text.unifyNewlines "f:" = "f:" := by decide +kernel
    simp [FileSystem.readText, hrefusal, hopens, hread, hencoding, hdecode, hunify]

theorem exports_of_longName {resolution : Resolution}
    (h : ((longSource name).resolve (Document.loading name).lines).outcome = .ok resolution) :
    ∀ m ∈ resolution.modules, m.exports = [] := by
  intro m hm
  obtain ⟨e, hinspect⟩ := inspect_longSource hbare hlong
  have hname := ModuleSource.mem_loadedNames_of_resolve h hm
  rw [hbare.loadedNames_loading, List.mem_singleton] at hname
  have hfound := ModuleSource.inspect_of_resolve h hm
  rw [hname, hinspect, Except.ok.injEq] at hfound
  rw [Module.exports, ← hfound]
  rfl

theorem resolve_longSource : ∃ resolution,
    ((longSource name).resolve (Document.loading name).lines).outcome = .ok resolution := by
  cases h : ((longSource name).resolve (Document.loading name).lines).outcome with
  | ok resolution => exact ⟨resolution, rfl⟩
  | error a =>
    obtain ⟨other, hother, hinspect⟩ := ModuleSource.resolve_eq_error h
    obtain ⟨e, hlocated⟩ := inspect_longSource hbare hlong
    rw [hbare.loadedNames_loading, List.mem_singleton] at hother
    rw [hother, hlocated] at hinspect
    simp at hinspect

theorem label_lost_of_longName :
    ∃ report, (validate (.ofFiles [(name ++ ".stack", "f:")]) {} (.loading name)).outcome =
        .ok report ∧
      (∃ m, report.modules.find? (fun m => m.name == name) = some m ∧ m.exports = []) ∧
      report.symbols.hasFunction (qualify name "f") = false := by
  obtain ⟨resolution, hresolve⟩ := resolve_longSource hbare hlong
  have hexports := exports_of_longName hbare hlong hresolve
  refine ⟨_, validate_eq_ok_iff.mpr ⟨rfl, resolution, hresolve, rfl⟩, ?_, ?_⟩
  · have hname : name ∈ loadedNames (Document.loading name).lines := by
      rw [hbare.loadedNames_loading]
      exact List.mem_singleton_self name
    obtain ⟨m, hfind, _⟩ := halvesContribute_of_resolve {} hresolve name hname
    exact ⟨m, hfind, hexports m (List.mem_of_find?_eq_some hfind)⟩
  · rw [← Bool.not_eq_true]
    change ¬ ((Document.loading name).finalSymbols resolution).hasFunction _ = true
    rw [Document.hasFunction_finalSymbols, hbare.labelNames_loading]
    intro hfunction
    rcases hfunction with hlabel | ⟨m, hm, e, he, _⟩
    · simp at hlabel
    · simp [hexports m hm] at he

end LongName

theorem isBareName_replicate {n : Nat} (hn : n ≠ 0) :
    IsBareName (String.ofList (List.replicate n 'a')) := by
  have hchars : ∀ c ∈ (String.ofList (List.replicate n 'a')).toList, c = 'a' := by
    intro c hc
    rw [String.toList_ofList] at hc
    exact List.eq_of_mem_replicate hc
  refine ⟨?_, ?_, ?_⟩
  · rw [String.toList_ofList]
    simpa using hn
  · intro c hc
    rw [hchars c hc]
    decide
  · intro c hc
    rw [hchars c hc]
    decide

theorem utf8ByteSize_replicate (n : Nat) :
    (String.ofList (List.replicate n 'a')).utf8ByteSize = n := by
  induction n with
  | zero => rfl
  | succ n ih =>
    rw [List.replicate_succ', String.ofList_append, String.utf8ByteSize_append, ih]
    rfl

/-- A module name that makes its implementation file as long as a file name can be. -/
def longName : String :=
  String.ofList (List.replicate 249 'a')

-- The implementation file can be read, and yet its label is lost.
theorem halves_not_independent :
    ∃ report, (validate (.ofFiles [(longName ++ ".stack", "f:")]) {}
        (.loading longName)).outcome = .ok report ∧
      (longSource longName).Readable ((longSource longName).layout.implementation longName) "f:" ∧
      labelNames (Line.scan "f:") = ["f"] ∧
      (∃ m, report.modules.find? (fun m => m.name == longName) = some m ∧ m.exports = []) ∧
      report.symbols.hasFunction (qualify longName "f") = false := by
  have hlong : longName.utf8ByteSize = 249 := utf8ByteSize_replicate 249
  have hbare : IsBareName longName := isBareName_replicate (by decide)
  obtain ⟨report, hreport, hlost⟩ := label_lost_of_longName hbare hlong
  exact ⟨report, hreport, readable_longSource hbare hlong, by decide +kernel, hlost⟩

end StackScript
