import Mathlib.Data.List.Forall2
import StackScript.Proofs.ExportOrder
import StackScript.Proofs.LineListing

/-! The listing of symbols: what is read back from its text is the table and the modules of the
pass, all of them and each once, in order. -/
namespace StackScript

namespace Line

variable {text name : String} {line : Line} {names : List String}

theorem feed_not_mem_raw (h : line ∈ scan text) : '\n' ∉ line.raw.toList := by
  have hraw := List.mem_map_of_mem (f := raw) h
  rw [map_raw_scan, List.mem_map] at hraw
  obtain ⟨piece, hpiece, heq⟩ := hraw
  have hsubset : withoutReturn piece ⊆ piece := by
    unfold withoutReturn
    split
    · exact List.dropLast_subset piece
    · exact List.Subset.refl piece
  rw [← heq, String.toList_ofList]
  exact fun hmem => not_mem_of_mem_splitOn hpiece (hsubset hmem)

theorem trimmed_subset (line : Line) : line.trimmed.toList ⊆ line.raw.toList :=
  line.trimsTo_trimmed.subset

theorem Labels.subset (h : line.Labels name) : name.toList ⊆ line.raw.toList := by
  obtain ⟨_, front, htext, htrims⟩ := h
  intro c hc
  apply line.trimmed_subset
  rw [htext, String.toList_append]
  exact List.mem_append_left _ (htrims.subset hc)

theorem Loads.subset (h : line.Loads name) : name.toList ⊆ line.raw.toList := by
  intro c hc
  apply line.trimmed_subset
  unfold Loads at h
  generalize line.trimmed = trimmed at h
  cases h with
  | quoted _ _ hname _ => simp [hname.subset hc]
  | bare _ _ _ _ => simp [hc]

end Line

namespace ModuleSource

variable {source : ModuleSource} {lines : List Line} {resolution : Resolution} {m : Module}
  {name : String} {inspection : Inspection}

-- What a file exports stands in its lines, so no name goes over the end of one.
theorem feed_not_mem_of_exports (h : (source.inspect name).outcome = .ok inspection)
    {e : String} (he : e ∈ inspection.exports) : '\n' ∉ e.toList := by
  rcases inspect_eq_ok_iff.mp h with ⟨_, heq, _⟩ | ⟨first, second, heq, _⟩
  · subst heq
    exact absurd he List.not_mem_nil
  · subst heq
    rcases (mem_exports_iff h).mp he with ⟨_, _, line, _, his, hmem⟩ | ⟨_, _, line, hline, hlabel⟩
    · obtain ⟨spaced, _, hnames⟩ := Line.externs_iff.mpr ⟨his, rfl⟩
      rw [hnames, List.mem_map] at hmem
      obtain ⟨s, _, heq⟩ := hmem
      rw [← heq]
      exact s.isWord.not_mem (by decide)
    · exact fun hmem =>
        Line.feed_not_mem_raw hline ((Line.label?_eq_some_iff.mp hlabel).subset hmem)

end ModuleSource

namespace CommandLine

/-- The rows below a title, as far as they are set in by four columns, without these columns. -/
def rowsUnder (title listing : String) : List String :=
  (((listing.toList.splitOn '\n').dropWhile (· != ("  " ++ title ++ ":").toList)).tail.takeWhile
    (fun row => "    ".toList.isPrefixOf row)).map (fun row => String.ofList (row.drop 4))

/-- A title, and below it its rows. -/
def sectionText (title : String) (rows : List String) : String :=
  "  " ++ title ++ ":\n" ++ String.join (rows.map (fun row => "    " ++ row ++ "\n"))

/-- The rows show the items one by one, or say that there is none. -/
def Enumerates {α : Type} (shows : α → String → Prop) (items : List α) (rows : List String) :
    Prop :=
  items = [] ∧ rows = ["<none>"] ∨ items ≠ [] ∧ List.Forall₂ shows items rows

/-- A label of the document stands alone, and any other function with the first module that exports
it under its name. -/
inductive FunctionRow (lines : List Line) (modules : List Module) (name : String) : String → Prop
  | ofLabel (hlabel : ∃ line ∈ lines, line.Labels name) : FunctionRow lines modules name name
  | ofExport {above after : List Module} {m : Module} (hlabel : ∀ line ∈ lines, ¬ line.Labels name)
      (hmodules : modules = above ++ m :: after)
      (hexports : ∃ e ∈ m.exports, m.name ++ "." ++ e = name)
      (hfirst : ∀ other ∈ above, ∀ e ∈ other.exports, other.name ++ "." ++ e ≠ name) :
      FunctionRow lines modules name (name ++ " (from " ++ m.name ++ ")")

/-- What a status is called. -/
inductive StatusNamed : ModuleStatus → String → Prop
  | loaded : StatusNamed .loaded "LOADED"
  | missingMetadata : StatusNamed .missingMetadata "MISSING_METADATA"
  | missingImplementation : StatusNamed .missingImplementation "MISSING_IMPLEMENTATION"
  | missingBoth : StatusNamed .missingBoth "MISSING_BOTH"
  | readError : StatusNamed .readError "READ_ERROR"

/-- The name of a module at the left edge of sixteen columns or as many as it needs, a space, and
what its status is called. -/
def ModuleRow (m : Module) (row : String) : Prop :=
  ∃ (blanks : Nat) (status : String), StatusNamed m.status status ∧
    row = m.name ++ String.ofList (List.replicate blanks ' ') ++ " " ++ status ∧
    m.name.length + blanks = max 16 m.name.length

/-- The text lists what a pass over the given lines found out, and nothing else. Names are ordered
by code points. -/
structure Lists (text : String) (lines : List Line) (report : Report) : Prop where
  functions : ∃ names : List String, names.Perm (report.symbols.functions.map Symbol.name) ∧
    names.Pairwise (· < ·) ∧
    Enumerates (FunctionRow lines report.modules) names (rowsUnder "functions" text)
  vars : ∃ names : List String, names.Perm (report.symbols.vars.map Symbol.name) ∧
    names.Pairwise (· < ·) ∧ Enumerates (· = ·) names (rowsUnder "variables" text)
  modules : Enumerates ModuleRow report.modules (rowsUnder "modules" text)
  /-- The modules are the loaded ones, where each is loaded first. -/
  modules_loaded : ∃ names, Gathers Line.Loads lines names ∧
    KeepsFirst names (report.modules.map Module.name)
  text_eq : text = sectionText "functions" (rowsUnder "functions" text)
    ++ sectionText "variables" (rowsUnder "variables" text)
    ++ sectionText "modules" (rowsUnder "modules" text)

section Rows

variable {rows before after : List String} {title : String}

/-- The rows of a section, where a mark stands for none. -/
def shownRows (rows : List String) : List String :=
  if rows = [] then ["<none>"] else rows

theorem showSection_eq (title : String) (rows : List String) :
    showSection title rows =
      ("  " ++ title ++ ":") :: (shownRows rows).map (fun row => "    " ++ row) := by
  rw [showSection, shownRows]
  cases rows with
  | nil => rfl
  | cons row rows => rfl

theorem join_showSection (title : String) (rows : List String) :
    String.join ((showSection title rows).map (· ++ "\n")) =
      sectionText title (shownRows rows) := by
  rw [showSection_eq, List.map_cons, String.join_cons, List.map_map, sectionText]
  simp only [String.append_assoc, Function.comp_def]
  rfl

theorem enumerates_shownRows {α β : Type} {shows : β → String → Prop} {items : List α}
    {key : α → β} {row : α → String} (h : ∀ item ∈ items, shows (key item) (row item)) :
    Enumerates shows (items.map key) (shownRows (items.map row)) := by
  by_cases hitems : items = []
  · subst hitems
    exact .inl ⟨rfl, rfl⟩
  · have hrows : items.map row ≠ [] := by simpa using hitems
    rw [shownRows, if_neg hrows]
    refine .inr ⟨by simpa using hitems, ?_⟩
    rw [List.forall₂_map_left_iff, List.forall₂_map_right_iff, List.forall₂_same]
    exact h

theorem setIn_iff {row : String} :
    "    ".toList.isPrefixOf row.toList = true ↔ ∃ rest, row = "    " ++ rest := by
  rw [List.isPrefixOf_iff_prefix]
  constructor
  · rintro ⟨rest, hrest⟩
    refine ⟨String.ofList rest, ?_⟩
    rw [← String.toList_inj, ← hrest]
    simp
  · rintro ⟨rest, rfl⟩
    exact ⟨rest.toList, by simp⟩

-- The title stands nowhere above, and what comes below its rows is not set in like them.
theorem rowsUnder_join
    (hfeed : ∀ line ∈ before ++ showSection title rows ++ after, '\n' ∉ line.toList)
    (hbefore : ("  " ++ title ++ ":") ∉ before)
    (hafter : ∀ line ∈ after.head?, ∀ rest, line ≠ "    " ++ rest) :
    rowsUnder title (String.join ((before ++ showSection title rows ++ after).map (· ++ "\n"))) =
      shownRows rows := by
  have hmark : ∀ line ∈ before.map String.toList,
      (line != ("  " ++ title ++ ":").toList) = true := by
    intro line hline
    obtain ⟨row, hrow, rfl⟩ := List.mem_map.mp hline
    rw [bne_iff_ne, ne_eq, String.toList_inj]
    exact fun heq => hbefore (heq ▸ hrow)
  have hrows : ∀ line ∈ ((shownRows rows).map (fun row => "    " ++ row)).map String.toList,
      "    ".toList.isPrefixOf line = true := by
    simp only [List.mem_map]
    rintro _ ⟨_, ⟨row, _, rfl⟩, rfl⟩
    exact setIn_iff.mpr ⟨row, rfl⟩
  have hrest : (after.map String.toList ++ [[]]).takeWhile
      (fun line => "    ".toList.isPrefixOf line) = [] := by
    cases after with
    | nil => rfl
    | cons line after =>
      apply List.takeWhile_cons_of_neg
      intro hset
      obtain ⟨rest, heq⟩ := setIn_iff.mp hset
      exact hafter line rfl rest heq
  have hdrop : ((shownRows rows).map (fun row => "    " ++ row)).map
      (fun row => String.ofList (row.toList.drop 4)) = shownRows rows := by
    rw [List.map_map]
    refine (List.map_congr_left ?_).trans (List.map_id _)
    intro row _
    simp
  rw [rowsUnder, splitOn_join_rows hfeed, showSection_eq]
  simp only [List.map_append, List.map_cons, List.append_assoc, List.cons_append]
  rw [List.dropWhile_append_of_pos hmark, List.dropWhile_cons_of_neg (by simp), List.tail_cons,
    List.takeWhile_append_of_pos hrows, hrest, List.append_nil, List.map_map]
  exact hdrop

theorem feed_not_mem_showSection (htitle : '\n' ∉ title.toList)
    (h : ∀ row ∈ rows, '\n' ∉ row.toList) :
    ∀ line ∈ showSection title rows, '\n' ∉ line.toList := by
  have hshown : ∀ row ∈ shownRows rows, '\n' ∉ row.toList := by
    intro row hrow
    rw [shownRows] at hrow
    split at hrow
    · rw [List.mem_singleton.mp hrow]
      decide
    · exact h row hrow
  intro line hline
  rw [showSection_eq, List.mem_cons, List.mem_map] at hline
  rcases hline with rfl | ⟨row, hrow, rfl⟩
  · simp [htitle]
  · simp [hshown row hrow]

/-- The three sections below each other. -/
def sectionLines (functions vars modules : List String) : List String :=
  showSection "functions" functions ++ showSection "variables" vars ++ showSection "modules" modules

-- No row is taken for a title, since a title is set in less.
theorem rowsUnder_sectionLines {functions vars modules : List String}
    (h : ∀ rows ∈ [functions, vars, modules], ∀ row ∈ rows, '\n' ∉ row.toList) {text : String}
    (htext : text = String.join ((sectionLines functions vars modules).map (· ++ "\n"))) :
    rowsUnder "functions" text = shownRows functions ∧
      rowsUnder "variables" text = shownRows vars ∧
      rowsUnder "modules" text = shownRows modules := by
  have hfeed : ∀ line ∈ sectionLines functions vars modules, '\n' ∉ line.toList := by
    simp only [List.forall_mem_cons] at h
    obtain ⟨hfunctions, hvars, hmodules, _⟩ := h
    simp only [sectionLines, List.forall_mem_append]
    exact ⟨⟨feed_not_mem_showSection (by decide) hfunctions,
      feed_not_mem_showSection (by decide) hvars⟩, feed_not_mem_showSection (by decide) hmodules⟩
  have hrow : ∀ title ∈ ["functions", "variables", "modules"], ∀ row : String,
      "  " ++ title ++ ":" ≠ "    " ++ row := by
    intro title htitle row heq
    rw [← String.toList_inj] at heq
    simp only [List.mem_cons, List.not_mem_nil, or_false] at htitle
    rcases htitle with rfl | rfl | rfl <;> simp at heq
  have habsent : ∀ title ∈ ["functions", "variables", "modules"], ∀ other ≠ title,
      ∀ rows, "  " ++ title ++ ":" ∉ showSection other rows := by
    intro title htitle other hother rows hmem
    rw [showSection_eq, List.mem_cons, List.mem_map] at hmem
    rcases hmem with heq | ⟨row, _, heq⟩
    · rw [← String.toList_inj] at heq
      simp only [String.toList_append, List.append_cancel_right_eq,
        List.append_cancel_left_eq, String.toList_inj] at heq
      exact hother heq.symm
    · exact hrow title htitle row heq.symm
  subst htext
  refine ⟨?_, ?_, ?_⟩
  · have hlines : sectionLines functions vars modules = [] ++ showSection "functions" functions ++
        (showSection "variables" vars ++ showSection "modules" modules) := by
      rw [sectionLines, List.nil_append, List.append_assoc]
    rw [hlines] at hfeed ⊢
    refine rowsUnder_join hfeed List.not_mem_nil ?_
    rintro line hline
    rw [← Option.some.inj hline]
    exact hrow "variables" (by decide)
  · refine rowsUnder_join hfeed (habsent "variables" (by decide) "functions" (by decide) _) ?_
    rintro line hline
    rw [← Option.some.inj hline]
    exact hrow "modules" (by decide)
  · have hlines : sectionLines functions vars modules = (showSection "functions" functions ++
        showSection "variables" vars) ++ showSection "modules" modules ++ [] := by
      rw [sectionLines, List.append_nil]
    rw [hlines] at hfeed ⊢
    refine rowsUnder_join hfeed ?_ (by simp)
    rw [List.mem_append, not_or]
    exact ⟨habsent "modules" (by decide) "functions" (by decide) _,
      habsent "modules" (by decide) "variables" (by decide) _⟩

theorem join_sectionLines (functions vars modules : List String) :
    String.join ((sectionLines functions vars modules).map (· ++ "\n")) =
      sectionText "functions" (shownRows functions) ++ sectionText "variables" (shownRows vars)
        ++ sectionText "modules" (shownRows modules) := by
  simp only [sectionLines, List.map_append, String.join_append, join_showSection]

end Rows

theorem sortByName_perm (symbols : List Symbol) : (sortByName symbols).Perm symbols :=
  List.mergeSort_perm symbols _

-- Sorting leaves no two neighbours out of order, and distinct names no two of them equal.
theorem sortByName_increase {symbols : List Symbol} (h : (symbols.map Symbol.name).Nodup) :
    ((sortByName symbols).map Symbol.name).Pairwise (· < ·) := by
  have hle : ((sortByName symbols).map Symbol.name).Pairwise (· ≤ ·) := by
    have htrans : ∀ a b c : Symbol, decide (a.name ≤ b.name) = true →
        decide (b.name ≤ c.name) = true → decide (a.name ≤ c.name) = true := by
      intro a b c hab hbc
      rw [decide_eq_true_eq] at hab hbc ⊢
      exact String.le_trans hab hbc
    have htotal : ∀ a b : Symbol,
        (decide (a.name ≤ b.name) || decide (b.name ≤ a.name)) = true := by
      intro a b
      rw [Bool.or_eq_true, decide_eq_true_eq, decide_eq_true_eq]
      exact String.le_total a.name b.name
    rw [List.pairwise_map]
    apply (List.pairwise_mergeSort htrans htotal symbols).imp
    intro a b hab
    exact of_decide_eq_true hab
  have hne : ((sortByName symbols).map Symbol.name).Pairwise (· ≠ ·) :=
    ((sortByName_perm symbols).map Symbol.name).nodup_iff.mpr h
  apply (hle.and hne).imp
  intro a b hab
  exact Std.lt_of_le_of_ne hab.1 hab.2

theorem sortByName_eq {symbols sorted : List Symbol} (hperm : sorted.Perm symbols)
    (hsorted : (sorted.map Symbol.name).Pairwise (· < ·)) : sortByName symbols = sorted := by
  have hnodup : (symbols.map Symbol.name).Nodup := by
    rw [← (hperm.map Symbol.name).nodup_iff]
    exact hsorted.imp (fun hlt => Std.ne_of_lt hlt)
  have hincrease := sortByName_increase hnodup
  rw [List.pairwise_map] at hsorted hincrease
  apply ((sortByName_perm symbols).trans hperm.symm).eq_of_pairwise _ hincrease hsorted
  intro a b _ _ hab hba
  exact absurd hba (String.lt_asymm hab)

theorem showFunction_of_none {s : Symbol} (h : s.origin = none) : showFunction s = s.name := by
  rw [showFunction, h]

theorem showFunction_of_some {s : Symbol} {owner : String} (h : s.origin = some owner)
    (howner : owner ≠ "") : showFunction s = s.name ++ " (from " ++ owner ++ ")" := by
  have hname : owner.isEmpty = false := String.isEmpty_eq_false_iff.mpr howner
  simp only [showFunction, h, hname, Bool.false_eq_true, if_false]

theorem statusNamed_name (status : ModuleStatus) : StatusNamed status status.name := by
  cases status with
  | loaded => exact .loaded
  | missingMetadata => exact .missingMetadata
  | missingImplementation => exact .missingImplementation
  | missingBoth => exact .missingBoth
  | readError => exact .readError

theorem moduleRow_showModule (m : Module) : ModuleRow m (showModule m) := by
  refine ⟨16 - m.name.length, m.status.name, statusNamed_name m.status, rfl, ?_⟩
  omega

theorem feed_not_mem_of_statusNamed {status : ModuleStatus} {name : String}
    (h : StatusNamed status name) : '\n' ∉ name.toList := by
  cases h <;> decide

theorem feed_not_mem_variableName {document : Document} {resolution : Resolution} {s : Symbol}
    (hs : s ∈ (document.finalSymbols resolution).vars) : '\n' ∉ s.name.toList := by
  have hname : (document.finalSymbols resolution).hasVariable s.name = true :=
    SymbolTable.has_eq_true_iff.mpr ⟨s, hs, rfl⟩
  rw [Document.hasVariable_finalSymbols, variableNames, List.mem_filterMap] at hname
  obtain ⟨line, _, hset⟩ := hname
  exact (Line.setVariable?_eq_some_iff.mp hset).1.not_mem (by decide)

section Resolved

variable {workspace : Workspace} {context : Context} {document : Document}
  {resolution : Resolution}
  (h : ((document.source workspace context).resolve document.lines).outcome = .ok resolution)
include h

theorem loads_of_resolve {m : Module} (hm : m ∈ resolution.modules) :
    ∃ line ∈ document.lines, line.Loads m.name := by
  obtain ⟨line, hline, hload⟩ :=
    mem_loadedNames.mp (ModuleSource.mem_loadedNames_of_resolve h hm)
  exact ⟨line, hline, Line.loads_iff.mpr hload⟩

theorem isModuleName_of_resolve {m : Module} (hm : m ∈ resolution.modules) :
    Directive.IsModuleName m.name := by
  obtain ⟨line, _, hload⟩ := loads_of_resolve h hm
  exact (Directive.loadName?_eq_some_iff.mp (Line.loads_iff.mp hload).2).isModuleName

theorem feed_not_mem_moduleName {m : Module} (hm : m ∈ resolution.modules) :
    '\n' ∉ m.name.toList := by
  obtain ⟨line, hline, hload⟩ := loads_of_resolve h hm
  exact fun hmem => Line.feed_not_mem_raw hline (hload.subset hmem)

-- A function is a label or has its name from a module, and no module is without a name.
theorem functionRow_showFunction {s : Symbol}
    (hs : s ∈ (document.finalSymbols resolution).functions) :
    FunctionRow document.lines resolution.modules s.name (showFunction s) := by
  by_cases hlabel : s.name ∈ labelNames document.lines
  · rw [showFunction_of_none (Document.origin_of_label hs hlabel)]
    exact .ofLabel (mem_labelNames_iff.mp hlabel)
  · obtain ⟨above, m, after, hmodules, horigin, hexports, hfirst⟩ :=
      Document.origin_of_export hs hlabel
    have hm : m ∈ resolution.modules := hmodules ▸ List.mem_append_cons_self
    rw [showFunction_of_some horigin (isModuleName_of_resolve h hm).ne_empty]
    refine .ofExport ?_ hmodules hexports hfirst
    intro line hline hname
    exact hlabel (mem_labelNames_iff.mpr ⟨line, hline, hname⟩)

theorem feed_not_mem_functionName {name : String}
    (hname : (document.finalSymbols resolution).hasFunction name = true) : '\n' ∉ name.toList := by
  rcases (document.hasFunction_finalSymbols resolution).mp hname with hlabel | ⟨m, hm, e, he, rfl⟩
  · obtain ⟨line, hline, hlabel⟩ := mem_labelNames_iff.mp hlabel
    exact fun hmem => Line.feed_not_mem_raw hline (hlabel.subset hmem)
  · have hexport : '\n' ∉ e.toList :=
      ModuleSource.feed_not_mem_of_exports (ModuleSource.inspect_of_resolve h hm) he
    simp [qualify, feed_not_mem_moduleName h hm, hexport]

theorem feed_not_mem_functionRow {s : Symbol}
    (hs : s ∈ (document.finalSymbols resolution).functions) : '\n' ∉ (showFunction s).toList := by
  have hname : '\n' ∉ s.name.toList :=
    feed_not_mem_functionName h (SymbolTable.has_eq_true_iff.mpr ⟨s, hs, rfl⟩)
  have hrow := functionRow_showFunction h hs
  generalize showFunction s = row at hrow
  cases hrow with
  | ofLabel _ => exact hname
  | @ofExport above after m _ hmodules _ _ =>
    have hm : m ∈ resolution.modules := hmodules ▸ List.mem_append_cons_self
    simp [hname, feed_not_mem_moduleName h hm]

theorem feed_not_mem_moduleRow {m : Module} (hm : m ∈ resolution.modules) :
    '\n' ∉ (showModule m).toList := by
  obtain ⟨blanks, status, hstatus, hrow, _⟩ := moduleRow_showModule m
  rw [hrow]
  simp [feed_not_mem_moduleName h hm, feed_not_mem_of_statusNamed hstatus]

theorem modules_loaded_of_resolve :
    ∃ names, Gathers Line.Loads document.lines names ∧
      KeepsFirst names (resolution.modules.map Module.name) := by
  refine ⟨loadedNames document.lines, Line.gathers_loadedNames document.lines, ?_⟩
  have hnames : resolution.modules.map Module.name = (loadedNames document.lines).eraseDups :=
    ModuleSource.moduleNames_eq_of_resolve h
  rw [hnames]
  exact keepsFirst_eraseDups _

-- What is printed below the title of the listing.
theorem lists_sectionLines :
    Lists (String.join ((sectionLines
        ((sortByName (document.finalSymbols resolution).functions).map showFunction)
        ((sortByName (document.finalSymbols resolution).vars).map Symbol.name)
        (resolution.modules.map showModule)).map (· ++ "\n")))
      document.lines (document.report workspace context resolution) := by
  have hfeed : ∀ rows ∈ [(sortByName (document.finalSymbols resolution).functions).map showFunction,
      (sortByName (document.finalSymbols resolution).vars).map Symbol.name,
      resolution.modules.map showModule], ∀ row ∈ rows, '\n' ∉ row.toList := by
    simp only [List.forall_mem_cons, List.forall_mem_map, (sortByName_perm _).mem_iff]
    exact ⟨fun s hs => feed_not_mem_functionRow h hs, fun s hs => feed_not_mem_variableName hs,
      fun m hm => feed_not_mem_moduleRow h hm, by simp⟩
  obtain ⟨hfunctions, hvars, hmodules⟩ := rowsUnder_sectionLines hfeed rfl
  constructor
  case functions =>
    refine ⟨_, (sortByName_perm _).map Symbol.name,
      sortByName_increase (document.nodup_finalSymbols resolution .function), ?_⟩
    rw [hfunctions]
    apply enumerates_shownRows
    intro s hs
    exact functionRow_showFunction h ((sortByName_perm _).mem_iff.mp hs)
  case vars =>
    refine ⟨_, (sortByName_perm _).map Symbol.name,
      sortByName_increase (document.nodup_finalSymbols resolution .var), ?_⟩
    rw [hvars]
    exact enumerates_shownRows (fun _ _ => rfl)
  case modules =>
    have hrows : Enumerates ModuleRow (resolution.modules.map id)
        (shownRows (resolution.modules.map showModule)) :=
      enumerates_shownRows (fun m _ => moduleRow_showModule m)
    rw [List.map_id] at hrows
    rw [hmodules]
    exact hrows
  case modules_loaded => exact modules_loaded_of_resolve h
  case text_eq => rw [hfunctions, hvars, hmodules, join_sectionLines]

end Resolved

theorem text_dumpSymbols (report : Report) :
    (dumpSymbols report).text = "=== " ++ report.identity ++ " ===\n" ++
      String.join ((sectionLines ((sortByName report.symbols.functions).map showFunction)
        ((sortByName report.symbols.vars).map Symbol.name)
        (report.modules.map showModule)).map (· ++ "\n")) := by
  rw [Output.text, dumpSymbols]
  simp only [List.cons_append, List.map_cons, String.join_cons, String.append_assoc]
  rfl

theorem run_sym_of_validate {workspace : Workspace} {context : Context} {document : Document}
    {report : Report} {file : String}
    (hread : documentAt workspace context file = .ok (.ok document))
    (h : (validate workspace context document).outcome = .ok report) :
    ((Request.sym file).run workspace context).outcome = .ok (dumpSymbols report) := by
  rw [Request.run, withDocument_of_readable hread]
  simp only [CommandLine.report, Run.outcome_bind, h]
  rfl

-- Whatever the pass reports, its table and its modules are shown.
theorem symbols_listed {workspace : Workspace} {context : Context} {document : Document}
    {report : Report} {file : String}
    (hread : documentAt workspace context file = .ok (.ok document))
    (h : (validate workspace context document).outcome = .ok report) :
    ∃ output, ((Request.sym file).run workspace context).outcome = .ok output ∧
      output.exitCode = 0 ∧
      ∃ text, output.text = "=== " ++ report.identity ++ " ===\n" ++ text ∧
        Lists text document.lines report := by
  have hrun := run_sym_of_validate hread h
  obtain ⟨_, resolution, hresolve, hreport⟩ := validate_eq_ok_iff.mp h
  subst hreport
  exact ⟨_, hrun, rfl, _, text_dumpSymbols _, lists_sectionLines hresolve⟩

/-- Loads the modules of `sharedNamesFiles`, the longer name first, one that is not there, and one
whose name needs more than its columns. -/
def listedDocument : Document :=
  ⟨Path.ofString "main.stack",
    "LOAD \"a.b\"\nLOAD a\nz:\nLOAD gone\na.g:\nSET y\nLOAD only.implementation\nSET x 1\nLOAD a",
    "stackscript"⟩

def listedFiles : List (String × String) :=
  ("main.stack", listedDocument.text) :: ("only.implementation.stack", "h:") :: sharedNamesFiles

-- Two modules export `a.b.f`, `a.g` is an export and a label, and the pass has errors.
theorem symbols_listed_of_listedFiles :
    documentAt (.ofFiles listedFiles) {} "main.stack" = .ok (.ok listedDocument) ∧
      ∃ report, (validate (.ofFiles listedFiles) {} listedDocument).outcome = .ok report ∧
        report.hasErrors = true ∧
        ∃ output, ((Request.sym "main.stack").run (.ofFiles listedFiles) {}).outcome = .ok output ∧
          output.exitCode = 0 ∧
          output.text = "=== /p/main.stack ===\n" ++
            "  functions:\n    a.b.f (from a.b)\n    a.g\n" ++
            "    only.implementation.h (from only.implementation)\n    z\n" ++
            "  variables:\n    x\n    y\n" ++
            "  modules:\n    a.b              LOADED\n    a                LOADED\n" ++
            "    gone             MISSING_BOTH\n    only.implementation MISSING_METADATA\n" ∧
          ∃ text, output.text = "=== " ++ report.identity ++ " ===\n" ++ text ∧
            Lists text listedDocument.lines report := by
  have hread : documentAt (.ofFiles listedFiles) {} "main.stack" = .ok (.ok listedDocument) := by
    decide +kernel
  have hrun : (validate (.ofFiles listedFiles) {} listedDocument).outcome.toOption.map
      (fun report => (report.hasErrors, report.identity, report.symbols,
        report.modules.map showModule)) =
        some (true, "/p/main.stack",
          ⟨[.ofFunction "z" none, .ofFunction "a.g" none, .ofFunction "a.b.f" (some "a.b"),
            .ofFunction "only.implementation.h" (some "only.implementation")],
            [.ofVariable "y", .ofVariable "x"]⟩,
          ["a.b              LOADED", "a                LOADED", "gone             MISSING_BOTH",
            "only.implementation MISSING_METADATA"]) := by
    decide +kernel
  obtain ⟨report, hreport, hfound⟩ := exists_report_of_map_eq hrun
  obtain ⟨herrors, hidentity, hsymbols, hmodules⟩ : _ ∧ _ ∧ _ ∧ _ := by simpa using hfound
  obtain ⟨output, houtput, hcode, hlists⟩ := symbols_listed hread hreport
  refine ⟨hread, report, hreport, herrors, output, houtput, hcode, ?_, hlists⟩
  have hdump : output = dumpSymbols report := by
    rw [run_sym_of_validate hread hreport] at houtput
    exact (Except.ok.inj houtput).symm
  have hfunctions : sortByName report.symbols.functions =
      [.ofFunction "a.b.f" (some "a.b"), .ofFunction "a.g" none,
        .ofFunction "only.implementation.h" (some "only.implementation"),
        .ofFunction "z" none] := by
    rw [hsymbols]
    exact sortByName_eq (by decide) (by decide)
  have hvars : sortByName report.symbols.vars = [.ofVariable "x", .ofVariable "y"] := by
    rw [hsymbols]
    exact sortByName_eq (by decide) (by decide)
  rw [hdump, text_dumpSymbols, hidentity, hfunctions, hvars, hmodules]
  decide +kernel

end CommandLine

end StackScript
