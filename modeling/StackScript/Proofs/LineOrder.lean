import StackScript.Proofs.ModuleOutcome
import StackScript.Proofs.Provenance
import StackScript.Proofs.Stage

/-! The order of the lines of a document does not matter: two documents that share their lines are
told the same about symbols, modules and problems. -/
namespace StackScript

/-- What a diagnostic says, wherever it stands. -/
def Diagnostic.content (d : Diagnostic) : Severity × Option String × String :=
  (d.severity, d.code, d.message)

/-- The same findings about symbols, modules and problems, in any order. -/
structure Report.SameFindings (first second : Report) : Prop where
  diagnostics : (first.diagnostics.map Diagnostic.content).Perm
    (second.diagnostics.map Diagnostic.content)
  functions : (first.symbols.functions.map Symbol.name).Perm
    (second.symbols.functions.map Symbol.name)
  vars : (first.symbols.vars.map Symbol.name).Perm (second.symbols.vars.map Symbol.name)
  modules : (first.modules.map Module.summary).Perm (second.modules.map Module.summary)

def Problem.content (problem : Problem) : Severity × Option String × String :=
  (problem.code.severity, some problem.code.text, problem.message)

theorem perm_eraseDups {names others : List String}
    (h : ∀ name, name ∈ names ↔ name ∈ others) : names.eraseDups.Perm others.eraseDups := by
  rw [List.perm_ext_iff_of_nodup (nodup_eraseDups names) (nodup_eraseDups others)]
  intro name
  rw [List.mem_eraseDups, List.mem_eraseDups, h]

theorem SymbolTable.has_eq_of_perm {table other : SymbolTable} {kind : SymbolKind}
    (h : ((table.ofKind kind).map Symbol.name).Perm ((other.ofKind kind).map Symbol.name))
    (name : String) : table.has kind name = other.has kind name := by
  rw [Bool.eq_iff_iff, has_eq_true_iff, has_eq_true_iff, ← List.mem_map, ← List.mem_map]
  exact h.mem_iff

/-- The lines of two documents are the same up to their order. -/
def SameLines (lines others : List Line) : Prop :=
  (lines.map Line.raw).Perm (others.map Line.raw)

namespace SameLines

variable {lines others : List Line} (h : SameLines lines others)
include h

-- Whatever is made of a line without its index carries over.
theorem perm_flatMap {α : Type} {f : Line → List α}
    (hf : ∀ line, f line = f ⟨0, line.raw⟩) : (lines.flatMap f).Perm (others.flatMap f) := by
  have hraw : ∀ lines : List Line,
      lines.flatMap f = (lines.map Line.raw).flatMap (fun raw => f ⟨0, raw⟩) := by
    intro lines
    rw [List.flatMap_map]
    exact List.flatMap_congr (fun line _ => hf line)
  rw [hraw lines, hraw others]
  exact h.flatMap_right _

theorem perm_filterMap {α : Type} {f : Line → Option α}
    (hf : ∀ line, f line = f ⟨0, line.raw⟩) :
    (lines.filterMap f).Perm (others.filterMap f) := by
  rw [List.filterMap_eq_flatMap_toList, List.filterMap_eq_flatMap_toList]
  exact h.perm_flatMap (fun line => congrArg Option.toList (hf line))

theorem perm_loadedNames : (loadedNames lines).Perm (loadedNames others) :=
  h.perm_filterMap (fun _ => rfl)

theorem perm_labelNames : (labelNames lines).Perm (labelNames others) :=
  h.perm_filterMap (fun _ => rfl)

theorem perm_variableNames : (variableNames lines).Perm (variableNames others) :=
  h.perm_filterMap (fun _ => rfl)

theorem eraseDups_loadedNames :
    (loadedNames lines).eraseDups.Perm (loadedNames others).eraseDups :=
  perm_eraseDups (fun _ => h.perm_loadedNames.mem_iff)

end SameLines

theorem sameLines_scan {text other : String}
    (h : (text.toList.splitOn '\n').Perm (other.toList.splitOn '\n')) :
    SameLines (Line.scan text) (Line.scan other) := by
  unfold SameLines
  rw [Line.map_raw_scan, Line.map_raw_scan]
  exact h.map _

section Contents

variable {filename : Option String} {lines : List Line}

theorem map_content_filterMap (problem? : Line → Option Problem) :
    (lines.filterMap (fun line => (problem? line).map (Diagnostic.ofLine filename line))).map
        Diagnostic.content =
      (lines.filterMap problem?).map Problem.content := by
  rw [List.map_filterMap, List.map_filterMap]
  congr 1
  funext line
  rw [Option.map_map]
  rfl

theorem ModuleSource.map_content_diagnostics (source : ModuleSource) (resolution : Resolution) :
    (source.diagnostics filename resolution).map Diagnostic.content =
      (resolution.loads.flatMap (fun load => source.loadProblems load.2)).map
        Problem.content := by
  unfold diagnostics
  rw [List.map_flatMap, List.map_flatMap]
  congr 1
  funext load
  rw [List.map_map]
  rfl

theorem Scope.map_content_variableDiagnostics (scope : Scope) :
    (scope.variableDiagnostics filename lines).map Diagnostic.content =
      lines.flatMap (fun line => (scope.undefinedReferences line).map
        (fun ref => (Problem.undefinedVariable ref.name).content)) := by
  unfold variableDiagnostics
  rw [List.map_flatMap]
  congr 1
  funext line
  rw [List.map_map]
  rfl

theorem map_content_haltDiagnostics (text : String) (hlines : lines ≠ []) :
    (haltDiagnostics filename text lines).map Diagnostic.content =
      if mentions "HALT".toList text.toList then [] else [Problem.noHalt.content] := by
  unfold haltDiagnostics
  rw [List.getLast?_eq_some_getLast hlines]
  by_cases hhalt : mentions "HALT".toList text.toList = true
  · rw [if_pos hhalt, if_pos hhalt]
    rfl
  · rw [if_neg hhalt, if_neg hhalt]
    rfl

end Contents

namespace Scope

variable {scope other : Scope}

-- A scope is asked for nothing but names.
theorem callProblem?_congr
    (hfunctions : ∀ name, scope.symbols.hasFunction name = other.symbols.hasFunction name)
    (hmodules : ∀ name, scope.modules.contains name = other.modules.contains name) :
    scope.callProblem? = other.callProblem? := by
  have htarget : scope.targetProblem? = other.targetProblem? := by
    funext target
    simp only [targetProblem?, hfunctions, hmodules]
  funext line
  simp only [callProblem?, htarget]

theorem callProblem?_eq_of_raw (scope : Scope) (line : Line) :
    scope.callProblem? line = scope.callProblem? ⟨0, line.raw⟩ := by
  have hcall : line.is .call = (Line.mk 0 line.raw).is .call := rfl
  have htrimmed : line.trimmed = (Line.mk 0 line.raw).trimmed := rfl
  unfold callProblem?
  rw [hcall, htrimmed]

theorem undefinedReferences_congr
    (hvars : ∀ name, scope.symbols.hasVariable name = other.symbols.hasVariable name) :
    scope.undefinedReferences = other.undefinedReferences := by
  funext line
  simp only [undefinedReferences, hvars]

end Scope

theorem perm_vars {first second : Document} (hlines : SameLines first.lines second.lines)
    (left right : Resolution) :
    ((first.finalSymbols left).vars.map Symbol.name).Perm
      ((second.finalSymbols right).vars.map Symbol.name) := by
  rw [first.vars_eq, second.vars_eq]
  exact ((perm_eraseDups (fun _ => hlines.perm_variableNames.mem_iff)).map _).map _

section Resolved

variable {source : ModuleSource} {first second : Document} {left right : Resolution}
  (hlines : SameLines first.lines second.lines)
  (hleft : (source.resolve first.lines).outcome = .ok left)
  (hright : (source.resolve second.lines).outcome = .ok right)
include hlines hleft hright

theorem perm_summary_modules :
    (left.modules.map Module.summary).Perm (right.modules.map Module.summary) := by
  rw [ModuleSource.map_summary_modules hleft, ModuleSource.map_summary_modules hright]
  exact hlines.eraseDups_loadedNames.filterMap _

theorem perm_qualifiedNames :
    (qualifiedNames left.modules).Perm (qualifiedNames right.modules) := by
  have hsummary : ∀ modules : List Module, qualifiedNames modules =
      (modules.map Module.summary).flatMap (fun s => s.exports.map (qualify s.name)) := by
    intro modules
    rw [List.flatMap_map]
    rfl
  rw [hsummary, hsummary]
  exact (perm_summary_modules hlines hleft hright).flatMap_right _

theorem perm_functions :
    ((first.finalSymbols left).functions.map Symbol.name).Perm
      ((second.finalSymbols right).functions.map Symbol.name) := by
  rw [first.map_name_functions, second.map_name_functions]
  have hnames := hlines.perm_labelNames.append (perm_qualifiedNames hlines hleft hright)
  exact perm_eraseDups (fun _ => hnames.mem_iff)

theorem callProblem?_finalScope :
    (first.finalScope left).callProblem? = (second.finalScope right).callProblem? := by
  apply Scope.callProblem?_congr
  · exact SymbolTable.has_eq_of_perm (perm_functions hlines hleft hright)
  · intro name
    have hleftNames : (first.finalScope left).modules = left.moduleNames := rfl
    have hrightNames : (second.finalScope right).modules = right.moduleNames := rfl
    rw [hleftNames, hrightNames, ModuleSource.moduleNames_eq_of_resolve hleft,
      ModuleSource.moduleNames_eq_of_resolve hright, Bool.eq_iff_iff, List.contains_iff_mem,
      List.contains_iff_mem]
    exact hlines.eraseDups_loadedNames.mem_iff

end Resolved

theorem SameLines.mentions_eq {text other : String} {word : List Char}
    (h : SameLines (Line.scan text) (Line.scan other)) (hfeed : '\n' ∉ word)
    (hreturn : '\r' ∉ word) : mentions word text.toList = mentions word other.toList := by
  rw [Bool.eq_iff_iff, mentions_iff_exists_line hfeed hreturn,
    mentions_iff_exists_line hfeed hreturn]
  constructor
  · intro hword
    obtain ⟨raw, hraw, hword⟩ := hword
    exact ⟨raw, h.mem_iff.mp hraw, hword⟩
  · intro hword
    obtain ⟨raw, hraw, hword⟩ := hword
    exact ⟨raw, h.mem_iff.mpr hraw, hword⟩

section Documents

variable {workspace : Workspace} {context : Context} {first second : Document}
  {left right : Resolution} (hsource : first.source workspace context =
    second.source workspace context)
  (hlines : SameLines first.lines second.lines)
include hsource hlines

-- Stage by stage: what is said about a line depends on its text and on names that are the same.
theorem perm_content_reportedBy
    (hleft : ((first.source workspace context).resolve first.lines).outcome = .ok left)
    (hright : ((second.source workspace context).resolve second.lines).outcome = .ok right)
    (stage : Stage) :
    ((first.reportedBy workspace context left stage).map Diagnostic.content).Perm
      ((second.reportedBy workspace context right stage).map Diagnostic.content) := by
  rw [← hsource] at hright
  cases stage with
  | declarations =>
    simp only [Document.reportedBy, Declaration.diagnostics, map_content_filterMap]
    exact (hlines.perm_filterMap (fun _ => rfl)).map _
  | modules =>
    have hnames := hlines.eraseDups_loadedNames.flatMap_right
      (first.source workspace context).problemsOf
    have hmalformed : (first.lines.filterMap Line.loadProblem?).Perm
        (second.lines.filterMap Line.loadProblem?) := hlines.perm_filterMap (fun _ => rfl)
    have hproblems := (ModuleSource.perm_problems_of_resolve hleft).trans
      ((hmalformed.append hnames).trans (ModuleSource.perm_problems_of_resolve hright).symm)
    simp only [Document.reportedBy, ModuleSource.map_content_diagnostics, ← hsource]
    exact hproblems.map _
  | calls =>
    simp only [Document.reportedBy, Scope.callDiagnostics, map_content_filterMap,
      callProblem?_finalScope hlines hleft hright]
    exact (hlines.perm_filterMap (second.finalScope right).callProblem?_eq_of_raw).map _
  | references =>
    have hreferences : (first.finalScope left).undefinedReferences =
        (second.finalScope right).undefinedReferences :=
      Scope.undefinedReferences_congr (SymbolTable.has_eq_of_perm (perm_vars hlines left right))
    simp only [Document.reportedBy, Scope.map_content_variableDiagnostics, hreferences]
    exact hlines.perm_flatMap (fun _ => rfl)
  | halt =>
    have hfirst : first.lines ≠ [] := Line.scan_ne_nil first.text
    have hsecond : second.lines ≠ [] := Line.scan_ne_nil second.text
    simp only [Document.reportedBy]
    rw [map_content_haltDiagnostics _ hfirst, map_content_haltDiagnostics _ hsecond,
      SameLines.mentions_eq hlines (by decide) (by decide)]

theorem sameFindings_report
    (hleft : ((first.source workspace context).resolve first.lines).outcome = .ok left)
    (hright : ((second.source workspace context).resolve second.lines).outcome = .ok right) :
    (first.report workspace context left).SameFindings
      (second.report workspace context right) where
  diagnostics := by
    have hstage := perm_content_reportedBy hsource hlines hleft hright
    rw [first.diagnostics_report, second.diagnostics_report]
    simp only [List.map_append]
    exact ((((hstage .declarations).append (hstage .modules)).append (hstage .calls)).append
      (hstage .references)).append (hstage .halt)
  functions := perm_functions hlines hleft (hsource ▸ hright)
  vars := perm_vars hlines left right
  modules := perm_summary_modules hlines hleft (hsource ▸ hright)

theorem returns_iff_of_sameLines (hpath : first.path = second.path) :
    (∃ report, (validate workspace context first).outcome = .ok report) ↔
      ∃ report, (validate workspace context second).outcome = .ok report := by
  have hreturns : ∀ document : Document,
      (∃ report, (validate workspace context document).outcome = .ok report) ↔
        workspace.reach document.path = .ok () ∧
          ∃ resolution, ((document.source workspace context).resolve document.lines).outcome =
            .ok resolution := by
    intro document
    simp only [validate_eq_ok_iff]
    constructor
    · intro h
      obtain ⟨_, hreach, resolution, hresolve, _⟩ := h
      exact ⟨hreach, resolution, hresolve⟩
    · intro h
      obtain ⟨hreach, resolution, hresolve⟩ := h
      exact ⟨_, hreach, resolution, hresolve, rfl⟩
  rw [hreturns, hreturns, ModuleSource.resolve_returns_iff, ModuleSource.resolve_returns_iff,
    hsource, hpath]
  simp only [hlines.perm_loadedNames.mem_iff]

end Documents

-- The lines may be moved at will, with the carriage returns that end them: what is loaded, defined
-- or used above may come below.
theorem sameFindings_of_perm_lines {workspace : Workspace} {context : Context}
    {first second : Document} (hpath : first.path = second.path)
    (hpieces : (first.text.toList.splitOn '\n').Perm (second.text.toList.splitOn '\n')) :
    ((∃ a, (validate workspace context first).outcome = .error a) ∧
      ∃ b, (validate workspace context second).outcome = .error b) ∨
    ∃ left right, (validate workspace context first).outcome = .ok left ∧
      (validate workspace context second).outcome = .ok right ∧ left.SameFindings right := by
  have hsource : first.source workspace context = second.source workspace context := by
    simp only [Document.source, Document.directory, hpath]
  have hlines : SameLines first.lines second.lines := sameLines_scan hpieces
  have hreturns := returns_iff_of_sameLines hsource hlines hpath
  cases hfirst : (validate workspace context first).outcome with
  | error a =>
    cases hsecond : (validate workspace context second).outcome with
    | error b => exact .inl ⟨⟨a, rfl⟩, ⟨b, rfl⟩⟩
    | ok right => simp [hfirst, hsecond] at hreturns
  | ok left =>
    cases hsecond : (validate workspace context second).outcome with
    | error b => simp [hfirst, hsecond] at hreturns
    | ok right =>
      obtain ⟨_, resolution, hleft, hreport⟩ := validate_eq_ok_iff.mp hfirst
      obtain ⟨_, other, hright, hother⟩ := validate_eq_ok_iff.mp hsecond
      subst hreport hother
      exact .inr ⟨_, _, rfl, rfl, sameFindings_report hsource hlines hleft hright⟩

/-- Loads come first here. -/
def loadsFirst : Document :=
  ⟨Path.ofString "main.stack", "LOAD a\nLOAD \"a.b\"\nCALL a.b.f\r\nCALL a.b.g\ngo:\nCALL go",
    "stackscript"⟩

/-- The lines of `loadsFirst`, the loads last. -/
def loadsLast : Document :=
  ⟨Path.ofString "main.stack", "CALL go\nCALL a.b.g\ngo:\nCALL a.b.f\r\nLOAD \"a.b\"\nLOAD a",
    "stackscript"⟩

theorem sameFindings_of_loadsLast :
    ∃ left right, (validate (.ofFiles sharedNamesFiles) {} loadsFirst).outcome = .ok left ∧
      (validate (.ofFiles sharedNamesFiles) {} loadsLast).outcome = .ok right ∧
      left.diagnostics.map Diagnostic.message =
        ["Function not exported by module: g", "No HALT instruction found"] ∧
      left.SameFindings right := by
  have hrun : (validate (.ofFiles sharedNamesFiles) {} loadsFirst).outcome.toOption.map
      (fun report => report.diagnostics.map Diagnostic.message) =
        some ["Function not exported by module: g", "No HALT instruction found"] := by
    decide +kernel
  obtain ⟨report, hreport, hmessages⟩ := exists_report_of_map_eq hrun
  have hlines := @sameFindings_of_perm_lines (.ofFiles sharedNamesFiles) {} loadsFirst loadsLast
    rfl (by decide +kernel)
  rcases hlines with ⟨⟨a, herror⟩, _⟩ | ⟨left, right, hleft, hright, hsame⟩
  · rw [hreport] at herror
    exact absurd herror (by simp)
  · rw [hreport, Except.ok.injEq] at hleft
    subst hleft
    exact ⟨report, right, hreport, hright, hmessages, hsame⟩

end StackScript
