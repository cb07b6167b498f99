import Mathlib.Data.List.Flatten
import Mathlib.Data.List.Infix
import StackScript.Proofs.CallVerdict
import StackScript.Proofs.Verdict

/-! Lines that are added below a document take nothing back that was said about the lines above. -/
namespace StackScript

/-- The document with more lines below its last one. -/
def Document.grow (document : Document) (more : String) : Document :=
  { document with text := document.text ++ "\n" ++ more }

/-- What the report of a document leaves for the report of the document with more lines below. -/
structure Report.GrowsTo (report grown : Report) : Prop where
  lines : report.lines <+: grown.lines
  declarations : report.ofStage .declarations <+: grown.ofStage .declarations
  loads : report.ofStage .modules <+: grown.ofStage .modules
  modules : report.modules <+: grown.modules
  vars : report.symbols.vars <+: grown.symbols.vars
  /-- A label further down may take over the name of an export, but the name stays. -/
  functions : report.symbols.functions.map Symbol.name ⊆ grown.symbols.functions.map Symbol.name
  calls : ∀ line ∈ report.lines, onLine line (report.ofStage .calls) = [] →
    onLine line (grown.ofStage .calls) = []
  references : ((grown.ofStage .references).filter
    (fun d => d.line < (report.lines.length : Int))).Sublist (report.ofStage .references)

theorem prefix_eraseDups {names more : List String} (h : names <+: more) :
    names.eraseDups <+: more.eraseDups := by
  obtain ⟨rest, hmore⟩ := h
  rw [← hmore, List.eraseDups_append]
  exact List.prefix_append _ _

-- What is resolved above does not wait for what comes below.
theorem ModuleSource.prefix_loads {source : ModuleSource} {lines more : List Line}
    {left right : Resolution} (hlines : lines <+: more)
    (hleft : (source.resolve lines).outcome = .ok left)
    (hright : (source.resolve more).outcome = .ok right) : left.loads <+: right.loads := by
  obtain ⟨rest, hmore⟩ := hlines
  have hresolves := resolve_eq_ok_iff.mp hright
  rw [← hmore] at hresolves
  obtain ⟨above, below, _, hloads, habove, _, _⟩ := hresolves.append
  have hsame : (source.resolve lines).outcome = .ok ⟨above⟩ := resolve_eq_ok_iff.mpr habove
  have heq : left = ⟨above⟩ := Except.ok.inj (hleft.symm.trans hsame)
  rw [heq, hloads]
  exact List.prefix_append _ _

theorem Scope.exists_line_of_mem_variableDiagnostics {scope : Scope} {filename : Option String}
    {lines : List Line} {d : Diagnostic} (hd : d ∈ scope.variableDiagnostics filename lines) :
    ∃ line ∈ lines, d.line = line.index := by
  obtain ⟨line, hmem, hd⟩ := List.mem_flatMap.mp hd
  obtain ⟨ref, _, heq⟩ := List.mem_map.mp hd
  exact ⟨line, hmem, by rw [← heq]; rfl⟩

namespace Document

variable {document : Document} {more : String}

theorem lines_grow (document : Document) (more : String) :
    (document.grow more).lines =
      document.lines ++ (Line.scan more).map (Line.shift document.lines.length) :=
  Line.scan_append document.text more

theorem prefix_lines_grow (document : Document) (more : String) :
    document.lines <+: (document.grow more).lines := by
  rw [lines_grow]
  exact List.prefix_append _ _

theorem prefix_vars_grow (left right : Resolution) :
    (document.finalSymbols left).vars <+: ((document.grow more).finalSymbols right).vars := by
  rw [vars_eq, vars_eq]
  have hnames := (document.prefix_lines_grow more).filterMap Line.setVariable?
  exact (prefix_eraseDups hnames).map _

theorem hasVariable_grow (left right : Resolution) {name : String}
    (h : (document.finalSymbols left).hasVariable name = true) :
    ((document.grow more).finalSymbols right).hasVariable name = true := by
  rw [hasVariable_finalSymbols] at h ⊢
  exact ((document.prefix_lines_grow more).filterMap Line.setVariable?).subset h

section Resolved

variable {left right : Resolution} (hloads : left.loads <+: right.loads)
include hloads

theorem prefix_modules : left.modules <+: right.modules :=
  hloads.filterMap _

theorem subset_functions_grow :
    (document.finalSymbols left).functions.map Symbol.name ⊆
      ((document.grow more).finalSymbols right).functions.map Symbol.name := by
  have hlabels : labelNames document.lines ⊆ labelNames (document.grow more).lines :=
    ((document.prefix_lines_grow more).filterMap Line.label?).subset
  have hexports : qualifiedNames left.modules ⊆ qualifiedNames right.modules :=
    ((prefix_modules hloads).flatMap Module.qualifiedExports).subset
  intro name hname
  rw [map_name_functions, List.mem_eraseDups, List.mem_append] at hname ⊢
  exact hname.imp (fun h => hlabels h) (fun h => hexports h)

theorem hasFunction_grow {name : String}
    (h : (document.finalSymbols left).hasFunction name = true) :
    ((document.grow more).finalSymbols right).hasFunction name = true := by
  rw [SymbolTable.hasFunction, SymbolTable.has_eq_true_iff, ← List.mem_map] at h ⊢
  exact subset_functions_grow hloads h

theorem callProblem?_grow {line : Line}
    (h : (document.finalScope left).callProblem? line = none) :
    ((document.grow more).finalScope right).callProblem? line = none := by
  rw [Scope.callProblem?_eq_none_iff] at h ⊢
  intro hcall
  obtain ⟨target, htarget, hfunction⟩ := h hcall
  exact ⟨target, htarget, hasFunction_grow hloads hfunction⟩

end Resolved

-- A variable that is declared above is declared for good.
theorem sublist_undefinedReferences_grow (left right : Resolution) (line : Line) :
    (((document.grow more).finalScope right).undefinedReferences line).Sublist
      ((document.finalScope left).undefinedReferences line) := by
  apply List.monotone_filter_right
  intro ref href
  show (!(document.finalSymbols left).hasVariable ref.name) = true
  change (!((document.grow more).finalSymbols right).hasVariable ref.name) = true at href
  cases hdefined : (document.finalSymbols left).hasVariable ref.name with
  | false => rfl
  | true =>
    rw [hasVariable_grow left right hdefined] at href
    exact absurd href (by decide)

/-- The references on the lines above, with the lines below left out. -/
theorem filter_variableDiagnostics_grow (scope : Scope) (filename : Option String) :
    (scope.variableDiagnostics filename (document.grow more).lines).filter
        (fun d => d.line < (document.lines.length : Int)) =
      scope.variableDiagnostics filename document.lines := by
  have habove : (scope.variableDiagnostics filename document.lines).filter
      (fun d => d.line < (document.lines.length : Int)) =
        scope.variableDiagnostics filename document.lines := by
    rw [List.filter_eq_self]
    intro d hd
    obtain ⟨line, hmem, heq⟩ := Scope.exists_line_of_mem_variableDiagnostics hd
    have hlt : line.index < document.lines.length := Line.index_lt_of_mem_scan hmem
    rw [heq, decide_eq_true_eq]
    omega
  have hbelow : (scope.variableDiagnostics filename
      ((Line.scan more).map (Line.shift document.lines.length))).filter
        (fun d => d.line < (document.lines.length : Int)) = [] := by
    rw [List.filter_eq_nil_iff]
    intro d hd
    obtain ⟨line, hmem, heq⟩ := Scope.exists_line_of_mem_variableDiagnostics hd
    obtain ⟨other, _, hshift⟩ := List.mem_map.mp hmem
    have hindex : line.index = other.index + document.lines.length := by
      rw [← hshift]
      rfl
    rw [heq, decide_eq_true_eq]
    omega
  unfold Scope.variableDiagnostics at habove hbelow ⊢
  rw [lines_grow, List.flatMap_append, List.filter_append, habove, hbelow, List.append_nil]

theorem sublist_variableDiagnostics_grow (left right : Resolution) (filename : Option String) :
    ((((document.grow more).finalScope right).variableDiagnostics filename
        (document.grow more).lines).filter
          (fun d => d.line < (document.lines.length : Int))).Sublist
      ((document.finalScope left).variableDiagnostics filename document.lines) := by
  rw [filter_variableDiagnostics_grow]
  apply List.Sublist.flatMap_right
  intro line _
  exact (sublist_undefinedReferences_grow left right line).map _

theorem growsTo_report {workspace : Workspace} {context : Context} {left right : Resolution}
    (hleft : ((document.source workspace context).resolve document.lines).outcome = .ok left)
    (hright : ((document.source workspace context).resolve (document.grow more).lines).outcome =
      .ok right) :
    (document.report workspace context left).GrowsTo
      ((document.grow more).report workspace context right) := by
  have hlines := document.prefix_lines_grow more
  have hloads := ModuleSource.prefix_loads hlines hleft hright
  have hgrown : (((document.grow more).source workspace context).resolve
      (document.grow more).lines).outcome = .ok right := hright
  refine
    { lines := hlines
      declarations := ?_
      loads := ?_
      modules := prefix_modules hloads
      vars := prefix_vars_grow left right
      functions := subset_functions_grow hloads
      calls := ?_
      references := ?_ }
  · rw [ofStage_report hleft, ofStage_report hgrown]
    exact hlines.filterMap _
  · rw [ofStage_report hleft, ofStage_report hgrown]
    exact hloads.flatMap _
  · intro line hline hsilent
    rw [onLine_calls_report hleft hline] at hsilent
    have hnone : (document.finalScope left).callProblem? line = none := by simpa using hsilent
    rw [onLine_calls_report hgrown (hlines.subset hline), callProblem?_grow hloads hnone]
    rfl
  · rw [ofStage_report hleft, ofStage_report hgrown]
    exact sublist_variableDiagnostics_grow left right _

end Document

-- Loads, definitions and labels further down only ever settle what was open above.
theorem growsTo_of_validate_grow {workspace : Workspace} {context : Context} {document : Document}
    {more : String} {report grown : Report}
    (h : (validate workspace context document).outcome = .ok report)
    (hgrown : (validate workspace context (document.grow more)).outcome = .ok grown) :
    report.GrowsTo grown := by
  obtain ⟨_, left, hleft, hreport⟩ := validate_eq_ok_iff.mp h
  obtain ⟨_, right, hright, hother⟩ := validate_eq_ok_iff.mp hgrown
  subst hreport hother
  exact Document.growsTo_report hleft hright

/-- Calls and references of which some are settled by `moreLines` only. -/
def openEnds : Document :=
  ⟨Path.ofString "main.stack", "LOAD a\nCALL a.b.f\nCALL a.b.g\nOUT %VAR<x>%VAR<y>\r",
    "stackscript"⟩

/-- A module with a longer name, a label that takes over an export, a variable, a repeated load. -/
def moreLines : String :=
  "LOAD \"a.b\"\na.b.f:\nSET x 1\nLOAD a"

theorem growsTo_of_openEnds :
    ∃ report grown, (validate (.ofFiles sharedNamesFiles) {} openEnds).outcome = .ok report ∧
      (validate (.ofFiles sharedNamesFiles) {} (openEnds.grow moreLines)).outcome = .ok grown ∧
      report.diagnostics.map (fun d => (d.line, d.message)) =
        [(2, "Function not exported by module: b.g"), (3, "Undefined variable: x"),
          (3, "Undefined variable: y"), (3, "No HALT instruction found")] ∧
      grown.diagnostics.map (fun d => (d.line, d.message)) =
        [(2, "Function not exported by module: g"), (3, "Undefined variable: y"),
          (7, "No HALT instruction found")] ∧
      report.GrowsTo grown := by
  have hrun : (validate (.ofFiles sharedNamesFiles) {} openEnds).outcome.toOption.map
      (fun report => report.diagnostics.map (fun d => (d.line, d.message))) =
        some [(2, "Function not exported by module: b.g"), (3, "Undefined variable: x"),
          (3, "Undefined variable: y"), (3, "No HALT instruction found")] := by
    decide +kernel
  have hrunGrown : (validate (.ofFiles sharedNamesFiles) {}
      (openEnds.grow moreLines)).outcome.toOption.map
      (fun report => report.diagnostics.map (fun d => (d.line, d.message))) =
        some [(2, "Function not exported by module: g"), (3, "Undefined variable: y"),
          (7, "No HALT instruction found")] := by
    decide +kernel
  obtain ⟨report, hreport, hbefore⟩ := exists_report_of_map_eq hrun
  obtain ⟨grown, hgrown, hafter⟩ := exists_report_of_map_eq hrunGrown
  exact ⟨report, grown, hreport, hgrown, hbefore, hafter,
    growsTo_of_validate_grow hreport hgrown⟩

end StackScript
