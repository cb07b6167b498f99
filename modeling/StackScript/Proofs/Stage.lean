import Mathlib.Data.List.Basic
import StackScript.Proofs.Pass
import StackScript.Proofs.ScannedLine

/-! The five stages of a pass that report problems: which codes each one uses, and where its
diagnostics come from. -/
namespace StackScript

inductive Stage where
  | declarations
  | modules
  | calls
  | references
  | halt
deriving DecidableEq

namespace Stage

/-- The codes under which a stage reports. -/
def codes : Stage → List String
  | .declarations => ["SYN-0030", "SYN-0040"]
  | .modules => ["SYN-0010", "RES-0010", "RES-0011", "IO-0010"]
  | .calls => ["SYN-0020", "RES-0020", "RES-0021", "RES-0030"]
  | .references => ["RES-0040"]
  | .halt => ["STY-0010"]

def covers (stage : Stage) (d : Diagnostic) : Bool :=
  stage.codes.any (fun code => d.code == some code)

end Stage

/-- What a report holds from one stage. -/
def Report.ofStage (report : Report) (stage : Stage) : List Diagnostic :=
  report.diagnostics.filter stage.covers

/-- The stage that uses a code. -/
def Code.stage : Code → Stage
  | .unnamedSet | .misplacedExtern => .declarations
  | .invalidLoad | .missingMetadata | .missingImplementation | .unreadableModule => .modules
  | .invalidCall | .moduleNotLoaded | .notExported | .undefinedFunction => .calls
  | .undefinedVariable => .references
  | .noHalt => .halt

-- No two stages share a code.
theorem Stage.covers_ofSpan (stage : Stage) (filename : Option String) (line : Line)
    (start stop : Nat) (problem : Problem) :
    stage.covers (.ofSpan filename line start stop problem) = (problem.code.stage == stage) := by
  have hcodes : ∀ code : Code,
      stage.codes.any (fun text => some code.text == some text) = (code.stage == stage) := by
    intro code
    cases code <;> cases stage <;> decide
  exact hcodes problem.code

section Problems

variable {problem : Problem}

theorem stage_of_declarationProblem? {line : Line} (h : line.declarationProblem? = some problem) :
    problem.code.stage = .declarations := by
  unfold Line.declarationProblem? at h
  split at h
  · rw [← Option.some.inj h]
    rfl
  · split at h
    · rw [← Option.some.inj h]
      rfl
    · simp at h

theorem ModuleSource.stage_of_mem_problems {source : ModuleSource} {name : String}
    {inspection : Inspection} (h : problem ∈ source.problems name inspection) :
    problem.code.stage = .modules := by
  cases inspection with
  | unlocatable e =>
    rw [List.mem_singleton.mp h]
    rfl
  | located a b =>
    rw [problems, List.mem_append, List.mem_append, List.mem_map] at h
    rcases h with (h | h) | ⟨e, _, heq⟩
    · rw [List.mem_ite_nil_right, List.mem_singleton] at h
      rw [h.2]
      rfl
    · rw [List.mem_ite_nil_right, List.mem_singleton] at h
      rw [h.2]
      rfl
    · rw [← heq]
      rfl

theorem ModuleSource.stage_of_mem_loadProblems {source : ModuleSource} {load : Load}
    (h : problem ∈ source.loadProblems load) : problem.code.stage = .modules := by
  cases load with
  | malformed =>
    rw [List.mem_singleton.mp h]
    rfl
  | repeated name => simp [loadProblems] at h
  | fresh m => exact stage_of_mem_problems h

theorem Scope.stage_of_targetProblem? {scope : Scope} {target : String}
    (h : scope.targetProblem? target = some problem) : problem.code.stage = .calls := by
  unfold targetProblem? at h
  split at h
  · simp at h
  · dsimp only at h
    split at h
    · rw [← Option.some.inj h]
      rfl
    · split at h <;> rw [← Option.some.inj h] <;> rfl

theorem Scope.stage_of_callProblem? {scope : Scope} {line : Line}
    (h : scope.callProblem? line = some problem) : problem.code.stage = .calls := by
  unfold callProblem? at h
  split at h
  · split at h
    · rw [← Option.some.inj h]
      rfl
    · exact stage_of_targetProblem? h
  · simp at h

end Problems

/-- The ways in which a stage comes to report something about a document: a problem of a whole
line, or a reference inside a line. -/
inductive Reported (filename : Option String) (lines : List Line) : Stage → Diagnostic → Prop
  | line {stage : Stage} {line : Line} {problem : Problem} (hline : line ∈ lines)
      (hstage : problem.code.stage = stage) (hwhole : stage ≠ .references) :
      Reported filename lines stage (.ofLine filename line problem)
  | reference {line : Line} {ref : VariableReference} (hline : line ∈ lines)
      (href : ref ∈ VariableReference.find line.raw) :
      Reported filename lines .references
        (.ofSpan filename line ref.start ref.stop (.undefinedVariable ref.name))

theorem Reported.covers {filename : Option String} {lines : List Line} {stage : Stage}
    {d : Diagnostic} (h : Reported filename lines stage d) (other : Stage) :
    other.covers d = (stage == other) := by
  cases h with
  | line _ hstage _ => rw [Diagnostic.ofLine, Stage.covers_ofSpan, hstage]
  | reference _ _ => exact Stage.covers_ofSpan _ _ _ _ _ _

theorem reported_filterMap {filename : Option String} {lines : List Line} {stage : Stage}
    {problem? : Line → Option Problem} {d : Diagnostic}
    (hstage : ∀ line problem, problem? line = some problem → problem.code.stage = stage)
    (hwhole : stage ≠ .references)
    (hd : d ∈ lines.filterMap
      (fun line => (problem? line).map (Diagnostic.ofLine filename line))) :
    Reported filename lines stage d := by
  obtain ⟨line, hline, hmap⟩ := List.mem_filterMap.mp hd
  obtain ⟨problem, hproblem, heq⟩ := Option.map_eq_some_iff.mp hmap
  rw [← heq]
  exact .line hline (hstage line problem hproblem) hwhole

/-- The diagnostics on one line. -/
def onLine (line : Line) (diagnostics : List Diagnostic) : List Diagnostic :=
  diagnostics.filter (fun d => d.line == line.index)

section Sites

-- Places that are looked at one after the other, each on a line below the one before.
variable {α : Type} {sites : List α} {place : α → Line} {diagnostics : α → List Diagnostic}
  (hplace : ∀ a, ∀ d ∈ diagnostics a, d.line = (place a).index)
include hplace

theorem onLine_flatMap_of_forall_ne {line : Line}
    (hother : ∀ a ∈ sites, (place a).index ≠ line.index) :
    onLine line (sites.flatMap diagnostics) = [] := by
  unfold onLine
  rw [List.filter_eq_nil_iff]
  intro d hd
  obtain ⟨a, ha, hd⟩ := List.mem_flatMap.mp hd
  rw [hplace a d hd, beq_iff_eq, Int.ofNat_inj]
  exact hother a ha

theorem onLine_flatMap (hsites : sites.Pairwise (fun a b => (place a).index < (place b).index))
    {a : α} (ha : a ∈ sites) :
    onLine (place a) (sites.flatMap diagnostics) = diagnostics a := by
  obtain ⟨above, below, hsplit⟩ := List.append_of_mem ha
  subst hsplit
  obtain ⟨_, hbelow, habove⟩ := List.pairwise_append.mp hsites
  have hself : onLine (place a) (diagnostics a) = diagnostics a := by
    unfold onLine
    rw [List.filter_eq_self]
    intro d hd
    rw [hplace a d hd, beq_self_eq_true]
  have habove' : onLine (place a) (above.flatMap diagnostics) = [] := by
    apply onLine_flatMap_of_forall_ne hplace
    intro b hb
    exact Nat.ne_of_lt (habove b hb a List.mem_cons_self)
  have hbelow' : onLine (place a) (below.flatMap diagnostics) = [] := by
    apply onLine_flatMap_of_forall_ne hplace
    intro b hb
    exact Nat.ne_of_gt ((List.pairwise_cons.mp hbelow).1 b hb)
  unfold onLine at hself habove' hbelow' ⊢
  rw [List.flatMap_append, List.flatMap_cons, List.filter_append, List.filter_append, hself,
    habove', hbelow', List.nil_append, List.append_nil]

end Sites

-- A stage that looks for one problem in each line reports the problem of the line there.
theorem onLine_filterMap {filename : Option String} {text : String} {line : Line}
    (hline : line ∈ Line.scan text) (problem? : Line → Option Problem) :
    onLine line ((Line.scan text).filterMap
        (fun line => (problem? line).map (Diagnostic.ofLine filename line))) =
      (problem? line).toList.map (Diagnostic.ofLine filename line) := by
  have hplace : ∀ line : Line,
      ∀ d ∈ ((problem? line).map (Diagnostic.ofLine filename line)).toList,
        d.line = line.index := by
    intro line d hd
    rw [Option.mem_toList, Option.map_eq_some_iff] at hd
    obtain ⟨problem, _, heq⟩ := hd
    rw [← heq]
    rfl
  rw [List.filterMap_eq_flatMap_toList, onLine_flatMap hplace (Line.scan_pairwise text) hline]
  cases problem? line <;> rfl

namespace Document

variable (workspace : Workspace) (context : Context) (document : Document)
  (resolution : Resolution)

/-- What each stage reports once the `LOAD` lines are resolved. -/
def reportedBy : Stage → List Diagnostic
  | .declarations => Declaration.diagnostics (some (document.identity workspace)) document.lines
  | .modules => (document.source workspace context).diagnostics
      (some (document.identity workspace)) resolution
  | .calls => (document.finalScope resolution).callDiagnostics
      (some (document.identity workspace)) document.lines
  | .references => (document.finalScope resolution).variableDiagnostics
      (some (document.identity workspace)) document.lines
  | .halt => haltDiagnostics (some (document.identity workspace)) document.text document.lines

theorem diagnostics_report :
    (document.report workspace context resolution).diagnostics =
      document.reportedBy workspace context resolution .declarations
        ++ document.reportedBy workspace context resolution .modules
        ++ document.reportedBy workspace context resolution .calls
        ++ document.reportedBy workspace context resolution .references
        ++ document.reportedBy workspace context resolution .halt := by
  simp only [report, reportedBy, Scope.diagnostics, List.append_assoc]

variable {workspace context document resolution}

theorem exists_stage_of_mem_diagnostics {d : Diagnostic}
    (hd : d ∈ (document.report workspace context resolution).diagnostics) :
    ∃ stage, d ∈ document.reportedBy workspace context resolution stage := by
  simp only [diagnostics_report, List.mem_append] at hd
  rcases hd with (((hd | hd) | hd) | hd) | hd <;> exact ⟨_, hd⟩

theorem reported_of_mem_reportedBy
    (hresolve : ((document.source workspace context).resolve document.lines).outcome =
      .ok resolution) {stage : Stage} {d : Diagnostic}
    (hd : d ∈ document.reportedBy workspace context resolution stage) :
    Reported (some (document.identity workspace)) document.lines stage d := by
  cases stage with
  | declarations =>
    exact reported_filterMap (fun _ _ => stage_of_declarationProblem?) (by decide) hd
  | modules =>
    obtain ⟨load, hload, hd⟩ := List.mem_flatMap.mp hd
    obtain ⟨problem, hproblem, heq⟩ := List.mem_map.mp hd
    have hline : load.1 ∈ document.lines :=
      (ModuleSource.resolve_eq_ok_iff.mp hresolve).sublist.subset (List.mem_map_of_mem hload)
    rw [← heq]
    exact .line hline (ModuleSource.stage_of_mem_loadProblems hproblem) (by decide)
  | calls =>
    exact reported_filterMap (fun _ _ => Scope.stage_of_callProblem?) (by decide) hd
  | references =>
    obtain ⟨line, hline, hd⟩ := List.mem_flatMap.mp hd
    obtain ⟨ref, href, heq⟩ := List.mem_map.mp hd
    rw [← heq]
    exact .reference hline (List.mem_filter.mp href).1
  | halt =>
    change d ∈ haltDiagnostics _ _ _ at hd
    unfold haltDiagnostics at hd
    split at hd
    · simp at hd
    · rw [Option.mem_toList, Option.map_eq_some_iff] at hd
      obtain ⟨line, hlast, heq⟩ := hd
      rw [← heq]
      exact .line (List.mem_of_mem_getLast? hlast) rfl (by decide)

-- The codes tell the stages apart, so a stage is recovered from the report by its codes.
theorem ofStage_report
    (hresolve : ((document.source workspace context).resolve document.lines).outcome =
      .ok resolution) (stage : Stage) :
    (document.report workspace context resolution).ofStage stage =
      document.reportedBy workspace context resolution stage := by
  have hfilter : ∀ other, (document.reportedBy workspace context resolution other).filter
      stage.covers =
        if other = stage then document.reportedBy workspace context resolution other else [] := by
    intro other
    by_cases heq : other = stage
    · rw [if_pos heq, List.filter_eq_self]
      intro d hd
      rw [(reported_of_mem_reportedBy hresolve hd).covers, heq, beq_self_eq_true]
    · rw [if_neg heq, List.filter_eq_nil_iff]
      intro d hd
      rw [(reported_of_mem_reportedBy hresolve hd).covers, beq_iff_eq]
      exact heq
  rw [Report.ofStage, diagnostics_report]
  simp only [List.filter_append, hfilter]
  cases stage <;> simp

end Document

end StackScript
