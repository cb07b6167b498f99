import StackScript.Proofs.Provenance
import StackScript.Proofs.Reading
import StackScript.Proofs.Stage

/-! What is said about a `CALL` line, read off the functions and modules of the finished report. -/
namespace StackScript

/-- The code and the message that a `CALL` line gets, or nothing. -/
inductive CallVerdict (report : Report) (line : Line) : Option (String × String) → Prop
  | malformed (hcall : Directive.callTarget? line.trimmed = none) :
      CallVerdict report line
        (some ("SYN-0020", "Invalid CALL syntax. Expected CALL [module.]function"))
  | defined {target : String} (hcall : Directive.callTarget? line.trimmed = some target)
      (hfunction : report.symbols.hasFunction target = true) : CallVerdict report line none
  | undefined {target : String} (hcall : Directive.callTarget? line.trimmed = some target)
      (hfunction : report.symbols.hasFunction target = false) (hdot : '.' ∉ target.toList) :
      CallVerdict report line (some ("RES-0030", "Undefined function: " ++ target))
  /-- The longest loaded module that the target can be read with is blamed, and no loaded module
  exports what the target asks of it. -/
  | notExported {target owner name : String}
      (hcall : Directive.callTarget? line.trimmed = some target)
      (hfunction : report.symbols.hasFunction target = false)
      (howner : owner ∈ report.moduleNames) (htarget : target = qualify owner name)
      (hlongest : ∀ other ∈ report.moduleNames, ∀ rest, target = qualify other rest →
        other.length ≤ owner.length)
      (hexports : ∀ m ∈ report.modules, ∀ rest, target = qualify m.name rest →
        rest ∉ m.exports) :
      CallVerdict report line (some ("RES-0021", "Function not exported by module: " ++ name))
  | notLoaded {target first rest : String}
      (hcall : Directive.callTarget? line.trimmed = some target)
      (hfunction : report.symbols.hasFunction target = false)
      (htarget : target = qualify first rest) (hfirst : '.' ∉ first.toList)
      (hloaded : ∀ other ∈ report.moduleNames, ∀ rest, target ≠ qualify other rest) :
      CallVerdict report line (some ("RES-0020", "Module not loaded: " ++ first))

def Problem.wording (problem : Problem) : String × String :=
  (problem.code.text, problem.message)

namespace Scope

variable {scope : Scope} {target : String}

theorem targetProblem?_of_function (h : scope.symbols.hasFunction target = true) :
    scope.targetProblem? target = none := by
  rw [targetProblem?, if_pos h]

/-- A module of the scope with which the target can be read. -/
def Reads (scope : Scope) (target owner name : String) : Prop :=
  owner ∈ scope.modules ∧ target = qualify owner name

/-- Every way in which a call of something that is no function is reported. -/
theorem targetProblem?_cases (h : scope.symbols.hasFunction target = false) :
    ('.' ∉ target.toList ∧ scope.targetProblem? target = some (.undefinedFunction target)) ∨
    (∃ owner name, scope.Reads target owner name ∧
      (∀ other rest, scope.Reads target other rest → other.length ≤ owner.length) ∧
      scope.targetProblem? target = some (.notExported name)) ∨
    (∃ first rest, target = qualify first rest ∧ '.' ∉ first.toList ∧
      (∀ other rest, ¬ scope.Reads target other rest) ∧
      scope.targetProblem? target = some (.moduleNotLoaded first)) := by
  unfold targetProblem?
  rw [if_neg (by simp [h])]
  dsimp only
  cases hfind : (QualifiedName.readings target).find?
      (fun reading => scope.modules.contains reading.1) with
  | some reading =>
    have hmem := QualifiedName.mem_readings.mp (List.mem_of_find?_eq_some hfind)
    have hloaded : reading.1 ∈ scope.modules := by simpa using List.find?_some hfind
    refine .inr (.inl ⟨reading.1, reading.2, ⟨hloaded, hmem.symm⟩, ?_, rfl⟩)
    intro other rest hother
    obtain ⟨hmodule, htarget⟩ := hother
    have hlongest : (other, rest).1.length ≤ reading.1.length :=
      QualifiedName.length_le_of_find? hfind htarget.symm (by simpa using hmodule)
    exact hlongest
  | none =>
    have hnone : ∀ other rest, ¬ scope.Reads target other rest := by
      intro other rest hother
      obtain ⟨hmodule, htarget⟩ := hother
      have hreading : (other, rest) ∈ QualifiedName.readings target :=
        QualifiedName.mem_readings.mpr htarget.symm
      exact List.find?_eq_none.mp hfind _ hreading (by simpa using hmodule)
    cases hlast : (QualifiedName.readings target).getLast? with
    | some reading =>
      have hmem := QualifiedName.mem_readings.mp (List.mem_of_getLast? hlast)
      exact .inr (.inr ⟨reading.1, reading.2, hmem.symm,
        (QualifiedName.getLast?_readings_eq_some_iff.mp hlast).2, hnone, rfl⟩)
    | none =>
      rw [List.getLast?_eq_none_iff, QualifiedName.readings_eq_nil_iff] at hlast
      exact .inl ⟨hlast, rfl⟩

end Scope

section Report

variable {workspace : Workspace} {context : Context} {document : Document}
  {resolution : Resolution} {line : Line}

-- What a loaded module exports is a function of the table, under the module's own name.
theorem not_mem_exports_of_not_function {target : String}
    (h : (document.finalSymbols resolution).hasFunction target = false) :
    ∀ m ∈ resolution.modules, ∀ rest, target = qualify m.name rest → rest ∉ m.exports := by
  intro m hm rest htarget he
  have hfunction : (document.finalSymbols resolution).hasFunction target = true := by
    rw [document.hasFunction_finalSymbols resolution]
    exact .inr ⟨m, hm, rest, he, htarget.symm⟩
  rw [h] at hfunction
  exact absurd hfunction (by decide)

theorem callVerdict_report (hcall : line.is .call = true) :
    CallVerdict (document.report workspace context resolution) line
      (((document.finalScope resolution).callProblem? line).map Problem.wording) := by
  unfold Scope.callProblem?
  rw [if_pos hcall]
  cases htarget : Directive.callTarget? line.trimmed with
  | none => exact .malformed htarget
  | some target =>
    dsimp only
    by_cases hfunction : (document.finalSymbols resolution).hasFunction target = true
    · rw [Scope.targetProblem?_of_function hfunction]
      exact .defined htarget hfunction
    · have hnot : (document.finalSymbols resolution).hasFunction target = false :=
        Bool.eq_false_iff.mpr hfunction
      have hscope : (document.finalScope resolution).symbols.hasFunction target = false := hnot
      rcases Scope.targetProblem?_cases hscope with
        ⟨hdot, hproblem⟩ | ⟨owner, name, hreads, hlongest, hproblem⟩ |
          ⟨first, rest, hsplit, hfirst, hnone, hproblem⟩
      · rw [hproblem]
        exact .undefined htarget hnot hdot
      · rw [hproblem]
        exact .notExported htarget hnot hreads.1 hreads.2
          (fun other hother rest heq => hlongest other rest ⟨hother, heq⟩)
          (not_mem_exports_of_not_function hnot)
      · rw [hproblem]
        exact .notLoaded htarget hnot hsplit hfirst
          (fun other hother rest heq => hnone other rest ⟨hother, heq⟩)

theorem onLine_calls_report
    (hresolve : ((document.source workspace context).resolve document.lines).outcome =
      .ok resolution) (hline : line ∈ document.lines) :
    onLine line ((document.report workspace context resolution).ofStage .calls) =
      ((document.finalScope resolution).callProblem? line).toList.map
        (Diagnostic.ofLine (some (document.identity workspace)) line) := by
  rw [Document.ofStage_report hresolve]
  exact onLine_filterMap hline _

end Report

-- One line at a time: a `CALL` line has the one diagnostic that its verdict names, or none, and
-- other lines have none from this stage.
theorem calls_reported_by_verdict {workspace : Workspace} {context : Context}
    {document : Document} {report : Report}
    (h : (validate workspace context document).outcome = .ok report) :
    (∀ line ∈ report.lines, line.is .call = true →
      ∃ verdict, CallVerdict report line verdict ∧
        (onLine line (report.ofStage .calls)).map (fun d => (d.code, d.message)) =
          verdict.toList.map (fun wording => (some wording.1, wording.2))) ∧
    ∀ line ∈ report.lines, line.is .call = false → onLine line (report.ofStage .calls) = [] := by
  obtain ⟨_, resolution, hresolve, hreport⟩ := validate_eq_ok_iff.mp h
  subst hreport
  refine ⟨?_, ?_⟩
  · intro line hline hcall
    refine ⟨_, callVerdict_report hcall, ?_⟩
    rw [onLine_calls_report hresolve hline]
    cases (document.finalScope resolution).callProblem? line <;> rfl
  · intro line hline hcall
    have hnone : (document.finalScope resolution).callProblem? line = none := by
      rw [Scope.callProblem?, if_neg (by simp [hcall])]
    rw [onLine_calls_report hresolve hline, hnone]
    rfl

/-- Calls of every kind, below two modules of which one name is the start of the other. -/
def variedCalls : Document :=
  ⟨Path.ofString "main.stack",
    "LOAD a\nLOAD \"a.b\"\nCALL a.b.f\nCALL a.b.g.h\nCALL c.d.e\nCALL f\nCALL .f\nOUT CALL x",
    "stackscript"⟩

theorem calls_reported_of_variedCalls :
    ∃ report, (validate (.ofFiles sharedNamesFiles) {} variedCalls).outcome = .ok report ∧
      (report.ofStage .calls).map (fun d => (d.line, d.message)) =
        [(3, "Function not exported by module: g.h"), (4, "Module not loaded: c"),
          (5, "Undefined function: f"),
          (6, "Invalid CALL syntax. Expected CALL [module.]function")] ∧
      ∀ line ∈ report.lines, line.is .call = true →
        ∃ verdict, CallVerdict report line verdict ∧
          (onLine line (report.ofStage .calls)).map (fun d => (d.code, d.message)) =
            verdict.toList.map (fun wording => (some wording.1, wording.2)) := by
  have hrun : (validate (.ofFiles sharedNamesFiles) {} variedCalls).outcome.toOption.map
      (fun report => (report.ofStage .calls).map (fun d => (d.line, d.message))) =
        some [(3, "Function not exported by module: g.h"), (4, "Module not loaded: c"),
          (5, "Undefined function: f"),
          (6, "Invalid CALL syntax. Expected CALL [module.]function")] := by
    decide +kernel
  obtain ⟨report, hreport, hcalls⟩ := exists_report_of_map_eq hrun
  exact ⟨report, hreport, hcalls, (calls_reported_by_verdict hreport).1⟩

end StackScript
