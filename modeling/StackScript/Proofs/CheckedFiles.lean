import StackScript.CommandLine.Request
import StackScript.Proofs.Provenance

/-! Files that are checked together are checked one by one: what is written is put together from
what is written for each of them, and one that fails makes the whole fail. -/
namespace StackScript

namespace Log

variable (time : String) (settings : Option LogSettings)

theorem render_append (first second : Log) :
    render time settings (first ++ second) =
      render time settings first ++ render time settings second := by
  have hmessages : messages time settings (first ++ second) =
      messages time settings first ++ messages time settings second := by
    cases settings <;> simp [messages]
  unfold render
  rw [hmessages, List.map_append, String.join_append]

theorem render_flatMap {α : Type} (items : List α) (log : α → Log) :
    render time settings (items.flatMap log) =
      String.join (items.map (fun item => render time settings (log item))) := by
  induction items with
  | nil => cases settings <;> rfl
  | cons item items ih =>
    rw [List.flatMap_cons, render_append, ih, List.map_cons, String.join_cons]

end Log

namespace CommandLine

/-- What reading the document that an argument names gives. -/
def documentAt (workspace : Workspace) (context : Context) (file : String) : FileResult Document :=
  Document.read workspace.files (Path.ofString file) context.languageId context.encoding

variable {workspace : Workspace} {context : Context} {file : String} {files : List String}
  {code : Nat}

/-- The ways in which checking one file ends, with the exit code of each. -/
inductive ChecksAs (workspace : Workspace) (context : Context) (file : String) : Nat → Prop
  | unreadable {e : ReadError} (hread : documentAt workspace context file = .ok (.error e)) :
      ChecksAs workspace context file 1
  | validated {document : Document} {report : Report}
      (hread : documentAt workspace context file = .ok (.ok document))
      (hrun : (validate workspace context document).outcome = .ok report) :
      ChecksAs workspace context file (if report.hasErrors then 1 else 0)

theorem openDocument_of_unreadable {e : ReadError}
    (h : documentAt workspace context file = .ok (.error e)) :
    openDocument workspace context file =
      ⟨Log.note context.log
        ⟨.error, "error: [SSC-0010] cannot read " ++ file ++ ": " ++ e.message⟩, .ok none⟩ := by
  unfold documentAt at h
  simp only [openDocument, h, Run.ofExcept_ok_bind, Run.note_bind, Run.log_pure, List.append_nil,
    Run.outcome_pure]

theorem openDocument_of_readable {document : Document}
    (h : documentAt workspace context file = .ok (.ok document)) :
    openDocument workspace context file = pure (some document) := by
  unfold documentAt at h
  simp only [openDocument, h]
  rfl

theorem openDocument_of_abort {a : Abort} (h : documentAt workspace context file = .error a) :
    openDocument workspace context file = ⟨[], .error a⟩ := by
  unfold documentAt at h
  simp only [openDocument, h]
  rfl

theorem withDocument_of_readable {document : Document}
    (h : documentAt workspace context file = .ok (.ok document))
    (command : Document → Run Output) :
    withDocument workspace context file command = command document := by
  simp only [withDocument, openDocument_of_readable h, pure_bind]

theorem checkFile_of_unreadable {e : ReadError}
    (h : documentAt workspace context file = .ok (.error e)) :
    checkFile workspace context file =
      ⟨Log.note context.log
        ⟨.error, "error: [SSC-0010] cannot read " ++ file ++ ": " ++ e.message⟩, .ok 1⟩ := by
  simp only [checkFile, openDocument_of_unreadable h, Run.mk_ok_bind, Run.log_pure, List.append_nil,
    Run.outcome_pure]

theorem outcome_checkFile_of_readable {document : Document}
    (h : documentAt workspace context file = .ok (.ok document)) :
    (checkFile workspace context file).outcome =
      (validate workspace context document).outcome.map
        (fun report => if report.hasErrors then 1 else 0) := by
  simp only [checkFile, openDocument_of_readable h, pure_bind, report, Run.outcome_bind]
  cases (validate workspace context document).outcome <;> rfl

theorem checkFile_eq_ok_iff :
    (checkFile workspace context file).outcome = .ok code ↔
      ChecksAs workspace context file code := by
  constructor
  · intro h
    rcases hread : documentAt workspace context file with a | e | document
    · simp only [checkFile, openDocument_of_abort hread] at h
      cases h
    · rw [checkFile_of_unreadable hread] at h
      cases h
      exact .unreadable hread
    · rw [outcome_checkFile_of_readable hread] at h
      cases hrun : (validate workspace context document).outcome with
      | error a =>
        rw [hrun] at h
        cases h
      | ok report =>
        rw [hrun] at h
        cases h
        exact .validated hread hrun
  · intro h
    cases h with
    | unreadable hread => rw [checkFile_of_unreadable hread]
    | validated hread hrun => rw [outcome_checkFile_of_readable hread, hrun, Except.map]

theorem ChecksAs.le_one (h : ChecksAs workspace context file code) : code ≤ 1 := by
  cases h with
  | unreadable _ => exact Nat.le_refl 1
  | validated _ _ => split <;> decide

/-- The file has no text, or a pass over it finds an error. A warning is none. -/
inductive Fails (workspace : Workspace) (context : Context) (file : String) : Prop
  | unreadable {e : ReadError} (hread : documentAt workspace context file = .ok (.error e))
  | faulty {document : Document} {report : Report} {d : Diagnostic}
      (hread : documentAt workspace context file = .ok (.ok document))
      (hrun : (validate workspace context document).outcome = .ok report)
      (hd : d ∈ report.diagnostics) (herror : d.severity = .error)

theorem ChecksAs.eq_one_iff (h : ChecksAs workspace context file code) :
    code = 1 ↔ Fails workspace context file := by
  cases h with
  | unreadable hread => exact iff_of_true rfl (.unreadable hread)
  | @validated document report hread hrun =>
    have hcode : (if report.hasErrors then 1 else 0) = 1 ↔
        ∃ d ∈ report.diagnostics, d.severity = .error := by
      simp [Report.hasErrors]
    rw [hcode]
    constructor
    · intro herrors
      obtain ⟨d, hd, herror⟩ := herrors
      exact .faulty hread hrun hd herror
    · intro hfails
      cases hfails with
      | unreadable hother => simp [hread] at hother
      | faulty hother hagain hd herror =>
        rw [hread, Except.ok.injEq, Except.ok.injEq] at hother
        subst hother
        rw [hrun, Except.ok.injEq] at hagain
        subst hagain
        exact ⟨_, hd, herror⟩

theorem checkFiles_cons_eq_ok_iff :
    (checkFiles workspace context (file :: files)).outcome = .ok code ↔
      ∃ first rest, (checkFile workspace context file).outcome = .ok first ∧
        (checkFiles workspace context files).outcome = .ok rest ∧ max first rest = code := by
  rw [checkFiles]
  simp only [Run.outcome_bind_eq_ok_iff, Run.outcome_map_eq_ok_iff]
  constructor
  · intro h
    obtain ⟨first, hfirst, rest, hrest, hcode⟩ := h
    exact ⟨first, rest, hfirst, hrest, hcode⟩
  · intro h
    obtain ⟨first, rest, hfirst, hrest, hcode⟩ := h
    exact ⟨first, hfirst, rest, hrest, hcode⟩

theorem checkFiles_returns_iff :
    (∃ code, (checkFiles workspace context files).outcome = .ok code) ↔
      ∀ file ∈ files, ∃ code, (checkFile workspace context file).outcome = .ok code := by
  induction files with
  | nil => exact iff_of_true ⟨0, rfl⟩ (by simp)
  | cons file files ih =>
    simp only [checkFiles_cons_eq_ok_iff, List.forall_mem_cons, ← ih]
    constructor
    · intro h
      obtain ⟨_, first, rest, hfirst, hrest, _⟩ := h
      exact ⟨⟨first, hfirst⟩, rest, hrest⟩
    · intro h
      obtain ⟨⟨first, hfirst⟩, rest, hrest⟩ := h
      exact ⟨_, first, rest, hfirst, hrest, rfl⟩

theorem log_checkFiles (h : (checkFiles workspace context files).outcome = .ok code) :
    (checkFiles workspace context files).log =
      files.flatMap (fun file => (checkFile workspace context file).log) := by
  induction files generalizing code with
  | nil => rfl
  | cons file files ih =>
    obtain ⟨first, rest, hfirst, hrest, _⟩ := checkFiles_cons_eq_ok_iff.mp h
    rw [checkFiles, Run.log_bind_of_ok hfirst, List.flatMap_cons, ← ih hrest]
    rfl

-- A file that passes does not take back that an earlier one failed.
theorem code_checkFiles (h : (checkFiles workspace context files).outcome = .ok code) :
    code ≤ 1 ∧ (code = 1 ↔ ∃ file ∈ files, Fails workspace context file) := by
  induction files generalizing code with
  | nil =>
    cases h
    simp
  | cons file files ih =>
    obtain ⟨first, rest, hfirst, hrest, hcode⟩ := checkFiles_cons_eq_ok_iff.mp h
    obtain ⟨hle, hrestCode⟩ := ih hrest
    have hchecks := checkFile_eq_ok_iff.mp hfirst
    have hfirstLe := hchecks.le_one
    have hmax : max first rest = 1 ↔ first = 1 ∨ rest = 1 := by omega
    simp only [← hcode, hmax, hchecks.eq_one_iff, hrestCode, List.mem_cons, exists_eq_or_imp,
      iff_self, and_true]
    omega

theorem checkFiles_singleton (workspace : Workspace) (context : Context) (file : String) :
    checkFiles workspace context [file] = checkFile workspace context file := by
  simp only [checkFiles, map_pure, Nat.max_zero, bind_pure]

theorem run_check (workspace : Workspace) (context : Context) (files : List String) :
    (Request.check files).run workspace context =
      (fun exitCode => { exitCode }) <$> checkFiles workspace context files := by
  simp only [Request.run, bind_pure_comp]

theorem run_check_eq_ok_iff {output : Output} :
    ((Request.check files).run workspace context).outcome = .ok output ↔
      ∃ code, (checkFiles workspace context files).outcome = .ok code ∧
        output = { exitCode := code } := by
  rw [run_check, Run.outcome_map_eq_ok_iff]
  simp only [eq_comm]

theorem run_check_alone_eq_ok_iff {output : Output} :
    ((Request.check [file]).run workspace context).outcome = .ok output ↔
      ∃ code, ChecksAs workspace context file code ∧ output = { exitCode := code } := by
  rw [run_check_eq_ok_iff, checkFiles_singleton]
  simp only [checkFile_eq_ok_iff]

/-- What a request writes to the error stream at the given time. -/
def Request.errorText (workspace : Workspace) (flags : Flags) (time : String)
    (request : Request) : String :=
  Log.render time (some flags.context.log) (request.run workspace flags.context).log

theorem Request.errorText_check (workspace : Workspace) (flags : Flags) (time : String)
    (files : List String) :
    (Request.check files).errorText workspace flags time =
      Log.render time (some flags.context.log)
        (checkFiles workspace flags.context files).log := by
  rw [errorText, run_check]
  rfl

theorem Flags.admits_error (flags : Flags) (message : String) :
    flags.context.log.admits ⟨.error, message⟩ = true := by
  unfold Flags.context LogSettings.admits
  dsimp only
  split
  · decide
  · split <;> decide

-- However much is logged, an error is; the rich format puts the time and a mark in front.
theorem render_note_error (flags : Flags) (time message : String) :
    Log.render time flags.context.log (Log.note flags.context.log ⟨.error, message⟩) =
      (if flags.rich then time ++ " [ERROR] " else "") ++ message ++ "\n" := by
  have hrich : flags.context.log.rich = flags.rich := rfl
  rw [Log.note, if_pos (flags.admits_error message), Log.render, Log.messages, List.map_singleton,
    List.map_singleton, String.join_cons, String.join_nil, String.append_empty,
    LogSettings.write_error, hrich]

/-- What the check of one file by itself comes to. -/
structure CheckedAlone (workspace : Workspace) (flags : Flags) (time file : String)
    (output : Output) : Prop where
  text : output.text = ""
  exitCode : output.exitCode = 0 ∨ output.exitCode = 1
  exitCode_eq_one_iff : output.exitCode = 1 ↔ Fails workspace flags.context file
  /-- A file without a text is named in one message, and no pass is made. -/
  unreadable : ∀ e, documentAt workspace flags.context file = .ok (.error e) →
    (Request.check [file]).errorText workspace flags time =
      (if flags.rich then time ++ " [ERROR] " else "")
        ++ ("error: [SSC-0010] cannot read " ++ file ++ ": " ++ e.message) ++ "\n"

/-- What the check of several files has to do with the checks of each of them. -/
structure CheckedTogether (workspace : Workspace) (flags : Flags) (time : String)
    (files : List String) (output : Output) : Prop where
  text : output.text = ""
  errorText : (Request.check files).errorText workspace flags time =
    String.join (files.map (fun file => (Request.check [file]).errorText workspace flags time))
  exitCode : output.exitCode = 0 ∨ output.exitCode = 1
  exitCode_eq_one_iff : output.exitCode = 1 ↔
    ∃ file ∈ files, ∃ alone, ((Request.check [file]).run workspace flags.context).outcome =
      .ok alone ∧ alone.exitCode = 1

theorem checkedAlone_of_run {flags : Flags} {output : Output} (time : String)
    (h : ((Request.check [file]).run workspace flags.context).outcome = .ok output) :
    CheckedAlone workspace flags time file output := by
  obtain ⟨code, hchecks, rfl⟩ := run_check_alone_eq_ok_iff.mp h
  refine ⟨rfl, ?_, hchecks.eq_one_iff, ?_⟩
  · have hle := hchecks.le_one
    change code = 0 ∨ code = 1
    omega
  · intro e hread
    rw [Request.errorText_check, checkFiles_singleton, checkFile_of_unreadable hread]
    exact render_note_error flags time _

theorem checkedTogether_of_run {flags : Flags} {output : Output} (time : String)
    (h : ((Request.check files).run workspace flags.context).outcome = .ok output) :
    CheckedTogether workspace flags time files output := by
  obtain ⟨code, hcode, rfl⟩ := run_check_eq_ok_iff.mp h
  obtain ⟨hle, hone⟩ := code_checkFiles hcode
  have hreturns := checkFiles_returns_iff.mp ⟨code, hcode⟩
  refine ⟨rfl, ?_, ?_, ?_⟩
  · simp only [Request.errorText_check, checkFiles_singleton, log_checkFiles hcode,
      Log.render_flatMap]
  · change code = 0 ∨ code = 1
    omega
  · change code = 1 ↔ _
    rw [hone]
    simp only [run_check_alone_eq_ok_iff]
    constructor
    · intro hfails
      obtain ⟨file, hfile, hfails⟩ := hfails
      obtain ⟨alone, halone⟩ := hreturns file hfile
      have hchecks := checkFile_eq_ok_iff.mp halone
      exact ⟨file, hfile, _, ⟨alone, hchecks, rfl⟩, hchecks.eq_one_iff.mpr hfails⟩
    · intro hfails
      obtain ⟨file, hfile, _, ⟨alone, hchecks, rfl⟩, hexit⟩ := hfails
      exact ⟨file, hfile, hchecks.eq_one_iff.mp hexit⟩

-- Nothing is carried from one file to the next: neither by a clean file nor by one that fails.
theorem check_files_apart (workspace : Workspace) (flags : Flags) (time : String)
    (files : List String) :
    ((∃ output, ((Request.check files).run workspace flags.context).outcome = .ok output) ↔
        ∀ file ∈ files, ∃ alone,
          ((Request.check [file]).run workspace flags.context).outcome = .ok alone) ∧
      (∀ output, ((Request.check files).run workspace flags.context).outcome = .ok output →
        CheckedTogether workspace flags time files output) ∧
      ∀ file alone, ((Request.check [file]).run workspace flags.context).outcome = .ok alone →
        CheckedAlone workspace flags time file alone := by
  refine ⟨?_, fun _ => checkedTogether_of_run time, fun _ _ => checkedAlone_of_run time⟩
  simp only [run_check, Run.outcome_map_returns_iff, checkFiles_singleton]
  exact checkFiles_returns_iff

def mixedFiles : List String :=
  ["warned.stack", "gone.stack", "faulty.stack", "warned.stack"]

def mixedFilesWorkspace : Workspace :=
  .ofFiles [("warned.stack", "go:\nCALL go"), ("faulty.stack", "LOAD\nHALT")]

-- A file with a warning stands first and last, one that is not there and one with an error between.
theorem check_mixedFiles_apart :
    (mixedFiles.map (fun file => ((Request.check [file]).run mixedFilesWorkspace
        (Flags.context {})).outcome.toOption.map Output.exitCode)) =
        [some 0, some 1, some 1, some 0] ∧
      (Request.check mixedFiles).errorText mixedFilesWorkspace {} "2001-02-03 04:05:06" =
        "/p/warned.stack:2:1: warning: [STY-0010] No HALT instruction found\n"
          ++ "    2 | CALL go\n      | ^^^^^^^\n"
          ++ "error: [SSC-0010] cannot read gone.stack: "
          ++ "[Errno 2] No such file or directory: 'gone.stack'\n"
          ++ "/p/faulty.stack:1:1: error: [SYN-0010] "
          ++ "Invalid LOAD syntax. Expected LOAD \"modulename\"\n"
          ++ "    1 | LOAD\n      | ^^^^\n"
          ++ "/p/warned.stack:2:1: warning: [STY-0010] No HALT instruction found\n"
          ++ "    2 | CALL go\n      | ^^^^^^^\n" ∧
      (Request.check ["gone.stack"]).errorText mixedFilesWorkspace { rich := true }
          "2001-02-03 04:05:06" =
        "2001-02-03 04:05:06 [ERROR] error: [SSC-0010] cannot read gone.stack: "
          ++ "[Errno 2] No such file or directory: 'gone.stack'\n" ∧
      ∃ output, ((Request.check mixedFiles).run mixedFilesWorkspace
          (Flags.context {})).outcome = .ok output ∧
        output.exitCode = 1 ∧
        CheckedTogether mixedFilesWorkspace {} "2001-02-03 04:05:06" mixedFiles output := by
  have hrun : ((Request.check mixedFiles).run mixedFilesWorkspace
      (Flags.context {})).outcome.toOption.map Output.exitCode = some 1 := by
    decide +kernel
  obtain ⟨output, houtput, hexit⟩ := Run.exists_outcome_of_map_eq hrun
  exact ⟨by decide +kernel, by decide +kernel, by decide +kernel, output, houtput, hexit,
    (check_files_apart mixedFilesWorkspace {} "2001-02-03 04:05:06" mixedFiles).2.1 output
      houtput⟩

end CommandLine

end StackScript
