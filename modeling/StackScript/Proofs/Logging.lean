import StackScript.Proofs.Abort

/-! The log only watches a pass: what is logged, and how, has no say in what the pass finds, and a
level writes just those messages of the fullest log that it admits. -/
namespace StackScript

namespace Run

variable {α β : Type} {settings full : LogSettings}

/-- A run comes to the same end as a fuller one and writes those of its entries that the settings
admit. -/
structure Observes (settings : LogSettings) (run fuller : Run α) : Prop where
  outcome_eq : run.outcome = fuller.outcome
  log_eq : run.log = fuller.log.filter settings.admits

theorem observes_pure (a : α) : Observes settings (pure a : Run α) (pure a) :=
  ⟨rfl, rfl⟩

theorem observes_ofExcept (outcome : Except Abort α) :
    Observes settings (ofExcept outcome) (ofExcept outcome) :=
  ⟨rfl, rfl⟩

theorem Observes.map {run fuller : Run α} (h : Observes settings run fuller) (f : α → β) :
    Observes settings (f <$> run) (f <$> fuller) where
  outcome_eq := by rw [outcome_map, outcome_map, h.outcome_eq]
  log_eq := h.log_eq

-- What comes next is written behind what has been written, and only if the first part has an end.
theorem Observes.bind {run fuller : Run α} {next fullerNext : α → Run β}
    (h : Observes settings run fuller)
    (hnext : ∀ a, Observes settings (next a) (fullerNext a)) :
    Observes settings (run >>= next) (fuller >>= fullerNext) := by
  cases hfuller : fuller.outcome with
  | error e =>
    have hrun := h.outcome_eq.trans hfuller
    refine ⟨?_, ?_⟩
    · rw [outcome_bind_of_error hrun, outcome_bind_of_error hfuller]
    · rw [log_bind_of_error hrun, log_bind_of_error hfuller, h.log_eq]
  | ok a =>
    have hrun := h.outcome_eq.trans hfuller
    refine ⟨?_, ?_⟩
    · rw [outcome_bind_of_ok hrun, outcome_bind_of_ok hfuller, (hnext a).outcome_eq]
    · rw [log_bind_of_ok hrun, log_bind_of_ok hfuller, List.filter_append, h.log_eq,
        (hnext a).log_eq]

end Run

theorem LogLevel.value_le_debug (level : LogLevel) : level.value ≤ LogLevel.debug.value := by
  cases level <;> decide

theorem LogSettings.admits_of_debug {settings : LogSettings} (h : settings.level = .debug)
    (entry : LogEntry) : settings.admits entry = true := by
  rw [admits, h, decide_eq_true_eq]
  exact entry.level.value_le_debug

namespace Run

variable {α : Type} {settings full : LogSettings} (hfull : full.level = .debug)
include hfull

-- Each call weighs its own entry.
theorem observes_note (entry : LogEntry) :
    Observes settings (note settings entry) (note full entry) where
  outcome_eq := rfl
  log_eq := by
    simp only [note, Log.note, full.admits_of_debug hfull, if_true]
    cases h : settings.admits entry <;> simp [h]

theorem observes_note_bind (entry : LogEntry) {next fullerNext : Unit → Run α}
    (hnext : Observes settings (next ()) (fullerNext ())) :
    Observes settings (note settings entry >>= next) (note full entry >>= fullerNext) :=
  (observes_note hfull entry).bind (fun _ => hnext)

end Run

namespace ModuleSource

/-- The same source under other log settings. -/
def onLog (source : ModuleSource) (log : Option LogSettings) : ModuleSource :=
  { source with log }

variable (source : ModuleSource)

theorem onLog_log (log : Option LogSettings) : (source.onLog log).log = log := rfl

theorem onLog_layout (log : Option LogSettings) : (source.onLog log).layout = source.layout := rfl

theorem onLog_files (log : Option LogSettings) : (source.onLog log).files = source.files := rfl

theorem locate_onLog (log : Option LogSettings) (name : String) :
    (source.onLog log).locate name = source.locate name := by
  unfold locate
  rw [onLog_files, onLog_layout]

variable {settings full : LogSettings} (hfull : full.level = .debug)
include hfull

theorem observes_half (isThere : Bool) (path : Path) (namesOf : List Line → List String) :
    Run.Observes settings ((source.onLog settings).half isThere path namesOf)
      ((source.onLog full).half isThere path namesOf) := by
  cases isThere with
  | false => exact Run.observes_pure _
  | true =>
    simp only [half, readHalf, if_true]
    apply (Run.observes_ofExcept _).bind
    intro result
    cases result with
    | error e => exact Run.observes_note_bind hfull _ (Run.observes_pure _)
    | ok text => exact Run.observes_pure _

theorem observes_inspect (name : String) :
    Run.Observes settings ((source.onLog settings).inspect name)
      ((source.onLog full).inspect name) := by
  simp only [inspect, onLog_log, onLog_layout, locate_onLog]
  apply Run.observes_note_bind hfull
  apply (Run.observes_ofExcept _).bind
  intro result
  cases result with
  | error e => exact Run.observes_note_bind hfull _ (Run.observes_pure _)
  | ok there =>
    apply (source.observes_half hfull _ _ _).bind
    intro first
    apply (source.observes_half hfull _ _ _).bind
    intro second
    exact Run.observes_note_bind hfull _ (Run.observes_pure _)

theorem observes_resolveLine (seen : List String) (line : Line) :
    Run.Observes settings ((source.onLog settings).resolveLine seen line)
      ((source.onLog full).resolveLine seen line) := by
  unfold resolveLine
  cases Directive.loadName? line.trimmed with
  | none => exact Run.observes_pure _
  | some name =>
    dsimp only
    split
    · exact Run.observes_note_bind hfull _ (Run.observes_pure _)
    · exact (source.observes_inspect hfull name).bind (fun _ => Run.observes_pure _)

-- Down the lines: one more `LOAD` line adds what it writes, unless the pass has ended above it.
theorem observes_resolveFrom (seen : List String) (lines : List Line) :
    Run.Observes settings ((source.onLog settings).resolveFrom seen lines)
      ((source.onLog full).resolveFrom seen lines) := by
  induction lines generalizing seen with
  | nil => exact Run.observes_pure _
  | cons line lines ih =>
    rw [resolveFrom, resolveFrom]
    split
    · apply (source.observes_resolveLine hfull seen line).bind
      intro load
      exact (ih _).map _
    · exact ih seen

theorem observes_resolve (lines : List Line) :
    Run.Observes settings ((source.onLog settings).resolve lines)
      ((source.onLog full).resolve lines) :=
  (source.observes_resolveFrom hfull [] lines).map _

end ModuleSource

/-- Two contexts that differ at most in the log, the keywords and the language. -/
structure Context.SamePass (first second : Context) : Prop where
  encoding : first.encoding = second.encoding
  metadataSuffix : first.metadataSuffix = second.metadataSuffix
  implementationSuffix : first.implementationSuffix = second.implementationSuffix

namespace Context.SamePass

variable {context other : Context}

theorem source_eq (h : context.SamePass other) (workspace : Workspace) (document : Document) :
    document.source workspace context =
      (document.source workspace other).onLog context.log := by
  simp only [Document.source, ModuleSource.onLog, h.encoding, h.metadataSuffix,
    h.implementationSuffix]

-- The pass itself calls the log six times before the modules and four times behind them.
theorem observes_validate (h : context.SamePass other) (hfull : other.log.level = .debug)
    (workspace : Workspace) (document : Document) :
    Run.Observes context.log (validate workspace context document)
      (validate workspace other document) := by
  have hresolve : Run.Observes context.log
      (((document.source workspace other).onLog context.log).resolve document.lines)
      ((document.source workspace other).resolve document.lines) :=
    (document.source workspace other).observes_resolve hfull document.lines
  unfold validate
  rw [h.source_eq]
  apply (Run.observes_ofExcept _).bind
  intro _
  iterate 6 apply Run.observes_note_bind hfull
  apply hresolve.bind
  intro resolution
  iterate 4 apply Run.observes_note_bind hfull
  exact Run.observes_pure _

-- Both watch the fullest log of the same pass.
theorem outcome_validate_eq (h : context.SamePass other) (workspace : Workspace)
    (document : Document) :
    (validate workspace context document).outcome =
      (validate workspace other document).outcome := by
  let fullest : Context := { other with log := { level := .debug } }
  have hcontext : context.SamePass fullest :=
    ⟨h.encoding, h.metadataSuffix, h.implementationSuffix⟩
  have hother : other.SamePass fullest := ⟨rfl, rfl, rfl⟩
  rw [(hcontext.observes_validate rfl workspace document).outcome_eq,
    (hother.observes_validate rfl workspace document).outcome_eq]

end Context.SamePass

/-- The line of an entry on the error stream, with or without the time and a mark. -/
def LogEntry.shown (rich : Bool) (time : String) (entry : LogEntry) : String :=
  if rich then
    time ++ " "
      ++ (match entry.level with
        | .silent => ""
        | .error => "[ERROR] "
        | .warning => "[WARNING] "
        | .info => "[INFO] "
        | .debug => "[DEBUG] ")
      ++ entry.message
  else entry.message

theorem LogSettings.write_eq_shown (settings : LogSettings) (time : String) (entry : LogEntry) :
    settings.write time entry = entry.shown settings.rich time := by
  obtain ⟨level, message⟩ := entry
  cases level <;> rfl

-- The last part ties the entries to the text that is written, in either format.
theorem logging_observes {context other : Context} (h : context.SamePass other)
    (workspace : Workspace) (document : Document) :
    (validate workspace context document).outcome = (validate workspace other document).outcome ∧
      (other.log.level = .debug →
        (validate workspace context document).log =
          (validate workspace other document).log.filter
            (fun entry => entry.level.value ≤ context.log.level.value)) ∧
      ∀ time, Log.render time context.log (validate workspace context document).log =
        String.join ((validate workspace context document).log.map
          (fun entry => entry.shown context.log.rich time ++ "\n")) := by
  refine ⟨h.outcome_validate_eq workspace document, ?_, ?_⟩
  · intro hfull
    exact (h.observes_validate hfull workspace document).log_eq
  · intro time
    unfold Log.render Log.messages
    rw [List.map_map]
    simp only [Function.comp_def, LogSettings.write_eq_shown]

/-- Tells of progress, with the time, for another language and without keywords. -/
def briefContext : Context :=
  { languageId := "other", keywords := {}, log := { level := .info, rich := true } }

def fullContext : Context :=
  { log := { level := .debug } }

-- The pass ends early, with the second module.
theorem logging_observes_of_nulName :
    (validate (.ofFiles []) fullContext nulName).outcome = .error .embeddedNul ∧
      (validate (.ofFiles []) briefContext nulName).outcome = .error .embeddedNul ∧
      (validate (.ofFiles []) fullContext nulName).log.map LogEntry.message =
        ["Validating '/p/main.stack'", "Scanning lines for '/p/main.stack'", "Scanned 3 line(s)",
          "Collecting local symbols for '/p/main.stack'",
          "Collected 0 function(s), 0 variable(s)", "Resolving modules for '/p/main.stack'",
          "Resolved module 'a' to /p/a.stackm + /p/a.stack",
          "Module 'a': MISSING_BOTH, 0 export(s)",
          "Resolved module 'b/\x00/..' to /p/b/\x00/...stackm + /p/b/\x00/...stack"] ∧
      (validate (.ofFiles []) briefContext nulName).log =
        (validate (.ofFiles []) fullContext nulName).log.filter
          (fun entry => entry.level.value ≤ LogLevel.info.value) ∧
      Log.render "2001-02-03 04:05:06" briefContext.log
          (validate (.ofFiles []) briefContext nulName).log =
        "2001-02-03 04:05:06 [INFO] Validating '/p/main.stack'\n"
          ++ "2001-02-03 04:05:06 [INFO] Scanning lines for '/p/main.stack'\n"
          ++ "2001-02-03 04:05:06 [INFO] Collecting local symbols for '/p/main.stack'\n"
          ++ "2001-02-03 04:05:06 [INFO] Resolving modules for '/p/main.stack'\n" := by
  have hobserves := logging_observes (show briefContext.SamePass fullContext from ⟨rfl, rfl, rfl⟩)
    (.ofFiles []) nulName
  have herror : (validate (.ofFiles []) fullContext nulName).outcome = .error .embeddedNul := by
    rfl
  exact ⟨herror, hobserves.1.trans herror, by decide +kernel, hobserves.2.1 rfl,
    by decide +kernel⟩

end StackScript
