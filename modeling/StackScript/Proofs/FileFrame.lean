import Mathlib.Data.List.Basic
import StackScript.Proofs.Provenance

/-! A pass looks at no files but the two of each module that its document loads, and the `LOAD`
lines inside these files lead nowhere. -/
namespace StackScript

/-- The line loads a module and declares nothing: it is no label at the same time. -/
def Line.onlyLoads (line : Line) : Bool :=
  line.is .load && line.label?.isNone

/-- The lines of a text, without those that only load. -/
def linesBesideLoads (text : String) : List String :=
  ((Line.scan text).filter (fun line => !line.onlyLoads)).map Line.raw

theorem Line.is_external_of_load {line : Line} (h : line.is .load = true) :
    line.is .external = false := by
  unfold Line.is Directive.startsWith at h ⊢
  cases hload : Directive.load.keyword.toList.isPrefixOf? line.trimmed.toList with
  | none => simp [hload] at h
  | some rest =>
    rw [List.isPrefixOf?_eq_some_iff_append_eq] at hload
    rw [← hload]
    rfl

theorem flatMap_eq_of_linesBesideLoads {α : Type} {f : Line → List α} {text other : String}
    (hraw : ∀ line, f line = f ⟨0, line.raw⟩)
    (hload : ∀ line : Line, line.onlyLoads = true → f line = [])
    (h : linesBesideLoads text = linesBesideLoads other) :
    (Line.scan text).flatMap f = (Line.scan other).flatMap f := by
  have hlines : ∀ lines : List Line, lines.flatMap f =
      ((lines.filter (fun line => !line.onlyLoads)).map Line.raw).flatMap
        (fun raw => f ⟨0, raw⟩) := by
    intro lines
    induction lines with
    | nil => rfl
    | cons line lines ih =>
      rw [List.flatMap_cons, ih]
      by_cases honly : line.onlyLoads = true
      · rw [hload line honly, List.filter_cons_of_neg (by simp [honly]), List.nil_append]
      · rw [hraw line, List.filter_cons_of_pos (by simp [honly]), List.map_cons,
          List.flatMap_cons]
  rw [hlines, hlines]
  exact congrArg (List.flatMap _) h

theorem externalNames_eq_of_linesBesideLoads {text other : String}
    (h : linesBesideLoads text = linesBesideLoads other) :
    externalNames (Line.scan text) = externalNames (Line.scan other) := by
  apply flatMap_eq_of_linesBesideLoads (fun _ => rfl) _ h
  intro line honly
  rw [Line.onlyLoads, Bool.and_eq_true] at honly
  rw [if_neg (by simp [Line.is_external_of_load honly.1])]

theorem labelNames_eq_of_linesBesideLoads {text other : String}
    (h : linesBesideLoads text = linesBesideLoads other) :
    labelNames (Line.scan text) = labelNames (Line.scan other) := by
  unfold labelNames
  rw [List.filterMap_eq_flatMap_toList, List.filterMap_eq_flatMap_toList]
  apply flatMap_eq_of_linesBesideLoads (fun _ => rfl) _ h
  intro line honly
  rw [Line.onlyLoads, Bool.and_eq_true, Option.isNone_iff_eq_none] at honly
  rw [honly.2]
  rfl

/-- Looking for a file and reading it gives the same in both file systems, but for lines of its
text that only load. -/
structure FileSystem.AgreeAt (left right : FileSystem) (encoding : String) (path : Path) :
    Prop where
  present : left.present path = right.present path
  readText : left.readText encoding path = right.readText encoding path ∨
    ∃ text other, left.readText encoding path = .ok (.ok text) ∧
      right.readText encoding path = .ok (.ok other) ∧
      linesBesideLoads text = linesBesideLoads other

namespace ModuleSource

/-- The same settings over other files. -/
def onFiles (source : ModuleSource) (files : FileSystem) : ModuleSource :=
  { source with files }

@[simp] theorem onFiles_files (source : ModuleSource) (files : FileSystem) :
    (source.onFiles files).files = files := rfl

@[simp] theorem onFiles_encoding (source : ModuleSource) (files : FileSystem) :
    (source.onFiles files).encoding = source.encoding := rfl

@[simp] theorem onFiles_layout (source : ModuleSource) (files : FileSystem) :
    (source.onFiles files).layout = source.layout := rfl

@[simp] theorem onFiles_log (source : ModuleSource) (files : FileSystem) :
    (source.onFiles files).log = source.log := rfl

/-- The two files of a module are alike here and in another file system. -/
structure AgreesOn (source : ModuleSource) (files : FileSystem) (name : String) : Prop where
  metadata : source.files.AgreeAt files source.encoding (source.layout.metadata name)
  implementation : source.files.AgreeAt files source.encoding (source.layout.implementation name)

variable {source : ModuleSource} {files : FileSystem} {name : String}

theorem AgreesOn.locate_eq (h : source.AgreesOn files name) :
    (source.onFiles files).locate name = source.locate name := by
  unfold locate
  rw [onFiles_files, onFiles_layout, h.metadata.present, h.implementation.present]

theorem readHalf_onFiles {path : Path} {namesOf : List Line → List String}
    (h : source.files.AgreeAt files source.encoding path)
    (hnames : ∀ text other, linesBesideLoads text = linesBesideLoads other →
      namesOf (Line.scan text) = namesOf (Line.scan other)) :
    (source.onFiles files).readHalf path namesOf = source.readHalf path namesOf := by
  simp only [readHalf, onFiles_files, onFiles_encoding, onFiles_log]
  rcases h.readText with heq | ⟨text, other, htext, hother, hlines⟩
  · rw [heq]
  · rw [htext, hother]
    change (pure (.read (namesOf (Line.scan other))) : Run Half) =
      pure (.read (namesOf (Line.scan text)))
    rw [hnames text other hlines]

theorem half_onFiles {path : Path} {namesOf : List Line → List String}
    (h : source.files.AgreeAt files source.encoding path)
    (hnames : ∀ text other, linesBesideLoads text = linesBesideLoads other →
      namesOf (Line.scan text) = namesOf (Line.scan other)) (isThere : Bool) :
    (source.onFiles files).half isThere path namesOf = source.half isThere path namesOf := by
  unfold half
  rw [readHalf_onFiles h hnames]

theorem AgreesOn.inspect_eq (h : source.AgreesOn files name) :
    (source.onFiles files).inspect name = source.inspect name := by
  simp only [inspect, onFiles_layout, onFiles_log, h.locate_eq,
    half_onFiles h.metadata (fun _ _ => externalNames_eq_of_linesBesideLoads),
    half_onFiles h.implementation (fun _ _ => labelNames_eq_of_linesBesideLoads)]

theorem resolveLine_onFiles {seen : List String} {line : Line}
    (h : ∀ name, Directive.loadName? line.trimmed = some name → source.AgreesOn files name) :
    (source.onFiles files).resolveLine seen line = source.resolveLine seen line := by
  unfold resolveLine
  cases hname : Directive.loadName? line.trimmed with
  | none => rfl
  | some name =>
    simp only [(h name hname).inspect_eq]
    rfl

-- Both runs go down the lines together and have seen the same names at each of them.
theorem resolveFrom_onFiles {seen : List String} {lines : List Line}
    (h : ∀ name ∈ loadedNames lines, source.AgreesOn files name) :
    (source.onFiles files).resolveFrom seen lines = source.resolveFrom seen lines := by
  induction lines generalizing seen with
  | nil => rfl
  | cons line lines ih =>
    have hrest : ∀ seen, (source.onFiles files).resolveFrom seen lines =
        source.resolveFrom seen lines := by
      intro seen
      apply ih
      intro name hname
      exact h name (mem_loadedNames_cons hname)
    rw [resolveFrom, resolveFrom]
    by_cases hline : line.is .load = true
    · have hfirst : (source.onFiles files).resolveLine seen line =
          source.resolveLine seen line := by
        apply resolveLine_onFiles
        intro name hname
        exact h name (mem_loadedNames.mpr ⟨line, List.mem_cons_self, hline, hname⟩)
      simp only [if_pos hline, hfirst, hrest]
    · rw [if_neg hline, if_neg hline, hrest]

theorem resolve_onFiles {lines : List Line}
    (h : ∀ name ∈ loadedNames lines, source.AgreesOn files name) :
    (source.onFiles files).resolve lines = source.resolve lines := by
  rw [resolve, resolve, resolveFrom_onFiles h]

end ModuleSource

-- Files that no `LOAD` line of the document names may hold anything, and module files may load
-- one another or the document: a pass writes the same log and comes to the same end.
theorem validate_eq_of_agreesOn {workspace : Workspace} {context : Context} {document : Document}
    {files : FileSystem}
    (h : ∀ name ∈ loadedNames document.lines,
      (document.source workspace context).AgreesOn files name) :
    validate { workspace with files } context document = validate workspace context document := by
  have hresolve : (document.source { workspace with files } context).resolve document.lines =
      (document.source workspace context).resolve document.lines :=
    ModuleSource.resolve_onFiles h
  simp only [validate, hresolve]
  rfl

def twoLoads : Document :=
  ⟨Path.ofString "main.stack", "LOAD a\nLOAD \"b\"\nCALL a.f\nCALL c.h", "stackscript"⟩

/-- The modules load each other, the document and a module that is there. -/
def circularFiles : List (String × String) :=
  [("a.stackm", "EXTERN f\nLOAD b"), ("a.stack", "LOAD main\nLOAD a\ng:"),
    ("b.stackm", "\n LOAD\"a\""), ("b.stack", "LOAD c:\nLOAD c"), ("c.stackm", "EXTERN h"),
    ("c.stack", "h:")]

/-- The files of the modules without these lines, and another file. -/
def plainFiles : List (String × String) :=
  [("a.stackm", "EXTERN f"), ("a.stack", "g:"), ("b.stackm", ""), ("b.stack", "LOAD c:"),
    ("main.stack", "LOAD d")]

theorem validate_circularFiles_eq_plainFiles :
    validate (.ofFiles circularFiles) {} twoLoads = validate (.ofFiles plainFiles) {} twoLoads ∧
      (validate (.ofFiles circularFiles) {} twoLoads).outcome.toOption.map
          (fun report => report.diagnostics.map Diagnostic.message) =
        some ["Module not loaded: c", "No HALT instruction found"] := by
  have hnames : loadedNames twoLoads.lines = ["a", "b"] := by decide +kernel
  refine ⟨(validate_eq_of_agreesOn ?_).symm, by decide +kernel⟩
  intro name hname
  rw [hnames, List.mem_cons, List.mem_singleton] at hname
  rcases hname with rfl | rfl
  · refine ⟨⟨?_, .inr ⟨"EXTERN f\nLOAD b", "EXTERN f", ?_, ?_, ?_⟩⟩,
      ⟨?_, .inr ⟨"LOAD main\nLOAD a\ng:", "g:", ?_, ?_, ?_⟩⟩⟩ <;> decide +kernel
  · refine ⟨⟨?_, .inr ⟨"\n LOAD\"a\"", "", ?_, ?_, ?_⟩⟩,
      ⟨?_, .inr ⟨"LOAD c:\nLOAD c", "LOAD c:", ?_, ?_, ?_⟩⟩⟩ <;> decide +kernel

end StackScript
