import StackScript.Diagnostic
import StackScript.Directive
import StackScript.QualifiedName
import StackScript.Run
import StackScript.Symbol

/-! Modules: the two files of each, and what they export. -/
namespace StackScript

/-- Where module files are: next to the document, with one suffix for the file that declares
functions and one for the file that holds them. -/
structure ModuleLayout where
  root : Path
  metadataSuffix : String := ".stackm"
  implementationSuffix : String := ".stack"
deriving DecidableEq

namespace ModuleLayout

def base (layout : ModuleLayout) (name : String) : Path :=
  layout.root.join (Path.ofString name)

/-- The file of a module that has the given suffix. The suffix follows the whole last part of the
name, so dots in names are kept. -/
def file (layout : ModuleLayout) (name suffix : String) : Path :=
  let base := layout.base name
  base.parent.join (Path.ofString (base.name ++ suffix))

def metadata (layout : ModuleLayout) (name : String) : Path :=
  layout.file name layout.metadataSuffix

def implementation (layout : ModuleLayout) (name : String) : Path :=
  layout.file name layout.implementationSuffix

end ModuleLayout

inductive ModuleStatus where
  | loaded
  | missingMetadata
  | missingImplementation
  | missingBoth
  | readError
deriving DecidableEq, Repr

def ModuleStatus.name : ModuleStatus → String
  | .loaded => "LOADED"
  | .missingMetadata => "MISSING_METADATA"
  | .missingImplementation => "MISSING_IMPLEMENTATION"
  | .missingBoth => "MISSING_BOTH"
  | .readError => "READ_ERROR"

/-- What became of one of the two files of a module. -/
inductive Half where
  | missing
  | unreadable (error : ReadError)
  | read (names : List String)
deriving DecidableEq

namespace Half

def names : Half → List String
  | .read names => names
  | _ => []

def isMissing : Half → Bool
  | .missing => true
  | _ => false

def error? : Half → Option ReadError
  | .unreadable error => some error
  | _ => none

end Half

/-- What was found under a module's name: no way to tell which files there are, or the state of
each. -/
inductive Inspection where
  | unlocatable (error : ReadError)
  | located (metadata implementation : Half)
deriving DecidableEq

namespace Inspection

def status : Inspection → ModuleStatus
  | .unlocatable _ => .readError
  | .located (.unreadable _) _ => .readError
  | .located _ (.unreadable _) => .readError
  | .located .missing .missing => .missingBoth
  | .located .missing (.read _) => .missingMetadata
  | .located (.read _) .missing => .missingImplementation
  | .located (.read _) (.read _) => .loaded

/-- Names of the metadata file, then of the implementation file, each at its first place only. -/
def exports : Inspection → List String
  | .unlocatable _ => []
  | .located metadata implementation => (metadata.names ++ implementation.names).eraseDups

end Inspection

/-- A module that a `LOAD` line names; `line` is the first that does. -/
structure Module where
  name : String
  metadata : Path
  implementation : Path
  line : Line
  inspection : Inspection
deriving DecidableEq

namespace Module

def status (m : Module) : ModuleStatus :=
  m.inspection.status

def exports (m : Module) : List String :=
  m.inspection.exports

def qualifiedExports (m : Module) : List String :=
  m.exports.map (qualify m.name)

/-- The functions that loading the module makes visible. -/
def symbols (m : Module) : List Symbol :=
  m.qualifiedExports.map (fun name => Symbol.ofFunction name (some m.name))

end Module

/-- The functions that the lines of a metadata file declare. -/
def externalNames (lines : List Line) : List String :=
  lines.flatMap (fun line =>
    if line.is .external then Directive.externNames line.trimmed else [])

/-- The labels among the lines of an implementation file. -/
def labelNames (lines : List Line) : List String :=
  lines.filterMap Line.label?

/-- Where the modules of a document come from, and what is logged about them. -/
structure ModuleSource where
  files : FileSystem
  encoding : String
  layout : ModuleLayout
  log : Option LogSettings := some {}

namespace ModuleSource

/-- Whether the metadata file and the implementation file are there. The second is looked for only
if that question has an answer for the first. -/
def locate (source : ModuleSource) (name : String) : FileResult (Bool × Bool) :=
  match source.files.present (source.layout.metadata name) with
  | .error a => .error a
  | .ok (.error e) => .ok (.error e)
  | .ok (.ok hasMetadata) =>
      match source.files.present (source.layout.implementation name) with
      | .error a => .error a
      | .ok (.error e) => .ok (.error e)
      | .ok (.ok hasImplementation) => .ok (.ok (hasMetadata, hasImplementation))

/-- Reads a file that is there and takes the names that `namesOf` finds in its lines. -/
def readHalf (source : ModuleSource) (path : Path) (namesOf : List Line → List String) :
    Run Half := do
  match ← Run.ofExcept (source.files.readText source.encoding path) with
  | .error e =>
      Run.debug source.log ("Cannot read " ++ path.toString ++ ": " ++ e.message)
      pure (.unreadable e)
  | .ok text => pure (.read (namesOf (Line.scan text)))

def half (source : ModuleSource) (isThere : Bool) (path : Path)
    (namesOf : List Line → List String) : Run Half :=
  if isThere then source.readHalf path namesOf else pure .missing

/-- Looks at the files of a module. The outcome depends on nothing but the name and these files. -/
def inspect (source : ModuleSource) (name : String) : Run Inspection := do
  let metadata := source.layout.metadata name
  let implementation := source.layout.implementation name
  Run.debug source.log ("Resolved module '" ++ name ++ "' to " ++ metadata.toString ++ " + "
    ++ implementation.toString)
  match ← Run.ofExcept (source.locate name) with
  | .error e =>
      Run.debug source.log ("Cannot locate module '" ++ name ++ "': " ++ e.message)
      pure (.unlocatable e)
  | .ok (hasMetadata, hasImplementation) =>
      let first ← source.half hasMetadata metadata externalNames
      let second ← source.half hasImplementation implementation labelNames
      let inspection := Inspection.located first second
      Run.debug source.log ("Module '" ++ name ++ "': " ++ inspection.status.name ++ ", "
        ++ toString inspection.exports.length ++ " export(s)")
      pure inspection

/-- The files of the modules that the given lines load. -/
def paths (source : ModuleSource) (lines : List Line) : List Path :=
  (lines.filter (fun line => line.is .load)).flatMap (fun line =>
    match Directive.loadName? line.trimmed with
    | none => []
    | some name => [source.layout.metadata name, source.layout.implementation name])

/-- What is wrong with the files of a module. -/
def problems (source : ModuleSource) (name : String) : Inspection → List Problem
  | .unlocatable e => [.unreadableModule e]
  | .located metadata implementation =>
      (if metadata.isMissing then
        [.missingMetadata (name ++ source.layout.metadataSuffix)] else [])
      ++ (if implementation.isMissing then
        [.missingImplementation (name ++ source.layout.implementationSuffix)] else [])
      ++ (metadata.error?.toList ++ implementation.error?.toList).map .unreadableModule

end ModuleSource

end StackScript
