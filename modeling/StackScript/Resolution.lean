import StackScript.Module

/-! Resolution of the `LOAD` lines of a document. -/
namespace StackScript

/-- What a `LOAD` line amounts to. -/
inductive Load where
  | malformed
  | repeated (name : String)
  | fresh (loaded : Module)
deriving DecidableEq

namespace Load

def module? : Load → Option Module
  | .fresh loaded => some loaded
  | _ => none

end Load

/-- The `LOAD` lines of a document in order, each with what it amounts to. -/
structure Resolution where
  loads : List (Line × Load) := []
deriving DecidableEq

namespace Resolution

/-- The modules in order of first `LOAD`. -/
def modules (resolution : Resolution) : List Module :=
  resolution.loads.filterMap (fun load => load.2.module?)

def moduleNames (resolution : Resolution) : List String :=
  resolution.modules.map Module.name

/-- The functions that the modules make visible. -/
def symbols (resolution : Resolution) : List Symbol :=
  resolution.modules.flatMap Module.symbols

end Resolution

namespace ModuleSource

def loadProblems (source : ModuleSource) : Load → List Problem
  | .malformed => [.invalidLoad]
  | .repeated _ => []
  | .fresh loaded => source.problems loaded.name loaded.inspection

def diagnostics (source : ModuleSource) (filename : Option String) (resolution : Resolution) :
    List Diagnostic :=
  resolution.loads.flatMap (fun load =>
    (source.loadProblems load.2).map (Diagnostic.ofLine filename load.1))

/-- Treats one `LOAD` line; `seen` are the names loaded above it. -/
def resolveLine (source : ModuleSource) (seen : List String) (line : Line) : Run Load := do
  match Directive.loadName? line.trimmed with
  | none => pure .malformed
  | some name =>
      if seen.contains name then
        Run.debug source.log ("Module '" ++ name ++ "' already processed (line "
          ++ toString (line.index + 1) ++ ")")
        pure (.repeated name)
      else
        let inspection ← source.inspect name
        pure (.fresh ⟨name, source.layout.metadata name, source.layout.implementation name, line,
          inspection⟩)

/-- Treats the `LOAD` lines among the given ones, below lines that loaded `seen`. -/
def resolveFrom (source : ModuleSource) : List String → List Line → Run (List (Line × Load))
  | _, [] => pure []
  | seen, line :: lines =>
      if line.is .load then do
        let load ← source.resolveLine seen line
        let seen := load.module?.toList.map Module.name ++ seen
        (fun loads => (line, load) :: loads) <$> source.resolveFrom seen lines
      else source.resolveFrom seen lines

/-- Resolves the `LOAD` lines of a document. Each name is looked up once, where it comes first, and
a `LOAD` line inside a module file is never followed. -/
def resolve (source : ModuleSource) (lines : List Line) : Run Resolution :=
  Resolution.mk <$> source.resolveFrom [] lines

end ModuleSource

end StackScript
