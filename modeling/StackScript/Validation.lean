import StackScript.Context
import StackScript.Declaration
import StackScript.Document
import StackScript.Reference
import StackScript.Resolution

/-! One validation pass over one document. -/
namespace StackScript

/-- Everything that a pass finds out about a document. -/
structure Report where
  identity : String
  lines : List Line
  symbols : SymbolTable
  modules : List Module
  diagnostics : List Diagnostic
deriving DecidableEq

namespace Report

def errors (report : Report) : List Diagnostic :=
  report.diagnostics.filter (fun d => d.severity == .error)

def warnings (report : Report) : List Diagnostic :=
  report.diagnostics.filter (fun d => d.severity == .warning)

def hasErrors (report : Report) : Bool :=
  report.diagnostics.any (fun d => d.severity == .error)

def hasWarnings (report : Report) : Bool :=
  report.diagnostics.any (fun d => d.severity == .warning)

def moduleNames (report : Report) : List String :=
  report.modules.map Module.name

end Report

/-- Where the modules of a document are found under a context. -/
def Document.source (workspace : Workspace) (context : Context) (document : Document) :
    ModuleSource where
  files := workspace.files
  encoding := context.encoding
  layout := ⟨document.directory workspace, context.metadataSuffix, context.implementationSuffix⟩
  log := context.log

/-- Validates a document: its own symbols, then its modules, then what it refers to. Diagnostics
stand in this order. Each pass starts afresh, with the absolute path of the document. -/
def validate (workspace : Workspace) (context : Context) (document : Document) : Run Report := do
  Run.ofExcept (workspace.reach document.path)
  let identity := document.identity workspace
  let filename := some identity
  Run.info context.log ("Validating '" ++ identity ++ "'")
  Run.stage context.log "Scanning lines" identity
  let lines := document.lines
  Run.debug context.log ("Scanned " ++ toString lines.length ++ " line(s)")
  Run.stage context.log "Collecting local symbols" identity
  let declared := Declaration.extend {} lines
  let declarationDiagnostics := Declaration.diagnostics filename lines
  Run.debug context.log ("Collected " ++ toString declared.functions.length ++ " function(s), "
    ++ toString declared.vars.length ++ " variable(s)")
  Run.stage context.log "Resolving modules" identity
  let source := document.source workspace context
  let resolution ← source.resolve lines
  let moduleDiagnostics := source.diagnostics filename resolution
  Run.debug context.log ("Module resolution processed " ++ toString resolution.modules.length
    ++ " module(s) with " ++ toString moduleDiagnostics.length ++ " diagnostic(s)")
  Run.stage context.log "Checking references" identity
  let symbols := declared.defineAll resolution.symbols
  let scope : Scope := ⟨symbols, resolution.moduleNames⟩
  let referenceDiagnostics := scope.diagnostics filename document.text lines
  Run.debug context.log ("Reference checking produced " ++ toString referenceDiagnostics.length
    ++ " diagnostic(s)")
  let report : Report :=
    { identity, lines, symbols, modules := resolution.modules
      diagnostics := declarationDiagnostics ++ moduleDiagnostics ++ referenceDiagnostics }
  Run.info context.log ("Validation complete: " ++ toString report.diagnostics.length
    ++ " total diagnostic(s), " ++ toString report.errors.length ++ " error(s)")
  pure report

end StackScript
