import StackScript.CommandLine.Arguments
import StackScript.Snippet
import StackScript.Validation

/-! The commands of the program. -/
namespace StackScript.CommandLine

/-- The options of a pass that the flags ask for: the more verbose, the more is logged. -/
def Flags.context (flags : Flags) : Context where
  log :=
    { level := if 2 ≤ flags.verbosity then .debug else if 1 ≤ flags.verbosity then .info else .error
      rich := flags.rich }

/-- What a command prints, line by line, and its exit code. -/
structure Output where
  lines : List String := []
  exitCode : Nat := 0
deriving DecidableEq, Repr

def Output.text (output : Output) : String :=
  String.join (output.lines.map (· ++ "\n"))

/-- Reads the document that an argument names. If it cannot be read, that is logged. -/
def openDocument (workspace : Workspace) (context : Context) (argument : String) :
    Run (Option Document) := do
  let path := Path.ofString argument
  match ← Run.ofExcept (Document.read workspace.files path context.languageId context.encoding) with
  | .ok document => pure (some document)
  | .error e =>
      Run.note context.log
        ⟨.error, "error: [SSC-0010] cannot read " ++ argument ++ ": " ++ e.message⟩
      pure none

/-- Logs the diagnostics of a pass with their source lines. -/
def logDiagnostics (settings : Option LogSettings) (directory : Path) (lines : List Line)
    (diagnostics : List Diagnostic) : Run Unit :=
  ⟨(diagnostics.flatMap (Diagnostic.snippet directory lines)).flatMap
    (fun message => Log.note settings ⟨.error, message⟩), .ok ()⟩

/-- Logs diagnostics of any origin, unless one of them passes a limit. -/
def logForeign (settings : Option LogSettings) (directory : Path) (lines : List Line)
    (diagnostics : List Diagnostic) : Except Limit Log :=
  match diagnostics.findSome? (Diagnostic.snippetLimit? lines) with
  | some limit => .error limit
  | none => .ok (logDiagnostics settings directory lines diagnostics).log

/-- Validates a document and logs its diagnostics. -/
def report (workspace : Workspace) (context : Context) (document : Document) : Run Report := do
  let report ← validate workspace context document
  logDiagnostics context.log workspace.base report.lines report.diagnostics
  pure report

/-- The exit code for one file: one if it cannot be read or has an error. -/
def checkFile (workspace : Workspace) (context : Context) (argument : String) : Run Nat := do
  match ← openDocument workspace context argument with
  | none => pure 1
  | some document =>
      let report ← report workspace context document
      pure (if report.hasErrors then 1 else 0)

/-- Checks files one by one; a file that fails does not stop the others. -/
def checkFiles (workspace : Workspace) (context : Context) : List String → Run Nat
  | [] => pure 0
  | argument :: arguments => do
      let first ← checkFile workspace context argument
      (fun rest => max first rest) <$> checkFiles workspace context arguments

/-- A line behind its index. -/
def showLine (line : Line) : String :=
  Text.flushRight 5 (toString line.index) ++ " | " ++ line.raw

def dumpLines (document : Document) : Output :=
  { lines := document.lines.map showLine }

/-- The rows of a section, or a mark that it has none. -/
def showSection (title : String) (rows : List String) : List String :=
  ("  " ++ title ++ ":") :: if rows.isEmpty then ["    <none>"] else rows.map ("    " ++ ·)

def sortByName (symbols : List Symbol) : List Symbol :=
  symbols.mergeSort (fun a b => a.name ≤ b.name)

/-- A function, with the module it comes from if that has a name. -/
def showFunction (symbol : Symbol) : String :=
  match symbol.origin with
  | none => symbol.name
  | some origin =>
      if origin.isEmpty then symbol.name else symbol.name ++ " (from " ++ origin ++ ")"

def showModule (m : Module) : String :=
  Text.flushLeft 16 m.name ++ " " ++ m.status.name

def dumpSymbols (report : Report) : Output :=
  { lines :=
      ("=== " ++ report.identity ++ " ===")
        :: showSection "functions" ((sortByName report.symbols.functions).map showFunction)
        ++ showSection "variables" ((sortByName report.symbols.vars).map Symbol.name)
        ++ showSection "modules" (report.modules.map showModule) }

def listKeywords (table : KeywordTable) : Output :=
  { lines := table.completions.map (fun completion =>
      Text.flushLeft 14 completion.label ++ " "
        ++ (table.category? completion.label).getD "") }

/-- Runs a command on a document, if the document can be read. -/
def withDocument (workspace : Workspace) (context : Context) (argument : String)
    (command : Document → Run Output) : Run Output := do
  match ← openDocument workspace context argument with
  | none => pure { exitCode := 1 }
  | some document => command document

/-- The files that a request is about. -/
def Request.files : Request → List String
  | .check files => files
  | .lines file => [file]
  | .sym file => [file]
  | .keywords => []

/-- The module files that a pass over the given file would look for. -/
def moduleFiles (workspace : Workspace) (context : Context) (file : String) : List Path :=
  let path := Path.ofString file
  match Document.read workspace.files path context.languageId context.encoding with
  | .ok (.ok document) => (document.source workspace context).paths document.lines
  | _ => []

def Request.run (workspace : Workspace) (context : Context) : Request → Run Output
  | .check files => do
      let exitCode ← checkFiles workspace context files
      pure { exitCode }
  | .lines file =>
      withDocument workspace context file (fun document => pure (dumpLines document))
  | .sym file =>
      withDocument workspace context file (fun document => do
        let report ← report workspace context document
        pure (dumpSymbols report))
  | .keywords => pure (listKeywords context.keywords)

end StackScript.CommandLine
