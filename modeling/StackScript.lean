import StackScript.CommandLine.Arguments
import StackScript.CommandLine.Request
import StackScript.Context
import StackScript.Declaration
import StackScript.Diagnostic
import StackScript.Directive
import StackScript.Disk
import StackScript.Document
import StackScript.FileSystem
import StackScript.Keyword
import StackScript.Limit
import StackScript.Line
import StackScript.Log
import StackScript.Main
import StackScript.Module
import StackScript.Path
import StackScript.QualifiedName
import StackScript.Reference
import StackScript.Resolution
import StackScript.Run
import StackScript.Session
import StackScript.Snapshot
import StackScript.Snippet
import StackScript.Store
import StackScript.Symbol
import StackScript.Text.Blank
import StackScript.Text.Column
import StackScript.Text.DecodeError
import StackScript.Text.Digit
import StackScript.Text.Encoding
import StackScript.Text.NameCodec
import StackScript.Text.Printable
import StackScript.Text.Quoted
import StackScript.Text.Utf8
import StackScript.Validation
import StackScript.VariableReference
import StackScript.Proofs.FirstDefinition
import StackScript.Proofs.Inspection
import StackScript.Proofs.Resolution
import StackScript.Proofs.Pass
import StackScript.Proofs.Occurrence
import StackScript.Proofs.Provenance
import StackScript.Proofs.Verdict
import StackScript.Proofs.Abort
import StackScript.Proofs.BareName
import StackScript.Proofs.Halves
import StackScript.Proofs.Reading
import StackScript.Proofs.ScannedLine
import StackScript.Proofs.Stage
import StackScript.Proofs.CallVerdict
import StackScript.Proofs.Placement
import StackScript.Proofs.LineOrder
import StackScript.Proofs.StoreLaw
import StackScript.Proofs.LoadReport
import StackScript.Proofs.Growth
import StackScript.Proofs.Utf8
import StackScript.Proofs.LineEnding
import StackScript.Proofs.ReferenceSpan
import StackScript.Proofs.CheckedFiles
import StackScript.Proofs.FileFrame
import StackScript.Proofs.Logging
import StackScript.Proofs.Trimming
import StackScript.Proofs.DirectiveForm
import StackScript.Proofs.DeclaredSymbols
import StackScript.Proofs.JoinedLines
import StackScript.Proofs.ModuleFile
import StackScript.Proofs.HaltWarning
import StackScript.Proofs.HeaderText
import StackScript.Proofs.SnippetView
import StackScript.Proofs.DefinitionRun
import StackScript.Proofs.SymbolOrigin
import StackScript.Proofs.SymbolListing
import StackScript.Proofs.LineListing
import StackScript.Proofs.ExportOrder
