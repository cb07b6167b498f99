import StackScript.Diagnostic
import StackScript.Limit
import StackScript.Text.Column

/-! Diagnostics shown with the source line they are about. -/
namespace StackScript

namespace Diagnostic

/-- The width of the line number in front of a source line. -/
def gutterWidth (lineNumber : Nat) : Nat :=
  max 5 (toString lineNumber).length

/-- The source line of the diagnostic, if the lines hold it. -/
def sourceLine? (lines : List Line) (d : Diagnostic) : Option Line :=
  if d.line < 0 then none else lines[d.line.toNat]?

/-- The column just past the marked text. A diagnostic that ends on another line marks the rest of
its first line. -/
def markEnd (d : Diagnostic) (source : Line) : Int :=
  if d.endLine = d.line then max d.column d.endColumn else source.length

/-- How many carets are shown; there is at least one. -/
def caretCount (d : Diagnostic) (source : Line) : Int :=
  max 1 (d.markEnd source - d.column)

def caretLine (d : Diagnostic) (source : Line) (width : Nat) : String :=
  Text.spaces width ++ " | " ++ Text.spaces d.column.toNat
    ++ String.ofList (List.replicate (d.caretCount source).toNat '^')

/-- The header, then the source line behind its number, then carets under the marked text. -/
def snippet (directory : Path) (lines : List Line) (d : Diagnostic) : List String :=
  match d.sourceLine? lines with
  | none => [d.header directory]
  | some source =>
      let lineNumber := d.line.toNat + 1
      let width := gutterWidth lineNumber
      [d.header directory, Text.flushRight width (toString lineNumber) ++ " | " ++ source.raw,
        d.caretLine source width]

/-- The first limit that the header passes. Only a diagnostic with a file shows its place there. -/
def headerLimit? (d : Diagnostic) : Option Limit :=
  if d.filename.isSome then Limit.ofDecimal? (d.line + 1) <|> Limit.ofDecimal? (d.column + 1)
  else none

/-- The first limit that the snippet passes, from the header to the carets. -/
def snippetLimit? (lines : List Line) (d : Diagnostic) : Option Limit :=
  d.headerLimit? <|> (d.sourceLine? lines).bind (fun source =>
    Limit.ofRun? d.column <|> Limit.ofRun? (d.caretCount source))

end Diagnostic

end StackScript
