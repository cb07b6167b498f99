import StackScript.Text.Utf8

/-! Named character encodings and the text of a file's bytes. -/
namespace StackScript.Text

/-- The encodings that files are read in; any other one counts as unknown. -/
inductive Encoding where
  | utf8
  | ascii
  | latin1
deriving DecidableEq, Repr

namespace Encoding

def all : List Encoding :=
  [.utf8, .ascii, .latin1]

/-- The name under which an encoding is registered. -/
def key : Encoding → String
  | .utf8 => "utf_8"
  | .ascii => "ascii"
  | .latin1 => "latin_1"

/-- Other names under which an encoding is found. -/
def aliases : Encoding → List String
  | .utf8 => ["u8", "utf", "utf8", "utf8_ucs2", "utf8_ucs4", "cp65001"]
  | .ascii =>
      ["646", "ansi_x3.4_1968", "ansi_x3_4_1968", "ansi_x3.4_1986", "cp367", "csascii", "ibm367",
        "iso646_us", "iso_646.irv_1991", "iso_ir_6", "us", "us_ascii"]
  | .latin1 =>
      ["8859", "cp819", "csisolatin1", "ibm819", "iso8859", "iso8859_1", "iso_8859_1",
        "iso_8859_1_1987", "iso_ir_100", "l1", "latin", "latin1"]

/-- Whether a character counts in the name of an encoding. -/
def isNameChar (c : Char) : Bool :=
  c.isAlphanum || c == '.'

/-- Lower case, and one underscore for all that stands between two characters that count; `gap`
tells whether something stands in front. -/
def normalizeFrom : Bool → List Char → List Char
  | _, [] => []
  | gap, c :: cs =>
      if isNameChar c then
        let rest := c.toLower :: normalizeFrom false cs
        if gap then '_' :: rest else rest
      else normalizeFrom true cs

/-- The name in the form under which it is looked up. -/
def normalize (name : String) : List Char :=
  normalizeFrom false (name.toList.dropWhile (fun c => !isNameChar c))

/-- Whether the encoding is meant by a name in that form. A point may stand for the underscore of an
alias. -/
def isNamed (encoding : Encoding) (name : List Char) : Bool :=
  encoding.key.toList == name
    || encoding.aliases.any (fun other =>
      other.toList == name || other.toList == name.map (fun c => if c == '.' then '_' else c))

/-- The encoding of a name. Case, punctuation and the choice between aliases do not matter. -/
def ofName? (name : String) : Option Encoding :=
  all.find? (fun encoding => encoding.isNamed (normalize name))

example : ofName? "UTF-8" = some .utf8 ∧ ofName? " iso 8859-1 " = some .latin1 ∧
    ofName? "US.ASCII" = some .ascii ∧ ofName? "utf.8" = none := by decide

def decodeLatin1 (bytes : List UInt8) : String :=
  String.ofList (bytes.map (fun b => Char.ofNat b.toNat))

/-- Reads bytes below 128 only; the first other byte is the error. -/
def decodeAscii (bytes : List UInt8) : Except DecodeError String :=
  match bytes.zipIdx.find? (fun b => 0x80 ≤ b.1) with
  | some (b, i) => .error ⟨"ascii", i, i + 1, b, .beyondAscii⟩
  | none => .ok (decodeLatin1 bytes)

def decode : Encoding → List UInt8 → Except DecodeError String
  | .utf8, bytes => Utf8.decode bytes
  | .ascii, bytes => decodeAscii bytes
  | .latin1, bytes => .ok (decodeLatin1 bytes)

end Encoding

/-- Moves a text to `done`, last character first, with every CR LF and every lone CR turned into
LF. -/
def unifyNewlinesOnto : List Char → List Char → List Char
  | done, [] => done
  | done, '\r' :: '\n' :: cs => unifyNewlinesOnto ('\n' :: done) cs
  | done, '\r' :: cs => unifyNewlinesOnto ('\n' :: done) cs
  | done, c :: cs => unifyNewlinesOnto (c :: done) cs

/-- The text with LF as its only line end. -/
def unifyNewlines (s : String) : String :=
  String.ofList (unifyNewlinesOnto [] s.toList).reverse

end StackScript.Text
