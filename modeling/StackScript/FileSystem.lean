import StackScript.Path
import StackScript.Text.Encoding
import StackScript.Text.NameCodec

/-! Files as a validation pass sees them, and the ways in which reaching for one fails. -/
namespace StackScript

/-- Why the system refuses a path. -/
inductive FileError where
  | notFound
  | notADirectory
  | isADirectory
  | nameTooLong
  | other (number : Nat) (reason : String)
deriving DecidableEq, Repr

namespace FileError

def number : FileError → Nat
  | .notFound => 2
  | .notADirectory => 20
  | .isADirectory => 21
  | .nameTooLong => 36
  | .other number _ => number

def reason : FileError → String
  | .notFound => "No such file or directory"
  | .notADirectory => "Not a directory"
  | .isADirectory => "Is a directory"
  | .nameTooLong => "File name too long"
  | .other _ reason => reason

def ofNumber (number : Nat) (reason : String) : FileError :=
  match number with
  | 2 => .notFound
  | 20 => .notADirectory
  | 21 => .isADirectory
  | 36 => .nameTooLong
  | _ => .other number reason

/-- Nothing is at the path, as opposed to something that cannot be reached. -/
def isAbsence : FileError → Bool
  | .notFound => true
  | .notADirectory => true
  | _ => false

end FileError

def FileError.message (error : FileError) : String :=
  "[Errno " ++ toString error.number ++ "] " ++ error.reason

/-- Why a file has no text. An error that comes up while an open file is read does not name it. -/
inductive ReadError where
  | file (path : Path) (error : FileError)
  | broken (error : FileError)
  | undecodable (error : Text.DecodeError)
deriving DecidableEq

def ReadError.message : ReadError → String
  | .file path error => error.message ++ ": " ++ Text.quoted path.toString
  | .broken error => error.message
  | .undecodable error => error.message

/-- What ends a pass before it has a result: a path that is no name of a file, an encoding that is
not known, or a working directory that cannot be told. -/
inductive Abort where
  | embeddedNul
  | unencodable (error : Text.EncodeError)
  | unknownEncoding (name : String)
  | noDirectory (error : FileError)
deriving DecidableEq, Repr

def Abort.message : Abort → String
  | .embeddedNul => "embedded null byte"
  | .unencodable error => error.message
  | .unknownEncoding name => "unknown encoding: " ++ name
  | .noDirectory error => error.message

/-- Files by path: whether something is there, whether it can be opened, and then its bytes. A
relative path starts at a directory that the file system chooses. -/
structure FileSystem where
  probe : Path → Except FileError Unit
  opens : Path → Except FileError Unit
  read : Path → Except FileError (List UInt8)
  names : Text.NameCodec := {}

/-- What a file operation gives: a value or a fault that is reported, unless it ends the pass. -/
abbrev FileResult (α : Type) := Except Abort (Except ReadError α)

namespace FileSystem

def hasNul (path : Path) : Bool :=
  path.toString.toList.contains '\x00'

/-- Why a path cannot be asked about, whatever files there are. -/
def refusal? (files : FileSystem) (path : Path) : Option Abort :=
  match files.names.error? path.toString with
  | some e => some (.unencodable e)
  | none => if hasNul path then some .embeddedNul else none

/-- Whether something is at the path. -/
def present (files : FileSystem) (path : Path) : FileResult Bool :=
  match files.refusal? path with
  | some a => .error a
  | none =>
      match files.probe path with
      | .ok () => .ok (.ok true)
      | .error e => .ok (if e.isAbsence then .ok false else .error (.file path e))

/-- The text of a file, with LF as its only line end. An encoding that is not known counts only
after the file has been opened. -/
def readText (files : FileSystem) (encoding : String) (path : Path) : FileResult String :=
  match files.refusal? path with
  | some a => .error a
  | none =>
      match files.opens path with
      | .error e => .ok (.error (.file path e))
      | .ok () =>
          match Text.Encoding.ofName? encoding with
          | none => .error (.unknownEncoding encoding)
          | some encoding =>
              match files.read path with
              | .error e => .ok (.error (.broken e))
              | .ok bytes =>
                  match encoding.decode bytes with
                  | .error e => .ok (.error (.undecodable e))
                  | .ok text => .ok (.ok (Text.unifyNewlines text))

end FileSystem

/-- A file system and the working directory, in which relative paths start. It cannot be told when
it has been removed. -/
structure Workspace where
  directory : Except FileError Path
  files : FileSystem

namespace Workspace

/-- The working directory as far as it can be told. -/
def base (workspace : Workspace) : Path :=
  match workspace.directory with
  | .ok directory => directory
  | .error _ => Path.ofString ""

def absolute (workspace : Workspace) (path : Path) : Path :=
  workspace.base.join path

/-- Only an absolute path does without the working directory. -/
def reach (workspace : Workspace) (path : Path) : Except Abort Unit :=
  if path.isAbsolute then .ok ()
  else
    match workspace.directory with
    | .ok _ => .ok ()
    | .error e => .error (.noDirectory e)

end Workspace

end StackScript
