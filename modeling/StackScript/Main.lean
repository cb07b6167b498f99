import StackScript.CommandLine.Request
import StackScript.Snapshot
import Std.Time.Format

/-! The program: reads the files that a request needs, runs it, prints. -/
namespace StackScript.Program

/-- The number and the text that the system gives for an error. -/
def systemError : IO.Error → Nat × String
  | .alreadyExists _ code text => (code.toNat, text)
  | .otherError code text => (code.toNat, text)
  | .resourceBusy code text => (code.toNat, text)
  | .resourceVanished code text => (code.toNat, text)
  | .unsupportedOperation code text => (code.toNat, text)
  | .hardwareFault code text => (code.toNat, text)
  | .unsatisfiedConstraints code text => (code.toNat, text)
  | .illegalOperation code text => (code.toNat, text)
  | .protocolError code text => (code.toNat, text)
  | .timeExpired code text => (code.toNat, text)
  | .interrupted _ code text => (code.toNat, text)
  | .noFileOrDirectory _ code text => (code.toNat, text)
  | .invalidArgument _ code text => (code.toNat, text)
  | .permissionDenied _ code text => (code.toNat, text)
  | .resourceExhausted _ code text => (code.toNat, text)
  | .inappropriateType _ code text => (code.toNat, text)
  | .noSuchThing _ code text => (code.toNat, text)
  | .unexpectedEof => (0, "unexpected end of file")
  | .userError text => (0, text)

/-- Some calls give the number with its sign changed, in 32 bits. -/
def fileError (error : IO.Error) : FileError :=
  let (number, text) := systemError error
  FileError.ofNumber (if number < 0x80000000 then number else 0x100000000 - number) text

def readPath (path : Path) : IO (Path × Except FileError (List UInt8)) := do
  try
    let bytes ← IO.FS.readBinFile path.toString
    return (path, .ok bytes.toList)
  catch error => return (path, .error (fileError error))

def readPaths (paths : List Path) : IO Snapshot := do
  return ⟨← (paths.filter (fun path => !FileSystem.hasNul path)).mapM readPath⟩

/-- Reads the documents of a request and the module files that they load. -/
def readAhead (directory : Except FileError Path) (context : Context)
    (request : CommandLine.Request) : IO Workspace := do
  let documents ← readPaths (request.files.map Path.ofString)
  let workspace : Workspace := ⟨directory, documents.fileSystem⟩
  let modules ← readPaths (request.files.flatMap (CommandLine.moduleFiles workspace context))
  return ⟨directory, Snapshot.fileSystem ⟨documents.entries ++ modules.entries⟩⟩

def currentDirectory : IO (Except FileError Path) := do
  try
    return .ok (Path.ofString (← IO.currentDir).toString)
  catch error => return .error (fileError error)

def currentTime : IO String := do
  return (← Std.Time.PlainDateTime.now).format "uuuu-MM-dd HH:mm:ss"

def usage : String :=
  "usage: ssc [-h] [-v] [-l] \x7bcheck,validate,lines,sym,symbols,keywords\x7d ..."

def runRequest (flags : CommandLine.Flags) (request : CommandLine.Request) : IO UInt32 := do
  let context := flags.context
  let workspace ← readAhead (← currentDirectory) context request
  let run := request.run workspace context
  IO.eprint (Log.render (← currentTime) (some context.log) run.log)
  match run.outcome with
  | .ok output =>
      IO.print output.text
      return output.exitCode.toUInt32
  | .error abort =>
      IO.eprintln abort.message
      return 1

end StackScript.Program

open StackScript StackScript.Program in
def main (arguments : List String) : IO UInt32 := do
  match CommandLine.parse arguments with
  | .error failure =>
      IO.eprintln usage
      IO.eprintln failure.message
      return 2
  | .ok (.help _) =>
      IO.println usage
      return 0
  | .ok (.run flags request) => runRequest flags request
