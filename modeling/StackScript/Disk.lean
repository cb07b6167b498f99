import StackScript.FileSystem

/-! A file tree held in memory. -/
namespace StackScript

inductive Node where
  | file (bytes : List UInt8)
  | directory
deriving DecidableEq, Repr

/-- A place in the tree: the names from the root down. -/
abbrev Place := List String

/-- The nodes of a tree below its root. -/
structure Disk where
  nodes : List (Place × Node) := []
deriving DecidableEq, Repr

namespace Disk

def get? (disk : Disk) (place : Place) : Option Node :=
  if place = [] then some .directory else disk.nodes.lookup place

def put (disk : Disk) (place : Place) (node : Node) : Disk :=
  ⟨(place, node) :: disk.nodes.filter (fun entry => entry.1 != place)⟩

def longestName : Nat := 255

def longestPath : Nat := 4095

/-- Follows names from a place. What is passed through has to be a directory, and going up from the
root stays there. -/
def walk (disk : Disk) : Place → List String → Except FileError Place
  | place, [] => .ok place
  | place, part :: parts =>
      if disk.get? place = none then .error .notFound
      else if disk.get? place != some .directory then .error .notADirectory
      else if longestName < part.utf8ByteSize then .error .nameTooLong
      else if part = ".." then disk.walk place.dropLast parts
      else if (disk.get? (place ++ [part])).isSome then disk.walk (place ++ [part]) parts
      else .error .notFound

/-- The node at a path, seen from the place `here`. -/
def locate (disk : Disk) (here : Place) (path : Path) : Except FileError Node :=
  if longestPath < path.toString.utf8ByteSize then .error .nameTooLong
  else
    match disk.walk (if path.isAbsolute then [] else here) path.parts with
    | .error e => .error e
    | .ok place => .ok ((disk.get? place).getD .directory)

def bytesAt (disk : Disk) (here : Place) (path : Path) : Except FileError (List UInt8) :=
  match disk.locate here path with
  | .error e => .error e
  | .ok .directory => .error .isADirectory
  | .ok (.file bytes) => .ok bytes

/-- The tree as a file system whose relative paths start at `here`. -/
def fileSystem (disk : Disk) (here : Place) : FileSystem where
  probe path := (disk.locate here path).map (fun _ => ())
  opens path := (disk.bytesAt here path).map (fun _ => ())
  read path := disk.bytesAt here path

/-- Makes the directories on the way from `place` along `parts`, and tells where the way ends. -/
def makeDirectories (disk : Disk) : Place → List String → Disk × Place
  | place, [] => (disk, place)
  | place, part :: parts =>
      if part = ".." then disk.makeDirectories place.dropLast parts
      else
        let next := place ++ [part]
        let disk := if (disk.get? next).isSome then disk else disk.put next .directory
        disk.makeDirectories next parts

/-- Puts a node at a path seen from `here`, with the directories on the way. -/
def write (disk : Disk) (here : Place) (path : Path) (node : Node) : Disk :=
  let (disk, place) :=
    disk.makeDirectories (if path.isAbsolute then [] else here) path.parts.dropLast
  match path.parts.getLast? with
  | none => disk
  | some ".." => disk
  | some name => disk.put (place ++ [name]) node

/-- Removes what is at a path seen from `here`, with everything below it. -/
def remove (disk : Disk) (here : Place) (path : Path) : Disk :=
  match disk.walk (if path.isAbsolute then [] else here) path.parts with
  | .error _ => disk
  | .ok place => ⟨disk.nodes.filter (fun entry => !place.isPrefixOf entry.1)⟩

end Disk

end StackScript
