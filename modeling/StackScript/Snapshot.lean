import StackScript.FileSystem

/-! Files read ahead of a pass. -/
namespace StackScript

/-- What reading each of some paths gave. -/
structure Snapshot where
  entries : List (Path × Except FileError (List UInt8)) := []

def Snapshot.find (snapshot : Snapshot) (path : Path) : Except FileError (List UInt8) :=
  (snapshot.entries.lookup path).getD (.error .notFound)

/-- The snapshot as a file system. A directory is there although it cannot be read; a path that was
not read ahead has nothing. -/
def Snapshot.fileSystem (snapshot : Snapshot) : FileSystem where
  probe path :=
    match snapshot.entries.lookup path with
    | some (.ok _) => .ok ()
    | some (.error .isADirectory) => .ok ()
    | some (.error e) => .error e
    | none => .error .notFound
  opens path := (snapshot.find path).map (fun _ => ())
  read path := snapshot.find path

end StackScript
