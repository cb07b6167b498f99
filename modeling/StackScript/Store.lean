import StackScript.Diagnostic
import Std.Data.TreeMap

/-! Diagnostics by document. -/
namespace StackScript

/-- The latest diagnostics of each document, by its identity. -/
structure Store where
  entries : Std.TreeMap String (List Diagnostic) := {}

namespace Store

/-- Replaces what is held for a document; lists are never merged. -/
def set (store : Store) (identity : String) (diagnostics : List Diagnostic) : Store :=
  ⟨store.entries.insert identity diagnostics⟩

/-- What is held for a document, or nothing. -/
def get (store : Store) (identity : String) : List Diagnostic :=
  store.entries.getD identity []

def contains (store : Store) (identity : String) : Bool :=
  store.entries.contains identity

def erase (store : Store) (identity : String) : Store :=
  ⟨store.entries.erase identity⟩

/-- The documents that have an entry, in increasing order. -/
def identities (store : Store) : List String :=
  store.entries.keys

end Store

end StackScript
