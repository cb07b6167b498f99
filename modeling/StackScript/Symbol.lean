/-! Symbols visible in a document, and the table that holds them. -/
namespace StackScript

inductive SymbolKind where
  | function
  | var
deriving DecidableEq, Repr

/-- A name of one kind. A function that came from a module keeps the module's name. -/
structure Symbol where
  name : String
  kind : SymbolKind
  origin : Option String := none
deriving DecidableEq, Repr

/-- Functions and variables, each in order of definition. -/
structure SymbolTable where
  functions : List Symbol := []
  vars : List Symbol := []
deriving DecidableEq, Repr

namespace SymbolTable

def ofKind (table : SymbolTable) : SymbolKind → List Symbol
  | .function => table.functions
  | .var => table.vars

def has (table : SymbolTable) (kind : SymbolKind) (name : String) : Bool :=
  (table.ofKind kind).any (fun symbol => symbol.name == name)

def hasFunction (table : SymbolTable) (name : String) : Bool :=
  table.has .function name

def hasVariable (table : SymbolTable) (name : String) : Bool :=
  table.has .var name

/-- Adds the symbol at the end of its kind, whatever is there already. -/
def push (table : SymbolTable) (symbol : Symbol) : SymbolTable :=
  match symbol.kind with
  | .function => { table with functions := table.functions ++ [symbol] }
  | .var => { table with vars := table.vars ++ [symbol] }

/-- Adds the symbol unless its name is taken in its kind; also tells whether it was added. -/
def define (table : SymbolTable) (symbol : Symbol) : SymbolTable × Bool :=
  if table.has symbol.kind symbol.name then (table, false) else (table.push symbol, true)

/-- The table after defining every symbol of a list in order. -/
def defineAll (table : SymbolTable) (symbols : List Symbol) : SymbolTable :=
  symbols.foldl (fun table symbol => (table.define symbol).1) table

def size (table : SymbolTable) : Nat :=
  table.functions.length + table.vars.length

theorem define_snd (table : SymbolTable) (symbol : Symbol) :
    (table.define symbol).2 = !table.has symbol.kind symbol.name := by
  unfold define
  split <;> simp_all

theorem ofKind_push_self (table : SymbolTable) (symbol : Symbol) :
    (table.push symbol).ofKind symbol.kind = table.ofKind symbol.kind ++ [symbol] := by
  cases h : symbol.kind <;> simp [push, h, ofKind]

theorem ofKind_push_of_ne (table : SymbolTable) (symbol : Symbol) {kind : SymbolKind}
    (hne : symbol.kind ≠ kind) : (table.push symbol).ofKind kind = table.ofKind kind := by
  cases h : symbol.kind <;> cases kind <;> simp_all [push, ofKind]

end SymbolTable

/-- A function of the document itself, or of the module `origin`. -/
def Symbol.ofFunction (name : String) (origin : Option String) : Symbol :=
  ⟨name, .function, origin⟩

def Symbol.ofVariable (name : String) : Symbol :=
  ⟨name, .var, none⟩

end StackScript
