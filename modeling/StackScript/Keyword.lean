/-! Opcodes offered as completions. -/
namespace StackScript

/-- Opcodes with the category of each, in table order. -/
structure KeywordTable where
  categories : List (String × String) := []
deriving DecidableEq, Repr

structure Completion where
  label : String
  detail : String
deriving DecidableEq, Repr

namespace Completion

def kind : String := "keyword"

end Completion

namespace KeywordTable

def category? (table : KeywordTable) (token : String) : Option String :=
  table.categories.lookup token

def contains (table : KeywordTable) (token : String) : Bool :=
  (table.category? token).isSome

def size (table : KeywordTable) : Nat :=
  table.categories.length

/-- Gives a token its category. A token that is in the table keeps its place. -/
def insert (table : KeywordTable) (token category : String) : KeywordTable :=
  if table.contains token then
    ⟨table.categories.map (fun entry => if entry.1 == token then (token, category) else entry)⟩
  else ⟨table.categories ++ [(token, category)]⟩

def ofList (entries : List (String × String)) : KeywordTable :=
  entries.foldl (fun table entry => table.insert entry.1 entry.2) {}

/-- One completion for each opcode. -/
def completions (table : KeywordTable) : List Completion :=
  table.categories.map (fun entry => ⟨entry.1, "StackScript Opcode: " ++ entry.2⟩)

def standard : KeywordTable where
  categories :=
    [("ADD", "Arithmetic"), ("SUB", "Arithmetic"), ("MUL", "Arithmetic"), ("DIV", "Arithmetic"),
      ("EXP", "Arithmetic"), ("PUSH", "Stack"), ("POP", "Stack"), ("OUT", "Output"),
      ("HALT", "Control flow"), ("CALL", "Functions"), ("READ", "Input"), ("SPREAD", "Input"),
      ("JMP", "Control flow"), ("JMPGT", "Control flow"), ("JMPLT", "Control flow"),
      ("JMPEQ", "Control flow"), ("BOTOP", "Stack"), ("CLEAR", "Stack"), ("COPY", "Stack"),
      ("DUP", "Stack"), ("SPUSH", "Stack"), ("PUD", "Stack"), ("SWAP", "Stack"),
      ("SPOUTV", "Output"), ("S-SWAP", "Stack"), ("READFILE", "File system"),
      ("WRITEFILE", "File system"), ("APPENDFILE", "File system"), ("DELETEFILE", "File system"),
      ("CREATEFILE", "File system"), ("CREATEFOLDER", "File system"),
      ("DELETEFOLDER", "File system"), ("SWAPMEM", "Memory"), ("CHOICE-1", "Input"),
      ("CHOICE-2", "Input"), ("RANDINT", "Random"), ("RANDOM", "Random"), ("SYSTEM", "System"),
      ("OUTV", "Output"), ("TOP", "Stack"), ("LOAD", "Modules"), ("ENDFUNC", "Functions"),
      ("BREAKPOINT", "Debugging")]

end KeywordTable

end StackScript
