import StackScript.Proofs.DirectiveForm

/-! What the lines of a document declare, line by line, and what any table holds once it has taken
the declarations in. -/
namespace StackScript

open Text

/-- What a relation gives for the members of a list, in order: one thing for each member that it
gives something for, and nothing for the others. -/
inductive Gathers {α β : Type} (r : α → β → Prop) : List α → List β → Prop
  | nil : Gathers r [] []
  | take {a : α} {b : β} {rest : List α} {found : List β} (h : r a b)
      (hrest : Gathers r rest found) : Gathers r (a :: rest) (b :: found)
  | skip {a : α} {rest : List α} {found : List β} (h : ∀ b, ¬ r a b)
      (hrest : Gathers r rest found) : Gathers r (a :: rest) found

theorem gathers_filterMap {α β : Type} {r : α → β → Prop} {f : α → Option β}
    (hf : ∀ a b, f a = some b ↔ r a b) (l : List α) : Gathers r l (l.filterMap f) := by
  induction l with
  | nil => exact .nil
  | cons a rest ih =>
    cases ha : f a with
    | none =>
      rw [List.filterMap_cons_none ha]
      refine .skip ?_ ih
      intro b hb
      rw [← hf, ha] at hb
      exact absurd hb (by simp)
    | some b =>
      rw [List.filterMap_cons_some ha]
      exact .take ((hf a b).mp ha) ih

namespace Line

variable {line : Line} {name : String}

/-- The name of a label line: its trimmed text without the colon that ends it, trimmed again. -/
def Labels (line : Line) (name : String) : Prop :=
  name ≠ "" ∧ ∃ front : String, line.trimmed = front ++ ":" ∧ TrimsTo front.toList name.toList

/-- The trimmed line starts with the keyword as a word of its own. -/
def Opens (line : Line) (keyword : String) : Prop :=
  ∃ rest : String, line.trimmed = keyword ++ rest ∧ StartsBlank rest.toList

/-- The trimmed line is `SET`, blanks, and the name as the first word behind them. -/
def Sets (line : Line) (name : String) : Prop :=
  IsWord name.toList ∧ ∃ blanks after : String, line.trimmed = "SET" ++ blanks ++ name ++ after ∧
    blanks ≠ "" ∧ Blanks blanks.toList ∧ StartsBlank after.toList

/-- An error that marks the whole line. -/
def error (filename : Option String) (line : Line) (code message : String) : Diagnostic where
  severity := .error
  message := message
  code := some code
  filename := filename
  line := line.index
  column := 0
  endLine := line.index
  endColumn := line.raw.length

theorem loadedName?_eq_some_iff : line.loadedName? = some name ↔ line.Loads name := by
  rw [loads_iff, loadedName?, Option.ite_none_right_eq_some]

/-- What is wrong with a line as a declaration. -/
inductive Faults (filename : Option String) (line : Line) : Diagnostic → Prop
  | misplacedExtern (h : line.Opens "EXTERN") :
      Faults filename line
        (line.error filename "SYN-0040" "EXTERN can only be used in module files")
  | unnamedSet (h : line.trimmed = "SET") :
      Faults filename line (line.error filename "SYN-0030" "SET command missing variable name")

theorem label?_eq_some_iff : line.label? = some name ↔ line.Labels name := by
  rw [label?, labelName?, Option.ite_none_right_eq_some, nonempty?_eq_some_iff,
    List.getLast?_eq_some_iff]
  constructor
  · intro h
    obtain ⟨⟨front, hfront⟩, hname, hne⟩ := h
    rw [hfront, List.dropLast_concat] at hname hne
    refine ⟨String.toList_eq_nil_iff.not.mp (hname ▸ hne), String.ofList front, ?_, ?_⟩
    · rw [← String.toList_inj, hfront]
      simp
    · rw [String.toList_ofList]
      exact trim_eq_iff.mp hname
  · intro h
    obtain ⟨hne, front, hfront, hname⟩ := h
    have htext : line.trimmed.toList = front.toList ++ [':'] := by
      rw [hfront]
      simp
    rw [htext, List.dropLast_concat, hname.trim_eq]
    exact ⟨⟨front.toList, rfl⟩, rfl, String.toList_eq_nil_iff.not.mpr hne⟩

-- Only `LOAD` may be followed by anything but a blank.
theorem is_eq_true_iff {d : Directive} (hd : d ≠ .load) :
    line.is d = true ↔ line.Opens d.keyword := by
  have hkeyword : d.keyword ≠ "LOAD" := by
    cases d with
    | load => exact absurd rfl hd
    | _ => decide
  rw [Line.is, Directive.startsWith_iff]
  simp only [hkeyword, false_and, or_false]
  constructor
  · intro h
    obtain ⟨rest, htext, hhead⟩ := h
    refine ⟨String.ofList rest, ?_, by rwa [String.toList_ofList]⟩
    rw [← String.toList_inj, htext]
    simp
  · intro h
    obtain ⟨rest, htext, hhead⟩ := h
    exact ⟨rest.toList, by rw [htext, String.toList_append], hhead⟩

-- The keyword is the first word of the line, so the second word is the first one behind it.
theorem setName?_of_opens {rest : String} (htext : line.trimmed = "SET" ++ rest)
    (hhead : StartsBlank rest.toList) :
    Directive.setName? line.trimmed = (words rest.toList).head?.map String.ofList := by
  have hkeyword : IsWord "SET".toList := by decide
  rw [Directive.setName?, htext, String.toList_append, words_word_append hkeyword hhead,
    List.getElem?_cons_succ, List.head?_eq_getElem?]

theorem sets_iff :
    line.Sets name ↔ ∃ rest : String, line.trimmed = "SET" ++ rest ∧ StartsBlank rest.toList ∧
      FirstWord rest.toList name.toList := by
  constructor
  · intro h
    obtain ⟨hword, blanks, after, htext, hsome, hblanks, hafter⟩ := h
    obtain ⟨b, before, hbefore⟩ :=
      List.exists_cons_of_ne_nil (String.toList_eq_nil_iff.not.mpr hsome)
    refine ⟨blanks ++ name ++ after, ?_, ?_, hword, blanks.toList, after.toList, hblanks, hafter,
      by simp⟩
    · rw [htext, String.append_assoc, String.append_assoc, String.append_assoc]
    · intro c hc
      rw [String.toList_append, String.toList_append, hbefore] at hc
      obtain rfl : b = c := Option.some.inj hc
      exact hblanks b (by rw [hbefore]; exact List.mem_cons_self)
  · intro h
    obtain ⟨rest, htext, hhead, hword, blanks, after, hblanks, hafter, hrest⟩ := h
    refine ⟨hword, String.ofList blanks, String.ofList after, ?_, ?_, ?_, ?_⟩
    · rw [htext, ← String.toList_inj, String.toList_append, hrest]
      simp
    · -- a word that is no blank cannot come right behind the keyword
      intro hempty
      rw [← String.toList_eq_nil_iff, String.toList_ofList] at hempty
      exact hword.ne_nil_of_startsBlank (hrest ▸ hhead) hempty
    · rwa [String.toList_ofList]
    · rwa [String.toList_ofList]

theorem setVariable?_eq_some_iff : line.setVariable? = some name ↔ line.Sets name := by
  rw [setVariable?, Option.ite_none_right_eq_some, is_eq_true_iff (by decide), sets_iff]
  constructor
  · intro h
    obtain ⟨⟨rest, htext, hhead⟩, hname⟩ := h
    rw [setName?_of_opens htext hhead, Option.map_eq_some_iff] at hname
    obtain ⟨word, hword, rfl⟩ := hname
    refine ⟨rest, htext, hhead, ?_⟩
    rw [String.toList_ofList]
    exact head?_words_eq_some_iff.mp hword
  · intro h
    obtain ⟨rest, htext, hhead, hword⟩ := h
    refine ⟨⟨rest, htext, hhead⟩, ?_⟩
    rw [setName?_of_opens htext hhead, hword.head?_words, Option.map_some, String.ofList_toList]

-- A trimmed line does not end in blanks, so a `SET` line with anything behind the keyword has a
-- name.
theorem trimmed_eq_set_iff :
    line.trimmed = "SET" ↔ line.is .set = true ∧ line.setVariable? = none := by
  constructor
  · intro h
    rw [setVariable?, Line.is, h]
    decide
  · intro h
    obtain ⟨hset, hnone⟩ := h
    obtain ⟨rest, htext, hhead⟩ := (is_eq_true_iff (by decide)).mp hset
    have hblanks : Blanks rest.toList := by
      by_cases hblanks : Blanks rest.toList
      · exact hblanks
      · obtain ⟨word, hword⟩ := exists_firstWord hblanks
        rw [setVariable?, if_pos hset, setName?_of_opens htext hhead, hword.head?_words] at hnone
        exact absurd hnone (by simp)
    have htrimmed := line.trimsTo_trimmed.1
    rw [htext, String.toList_append] at htrimmed
    rw [htext, String.toList_eq_nil_iff.mp (htrimmed.eq_nil_of_blanks hblanks)]
    rfl

theorem faults_iff {filename : Option String} {d : Diagnostic} :
    line.declarationProblem?.map (Diagnostic.ofLine filename line) = some d ↔
      line.Faults filename d := by
  have hopens : line.is .external = true ↔ line.Opens "EXTERN" := is_eq_true_iff (by decide)
  unfold declarationProblem?
  constructor
  · intro h
    split at h
    · rename_i his
      rw [← Option.some.inj h]
      exact .misplacedExtern (hopens.mp his)
    · split at h
      · rename_i his
        rw [Bool.and_eq_true, Option.isNone_iff_eq_none] at his
        rw [← Option.some.inj h]
        exact .unnamedSet (trimmed_eq_set_iff.mpr his)
      · exact absurd h (by simp)
  · intro h
    cases h with
    | misplacedExtern h =>
      rw [if_pos (hopens.mpr h)]
      rfl
    | unnamedSet h =>
      have hset := trimmed_eq_set_iff.mp h
      have hnot : ¬ line.is .external = true := by
        rw [Line.is, h]
        decide
      rw [if_neg hnot, if_pos (by simp [hset])]
      rfl

theorem gathers_labelNames (lines : List Line) : Gathers Labels lines (labelNames lines) :=
  gathers_filterMap (fun _ _ => label?_eq_some_iff) lines

theorem gathers_variableNames (lines : List Line) : Gathers Sets lines (variableNames lines) :=
  gathers_filterMap (fun _ _ => setVariable?_eq_some_iff) lines

theorem gathers_loadedNames (lines : List Line) : Gathers Loads lines (loadedNames lines) :=
  gathers_filterMap (fun _ _ => loadedName?_eq_some_iff) lines

/-- An `EXTERN` line that is no label. -/
def QuietExtern (line : Line) : Prop :=
  line.Opens "EXTERN" ∧ line.trimmed.toList.getLast? ≠ some ':'

theorem symbols_of_quietExtern (h : line.QuietExtern) : line.symbols = [] := by
  obtain ⟨⟨rest, htext, _⟩, hcolon⟩ := h
  have hlabel : line.label? = none := by
    rw [label?, labelName?, if_neg hcolon]
  have hset : line.setVariable? = none := by
    rw [Option.eq_none_iff_forall_ne_some]
    intro name hname
    obtain ⟨other, hother, _⟩ := sets_iff.mp (setVariable?_eq_some_iff.mp hname)
    rw [htext, ← String.toList_inj] at hother
    simp at hother
  rw [symbols, hlabel, hset]
  rfl

end Line

theorem mem_labelNames_iff {lines : List Line} {name : String} :
    name ∈ labelNames lines ↔ ∃ line ∈ lines, line.Labels name := by
  simp only [mem_labelNames, Line.label?_eq_some_iff]

namespace SymbolTable

/-- The distinct names among the given ones that are not taken, in order of first appearance. -/
def free (table : SymbolTable) (kind : SymbolKind) (names : List String) : List String :=
  (names.filter (fun name => !table.has kind name)).eraseDups

theorem added_eq_map_free {symbols : List Symbol} {kind : SymbolKind} {f : String → Symbol}
    {names : List String} (hf : ∀ name, (f name).name = name) (table : SymbolTable)
    (hsymbols : symbols.filter (fun s => s.kind == kind) = names.map f) :
    table.added symbols kind = (table.free kind names).map f := by
  have hfilter : symbols.filter (fun s => s.kind == kind && !table.has kind s.name) =
      (names.filter (fun name => !table.has kind name)).map f := by
    calc
      _ = (symbols.filter (fun s => s.kind == kind)).filter (fun s => !table.has kind s.name) := by
        simp only [List.filter_filter, Bool.and_comm]
      _ = (names.map f).filter (fun s => !table.has kind s.name) := by rw [hsymbols]
      _ = (names.filter (fun name => !table.has kind name)).map f := by
        simp only [List.filter_map, Function.comp_def, hf]
  rw [added, hfilter, Symbol.firsts_map hf, free]

end SymbolTable

namespace Declaration

/-- The lines, taken in by one table, give the other one and the diagnostics. -/
structure Exact (filename : Option String) (lines : List Line) (before after : SymbolTable)
    (diagnostics : List Diagnostic) : Prop where
  diagnostics : Gathers (Line.Faults filename) lines diagnostics
  functions : ∃ labels, Gathers Line.Labels lines labels ∧
    after.functions = before.functions
      ++ (before.free .function labels).map (fun name => Symbol.ofFunction name none)
  vars : ∃ names, Gathers Line.Sets lines names ∧
    after.vars = before.vars ++ (before.free .var names).map Symbol.ofVariable

theorem exact_extend (filename : Option String) (lines : List Line) (table : SymbolTable) :
    Exact filename lines table (extend table lines) (Declaration.diagnostics filename lines) where
  diagnostics := gathers_filterMap (fun _ _ => Line.faults_iff) lines
  functions := by
    refine ⟨labelNames lines, Line.gathers_labelNames lines, ?_⟩
    rw [← SymbolTable.added_eq_map_free (fun _ => rfl) table (filter_function_symbols lines)]
    exact SymbolTable.ofKind_defineAll table _ .function
  vars := by
    refine ⟨variableNames lines, Line.gathers_variableNames lines, ?_⟩
    rw [← SymbolTable.added_eq_map_free (fun _ => rfl) table (filter_var_symbols lines)]
    exact SymbolTable.ofKind_defineAll table _ .var

theorem extend_eq_of_map_symbols {first second : List Line}
    (h : first.map Line.symbols = second.map Line.symbols) (table : SymbolTable) :
    extend table first = extend table second := by
  rw [extend, extend, List.flatMap_def, List.flatMap_def, h]

-- Lines that are `EXTERN` lines before and after a change declare nothing before and after it.
theorem declarations_exact (filename : Option String) (text : String) (table : SymbolTable) :
    Exact filename (Line.scan text) table (extend table (Line.scan text))
        (Declaration.diagnostics filename (Line.scan text)) ∧
      ∀ (other : String) (i : Nat) (line replaced : Line),
        (Line.scan text)[i]? = some line → (Line.scan other)[i]? = some replaced →
        (∀ j, j ≠ i → (Line.scan other)[j]? = (Line.scan text)[j]?) →
        line.QuietExtern → replaced.QuietExtern →
        extend table (Line.scan other) = extend table (Line.scan text) := by
  refine ⟨exact_extend filename _ table, ?_⟩
  intro other i line replaced hline hreplaced hsame hquiet hquiet'
  apply extend_eq_of_map_symbols
  apply List.ext_getElem?
  intro j
  rw [List.getElem?_map, List.getElem?_map]
  by_cases hj : j = i
  · rw [hj, hline, hreplaced, Option.map_some, Option.map_some,
      Line.symbols_of_quietExtern hquiet, Line.symbols_of_quietExtern hquiet']
  · rw [hsame j hj]

/-- A first line, and below it directives that are labels, too. -/
def labelledDirectives (first : String) : String :=
  first ++ "\nSET x:\nEXTERN f:\n SET\nSET\u2003x: 1\nf:"

/-- A table in which one of these labels is taken. -/
def takenLabel : SymbolTable where
  functions := [.ofFunction "SET x" (some "m")]

theorem declarations_exact_of_labelledDirectives :
    extend takenLabel (Line.scan (labelledDirectives "EXTERN\tb c")) =
        extend takenLabel (Line.scan (labelledDirectives " EXTERN a")) ∧
      extend takenLabel (Line.scan (labelledDirectives " EXTERN a")) =
        ⟨[.ofFunction "SET x" (some "m"), .ofFunction "EXTERN f" none, .ofFunction "f" none],
          [.ofVariable "x:"]⟩ := by
  refine ⟨?_, by decide +kernel⟩
  have hbefore : Line.QuietExtern ⟨0, " EXTERN a"⟩ :=
    ⟨⟨" a", by decide +kernel, by decide⟩, by decide +kernel⟩
  have hafter : Line.QuietExtern ⟨0, "EXTERN\tb c"⟩ :=
    ⟨⟨"\tb c", by decide +kernel, by decide⟩, by decide +kernel⟩
  have hscan : ∀ first ∈ [" EXTERN a", "EXTERN\tb c"],
      Line.scan (labelledDirectives first) =
        ⟨0, first⟩ :: (Line.scan (labelledDirectives "")).tail := by
    decide +kernel
  apply (declarations_exact none (labelledDirectives " EXTERN a") _).2
    (labelledDirectives "EXTERN\tb c") 0 _ _ (by decide +kernel) (by decide +kernel) _ hbefore
    hafter
  intro j hj
  rw [hscan "EXTERN\tb c" (by decide), hscan " EXTERN a" (by decide)]
  cases j with
  | zero => exact absurd rfl hj
  | succ j => rfl

end Declaration

end StackScript
