import Mathlib.Data.List.Basic
import StackScript.Proofs.PathText
import StackScript.Proofs.Provenance
import StackScript.Proofs.Trimming

/-! The forms of `LOAD` and `CALL` lines: every line of such a form is taken for what it is, and no
other line is. -/
namespace StackScript

open Text

theorem nonempty?_eq_some_iff {cs : List Char} {name : String} :
    nonempty? cs = some name ↔ cs = name.toList ∧ cs ≠ [] := by
  cases cs with
  | nil => simp [nonempty?]
  | cons c cs =>
    have hsome : nonempty? (c :: cs) = some (String.ofList (c :: cs)) := rfl
    rw [hsome, Option.some.injEq, ← String.toList_inj, String.toList_ofList]
    simp

namespace Directive

theorem startsWith_iff {keyword text : String} :
    startsWith keyword text = true ↔
      ∃ rest, text.toList = keyword.toList ++ rest ∧
        ∀ c ∈ rest.head?, isBlank c = true ∨ (keyword = "LOAD" ∧ c = '"') := by
  -- the keyword and the text determine the rest
  have hrest : ∀ rest, text.toList = keyword.toList ++ rest ↔
      keyword.toList.isPrefixOf? text.toList = some rest := by
    intro rest
    rw [List.isPrefixOf?_eq_some_iff_append_eq, eq_comm]
  simp only [hrest]
  unfold startsWith
  cases keyword.toList.isPrefixOf? text.toList with
  | none => simp
  | some rest => cases rest <;> simp

/-- What a module can be called. -/
structure IsModuleName (name : String) : Prop where
  ne_empty : name ≠ ""
  trimmed : Trimmed name.toList
  noQuote : '"' ∉ name.toList

/-- The two forms of a `LOAD` line, each with the name of the module in it. -/
inductive LoadForm : String → String → Prop
  | quoted {blanks inner name : String} (hblanks : Blanks blanks.toList)
      (hinner : '"' ∉ inner.toList) (hname : TrimsTo inner.toList name.toList) (hne : name ≠ "") :
      LoadForm ("LOAD" ++ blanks ++ "\"" ++ inner ++ "\"") name
  | bare {blanks name : String} (hblanks : Blanks blanks.toList) (hsome : blanks ≠ "")
      (hword : IsWord name.toList) (hquote : '"' ∉ name.toList) :
      LoadForm ("LOAD" ++ blanks ++ name) name

/-- The trimmed argument of a `LOAD` line, with the name in it. -/
inductive Designates : List Char → List Char → Prop
  | quoted {inner name : List Char} (hinner : '"' ∉ inner) (hname : TrimsTo inner name)
      (hne : name ≠ []) : Designates ('"' :: (inner ++ ['"'])) name
  | bare {name : List Char} (hword : IsWord name) (hquote : '"' ∉ name) : Designates name name

section Load

variable {text name : String}

theorem Designates.loadName?_eq (h : Designates (trim (load.argument text)) name.toList) :
    loadName? text = some name := by
  unfold loadName?
  generalize trim (load.argument text) = cs at h
  cases h with
  | @quoted inner _ hinner hname hne =>
    have hbefore : ∀ c ∈ inner, (c != '"') = true := by
      intro c hc
      rw [bne_iff_ne]
      intro heq
      exact hinner (heq ▸ hc)
    have hdrop : (inner ++ ['"']).dropWhile (· != '"') = ['"'] := by
      rw [List.dropWhile_append_of_pos hbefore]
      rfl
    have htake : (inner ++ ['"']).takeWhile (· != '"') = inner := by
      rw [List.takeWhile_append_of_pos hbefore, List.takeWhile_cons_of_neg (by simp),
        List.append_nil]
    simp only [hdrop, htake]
    change nonempty? (trim inner) = some name
    rw [nonempty?_eq_some_iff, hname.trim_eq]
    exact ⟨rfl, hne⟩
  | bare hword hquote =>
    have hany : name.toList.any (fun c => isBlank c || c == '"') = false := by
      rw [List.any_eq_false]
      intro c hc
      have hne : c ≠ '"' := fun heq => hquote (heq ▸ hc)
      simp [hword.notBlank c hc, hne]
    split
    · rename_i hempty
      exact absurd hempty hword.ne_nil
    · rename_i cs hcs
      exact absurd (by rw [hcs]; exact List.mem_cons_self) hquote
    · rw [hany, String.ofList_toList]
      rfl

theorem split_at_quote {cs rest : List Char} {c : Char}
    (hdrop : cs.dropWhile (· != '"') = c :: rest) :
    '"' ∉ cs.takeWhile (· != '"') ∧ cs = cs.takeWhile (· != '"') ++ '"' :: rest := by
  have hc : c = '"' := by
    have hstop := List.head?_dropWhile_not (· != '"') cs
    rw [hdrop] at hstop
    simpa using hstop
  constructor
  · intro hmem
    have hall := List.all_eq_true.mp List.all_takeWhile _ hmem
    simp at hall
  · rw [← hc, ← hdrop, hc]
    exact List.takeWhile_append_dropWhile.symm

theorem designates_of_loadName? (h : loadName? text = some name) :
    Designates (trim (load.argument text)) name.toList := by
  have htrimmed := (trimsTo_trim (load.argument text)).1
  unfold loadName? at h
  split at h
  · exact absurd h (by simp)
  · rename_i cs hargument
    split at h
    · exact absurd h (by simp)
    · rename_i c rest hdrop
      rw [Option.ite_none_right_eq_some, List.isEmpty_iff, trim_eq_nil_iff, nonempty?_eq_some_iff]
        at h
      obtain ⟨hrest, hname, hne⟩ := h
      obtain ⟨hinner, hcs⟩ := split_at_quote hdrop
      have hsplit : '"' :: cs = '"' :: (cs.takeWhile (· != '"') ++ ['"']) ++ rest := by
        rw [List.cons_append, List.append_assoc, List.singleton_append, ← hcs]
      -- the argument has no blanks at its end, so nothing follows the closing quote
      rw [hargument, hsplit] at htrimmed
      rw [hargument, hsplit, htrimmed.eq_nil_of_blanks hrest, List.append_nil]
      exact .quoted hinner (trim_eq_iff.mp hname) (hname ▸ hne)
  · rename_i hnil hquote
    rw [Option.ite_none_left_eq_some, Option.some.injEq] at h
    obtain ⟨hany, hname⟩ := h
    rw [← hname, String.toList_ofList]
    have hplain : ∀ c ∈ trim (load.argument text), isBlank c = false ∧ c ≠ '"' := by
      simpa using hany
    refine .bare ⟨hnil, fun c hc => (hplain c hc).1⟩ ?_
    intro hmem
    exact (hplain _ hmem).2 rfl

theorem loadName?_eq_some_iff :
    loadName? text = some name ↔ Designates (trim (load.argument text)) name.toList :=
  ⟨designates_of_loadName?, Designates.loadName?_eq⟩

theorem Designates.trimmed {cs inner : List Char} (h : Designates cs inner) : Trimmed cs := by
  cases h with
  | quoted => exact ⟨by simp; decide, by simp [List.getLast?_cons]; decide⟩
  | bare hword => exact hword.trimmed

theorem Designates.ne_nil {cs inner : List Char} (h : Designates cs inner) : cs ≠ [] := by
  cases h with
  | quoted => exact List.cons_ne_nil _ _
  | bare hword => exact hword.ne_nil

theorem Designates.isModuleName {cs : List Char} (h : Designates cs name.toList) :
    IsModuleName name := by
  have hchars : name.toList ≠ [] ∧ Trimmed name.toList ∧ '"' ∉ name.toList := by
    cases h with
    | quoted hinner hname hne => exact ⟨hne, hname.1, fun hmem => hinner (hname.subset hmem)⟩
    | bare hword hquote => exact ⟨hword.ne_nil, hword.trimmed, hquote⟩
  exact ⟨fun hempty => hchars.1 (String.toList_eq_nil_iff.mpr hempty), hchars.2.1, hchars.2.2⟩

-- Both forms are the keyword, blanks and an argument, where a bare name needs a blank before it.
theorem loadForm_iff :
    LoadForm text name ↔ ∃ blanks argument, text.toList = "LOAD".toList ++ (blanks ++ argument) ∧
      Blanks blanks ∧ Designates argument name.toList ∧
      (blanks = [] → argument.head? = some '"') := by
  constructor
  · intro h
    cases h with
    | @quoted blanks inner _ hblanks hinner hname hne =>
      refine ⟨blanks.toList, '"' :: (inner.toList ++ ['"']), by simp, hblanks, ?_, fun _ => rfl⟩
      exact .quoted hinner hname (String.toList_eq_nil_iff.not.mpr hne)
    | @bare blanks _ hblanks hsome hword hquote =>
      refine ⟨blanks.toList, name.toList, by simp, hblanks, .bare hword hquote, ?_⟩
      intro hempty
      exact absurd (String.toList_eq_nil_iff.mp hempty) hsome
  · intro h
    obtain ⟨blanks, argument, htext, hblanks, hname, hhead⟩ := h
    have hblanks' : Blanks (String.ofList blanks).toList := by rwa [String.toList_ofList]
    cases hname with
    | @quoted inner _ hinner hname hne =>
      have htext' : text = "LOAD" ++ String.ofList blanks ++ "\"" ++ String.ofList inner ++ "\"" := by
        rw [← String.toList_inj, htext]
        simp
      rw [htext']
      refine .quoted hblanks' ?_ ?_ ?_
      · rwa [String.toList_ofList]
      · rwa [String.toList_ofList]
      · exact String.toList_eq_nil_iff.not.mp hne
    | bare hword hquote =>
      have htext' : text = "LOAD" ++ String.ofList blanks ++ name := by
        rw [← String.toList_inj, htext]
        simp
      rw [htext']
      refine .bare hblanks' ?_ hword hquote
      · intro hempty
        have hnil : blanks = [] := by
          rw [← String.toList_ofList (l := blanks), hempty]
          rfl
        exact hquote (List.mem_of_mem_head? (hhead hnil))

theorem argument_of_toList {rest : List Char} (h : text.toList = "LOAD".toList ++ rest) :
    load.argument text = rest := by
  rw [argument, h]
  rfl

theorem LoadForm.loadName?_eq (h : LoadForm text name) : loadName? text = some name := by
  obtain ⟨blanks, argument, htext, hblanks, hname, _⟩ := loadForm_iff.mp h
  have htrim : trim (blanks ++ argument) = argument :=
    trim_eq_iff.mpr ⟨hname.trimmed, blanks, [], hblanks, by simp [Blanks], by simp⟩
  rw [loadName?_eq_some_iff, argument_of_toList htext, htrim]
  exact hname

theorem LoadForm.startsWith_load (h : LoadForm text name) : startsWith "LOAD" text = true := by
  obtain ⟨blanks, argument, htext, hblanks, _, hhead⟩ := loadForm_iff.mp h
  rw [startsWith_iff]
  refine ⟨blanks ++ argument, htext, ?_⟩
  intro c hc
  cases blanks with
  | nil =>
    rw [List.nil_append, hhead rfl] at hc
    exact .inr ⟨rfl, (Option.some.inj hc).symm⟩
  | cons b blanks =>
    obtain rfl : b = c := Option.some.inj hc
    exact .inl (hblanks b List.mem_cons_self)

theorem loadForm_of_loadName? (htrimmed : Trimmed text.toList)
    (hload : startsWith "LOAD" text = true) (h : loadName? text = some name) :
    LoadForm text name := by
  obtain ⟨rest, htext, hhead⟩ := startsWith_iff.mp hload
  rw [loadName?_eq_some_iff, argument_of_toList htext] at h
  obtain ⟨_, blanks, after, hblanks, hafter, hrest⟩ := trimsTo_trim rest
  rw [htext, hrest, ← List.append_assoc] at htrimmed
  rw [htrimmed.eq_nil_of_blanks hafter, List.append_nil] at hrest
  refine loadForm_iff.mpr ⟨blanks, trim rest, by rw [← hrest, htext], hblanks, h, ?_⟩
  intro hnil
  obtain ⟨c, cs, hcs⟩ := List.exists_cons_of_ne_nil h.ne_nil
  have hc : c ∈ rest.head? := by
    rw [hrest, hnil, hcs]
    rfl
  have hblank : isBlank c = false := h.trimmed.head c (by rw [hcs]; rfl)
  rcases hhead c hc with hblank' | ⟨_, hquote⟩
  · rw [hblank] at hblank'
    exact absurd hblank' (by decide)
  · rw [hcs, hquote]
    rfl

end Load

-- A name that can stand in a `LOAD` line is found there again, so quoting loses no name.
theorem loadName?_exact :
    (∀ text name : String, Trimmed text.toList → startsWith "LOAD" text = true →
      (loadName? text = some name ↔ LoadForm text name)) ∧
    (∀ text name : String, loadName? text = some name → IsModuleName name) ∧
    (∀ (source : ModuleSource) (lines : List Line) (resolution : Resolution),
      (source.resolve lines).outcome = .ok resolution →
        ∀ m ∈ resolution.modules, IsModuleName m.name) ∧
    (∀ blanks name : String, Blanks blanks.toList → IsModuleName name →
      startsWith "LOAD" ("LOAD" ++ blanks ++ "\"" ++ name ++ "\"") = true ∧
        loadName? ("LOAD" ++ blanks ++ "\"" ++ name ++ "\"") = some name) := by
  have hname : ∀ text name : String, loadName? text = some name → IsModuleName name := by
    intro text name h
    exact (loadName?_eq_some_iff.mp h).isModuleName
  refine ⟨?_, hname, ?_, ?_⟩
  · intro text name htrimmed hload
    exact ⟨loadForm_of_loadName? htrimmed hload, LoadForm.loadName?_eq⟩
  · intro source lines resolution hresolve m hm
    have hmem := ModuleSource.mem_loadedNames_of_resolve hresolve hm
    obtain ⟨line, _, _, hline⟩ := mem_loadedNames.mp hmem
    exact hname _ _ hline
  · intro blanks name hblanks hmodule
    have hform : LoadForm ("LOAD" ++ blanks ++ "\"" ++ name ++ "\"") name :=
      .quoted hblanks hmodule.noQuote hmodule.trimmed.trimsTo hmodule.ne_empty
    exact ⟨hform.startsWith_load, hform.loadName?_eq⟩

/-- A quoted name with blanks around it and inside, and no blank before the quotes. -/
def spacedLoad : Document :=
  ⟨Path.ofString "main.stack", "LOAD\"\u3000a b\t\"", "stackscript"⟩

theorem loadName?_exact_of_spacedLoad :
    LoadForm spacedLoad.text "a b" ∧ IsModuleName "a b" ∧
      (∃ resolution, ((spacedLoad.source (.ofFiles []) {}).resolve spacedLoad.lines).outcome =
        .ok resolution ∧ resolution.moduleNames = ["a b"] ∧
          ∀ m ∈ resolution.modules, IsModuleName m.name) ∧
      loadName? "LOAD\u2003\"a b\"" = some "a b" := by
  obtain ⟨hforms, hnames, hmodules, hback⟩ := loadName?_exact
  have hread : loadName? spacedLoad.text = some "a b" := by decide +kernel
  have hname := hnames _ _ hread
  have hrun : ((spacedLoad.source (.ofFiles []) {}).resolve spacedLoad.lines).outcome.toOption.map
      Resolution.moduleNames = some ["a b"] := by decide +kernel
  obtain ⟨resolution, hresolve, hmodule⟩ := Run.exists_outcome_of_map_eq hrun
  have hform := (hforms spacedLoad.text "a b" (by decide +kernel) (by decide +kernel)).mp hread
  refine ⟨hform, hname, ⟨resolution, hresolve, hmodule, hmodules _ _ _ hresolve⟩, ?_⟩
  exact (hback "\u2003" "a b" (by decide) hname).2

/-- ASCII letters, digits and underscores, at least one of them. -/
structure IsPlainWord (word : String) : Prop where
  ne_empty : word ≠ ""
  plain : ∀ c ∈ word.toList, c.isAlpha = true ∨ c.isDigit = true ∨ c = '_'

/-- The form of a `CALL` line, with its target: four characters, whatever they are, blanks, and
plain words with single dots between them. -/
inductive CallForm : String → String → Prop
  | mk {keyword blanks : String} {words : List String} (hkeyword : keyword.length = 4)
      (hblanks : Blanks blanks.toList) (hsome : blanks ≠ "") (hwords : words ≠ [])
      (hplain : ∀ word ∈ words, IsPlainWord word) :
      CallForm (keyword ++ blanks ++ ".".intercalate words) (".".intercalate words)

theorem isWordChar_iff {c : Char} :
    isWordChar c = true ↔ c.isAlpha = true ∨ c.isDigit = true ∨ c = '_' := by
  simp [isWordChar, Char.isAlphanum, or_assoc]

-- Word characters lie between the digit zero and the small letter z, and no blank does.
theorem isBlank_of_isWordChar {c : Char} (h : isWordChar c = true) : isBlank c = false := by
  have hrange : 48 ≤ c.toNat ∧ c.toNat ≤ 122 := by
    rcases isWordChar_iff.mp h with hletter | hdigit | rfl
    · rcases Bool.or_eq_true_iff.mp hletter with hupper | hlower
      · have hle : 65 ≤ c.toNat ∧ c.toNat ≤ 90 := of_decide_eq_true hupper
        omega
      · have hle : 97 ≤ c.toNat ∧ c.toNat ≤ 122 :=
          (Bool.and_eq_true_iff.mp hlower).imp of_decide_eq_true of_decide_eq_true
        omega
    · have hle : 48 ≤ c.toNat ∧ c.toNat ≤ 57 :=
        (Bool.and_eq_true_iff.mp hdigit).imp of_decide_eq_true of_decide_eq_true
      omega
    · decide
  simp only [isBlank, Bool.or_eq_false_iff, Bool.and_eq_false_iff, decide_eq_false_iff_not,
    beq_eq_false_iff_ne]
  omega

theorem isPlainWord_iff {word : String} :
    IsPlainWord word ↔ (!word.toList.isEmpty && word.toList.all isWordChar) = true := by
  simp only [Bool.and_eq_true, Bool.not_eq_true', List.isEmpty_eq_false_iff, List.all_eq_true,
    isWordChar_iff]
  constructor
  · intro h
    exact ⟨String.toList_eq_nil_iff.not.mpr h.ne_empty, h.plain⟩
  · intro h
    exact ⟨String.toList_eq_nil_iff.not.mp h.1, h.2⟩

theorem isTarget_iff {target : String} :
    isTarget target.toList = true ↔
      ∃ words : List String, words ≠ [] ∧ (∀ word ∈ words, IsPlainWord word) ∧
        target = ".".intercalate words := by
  constructor
  · intro h
    refine ⟨(target.toList.splitOn '.').map String.ofList, ?_, ?_, ?_⟩
    · simp [List.splitOn_ne_nil]
    · intro word hword
      obtain ⟨piece, hpiece, heq⟩ := List.mem_map.mp hword
      rw [isPlainWord_iff, ← heq, String.toList_ofList]
      exact List.all_eq_true.mp h piece hpiece
    · rw [← String.toList_inj, String.toList_intercalate]
      simp [Function.comp_def]
  · intro h
    obtain ⟨words, hwords, hplain, heq⟩ := h
    have hdot : ∀ piece ∈ words.map String.toList, '.' ∉ piece := by
      intro piece hpiece hmem
      obtain ⟨word, hword, rfl⟩ := List.mem_map.mp hpiece
      exact absurd (isWordChar_iff.mpr ((hplain word hword).plain _ hmem)) (by decide)
    have hsplit : target.toList.splitOn '.' = words.map String.toList := by
      rw [heq, String.toList_intercalate]
      exact List.splitOn_intercalate '.' hdot (by simpa using hwords)
    rw [isTarget, hsplit, List.all_eq_true]
    intro piece hpiece
    obtain ⟨word, hword, rfl⟩ := List.mem_map.mp hpiece
    exact isPlainWord_iff.mp (hplain word hword)

-- No word of word characters has a dot in it, so each of them can be told in the whole text.
theorem isTarget_eq_filter (cs : List Char) :
    isTarget cs =
      (cs.all (fun c => isWordChar c || c == '.') && !(cs.splitOn '.').contains []) := by
  have hpieces : ['.'].intercalate (cs.splitOn '.') = cs := List.intercalate_splitOn '.'
  have hcontains : (cs.splitOn '.').contains [] = false ↔ [] ∉ cs.splitOn '.' := by
    rw [← Bool.not_eq_true, List.contains_iff_mem]
  rw [isTarget, Bool.eq_iff_iff, List.all_eq_true]
  simp only [Bool.and_eq_true, List.all_eq_true, Bool.or_eq_true, beq_iff_eq, Bool.not_eq_true',
    List.isEmpty_eq_false_iff, hcontains]
  constructor
  · intro h
    refine ⟨?_, fun hempty => (h [] hempty).1 rfl⟩
    intro c hc
    by_cases hdot : c = '.'
    · exact .inr hdot
    · rw [← hpieces, mem_intercalate_iff hdot] at hc
      obtain ⟨piece, hpiece, hmem⟩ := hc
      exact .inl ((h piece hpiece).2 c hmem)
  · intro h piece hpiece
    refine ⟨fun hempty => h.2 (hempty ▸ hpiece), ?_⟩
    intro c hc
    have hdot : c ≠ '.' := fun heq => not_mem_of_mem_splitOn hpiece (heq ▸ hc)
    have hmem : c ∈ cs := by
      rw [← hpieces, mem_intercalate_iff hdot]
      exact ⟨piece, hpiece, hc⟩
    exact (h.1 c hmem).resolve_right hdot

theorem notBlank_of_isTarget {cs : List Char} (h : isTarget cs = true) :
    ∀ c ∈ cs, isBlank c = false := by
  rw [isTarget_eq_filter, Bool.and_eq_true, List.all_eq_true] at h
  intro c hc
  rcases Bool.or_eq_true_iff.mp (h.1 c hc) with hword | hdot
  · exact isBlank_of_isWordChar hword
  · rw [beq_iff_eq.mp hdot]
    decide

theorem callTarget?_eq_some_iff {text target : String} :
    callTarget? text = some target ↔
      ∃ blanks, call.argument text = blanks ++ target.toList ∧ blanks ≠ [] ∧ Blanks blanks ∧
        isTarget target.toList = true := by
  unfold callTarget?
  constructor
  · intro h
    split at h
    · exact absurd h (by simp)
    · rename_i c cs hargument
      simp only [Option.ite_none_right_eq_some, Bool.and_eq_true, Option.some.injEq] at h
      obtain ⟨⟨hc, htarget⟩, heq⟩ := h
      obtain ⟨before, hbefore, hcs⟩ := exists_blanks_trimStart cs
      rw [← heq, String.toList_ofList]
      refine ⟨c :: before, ?_, List.cons_ne_nil _ _, ?_, htarget⟩
      · rw [hargument, List.cons_append, ← hcs]
      · intro d hd
        rcases List.mem_cons.mp hd with rfl | hd
        · exact hc
        · exact hbefore d hd
  · intro h
    obtain ⟨blanks, hargument, hne, hblanks, htarget⟩ := h
    obtain ⟨c, before, rfl⟩ := List.exists_cons_of_ne_nil hne
    have hbefore : Blanks before := fun d hd => hblanks d (List.mem_cons_of_mem c hd)
    have htrim : trimStart (before ++ target.toList) = target.toList := by
      rw [trimStart_append hbefore, trimStart_of_head]
      intro d hd
      exact notBlank_of_isTarget htarget d (List.mem_of_mem_head? hd)
    rw [hargument]
    simp [htrim, hblanks c List.mem_cons_self, htarget]

theorem callForm_of_callTarget? {text target : String} (h : callTarget? text = some target) :
    CallForm text target := by
  obtain ⟨blanks, hargument, hne, hblanks, htarget⟩ := callTarget?_eq_some_iff.mp h
  obtain ⟨words, hwords, hplain, rfl⟩ := isTarget_iff.mp htarget
  have hargument' : text.toList.drop 4 = blanks ++ (".".intercalate words).toList := hargument
  have hkeyword : (String.ofList (text.toList.take 4)).length = 4 := by
    have hlength := congrArg List.length hargument'
    have hpos := List.length_pos_iff.mpr hne
    rw [List.length_drop, List.length_append] at hlength
    rw [String.length_ofList, List.length_take]
    omega
  have htext : text = String.ofList (text.toList.take 4) ++ String.ofList blanks
      ++ ".".intercalate words := by
    rw [← String.toList_inj]
    simp only [String.toList_append, String.toList_ofList]
    rw [List.append_assoc, ← hargument', List.take_append_drop]
  rw [htext]
  refine .mk hkeyword ?_ ?_ hwords hplain
  · rwa [String.toList_ofList]
  · intro hempty
    rw [← String.toList_eq_nil_iff, String.toList_ofList] at hempty
    exact hne hempty

theorem CallForm.callTarget?_eq {text target : String} (h : CallForm text target) :
    callTarget? text = some target := by
  cases h with
  | @mk keyword blanks words hkeyword hblanks hsome hwords hplain =>
    rw [callTarget?_eq_some_iff]
    refine ⟨blanks.toList, ?_, String.toList_eq_nil_iff.not.mpr hsome, hblanks,
      isTarget_iff.mpr ⟨words, hwords, hplain, rfl⟩⟩
    have hlength : keyword.toList.length = 4 := hkeyword
    change List.drop 4 _ = _
    rw [String.toList_append, String.toList_append, List.append_assoc, ← hlength, List.drop_left]

-- Whatever is no `CALL` form, a text of fewer than four characters among it, has no target.
theorem callTarget?_exact (text : String) :
    (∀ target, callTarget? text = some target ↔ CallForm text target) ∧
      (callTarget? text = none ↔ ∀ target, ¬ CallForm text target) ∧
      (text.length < 4 → callTarget? text = none) := by
  have hiff : ∀ target, callTarget? text = some target ↔ CallForm text target :=
    fun target => ⟨callForm_of_callTarget?, CallForm.callTarget?_eq⟩
  have hnone : callTarget? text = none ↔ ∀ target, ¬ CallForm text target := by
    simp only [← hiff, Option.eq_none_iff_forall_ne_some]
  refine ⟨hiff, hnone, ?_⟩
  intro hshort
  rw [hnone]
  intro target h
  cases h with
  | mk hkeyword =>
    rw [String.length_append, String.length_append, hkeyword] at hshort
    omega

theorem callTarget?_exact_of_wideBlank :
    CallForm "call\u3000\ta.b_1.9" "a.b_1.9" ∧ "CAL".length < 4 ∧ callTarget? "CAL" = none :=
  ⟨((callTarget?_exact _).1 _).mp (by decide +kernel), by decide,
    (callTarget?_exact "CAL").2.2 (by decide)⟩

example : ["CALL .f", "CALL m.", "CALL a..b", "CALL a b", "CALL a ", "CALLa"].map callTarget? =
    [none, none, none, none, none, none] := by
  decide

end Directive

/-- The line loads a module of the given name. -/
def Line.Loads (line : Line) (name : String) : Prop :=
  Directive.LoadForm line.trimmed name

theorem Line.loads_iff {line : Line} {name : String} :
    line.Loads name ↔ line.is .load = true ∧ Directive.loadName? line.trimmed = some name := by
  constructor
  · intro h
    exact ⟨Directive.LoadForm.startsWith_load h, Directive.LoadForm.loadName?_eq h⟩
  · intro h
    exact Directive.loadForm_of_loadName? line.trimsTo_trimmed.1 h.1 h.2

end StackScript
