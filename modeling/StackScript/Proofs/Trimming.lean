import StackScript.Line

/-! What trimming leaves of a text and which words a text has, told by the blanks around them. -/
namespace StackScript

namespace Text

variable {c : Char} {cs inner before after word : List Char}

/-- Nothing but blanks. -/
def Blanks (cs : List Char) : Prop :=
  ∀ c ∈ cs, isBlank c = true

instance (cs : List Char) : Decidable (Blanks cs) :=
  decidable_of_iff (cs.all isBlank = true) List.all_eq_true

/-- No blank stands at either end. -/
structure Trimmed (cs : List Char) : Prop where
  head : ∀ c ∈ cs.head?, isBlank c = false
  last : ∀ c ∈ cs.getLast?, isBlank c = false

instance (cs : List Char) : Decidable (Trimmed cs) :=
  decidable_of_iff (cs.head?.any isBlank = false ∧ cs.getLast?.any isBlank = false) (by
    rw [Option.any_eq_false, Option.any_eq_false]
    exact ⟨fun h => ⟨h.1, h.2⟩, fun h => ⟨h.head, h.last⟩⟩)

/-- The second text is the first one without the blanks at its ends. -/
def TrimsTo (cs inner : List Char) : Prop :=
  Trimmed inner ∧ ∃ before after, Blanks before ∧ Blanks after ∧ cs = before ++ inner ++ after

theorem trimStart_append (hbefore : Blanks before) (cs : List Char) :
    trimStart (before ++ cs) = trimStart cs :=
  List.dropWhile_append_of_pos hbefore

theorem trimStart_of_head (h : ∀ c ∈ cs.head?, isBlank c = false) : trimStart cs = cs := by
  cases cs with
  | nil => rfl
  | cons c cs => exact List.dropWhile_cons_of_neg (by simp [h c rfl])

theorem head_trimStart (cs : List Char) : ∀ c ∈ (trimStart cs).head?, isBlank c = false := by
  intro c hc
  have hstop := List.head?_dropWhile_not isBlank cs
  change (trimStart cs).head? = some c at hc
  rw [trimStart] at hc
  rw [hc] at hstop
  exact hstop

theorem exists_blanks_trimStart (cs : List Char) :
    ∃ before, Blanks before ∧ cs = before ++ trimStart cs :=
  ⟨cs.takeWhile isBlank, List.all_eq_true.mp List.all_takeWhile,
    List.takeWhile_append_dropWhile.symm⟩

-- The end of a text is the start of its reverse.
theorem trimEnd_eq (cs : List Char) : trimEnd cs = (trimStart cs.reverse).reverse := rfl

theorem Blanks.reverse (h : Blanks cs) : Blanks cs.reverse := by
  intro c hc
  exact h c (List.mem_reverse.mp hc)

theorem trimEnd_append (cs : List Char) (hafter : Blanks after) :
    trimEnd (cs ++ after) = trimEnd cs := by
  rw [trimEnd_eq, List.reverse_append, trimStart_append hafter.reverse, trimEnd_eq]

theorem trimEnd_of_last (h : ∀ c ∈ cs.getLast?, isBlank c = false) : trimEnd cs = cs := by
  rw [trimEnd_eq, trimStart_of_head, List.reverse_reverse]
  rw [List.head?_reverse]
  exact h

theorem last_trimEnd (cs : List Char) : ∀ c ∈ (trimEnd cs).getLast?, isBlank c = false := by
  rw [trimEnd_eq, List.getLast?_reverse]
  exact head_trimStart cs.reverse

-- A text ends like its last part, unless that is empty.
theorem last_append (hbefore : after = [] → ∀ c ∈ before.getLast?, isBlank c = false)
    (hafter : ∀ c ∈ after.getLast?, isBlank c = false) :
    ∀ c ∈ (before ++ after).getLast?, isBlank c = false := by
  intro c hc
  rw [List.getLast?_append] at hc
  cases hlast : after.getLast? with
  | some d =>
    rw [hlast] at hc
    obtain rfl : d = c := Option.some.inj hc
    exact hafter d hlast
  | none =>
    rw [hlast] at hc
    exact hbefore (List.getLast?_eq_none_iff.mp hlast) c hc

theorem last_of_append (h : ∀ c ∈ (before ++ after).getLast?, isBlank c = false) :
    ∀ c ∈ after.getLast?, isBlank c = false := by
  intro c hc
  apply h
  rw [List.getLast?_append, Option.mem_def.mp hc]
  rfl

theorem exists_trimEnd_blanks (cs : List Char) :
    ∃ after, Blanks after ∧ cs = trimEnd cs ++ after := by
  obtain ⟨before, hbefore, hcs⟩ := exists_blanks_trimStart cs.reverse
  refine ⟨before.reverse, hbefore.reverse, ?_⟩
  rw [trimEnd_eq, ← List.reverse_append, ← hcs, List.reverse_reverse]

theorem trimsTo_trim (cs : List Char) : TrimsTo cs (trim cs) := by
  obtain ⟨before, hbefore, hcs⟩ := exists_blanks_trimStart cs
  obtain ⟨after, hafter, hstart⟩ := exists_trimEnd_blanks (trimStart cs)
  refine ⟨⟨?_, last_trimEnd _⟩, before, after, hbefore, hafter, ?_⟩
  · -- what is left starts like the text whose end is trimmed
    intro c hc
    apply head_trimStart cs
    rw [hstart, List.head?_append, ← trim, Option.mem_def.mp hc]
    rfl
  · rw [List.append_assoc, trim, ← hstart]
    exact hcs

theorem TrimsTo.trim_eq (h : TrimsTo cs inner) : trim cs = inner := by
  obtain ⟨htrimmed, before, after, hbefore, hafter, hcs⟩ := h
  rw [hcs, trim, List.append_assoc, trimStart_append hbefore]
  cases inner with
  | nil =>
    have hempty : trimStart after = [] := by
      have h := trimStart_append hafter []
      rwa [List.append_nil] at h
    rw [List.nil_append, hempty]
    rfl
  | cons c rest =>
    have hstart : trimStart (c :: rest ++ after) = c :: rest ++ after :=
      trimStart_of_head htrimmed.head
    rw [hstart, trimEnd_append _ hafter, trimEnd_of_last htrimmed.last]

/-- Trimming has one result, the text between the blanks. -/
theorem trim_eq_iff : trim cs = inner ↔ TrimsTo cs inner := by
  constructor
  · intro h
    rw [← h]
    exact trimsTo_trim cs
  · exact TrimsTo.trim_eq

theorem TrimsTo.subset (h : TrimsTo cs inner) : inner ⊆ cs := by
  obtain ⟨_, before, after, _, _, hcs⟩ := h
  intro c hc
  rw [hcs]
  simp [hc]

theorem Trimmed.trimsTo (h : Trimmed cs) : TrimsTo cs cs :=
  ⟨h, [], [], by simp [Blanks], by simp [Blanks], by simp⟩

theorem Trimmed.trim_eq (h : Trimmed cs) : trim cs = cs :=
  h.trimsTo.trim_eq

-- A text that ends in blanks is not trimmed.
theorem Trimmed.eq_nil_of_blanks (h : Trimmed (cs ++ after)) (hafter : Blanks after) :
    after = [] := by
  cases hlast : after.getLast? with
  | none => exact List.getLast?_eq_none_iff.mp hlast
  | some c =>
    have hc : isBlank c = false := last_of_append h.last c hlast
    rw [hafter c (List.mem_of_mem_getLast? hlast)] at hc
    exact absurd hc (by decide)

theorem trim_eq_nil_iff : trim cs = [] ↔ Blanks cs := by
  constructor
  · intro h
    obtain ⟨_, before, after, hbefore, hafter, hcs⟩ := trim_eq_iff.mp h
    intro c hc
    rw [hcs, List.append_nil, List.mem_append] at hc
    exact hc.elim (hbefore c) (hafter c)
  · intro h
    exact trim_eq_iff.mpr ⟨⟨by simp, by simp⟩, cs, [], h, by simp [Blanks], by simp⟩

/-- One word: some characters, none of them blank. -/
structure IsWord (word : List Char) : Prop where
  ne_nil : word ≠ []
  notBlank : ∀ c ∈ word, isBlank c = false

instance (word : List Char) : Decidable (IsWord word) :=
  decidable_of_iff (word ≠ [] ∧ word.any isBlank = false) (by
    rw [List.any_eq_false]
    exact ⟨fun h => ⟨h.1, by simpa using h.2⟩, fun h => ⟨h.ne_nil, by simpa using h.notBlank⟩⟩)

theorem IsWord.trimmed (h : IsWord word) : Trimmed word where
  head := fun c hc => h.notBlank c (List.mem_of_mem_head? hc)
  last := fun c hc => h.notBlank c (List.mem_of_mem_getLast? hc)

theorem IsWord.not_mem (h : IsWord word) (hc : isBlank c = true) : c ∉ word := by
  intro hmem
  rw [h.notBlank c hmem] at hc
  exact absurd hc (by decide)

/-- What can follow a word: nothing, or a blank first. -/
def StartsBlank (cs : List Char) : Prop :=
  ∀ c ∈ cs.head?, isBlank c = true

instance (cs : List Char) : Decidable (StartsBlank cs) :=
  decidable_of_iff (cs.head?.all isBlank = true) (by cases cs <;> simp [StartsBlank])

-- A word does not start with a blank.
theorem IsWord.ne_nil_of_startsBlank (h : IsWord word)
    (hstart : StartsBlank (before ++ word ++ after)) : before ≠ [] := by
  intro hnil
  obtain ⟨c, rest, hword⟩ := List.exists_cons_of_ne_nil h.ne_nil
  have hblank := hstart c (by rw [hnil, hword]; rfl)
  exact h.not_mem hblank (by rw [hword]; exact List.mem_cons_self)

/-- The text starts, after blanks, with the word and what follows it is no part of the word. -/
def FirstWord (cs word : List Char) : Prop :=
  IsWord word ∧ ∃ before after, Blanks before ∧ StartsBlank after ∧ cs = before ++ word ++ after

theorem words_blanks_append (hbefore : Blanks before) (cs : List Char) :
    words (before ++ cs) = words cs := by
  induction before with
  | nil => rfl
  | cons c before ih =>
    rw [List.cons_append, words_cons_blank (hbefore c List.mem_cons_self)]
    exact ih (fun d hd => hbefore d (List.mem_cons_of_mem c hd))

theorem words_word_append (hword : IsWord word) (hafter : StartsBlank after) :
    words (word ++ after) = word :: words after := by
  have hkeep : (!word.isEmpty) = true := by simpa using hword.ne_nil
  cases after with
  | nil =>
    rw [List.append_nil, words, List.splitOnP_eq_singleton hword.notBlank, List.filter_cons,
      if_pos hkeep]
    rfl
  | cons c after =>
    rw [words_cons_blank (hafter c rfl), words,
      List.splitOnP_append_cons_of_forall_mem hword.notBlank c (hafter c rfl), List.filter_cons,
      if_pos hkeep]
    rfl

theorem FirstWord.head?_words (h : FirstWord cs word) : (words cs).head? = some word := by
  obtain ⟨hword, before, after, hbefore, hafter, hcs⟩ := h
  rw [hcs, List.append_assoc, words_blanks_append hbefore, words_word_append hword hafter]
  rfl

-- Beyond the first blanks, the word reaches up to the next blank.
theorem exists_firstWord (h : ¬ Blanks cs) : ∃ word, FirstWord cs word := by
  obtain ⟨before, hbefore, hcs⟩ := exists_blanks_trimStart cs
  let word := (trimStart cs).takeWhile (fun c => !isBlank c)
  let after := (trimStart cs).dropWhile (fun c => !isBlank c)
  have hsplit : trimStart cs = word ++ after := List.takeWhile_append_dropWhile.symm
  have hne : trimStart cs ≠ [] := by
    intro hempty
    rw [hempty, List.append_nil] at hcs
    exact h (hcs ▸ hbefore)
  refine ⟨word, ⟨?_, ?_⟩, before, after, hbefore, ?_, ?_⟩
  · obtain ⟨c, rest, hstart⟩ := List.exists_cons_of_ne_nil hne
    have hc : isBlank c = false := head_trimStart cs c (by rw [hstart]; rfl)
    change (trimStart cs).takeWhile (fun c => !isBlank c) ≠ []
    rw [hstart, List.takeWhile_cons_of_pos (by simp [hc])]
    exact List.cons_ne_nil _ _
  · intro c hc
    have hall := List.all_eq_true.mp List.all_takeWhile c hc
    simpa using hall
  · intro c hc
    have hstop := List.head?_dropWhile_not (fun c => !isBlank c) (trimStart cs)
    change after.head? = some c at hc
    rw [hc] at hstop
    simpa using hstop
  · rw [List.append_assoc, ← hsplit]
    exact hcs

theorem words_of_blanks (h : Blanks cs) : words cs = [] := by
  have hwords := words_blanks_append h []
  rwa [List.append_nil] at hwords

theorem head?_words_eq_some_iff : (words cs).head? = some word ↔ FirstWord cs word := by
  constructor
  · intro h
    by_cases hblanks : Blanks cs
    · rw [words_of_blanks hblanks] at h
      exact absurd h (by simp)
    · obtain ⟨first, hfirst⟩ := exists_firstWord hblanks
      rw [hfirst.head?_words, Option.some.injEq] at h
      rw [← h]
      exact hfirst
  · exact FirstWord.head?_words

end Text

theorem Line.trimsTo_trimmed (line : Line) : Text.TrimsTo line.raw.toList line.trimmed.toList := by
  rw [trimmed, String.toList_ofList]
  exact Text.trimsTo_trim _

theorem Line.trimmed_eq_raw {line : Line} (h : Text.Trimmed line.raw.toList) :
    line.trimmed = line.raw := by
  rw [trimmed, h.trim_eq, String.ofList_toList]

end StackScript
