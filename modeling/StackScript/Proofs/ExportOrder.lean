import Mathlib.Data.List.Induction
import StackScript.Proofs.BareName
import StackScript.Proofs.DeclaredSymbols
import StackScript.Proofs.LineEnding

/-! What a module exports: the names behind `EXTERN` in its metadata text, left to right and top to
bottom, then the labels of its implementation text, each of them where it comes first. -/
namespace StackScript

open Text

section First

variable {names kept : List String} {name : String} {i : Nat}

/-- There is a name at the place, and it is none of those before. -/
def FirstAt (names : List String) (i : Nat) : Prop :=
  ∃ name, names[i]? = some name ∧ name ∉ names.take i

/-- The second list is the first without repetitions: what it has at the places of first
appearance, in order. -/
def KeepsFirst (names kept : List String) : Prop :=
  ∃ places : List Nat, places.Pairwise (· < ·) ∧ (∀ i, i ∈ places ↔ FirstAt names i) ∧
    kept.map some = places.map (fun i => names[i]?)

theorem FirstAt.lt_length (h : FirstAt names i) : i < names.length := by
  obtain ⟨name, hname, _⟩ := h
  exact (List.getElem?_eq_some_iff.mp hname).1

-- One more name leaves the places before it alone, and counts itself only if it is new.
theorem firstAt_concat_iff :
    FirstAt (names ++ [name]) i ↔ FirstAt names i ∨ i = names.length ∧ name ∉ names := by
  rcases Nat.lt_trichotomy i names.length with hlt | heq | hgt
  · have hne : ¬ (i = names.length ∧ name ∉ names) := fun h => Nat.ne_of_lt hlt h.1
    rw [FirstAt, List.getElem?_append_left hlt, List.take_append_of_le_length (Nat.le_of_lt hlt),
      or_iff_left hne, FirstAt]
  · have hnot : ¬ FirstAt names i := fun h => Nat.ne_of_lt h.lt_length heq
    rw [or_iff_right hnot, heq, FirstAt, List.getElem?_concat_length, List.take_left]
    simp
  · have hnot : ¬ FirstAt (names ++ [name]) i := by
      intro h
      have hlt := h.lt_length
      rw [List.length_append, List.length_singleton] at hlt
      omega
    have hnot' : ¬ FirstAt names i := fun h => Nat.lt_asymm hgt h.lt_length
    have hne : ¬ (i = names.length ∧ name ∉ names) := fun h => Nat.ne_of_gt hgt h.1
    simp only [hnot, hnot', hne, or_self]

theorem map_getElem?_concat {places : List Nat} (h : ∀ i ∈ places, FirstAt names i)
    (name : String) :
    places.map (fun i => (names ++ [name])[i]?) = places.map (fun i => names[i]?) := by
  apply List.map_congr_left
  intro i hi
  exact List.getElem?_append_left (h i hi).lt_length

theorem KeepsFirst.concat_of_mem (h : KeepsFirst names kept) (hname : name ∈ names) :
    KeepsFirst (names ++ [name]) kept := by
  obtain ⟨places, hpairwise, hplaces, hkept⟩ := h
  refine ⟨places, hpairwise, ?_, ?_⟩
  · intro i
    rw [hplaces, firstAt_concat_iff, or_iff_left (fun h => h.2 hname)]
  · rw [hkept, map_getElem?_concat (fun i => (hplaces i).mp)]

theorem KeepsFirst.concat_of_not_mem (h : KeepsFirst names kept) (hname : name ∉ names) :
    KeepsFirst (names ++ [name]) (kept ++ [name]) := by
  obtain ⟨places, hpairwise, hplaces, hkept⟩ := h
  refine ⟨places ++ [names.length], ?_, ?_, ?_⟩
  · rw [List.pairwise_append]
    refine ⟨hpairwise, List.pairwise_singleton _ _, ?_⟩
    intro i hi j hj
    rw [List.mem_singleton.mp hj]
    exact ((hplaces i).mp hi).lt_length
  · intro i
    rw [List.mem_append, hplaces, List.mem_singleton, firstAt_concat_iff]
    simp only [hname, not_false_eq_true, and_true]
  · rw [List.map_append, List.map_append, hkept, map_getElem?_concat (fun i => (hplaces i).mp),
      List.map_singleton, List.map_singleton, List.getElem?_concat_length]

-- How exports grow: a name that is there is passed over, any other goes to the end.
theorem eraseDups_concat (names : List String) (name : String) :
    (names ++ [name]).eraseDups =
      if name ∈ names then names.eraseDups else names.eraseDups ++ [name] := by
  rw [List.eraseDups_append]
  by_cases hname : name ∈ names
  · simp [hname, List.removeAll]
  · simp [hname, List.removeAll, List.eraseDups_cons]

theorem keepsFirst_eraseDups (names : List String) : KeepsFirst names names.eraseDups := by
  induction names using List.reverseRecOn with
  | nil => exact ⟨[], .nil, by simp [FirstAt], rfl⟩
  | append_singleton names name ih =>
    rw [eraseDups_concat]
    by_cases hname : name ∈ names
    · rw [if_pos hname]
      exact ih.concat_of_mem hname
    · rw [if_neg hname]
      exact ih.concat_of_not_mem hname

end First

/-- A name with the blanks before it, of which there is at least one. -/
structure SpacedName where
  blanks : String
  name : String
  blanks_ne : blanks ≠ ""
  areBlanks : Blanks blanks.toList
  isWord : IsWord name.toList

namespace SpacedName

variable {names : List SpacedName} {cs before word : List Char}

def ofParts (hsome : before ≠ []) (hbefore : Blanks before) (hword : IsWord word) :
    SpacedName where
  blanks := String.ofList before
  name := String.ofList word
  blanks_ne := by rwa [ne_eq, ← String.toList_eq_nil_iff, String.toList_ofList]
  areBlanks := by rwa [String.toList_ofList]
  isWord := by rwa [String.toList_ofList]

/-- The names one after the other, each behind its blanks. -/
def row (names : List SpacedName) : String :=
  String.join (names.map (fun s => s.blanks ++ s.name))

theorem toList_row_cons (s : SpacedName) (rest : List SpacedName) :
    (row (s :: rest)).toList = s.blanks.toList ++ (s.name.toList ++ (row rest).toList) := by
  rw [row, List.map_cons, String.join_cons, ← row, String.toList_append, String.toList_append,
    List.append_assoc]

theorem startsBlank_row (names : List SpacedName) : StartsBlank (row names).toList := by
  cases names with
  | nil => exact fun c hc => absurd hc (by simp [row])
  | cons s rest =>
    obtain ⟨b, more, hblanks⟩ :=
      List.exists_cons_of_ne_nil (String.toList_eq_nil_iff.not.mpr s.blanks_ne)
    intro c hc
    rw [toList_row_cons, hblanks] at hc
    obtain rfl : b = c := Option.some.inj hc
    exact s.areBlanks b (by rw [hblanks]; exact List.mem_cons_self)

theorem words_row (names : List SpacedName) :
    words (row names).toList = names.map (fun s => s.name.toList) := by
  induction names with
  | nil => rfl
  | cons s rest ih =>
    rw [toList_row_cons, words_blanks_append s.areBlanks,
      words_word_append s.isWord (startsBlank_row rest), ih, List.map_cons]

theorem last_row (names : List SpacedName) :
    ∀ c ∈ (row names).toList.getLast?, isBlank c = false := by
  induction names with
  | nil => exact fun c hc => absurd hc (by simp [row])
  | cons s rest ih =>
    rw [toList_row_cons]
    apply last_append
    · intro hempty
      exact absurd (List.append_eq_nil_iff.mp hempty).1 s.isWord.ne_nil
    · exact last_append (fun _ => s.isWord.trimmed.last) ih

-- A blank stands nowhere but before the names.
theorem not_mem_row {c : Char} (hc : isBlank c = true) (h : ∀ s ∈ names, c ∉ s.blanks.toList) :
    c ∉ (row names).toList := by
  induction names with
  | nil => simp [row]
  | cons s rest ih =>
    rw [toList_row_cons, List.mem_append, List.mem_append, not_or, not_or]
    exact ⟨h s List.mem_cons_self, s.isWord.not_mem hc,
      ih (fun t ht => h t (List.mem_cons_of_mem s ht))⟩

-- By induction on the length: behind the first word stands a shorter text of the same kind.
theorem exists_row (hhead : StartsBlank cs) (hlast : ∀ c ∈ cs.getLast?, isBlank c = false) :
    ∃ names, cs = (row names).toList := by
  induction hn : cs.length using Nat.strongRecOn generalizing cs with
  | ind n ih =>
    by_cases hnil : cs = []
    · exact ⟨[], by rw [hnil]; rfl⟩
    · have hnot : ¬ Blanks cs := by
        intro hblanks
        have hblank := hblanks _ (List.getLast_mem hnil)
        rw [hlast _ (List.getLast?_eq_some_getLast hnil)] at hblank
        exact absurd hblank (by decide)
      obtain ⟨word, hword, before, after, hbefore, hafter, hcs⟩ := exists_firstWord hnot
      have hsome : before ≠ [] := hword.ne_nil_of_startsBlank (hcs ▸ hhead)
      have hafterLast : ∀ c ∈ after.getLast?, isBlank c = false :=
        last_of_append (hcs ▸ hlast)
      have hshorter : after.length < n := by
        have hpos := List.length_pos_iff.mpr hword.ne_nil
        rw [hcs, List.length_append, List.length_append] at hn
        omega
      obtain ⟨rest, hrest⟩ := ih after.length hshorter hafter hafterLast rfl
      refine ⟨ofParts hsome hbefore hword :: rest, ?_⟩
      rw [toList_row_cons, ← hrest, hcs, List.append_assoc]
      simp only [ofParts, String.toList_ofList]

end SpacedName

theorem Directive.externNames_row (spaced : List SpacedName) :
    externNames ("EXTERN" ++ SpacedName.row spaced) = spaced.map SpacedName.name := by
  have hargument : external.argument ("EXTERN" ++ SpacedName.row spaced) =
      (SpacedName.row spaced).toList := by
    rw [argument, String.toList_append]
    rfl
  rw [externNames, hargument, SpacedName.words_row, List.map_map]
  simp only [Function.comp_def, String.ofList_toList]

namespace Line

variable {line : Line} {names : List String}

/-- The trimmed line is `EXTERN` and the names behind it, each after blanks. -/
def Externs (line : Line) (names : List String) : Prop :=
  ∃ spaced : List SpacedName, line.trimmed = "EXTERN" ++ SpacedName.row spaced ∧
    names = spaced.map SpacedName.name

-- A trimmed line does not end in blanks, so all that follows the keyword is blanks and names.
theorem externs_iff :
    line.Externs names ↔
      line.is .external = true ∧ Directive.externNames line.trimmed = names := by
  rw [is_eq_true_iff (by decide)]
  constructor
  · intro h
    obtain ⟨spaced, htext, hnames⟩ := h
    refine ⟨⟨SpacedName.row spaced, htext, SpacedName.startsBlank_row spaced⟩, ?_⟩
    rw [htext, hnames, Directive.externNames_row]
  · intro h
    obtain ⟨⟨rest, htext, hhead⟩, hnames⟩ := h
    have htrimmed := line.trimsTo_trimmed.1
    rw [htext, String.toList_append] at htrimmed
    obtain ⟨spaced, hspaced⟩ := SpacedName.exists_row hhead (last_of_append htrimmed.last)
    rw [String.toList_inj] at hspaced
    refine ⟨spaced, by rw [htext, hspaced]; rfl, ?_⟩
    rw [← hnames, htext, hspaced]
    exact Directive.externNames_row spaced

theorem Externs.empty_not_mem (h : line.Externs names) : "" ∉ names := by
  obtain ⟨spaced, _, hnames⟩ := h
  intro hempty
  rw [hnames, List.mem_map] at hempty
  obtain ⟨s, _, hs⟩ := hempty
  exact s.isWord.ne_nil (String.toList_eq_nil_iff.mpr hs)

end Line

theorem externalNames_cons (line : Line) (rest : List Line) :
    externalNames (line :: rest) =
      (if line.is .external then Directive.externNames line.trimmed else [])
        ++ externalNames rest :=
  List.flatMap_cons

theorem externalNames_append (lines more : List Line) :
    externalNames (lines ++ more) = externalNames lines ++ externalNames more :=
  List.flatMap_append

theorem gathers_externalNames (lines : List Line) :
    ∃ found, Gathers Line.Externs lines found ∧ externalNames lines = found.flatten := by
  induction lines with
  | nil => exact ⟨[], .nil, rfl⟩
  | cons line rest ih =>
    obtain ⟨found, hfound, hnames⟩ := ih
    rw [externalNames_cons, hnames]
    by_cases hline : line.is .external = true
    · exact ⟨_, .take (Line.externs_iff.mpr ⟨hline, rfl⟩) hfound, by rw [if_pos hline]; rfl⟩
    · exact ⟨found, .skip (fun _ h => hline (Line.externs_iff.mp h).1) hfound, by
        rw [if_neg hline]; rfl⟩

theorem empty_not_mem_externalNames (lines : List Line) : "" ∉ externalNames lines := by
  intro hempty
  obtain ⟨line, _, his, hmem⟩ := mem_externalNames.mp hempty
  exact (Line.externs_iff.mpr ⟨his, rfl⟩).empty_not_mem hmem

theorem empty_not_mem_labelNames (lines : List Line) : "" ∉ labelNames lines := by
  intro hempty
  obtain ⟨line, _, hlabel⟩ := mem_labelNames.mp hempty
  exact (Line.label?_eq_some_iff.mp hlabel).1 rfl

/-- What a module with the two texts exports. -/
structure Collects (metadata implementation : String) (exports : List String) : Prop where
  order : ∃ externs labels, Gathers Line.Externs (Line.scan metadata) externs ∧
    Gathers Line.Labels (Line.scan implementation) labels ∧
    KeepsFirst (externs.flatten ++ labels) exports
  nodup : exports.Nodup
  noEmpty : "" ∉ exports

theorem collects_eraseDups (metadata implementation : String) :
    Collects metadata implementation
      (externalNames (Line.scan metadata) ++ labelNames (Line.scan implementation)).eraseDups where
  order := by
    obtain ⟨externs, hexterns, heq⟩ := gathers_externalNames (Line.scan metadata)
    refine ⟨externs, labelNames (Line.scan implementation), hexterns,
      Line.gathers_labelNames _, ?_⟩
    rw [heq]
    exact keepsFirst_eraseDups _
  nodup := nodup_eraseDups _
  noEmpty := by
    rw [List.mem_eraseDups, List.mem_append, not_or]
    exact ⟨empty_not_mem_externalNames _, empty_not_mem_labelNames _⟩

namespace SpacedName

variable {spaced : List SpacedName}

theorem isWord_keyword : IsWord "EXTERN".toList := by decide

theorem trimmed_extern_row (spaced : List SpacedName) :
    Trimmed ("EXTERN" ++ row spaced).toList where
  head := by
    intro c hc
    rw [String.toList_append] at hc
    obtain rfl : 'E' = c := Option.some.inj hc
    decide
  last := by
    rw [String.toList_append]
    exact last_append (fun _ => isWord_keyword.trimmed.last) (last_row spaced)

theorem trimmed_line (spaced : List SpacedName) (i : Nat) :
    (Line.mk i ("EXTERN" ++ row spaced)).trimmed = "EXTERN" ++ row spaced :=
  Line.trimmed_eq_raw (trimmed_extern_row spaced)

theorem externs_line (spaced : List SpacedName) (i : Nat) :
    (Line.mk i ("EXTERN" ++ row spaced)).Externs (spaced.map name) :=
  ⟨spaced, trimmed_line spaced i, rfl⟩

theorem not_mem_extern_row {c : Char} (hc : isBlank c = true)
    (h : ∀ s ∈ spaced, c ∉ s.blanks.toList) : c ∉ ("EXTERN" ++ row spaced).toList := by
  rw [String.toList_append, List.mem_append, not_or]
  exact ⟨isWord_keyword.not_mem hc, not_mem_row hc h⟩

end SpacedName

/-- A text that reading leaves whole as one line, and which among any lines adds the names, in
order, and nothing else. -/
structure IsExternLine (raw : String) (names : List String) : Prop where
  unified : unifyNewlines raw = raw
  oneLine : Line.scan raw = [⟨0, raw⟩]
  isExternal : ∀ i, (Line.mk i raw).is .external = true
  externNames : ∀ i, Directive.externNames (Line.mk i raw).trimmed = names
  between : ∀ (above below : List Line) (i : Nat),
    externalNames (above ++ ⟨i, raw⟩ :: below) =
      externalNames above ++ names ++ externalNames below

theorem isExternLine_row {spaced : List SpacedName}
    (h : ∀ s ∈ spaced, '\n' ∉ s.blanks.toList ∧ '\r' ∉ s.blanks.toList) :
    IsExternLine ("EXTERN" ++ SpacedName.row spaced) (spaced.map SpacedName.name) := by
  have hreturn : '\r' ∉ ("EXTERN" ++ SpacedName.row spaced).toList :=
    SpacedName.not_mem_extern_row (by decide) (fun s hs => (h s hs).2)
  have hline := fun i => Line.externs_iff.mp (SpacedName.externs_line spaced i)
  constructor
  case unified => exact unifyNewlines_of_no_return hreturn
  case oneLine =>
    have hfeed : '\n' ∉ ("EXTERN" ++ SpacedName.row spaced).toList :=
      SpacedName.not_mem_extern_row (by decide) (fun s hs => (h s hs).1)
    have hscan := Line.scan_ofList hfeed (fun hlast => hreturn (List.mem_of_getLast? hlast))
    rwa [String.ofList_toList] at hscan
  case isExternal => exact fun i => (hline i).1
  case externNames => exact fun i => (hline i).2
  case between =>
    intro above below i
    rw [externalNames_append, externalNames_cons, if_pos (hline i).1, (hline i).2,
      List.append_assoc]

theorem ModuleSource.inspect_of_readable {source : ModuleSource}
    {name metadata implementation : String}
    (hmetadata : source.Readable (source.layout.metadata name) metadata)
    (himplementation : source.Readable (source.layout.implementation name) implementation) :
    (source.inspect name).outcome =
      .ok (.located (.read (externalNames (Line.scan metadata)))
        (.read (labelNames (Line.scan implementation)))) :=
  inspect_eq_located_iff.mpr ⟨.read hmetadata, .read himplementation⟩

theorem exports_collected (source : ModuleSource) :
    (∀ name metadata implementation : String,
      source.Readable (source.layout.metadata name) metadata →
      source.Readable (source.layout.implementation name) implementation →
        ∃ inspection, (source.inspect name).outcome = .ok inspection ∧
          Collects metadata implementation inspection.exports) ∧
    (∀ (lines : List Line) (resolution : Resolution),
      (source.resolve lines).outcome = .ok resolution →
      ∀ m ∈ resolution.modules, ∀ metadata implementation : String,
        source.Readable (source.layout.metadata m.name) metadata →
        source.Readable (source.layout.implementation m.name) implementation →
          Collects metadata implementation m.exports) ∧
    ∀ spaced : List SpacedName,
      (∀ s ∈ spaced, '\n' ∉ s.blanks.toList ∧ '\r' ∉ s.blanks.toList) →
        IsExternLine ("EXTERN" ++ SpacedName.row spaced) (spaced.map SpacedName.name) := by
  refine ⟨?_, ?_, fun spaced => isExternLine_row⟩
  · intro name metadata implementation hmetadata himplementation
    exact ⟨_, ModuleSource.inspect_of_readable hmetadata himplementation,
      collects_eraseDups metadata implementation⟩
  · intro lines resolution hresolve m hm metadata implementation hmetadata himplementation
    have hinspect := ModuleSource.inspect_of_resolve hresolve hm
    rw [ModuleSource.inspect_of_readable hmetadata himplementation, Except.ok.injEq] at hinspect
    rw [Module.exports, ← hinspect]
    exact collects_eraseDups metadata implementation

/-- A metadata text with a word that only starts like the keyword, and a name on two lines. -/
def crossedMetadata : String :=
  "\u3000EXTERN\tadd  sub:\nEXTERNAL no\nEXTERN\nEXTERN mul add"

/-- An implementation text with a label that is exported already, and a colon without a name. -/
def crossedImplementation : String :=
  "add:\n  ADD\nsquare :\n:\nEXTERN f:\nsquare:"

def crossedSource : ModuleSource :=
  (Document.loading "m").source
    (.ofFiles [("m.stackm", crossedMetadata), ("m.stack", crossedImplementation)]) {}

/-- Two names with all kinds of blanks that end no line. -/
def wideRow : List SpacedName :=
  [⟨"\u3000\x0b", "a.b", by decide, by decide, by decide⟩,
    ⟨"\u2028\x1c\u0085", "EXTERN", by decide, by decide, by decide⟩]

theorem exports_collected_of_crossedNames :
    (∃ inspection, (crossedSource.inspect "m").outcome = .ok inspection ∧
      inspection.exports = ["add", "sub:", "mul", "square", "EXTERN f"] ∧
      Collects crossedMetadata crossedImplementation inspection.exports) ∧
    (∃ resolution m, (crossedSource.resolve (Document.loading "m").lines).outcome =
        .ok resolution ∧ resolution.modules = [m] ∧
      Collects crossedMetadata crossedImplementation m.exports) ∧
    IsExternLine "EXTERN\u3000\x0ba.b\u2028\x1c\u0085EXTERN" ["a.b", "EXTERN"] := by
  have hmetadata : crossedSource.Readable (crossedSource.layout.metadata "m") crossedMetadata :=
    ⟨by decide +kernel, by decide +kernel⟩
  have himplementation :
      crossedSource.Readable (crossedSource.layout.implementation "m") crossedImplementation :=
    ⟨by decide +kernel, by decide +kernel⟩
  obtain ⟨hinspect, hresolve, hrow⟩ := exports_collected crossedSource
  refine ⟨?_, ?_, ?_⟩
  · obtain ⟨inspection, hrun, hcollects⟩ := hinspect "m" _ _ hmetadata himplementation
    refine ⟨inspection, hrun, ?_, hcollects⟩
    rw [ModuleSource.inspect_of_readable hmetadata himplementation, Except.ok.injEq] at hrun
    rw [← hrun]
    decide +kernel
  · have hrun : (crossedSource.resolve (Document.loading "m").lines).outcome.toOption.map
        Resolution.moduleNames = some ["m"] := by decide +kernel
    obtain ⟨resolution, hresolution, hnames⟩ := Run.exists_outcome_of_map_eq hrun
    obtain ⟨m, hmodules, hname⟩ := List.map_eq_singleton_iff.mp hnames
    refine ⟨resolution, m, hresolution, hmodules, ?_⟩
    apply hresolve _ resolution hresolution m (hmodules ▸ List.mem_singleton_self m)
    · rw [hname]
      exact hmetadata
    · rw [hname]
      exact himplementation
  · exact hrow wideRow (by decide)

end StackScript
