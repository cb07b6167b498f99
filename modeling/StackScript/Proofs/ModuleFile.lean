import StackScript.Proofs.PathText

/-! The two files of a module: where the suffix stands in their paths, and which modules share a
file. -/
namespace StackScript

namespace Path

variable {p q : Path}

theorem name_eq_empty_iff : p.name = "" ↔ p.parts = [] := by
  constructor
  · intro hname
    by_cases hparts : p.parts = []
    · exact hparts
    · exact absurd hname (isPart_name hparts).1
  · intro hparts
    simp [name, hparts]

theorem parts_eq_concat (h : p.name ≠ "") : p.parts = p.parent.parts ++ [p.name] := by
  have hparts : p.parts ≠ [] := fun hnil => h (name_eq_empty_iff.mpr hnil)
  rw [name, List.getLast?_eq_some_getLast hparts, Option.getD_some]
  exact (List.dropLast_concat_getLast hparts).symm

-- A path without parts is its own parent; no other path has the empty name.
theorem eq_of_parent_of_name (hparent : p.parent = q.parent) (hname : p.name = q.name) :
    p = q := by
  have hanchor : p.parent.anchor = q.parent.anchor := by rw [hparent]
  have hparts : p.parts = q.parts := by
    by_cases hempty : p.name = ""
    · rw [name_eq_empty_iff.mp hempty, name_eq_empty_iff.mp (hname.symm.trans hempty)]
    · have hother : q.name ≠ "" := fun heq => hempty (hname.trans heq)
      rw [parts_eq_concat hempty, parts_eq_concat hother, hparent, hname]
  cases p
  cases q
  simp_all [parent]

-- What follows the empty name of a root has to be a part by itself.
theorem isPart_name_append {suffix : String} (hslash : '/' ∉ suffix.toList)
    (hroot : p.name = "" → IsPart suffix) : IsPart (p.name ++ suffix) := by
  by_cases hname : p.name = ""
  · rw [hname, String.empty_append]
    exact hroot hname
  · have hparts : p.parts ≠ [] := fun hnil => hname (name_eq_empty_iff.mpr hnil)
    exact (isPart_name hparts).append hslash

/-- The text of a directory as it stands in front of a name. -/
def leading (p : Path) : String :=
  p.anchor.text ++ String.join (p.parts.map (· ++ "/"))

theorem intercalate_concat (above : List String) (last : String) :
    "/".intercalate (above ++ [last]) = String.join (above.map (· ++ "/")) ++ last := by
  induction above with
  | nil => simp
  | cons part above ih =>
    rw [List.cons_append, String.intercalate_cons_of_ne_nil (by simp), ih, List.map_cons,
      String.join_cons]
    simp only [String.append_assoc]

theorem toString_eq_leading_append (h : p.name ≠ "") :
    p.toString = p.parent.leading ++ p.name := by
  have hparts := parts_eq_concat h
  rw [toString, if_neg (by simp [hparts]), hparts, intercalate_concat, leading,
    String.append_assoc]
  rfl

end Path

namespace ModuleLayout

variable {layout : ModuleLayout} {name other suffix : String}

theorem parent_file (h : IsPart ((layout.base name).name ++ suffix)) :
    (layout.file name suffix).parent = (layout.base name).parent :=
  Path.parent_join_of_isPart h

theorem name_file (h : IsPart ((layout.base name).name ++ suffix)) :
    (layout.file name suffix).name = (layout.base name).name ++ suffix :=
  Path.name_join_of_isPart h

theorem toString_file (hname : (layout.base name).name ≠ "") (hslash : '/' ∉ suffix.toList) :
    (layout.file name suffix).toString = (layout.base name).toString ++ suffix := by
  have hpart := Path.isPart_name_append hslash (fun hempty => absurd hempty hname)
  have hfile : (layout.file name suffix).name ≠ "" := by
    rw [name_file hpart]
    exact hpart.1
  rw [Path.toString_eq_leading_append hfile, Path.toString_eq_leading_append hname,
    parent_file hpart, name_file hpart, String.append_assoc]

theorem file_eq_iff (hsuffix : IsPart suffix) :
    layout.file name suffix = layout.file other suffix ↔ layout.base name = layout.base other := by
  have hpart : ∀ name, IsPart ((layout.base name).name ++ suffix) :=
    fun _ => Path.isPart_name_append hsuffix.2.2 (fun _ => hsuffix)
  constructor
  · intro heq
    apply Path.eq_of_parent_of_name
    · rw [← parent_file (hpart name), heq, parent_file (hpart other)]
    · apply (String.append_left_inj suffix).mp
      rw [← name_file (hpart name), heq, name_file (hpart other)]
  · intro heq
    simp only [file, heq]

-- Whatever the bases are, one path has one last part, so both suffixes end it.
theorem suffix_or_suffix_of_file_eq {second : String} (hsuffix : IsPart suffix)
    (hsecond : IsPart second) (heq : layout.file name suffix = layout.file other second) :
    suffix.toList <:+ second.toList ∨ second.toList <:+ suffix.toList := by
  have hname : (layout.base name).name ++ suffix = (layout.base other).name ++ second := by
    rw [← name_file (Path.isPart_name_append hsuffix.2.2 (fun _ => hsuffix)), heq,
      name_file (Path.isPart_name_append hsecond.2.2 (fun _ => hsecond))]
  have hlast := congrArg String.toList hname
  rw [String.toList_append, String.toList_append] at hlast
  exact List.suffix_or_suffix_of_suffix ⟨_, hlast⟩ ⟨_, rfl⟩

/-- The text of each file is the text of the module's base and then the suffix. -/
structure Suffixes (layout : ModuleLayout) (name : String) : Prop where
  metadata : '/' ∉ layout.metadataSuffix.toList →
    (layout.metadata name).toString = (layout.base name).toString ++ layout.metadataSuffix
  implementation : '/' ∉ layout.implementationSuffix.toList →
    (layout.implementation name).toString =
      (layout.base name).toString ++ layout.implementationSuffix

/-- Two modules share a file of one kind if they have the same base, and never otherwise; a file of
one kind is never a file of the other. -/
structure Separates (layout : ModuleLayout) (name other : String) : Prop where
  metadata : layout.metadata name = layout.metadata other ↔ layout.base name = layout.base other
  implementation : layout.implementation name = layout.implementation other ↔
    layout.base name = layout.base other
  kinds : layout.metadata name ≠ layout.implementation other

-- The standard suffixes are parts by themselves, which makes the roots no exception.
theorem separates_of_standard (root : Path) (name other : String) :
    ModuleLayout.Separates { root } name other where
  metadata := file_eq_iff (show IsPart ".stackm" by decide)
  implementation := file_eq_iff (show IsPart ".stack" by decide)
  kinds := by
    intro heq
    have hends : ".stackm".toList <:+ ".stack".toList ∨ ".stack".toList <:+ ".stackm".toList :=
      suffix_or_suffix_of_file_eq (by decide) (by decide) heq
    exact absurd hends (by decide)

theorem files_told_by_base :
    (∀ (layout : ModuleLayout) (name : String), (layout.base name).name ≠ "" →
      layout.Suffixes name) ∧
    ∀ (root : Path) (name other : String), ModuleLayout.Separates { root } name other := by
  refine ⟨?_, separates_of_standard⟩
  intro layout name hname
  exact ⟨toString_file hname, toString_file hname⟩

/-- A layout whose root is relative and whose suffixes are not the standard ones. -/
def looseLayout : ModuleLayout :=
  ⟨Path.ofString "./lib/", "", "."⟩

-- A name that goes up, repeats slashes and ends in a dotted part; then two roots as bases.
theorem files_told_by_base_of_looseLayout :
    (looseLayout.base "..//a.b/./c.v1/").toString = "lib/../a.b/c.v1" ∧
      (looseLayout.metadata "..//a.b/./c.v1/").toString = "lib/../a.b/c.v1" ++ "" ∧
      (looseLayout.implementation "..//a.b/./c.v1/").toString = "lib/../a.b/c.v1" ++ "." ∧
      ModuleLayout.base { root := Path.ofString "//" } "." ≠
        ModuleLayout.base { root := Path.ofString "//" } "///" ∧
      ModuleLayout.metadata { root := Path.ofString "//" } "." ≠
        ModuleLayout.metadata { root := Path.ofString "//" } "///" := by
  have hbase : (looseLayout.base "..//a.b/./c.v1/").toString = "lib/../a.b/c.v1" := by
    decide +kernel
  have hroots : ModuleLayout.base { root := Path.ofString "//" } "." ≠
      ModuleLayout.base { root := Path.ofString "//" } "///" := by
    decide +kernel
  have hsuffixes := files_told_by_base.1 looseLayout "..//a.b/./c.v1/" (by decide +kernel)
  have happart := files_told_by_base.2 (Path.ofString "//") "." "///"
  refine ⟨hbase, ?_, ?_, hroots, ?_⟩
  · rw [hsuffixes.metadata (by decide), hbase]
    rfl
  · rw [hsuffixes.implementation (by decide), hbase]
    rfl
  · intro heq
    exact hroots (happart.metadata.mp heq)

end ModuleLayout

end StackScript
