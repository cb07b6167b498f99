import StackScript.Proofs.Abort
import StackScript.Proofs.DirectiveForm

/-! A document that loads one module by a bare name, and the files next to it. -/
namespace StackScript

theorem Line.scan_ofList {cs : List Char} (hbreak : '\n' ∉ cs)
    (hlast : cs.getLast? ≠ some '\r') :
    Line.scan (String.ofList cs) = [⟨0, String.ofList cs⟩] := by
  rw [scan, String.toList_ofList, List.splitOn_eq_singleton hbreak]
  simp [withoutReturn, hlast]

/-- A name that needs no quotes, is one part of a path and has no dot. -/
structure IsBareName (name : String) : Prop where
  ne_nil : name.toList ≠ []
  notBlank : ∀ c ∈ name.toList, Text.isBlank c = false
  ordinary : ∀ c ∈ name.toList, c ∉ ['"', '/', '.', ':', '\x00']

def Document.loading (name : String) : Document :=
  ⟨Path.ofString "main.stack", "LOAD " ++ name, "stackscript"⟩

namespace IsBareName

variable {name : String} (h : IsBareName name)
include h

theorem isPart : IsPart name := by
  refine ⟨?_, ?_, ?_⟩
  · intro hempty
    exact h.ne_nil (String.toList_inj.mpr hempty)
  · intro hsingle
    exact h.ordinary '.' (by simp [hsingle]) (by decide)
  · intro hslash
    exact h.ordinary '/' hslash (by decide)

theorem mem_of_getLast? {c : Char} (hc : ("LOAD ".toList ++ name.toList).getLast? = some c) :
    c ∈ name.toList := by
  rw [List.getLast?_append, List.getLast?_eq_some_getLast h.ne_nil, Option.some_or,
    Option.some.injEq] at hc
  rw [← hc]
  exact List.getLast_mem h.ne_nil

theorem lines_loading :
    (Document.loading name).lines = [⟨0, "LOAD " ++ name⟩] := by
  have htext : "LOAD " ++ name = String.ofList ("LOAD ".toList ++ name.toList) := by
    rw [String.ofList_append, String.ofList_toList, String.ofList_toList]
  change Line.scan ("LOAD " ++ name) = _
  rw [htext]
  apply Line.scan_ofList
  · rw [List.mem_append, not_or]
    refine ⟨by decide, ?_⟩
    intro hbreak
    exact absurd (h.notBlank _ hbreak) (by decide)
  · intro hreturn
    exact absurd (h.notBlank _ (h.mem_of_getLast? hreturn)) (by decide)

theorem trimmed_loading : (Line.mk 0 ("LOAD " ++ name)).trimmed = "LOAD " ++ name := by
  have htrimmed : Text.Trimmed ("LOAD ".toList ++ name.toList) := by
    refine ⟨?_, fun c hc => h.notBlank c (h.mem_of_getLast? hc)⟩
    intro c hc
    obtain rfl : 'L' = c := by simpa using hc
    decide
  rw [← String.toList_append] at htrimmed
  exact Line.trimmed_eq_raw htrimmed

theorem loadForm_loading : Directive.LoadForm ("LOAD " ++ name) name := by
  have hblanks : Text.Blanks " ".toList := by decide
  have hquote : '"' ∉ name.toList := fun hmem => h.ordinary _ hmem (by decide)
  exact .bare hblanks (by decide) ⟨h.ne_nil, h.notBlank⟩ hquote

theorem loadName?_loading : Directive.loadName? ("LOAD " ++ name) = some name :=
  h.loadForm_loading.loadName?_eq

theorem is_load_loading : (Line.mk 0 ("LOAD " ++ name)).is .load = true := by
  rw [Line.is, h.trimmed_loading]
  exact h.loadForm_loading.startsWith_load

theorem loadedNames_loading : loadedNames (Document.loading name).lines = [name] := by
  rw [h.lines_loading, loadedNames]
  simp [Line.loadedName?, h.is_load_loading, h.trimmed_loading, h.loadName?_loading]

theorem labelNames_loading : labelNames (Document.loading name).lines = [] := by
  have hlabel : (Line.mk 0 ("LOAD " ++ name)).label? = none := by
    rw [Line.label?, h.trimmed_loading, labelName?, String.toList_append]
    apply if_neg
    intro hcolon
    exact h.ordinary _ (h.mem_of_getLast? hcolon) (by decide)
  rw [h.lines_loading, labelNames]
  simp [hlabel]

end IsBareName

namespace Workspace

/-- The path of a file next to the documents of `ofFiles`. -/
def beside (part : String) : Path :=
  (Path.ofString "/p").join (Path.ofString part)

variable {part : String} (hpart : IsPart part)
include hpart

theorem parts_beside : (beside part).parts = ["p", part] := by
  have hroot : (Path.ofString "/p").parts = ["p"] := by decide +kernel
  rw [beside, Path.parts_join_of_relative (Path.isAbsolute_ofString_of_isPart hpart), hroot,
    Path.parts_ofString_of_isPart hpart, List.singleton_append]

theorem anchor_beside : (beside part).anchor = .root := by
  rw [beside, Path.anchor_join_of_relative (Path.isAbsolute_ofString_of_isPart hpart)]
  decide +kernel

theorem toString_beside : (beside part).toString = "/" ++ ("p" ++ "/" ++ part) := by
  rw [Path.toString, anchor_beside hpart, parts_beside hpart, if_neg (by simp),
    String.intercalate_cons_cons, String.intercalate_singleton]
  rfl

theorem utf8ByteSize_beside :
    (beside part).toString.utf8ByteSize = 3 + part.utf8ByteSize := by
  rw [toString_beside hpart]
  simp only [String.utf8ByteSize_append]
  have hslash : "/".utf8ByteSize = 1 := rfl
  have hp : "p".utf8ByteSize = 1 := rfl
  omega

theorem refusal?_beside (hnul : '\x00' ∉ part.toList) (files : List (String × String)) :
    (ofFiles files).files.refusal? (beside part) = none := by
  rw [FileSystem.refusal?_eq_none_iff]
  intro c hc
  refine ⟨?_, rfl⟩
  rintro rfl
  rw [Path.mem_toString_iff (by decide) (by decide), Path.Mentions, parts_beside hpart] at hc
  exact hnul (by simpa using hc)

-- A name that is too long is refused whether the path as a whole is too long or not.
theorem probe_beside_of_long {files : List (String × String)}
    (hlong : Disk.longestName < part.utf8ByteSize) :
    (ofFiles files).files.probe (beside part) = .error .nameTooLong := by
  have hwalk : ∀ rest, Disk.walk ⟨(["p"], .directory) :: rest⟩ [] ["p", part] =
      .error .nameTooLong := by
    intro rest
    have hp : ¬ Disk.longestName < "p".utf8ByteSize := by decide
    simp [Disk.walk, Disk.get?, hp, hlong]
  simp only [ofFiles, Disk.fileSystem, Disk.locate, parts_beside hpart, Path.isAbsolute,
    anchor_beside hpart]
  split
  · rfl
  · simp [hwalk, Except.map]

theorem locate_beside {bytes : List UInt8} (hdots : part ≠ "..")
    (hshort : part.utf8ByteSize ≤ Disk.longestName) :
    Disk.locate ⟨[(["p"], .directory), (["p", part], .file bytes)]⟩ ["p"] (beside part) =
      .ok (.file bytes) := by
  have hsize : ¬ Disk.longestPath < (beside part).toString.utf8ByteSize := by
    rw [utf8ByteSize_beside hpart]
    unfold Disk.longestPath
    unfold Disk.longestName at hshort
    omega
  have hp : ¬ Disk.longestName < "p".utf8ByteSize := by decide
  rw [Disk.locate, if_neg hsize, parts_beside hpart, Path.isAbsolute, anchor_beside hpart]
  simp [Disk.walk, Disk.get?, hp, hdots, Nat.not_lt.mpr hshort, List.lookup_cons]

theorem probe_beside {text : String} (hdots : part ≠ "..")
    (hshort : part.utf8ByteSize ≤ Disk.longestName) :
    (ofFiles [(part, text)]).files.probe (beside part) = .ok () := by
  simp only [ofFiles, Disk.fileSystem, List.map_cons, List.map_nil,
    locate_beside hpart hdots hshort]
  rfl

theorem opens_beside {text : String} (hdots : part ≠ "..")
    (hshort : part.utf8ByteSize ≤ Disk.longestName) :
    (ofFiles [(part, text)]).files.opens (beside part) = .ok () := by
  simp only [ofFiles, Disk.fileSystem, Disk.bytesAt, List.map_cons, List.map_nil,
    locate_beside hpart hdots hshort]
  rfl

theorem read_beside {text : String} (hdots : part ≠ "..")
    (hshort : part.utf8ByteSize ≤ Disk.longestName) :
    (ofFiles [(part, text)]).files.read (beside part) = .ok (Text.Utf8.encode text) := by
  simp only [ofFiles, Disk.fileSystem, Disk.bytesAt, List.map_cons, List.map_nil,
    locate_beside hpart hdots hshort]

end Workspace

end StackScript
