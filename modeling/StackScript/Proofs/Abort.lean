import Mathlib.Data.List.TakeWhile
import StackScript.Proofs.DirectiveForm

/-! What ends a pass early: a working directory that cannot be told, or the name of a module that no
file can have. Once the encoding is known, nothing else does. -/
namespace StackScript

namespace Text.NameCodec

variable {codec : NameCodec} {s : String} {e : EncodeError}

theorem error?_eq_none_iff : codec.error? s = none ↔ ∀ c ∈ s.toList, codec.holds c = true := by
  rw [← List.dropWhile_eq_nil_iff, error?]
  cases s.toList.dropWhile codec.holds <;> simp

end Text.NameCodec

namespace FileSystem

variable {files : FileSystem} {path : Path} {encoding : String} {a : Abort}

/-- The character may stand in the path of a file. -/
def Takes (files : FileSystem) (c : Char) : Prop :=
  c ≠ '\x00' ∧ files.names.holds c = true

instance (files : FileSystem) (c : Char) : Decidable (files.Takes c) :=
  inferInstanceAs (Decidable (_ ∧ _))

theorem refusal?_eq_none_iff :
    files.refusal? path = none ↔ ∀ c ∈ path.toString.toList, files.Takes c := by
  have hnul : hasNul path = true ↔ ∃ c ∈ path.toString.toList, c = '\x00' := by
    simp [hasNul]
  unfold refusal? Takes
  cases herror : files.names.error? path.toString with
  | none =>
    have hheld := Text.NameCodec.error?_eq_none_iff.mp herror
    by_cases h : hasNul path = true
    · obtain ⟨c, hc, heq⟩ := hnul.mp h
      simp only [h, if_true, reduceCtorEq, false_iff]
      exact fun hall => (hall c hc).1 heq
    · simp only [h, Bool.false_eq_true, if_false, true_iff]
      exact fun c hc => ⟨fun heq => h (hnul.mpr ⟨c, hc, heq⟩), hheld c hc⟩
  | some e =>
    simp only [reduceCtorEq, false_iff]
    intro hall
    rw [Text.NameCodec.error?_eq_none_iff.mpr (fun c hc => (hall c hc).2)] at herror
    simp at herror

end FileSystem

namespace ModuleSource

variable {source : ModuleSource} {name : String} {line : Line} {lines : List Line}
  {seen : List String} {a : Abort}

end ModuleSource

section First

variable {files : FileSystem} {line : Line} {lines : List Line} {name : String}

end First

namespace ModuleSource

variable {source : ModuleSource} {lines : List Line} {seen : List String} {a : Abort}

end ModuleSource

namespace Workspace

variable {workspace : Workspace} {path : Path}

end Workspace

/-- The second `LOAD` line names a module with a NUL, behind one that is missing. -/
def nulName : Document :=
  ⟨Path.ofString "main.stack", "LOAD a\nLOAD \"b/\x00/..\"\nLOAD a", "stackscript"⟩

end StackScript
