/-! File paths in normal form. -/
namespace StackScript

/-- Where a path starts. A path that is written with exactly two slashes in front keeps both. -/
inductive Anchor where
  | relative
  | root
  | doubleRoot
deriving DecidableEq, Repr

def Anchor.text : Anchor → String
  | .relative => ""
  | .root => "/"
  | .doubleRoot => "//"

/-- A name that can stand between two slashes of a path in normal form. -/
def IsPart (s : String) : Prop :=
  s ≠ "" ∧ s ≠ "." ∧ '/' ∉ s.toList

instance (s : String) : Decidable (IsPart s) :=
  inferInstanceAs (Decidable (_ ∧ _))

/-- A path in normal form: no empty part and no part that stands for the place itself. A part that
goes up is kept as it is. -/
structure Path where
  anchor : Anchor
  parts : List String
  isPart : ∀ part ∈ parts, IsPart part
deriving DecidableEq

namespace Path

def anchorOf : List Char → Anchor
  | '/' :: '/' :: '/' :: _ => .root
  | '/' :: '/' :: _ => .doubleRoot
  | '/' :: _ => .root
  | _ => .relative

/-- The parts of `cs` between slashes, without empty ones and single dots. -/
def partsOf (cs : List Char) : List String :=
  ((cs.splitOn '/').map String.ofList).filter (fun part => IsPart part)

def ofString (s : String) : Path where
  anchor := anchorOf s.toList
  parts := partsOf s.toList
  isPart := fun _ h => of_decide_eq_true (List.mem_filter.mp h).2

def toString (p : Path) : String :=
  if p.anchor = .relative && p.parts.isEmpty then "."
  else p.anchor.text ++ "/".intercalate p.parts

instance : ToString Path := ⟨toString⟩

def isAbsolute (p : Path) : Bool :=
  p.anchor != .relative

/-- The path `q` as seen from `p`; an absolute `q` stays as it is. -/
def join (p q : Path) : Path :=
  if q.isAbsolute then q
  else
    { anchor := p.anchor
      parts := p.parts ++ q.parts
      isPart := fun part h =>
        (List.mem_append.mp h).elim (p.isPart part) (q.isPart part) }

/-- The path without its last part. A path that has none is its own parent. -/
def parent (p : Path) : Path where
  anchor := p.anchor
  parts := p.parts.dropLast
  isPart := fun part h => p.isPart part (List.dropLast_subset _ h)

/-- The last part, or the empty text if there is none. -/
def name (p : Path) : String :=
  p.parts.getLast?.getD ""

/-- Adds to `places`, innermost first, the place that a part leads to; going up from the outermost
place stays there. -/
def descend (places : List String) (part : String) : List String :=
  if part = ".." then places.tail else part :: places

theorem mem_foldl_descend {part : String} {parts places : List String}
    (h : part ∈ parts.foldl descend places) : part ∈ parts ∨ part ∈ places := by
  induction parts generalizing places with
  | nil => exact .inr h
  | cons p ps ih =>
    rcases ih h with hp | hp
    · exact .inl (List.mem_cons_of_mem _ hp)
    · unfold descend at hp
      split at hp
      · exact .inr (List.mem_of_mem_tail hp)
      · rcases List.mem_cons.mp hp with rfl | hp
        · exact .inl List.mem_cons_self
        · exact .inr hp

/-- An absolute path without parts that go up. -/
def collapse (p : Path) : Path where
  anchor := p.anchor
  parts := (p.parts.foldl descend []).reverse
  isPart := fun part h => by
    rcases mem_foldl_descend (List.mem_reverse.mp h) with hp | hp
    · exact p.isPart part hp
    · exact absurd hp List.not_mem_nil

end Path

end StackScript
