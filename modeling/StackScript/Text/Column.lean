/-! Texts set flush left or right in a column of a given least width. -/
namespace StackScript.Text

/-- A run of `n` spaces. -/
def spaces (n : Nat) : String :=
  String.ofList (List.replicate n ' ')

/-- Sets `s` at the right edge of a column of at least `width` characters. -/
def flushRight (width : Nat) (s : String) : String :=
  spaces (width - s.length) ++ s

/-- Sets `s` at the left edge of a column of at least `width` characters. -/
def flushLeft (width : Nat) (s : String) : String :=
  s ++ spaces (width - s.length)

theorem length_spaces (n : Nat) : (spaces n).length = n := by
  simp [spaces]

theorem length_flushRight (width : Nat) (s : String) :
    (flushRight width s).length = max width s.length := by
  simp only [flushRight, String.length_append, length_spaces]
  omega

end StackScript.Text
