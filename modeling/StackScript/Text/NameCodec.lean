import StackScript.Text.Quoted

/-! Names of files as bytes, and the texts that cannot be such a name. -/
namespace StackScript.Text

/-- The characters from place `start` up to but excluding `stop` have no bytes; `first` is the one
at `start`. -/
structure EncodeError where
  codec : String
  start : Nat
  stop : Nat
  first : Char
  reason : String
deriving DecidableEq, Repr

/-- A single bad character is shown with its code, several with the places of the first and the
last. -/
def EncodeError.span (e : EncodeError) : String :=
  if e.stop = e.start + 1 then
    "character '" ++ String.ofList (escapeCode e.first) ++ "' in position " ++ toString e.start
  else
    "characters in position " ++ toString e.start ++ "-" ++ toString (e.stop - 1)

def EncodeError.message (e : EncodeError) : String :=
  "'" ++ e.codec ++ "' codec can't encode " ++ e.span ++ ": " ++ e.reason

/-- How names are stored: which characters have bytes. Those of ASCII do in every codec, and which
others do is left open. A text may hold code points that have none, as the halves of a pair of
surrogates in UTF-8; they stand here as characters that are not held. -/
structure NameCodec where
  name : String := "utf-8"
  reason : String := "surrogates not allowed"
  holds : Char → Bool := fun _ => true
  holds_ascii : ∀ c : Char, c.toNat < 128 → holds c = true := by
    intro c _
    rfl

/-- The first run of characters that have no bytes. -/
def NameCodec.error? (codec : NameCodec) (s : String) : Option EncodeError :=
  let kept := s.toList.takeWhile codec.holds
  match s.toList.dropWhile codec.holds with
  | [] => none
  | c :: cs =>
      let lost := cs.takeWhile (fun c => !codec.holds c)
      some ⟨codec.name, kept.length, kept.length + 1 + lost.length, c, codec.reason⟩

end StackScript.Text
