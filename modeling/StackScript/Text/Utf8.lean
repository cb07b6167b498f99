import StackScript.Text.DecodeError

/-! UTF-8: the bytes of a text, and strict reading that points at the first sequence that is
malformed. -/
namespace StackScript.Text.Utf8

def encodeChar (c : Char) : List UInt8 :=
  let n := c.toNat
  if n < 0x80 then [.ofNat n]
  else if n < 0x800 then [.ofNat (0xC0 + n / 64), .ofNat (0x80 + n % 64)]
  else if n < 0x10000 then
    [.ofNat (0xE0 + n / 4096), .ofNat (0x80 + n / 64 % 64), .ofNat (0x80 + n % 64)]
  else
    [.ofNat (0xF0 + n / 262144), .ofNat (0x80 + n / 4096 % 64), .ofNat (0x80 + n / 64 % 64),
      .ofNat (0x80 + n % 64)]

def encode (s : String) : List UInt8 :=
  s.toList.flatMap encodeChar

/-- Least and greatest value that a byte may have at its place. -/
abbrev Bounds := Nat × Nat

def continuation : Bounds := (0x80, 0xBF)

/-- The bits that a first byte holds and the bounds of the bytes that have to follow it. The
narrower bounds of the second byte leave out overlong forms, surrogates and values past the last
code point. -/
def lead (b : Nat) : Option (Nat × List Bounds) :=
  if b < 0x80 then some (b, [])
  else if b < 0xC2 then none
  else if b < 0xE0 then some (b - 0xC0, [continuation])
  else if b < 0xF0 then
    let second := (if b = 0xE0 then 0xA0 else 0x80, if b = 0xED then 0x9F else 0xBF)
    some (b - 0xE0, [second, continuation])
  else if b < 0xF5 then
    let second := (if b = 0xF0 then 0x90 else 0x80, if b = 0xF4 then 0x8F else 0xBF)
    some (b - 0xF0, [second, continuation, continuation])
  else none

/-- How far reading has come. While `expected` is not empty a sequence is open that began at offset
`start` with the byte `first` and whose bytes so far hold `value`. The characters read are in
`done`, last one first. -/
structure Reader where
  offset : Nat := 0
  done : List Char := []
  expected : List Bounds := []
  value : Nat := 0
  start : Nat := 0
  first : UInt8 := 0
deriving Repr

def Reader.error (r : Reader) (fault : DecodeFault) : DecodeError :=
  ⟨"utf-8", r.start, r.offset, r.first, fault⟩

/-- Goes on with a sequence that now holds `value` and still needs `expected`. -/
def Reader.advance (r : Reader) (value : Nat) : List Bounds → Reader
  | [] => { r with offset := r.offset + 1, done := Char.ofNat value :: r.done, expected := [] }
  | expected => { r with offset := r.offset + 1, value, expected }

def Reader.push (r : Reader) (b : UInt8) : Except DecodeError Reader :=
  match r.expected with
  | [] =>
      match lead b.toNat with
      | none => .error ⟨"utf-8", r.offset, r.offset + 1, b, .startByte⟩
      | some (value, expected) =>
          .ok ({ r with start := r.offset, first := b }.advance value expected)
  | (lo, hi) :: more =>
      if lo ≤ b.toNat && b.toNat ≤ hi then
        .ok (r.advance (r.value * 64 + (b.toNat - 0x80)) more)
      else .error (r.error .continuationByte)

def Reader.finish (r : Reader) : Except DecodeError (List Char) :=
  match r.expected with
  | [] => .ok r.done.reverse
  | _ => .error (r.error .endOfData)

def Reader.run (r : Reader) : List UInt8 → Except DecodeError (List Char)
  | [] => r.finish
  | b :: bytes =>
      match r.push b with
      | .ok r => r.run bytes
      | .error e => .error e

def decode (bytes : List UInt8) : Except DecodeError String :=
  (Reader.run {} bytes).map String.ofList

end StackScript.Text.Utf8
