import StackScript.Text.Utf8

/-! Reading undoes writing: the bytes of a text are read back as the text. -/
namespace StackScript.Text.Utf8

/-- The bytes finish a sequence that holds `value` and still needs bytes within the bounds; then it
holds the last number. -/
inductive Finishes : Nat → List Bounds → List UInt8 → Nat → Prop
  | done {value : Nat} : Finishes value [] [] value
  | byte {value total lo hi : Nat} {bounds : List Bounds} {b : UInt8} {bytes : List UInt8}
      (hlo : lo ≤ b.toNat) (hhi : b.toNat ≤ hi)
      (hrest : Finishes (value * 64 + (b.toNat - 0x80)) bounds bytes total) :
      Finishes value ((lo, hi) :: bounds) (b :: bytes) total

/-- The reader has taken in one character more and waits for the next. -/
structure Reader.Took (r : Reader) (c : Char) (r' : Reader) : Prop where
  expected : r'.expected = []
  done : r'.done = c :: r.done

-- By induction on the bytes that the open sequence still needs.
theorem Finishes.run {value total : Nat} {bounds : List Bounds} {bytes : List UInt8}
    (h : Finishes value bounds bytes total) (r : Reader) (rest : List UInt8) :
    ∃ r', r.Took (Char.ofNat total) r' ∧
      (r.advance value bounds).run (bytes ++ rest) = r'.run rest := by
  induction h generalizing r with
  | @done value => exact ⟨r.advance value [], ⟨rfl, rfl⟩, rfl⟩
  | @byte value total lo hi bounds b bytes hlo hhi _ ih =>
    obtain ⟨r', htook, hrun⟩ := ih (r.advance value ((lo, hi) :: bounds))
    have hpush : (r.advance value ((lo, hi) :: bounds)).push b =
        .ok ((r.advance value ((lo, hi) :: bounds)).advance (value * 64 + (b.toNat - 0x80))
          bounds) := by
      show (if _ then _ else _) = _
      rw [if_pos (by simp [hlo, hhi])]
      rfl
    refine ⟨r', ⟨htook.expected, htook.done⟩, ?_⟩
    rw [List.cons_append, Reader.run, hpush]
    exact hrun

theorem Finishes.of_eq {value total : Nat} (h : value = total) : Finishes value [] [] total :=
  h ▸ .done

-- A byte of six bits, as it is written.
theorem Finishes.bits {value total bits lo hi : Nat} {bounds : List Bounds} {bytes : List UInt8}
    (hbits : bits < 64) (hlo : lo ≤ 0x80 + bits) (hhi : 0x80 + bits ≤ hi)
    (hrest : Finishes (value * 64 + bits) bounds bytes total) :
    Finishes value ((lo, hi) :: bounds) (.ofNat (0x80 + bits) :: bytes) total := by
  have hbyte : (UInt8.ofNat (0x80 + bits)).toNat = 0x80 + bits :=
    UInt8.toNat_ofNat_of_lt' (show _ < 256 by omega)
  refine .byte (by omega) (by omega) ?_
  rw [hbyte, Nat.add_sub_cancel_left]
  exact hrest

theorem Finishes.continued {value total bits : Nat} {bounds : List Bounds} {bytes : List UInt8}
    (hbits : bits < 64) (hrest : Finishes (value * 64 + bits) bounds bytes total) :
    Finishes value (continuation :: bounds) (.ofNat (0x80 + bits) :: bytes) total :=
  .bits hbits (by omega) (by omega) hrest

section Lead

variable {b : Nat}

theorem lead_of_two (hlo : 0xC2 ≤ b) (hhi : b < 0xE0) :
    lead b = some (b - 0xC0, [continuation]) := by
  rw [lead, if_neg (by omega), if_neg (by omega), if_pos hhi]

theorem lead_of_three (hlo : 0xE0 ≤ b) (hhi : b < 0xF0) :
    lead b = some (b - 0xE0,
      [(if b = 0xE0 then 0xA0 else 0x80, if b = 0xED then 0x9F else 0xBF), continuation]) := by
  rw [lead, if_neg (by omega), if_neg (by omega), if_neg (by omega), if_pos hhi]

theorem lead_of_four (hlo : 0xF0 ≤ b) (hhi : b < 0xF5) :
    lead b = some (b - 0xF0,
      [(if b = 0xF0 then 0x90 else 0x80, if b = 0xF4 then 0x8F else 0xBF), continuation,
        continuation]) := by
  rw [lead, if_neg (by omega), if_neg (by omega), if_neg (by omega), if_neg (by omega),
    if_pos hhi]

end Lead

/-- A character is written as a first byte and what finishes the sequence it opens. -/
theorem exists_lead_encodeChar (c : Char) :
    ∃ b bytes value bounds, encodeChar c = b :: bytes ∧ lead b.toNat = some (value, bounds) ∧
      Finishes value bounds bytes c.toNat := by
  have hvalid : c.toNat < 0xD800 ∨ 0xDFFF < c.toNat ∧ c.toNat < 0x110000 := c.valid
  unfold encodeChar
  generalize c.toNat = n at hvalid
  dsimp only
  by_cases hone : n < 0x80
  · rw [if_pos hone]
    have hfirst : (UInt8.ofNat n).toNat = n := UInt8.toNat_ofNat_of_lt' (show _ < 256 by omega)
    refine ⟨_, _, n, [], rfl, ?_, .done⟩
    rw [hfirst, lead, if_pos hone]
  rw [if_neg hone]
  by_cases htwo : n < 0x800
  · rw [if_pos htwo]
    have hfirst : (UInt8.ofNat (0xC0 + n / 64)).toNat = 0xC0 + n / 64 :=
      UInt8.toNat_ofNat_of_lt' (show _ < 256 by omega)
    exact ⟨_, _, _, _, rfl, lead_of_two (by omega) (by omega),
      .continued (by omega) (.of_eq (by omega))⟩
  rw [if_neg htwo]
  -- the bounds of the second byte leave out overlong forms, surrogates and what is past the last
  -- code point, and no character has any of these
  by_cases hthree : n < 0x10000
  · rw [if_pos hthree]
    have hfirst : (UInt8.ofNat (0xE0 + n / 4096)).toNat = 0xE0 + n / 4096 :=
      UInt8.toNat_ofNat_of_lt' (show _ < 256 by omega)
    refine ⟨_, _, _, _, rfl, lead_of_three (by omega) (by omega),
      .bits (by omega) ?_ ?_ (.continued (by omega) (.of_eq (by omega)))⟩
    · split <;> omega
    · split <;> omega
  · rw [if_neg hthree]
    have hfirst : (UInt8.ofNat (0xF0 + n / 262144)).toNat = 0xF0 + n / 262144 :=
      UInt8.toNat_ofNat_of_lt' (show _ < 256 by omega)
    refine ⟨_, _, _, _, rfl, lead_of_four (by omega) (by omega),
      .bits (by omega) ?_ ?_ (.continued (by omega) (.continued (by omega) (.of_eq (by omega))))⟩
    · split <;> omega
    · split <;> omega

theorem Reader.exists_took (r : Reader) (hr : r.expected = []) (c : Char) (rest : List UInt8) :
    ∃ r', r.Took c r' ∧ r.run (encodeChar c ++ rest) = r'.run rest := by
  obtain ⟨b, bytes, value, bounds, hbytes, hlead, hfinishes⟩ := exists_lead_encodeChar c
  obtain ⟨r', htook, hrun⟩ := hfinishes.run { r with start := r.offset, first := b } rest
  have hpush : r.push b = .ok ({ r with start := r.offset, first := b }.advance value bounds) := by
    unfold push
    rw [hr, hlead]
  rw [Char.ofNat_toNat] at htook
  refine ⟨r', ⟨htook.expected, htook.done⟩, ?_⟩
  rw [hbytes, List.cons_append, Reader.run, hpush]
  exact hrun

theorem Reader.run_encoded (r : Reader) (hr : r.expected = []) (cs : List Char) :
    r.run (cs.flatMap encodeChar) = .ok (r.done.reverse ++ cs) := by
  induction cs generalizing r with
  | nil =>
    rw [List.flatMap_nil, List.append_nil, run, finish, hr]
  | cons c cs ih =>
    obtain ⟨r', htook, hrun⟩ := r.exists_took hr c (cs.flatMap encodeChar)
    rw [List.flatMap_cons, hrun, ih r' htook.expected, htook.done, List.reverse_cons,
      List.append_assoc, List.singleton_append]

theorem decode_encode (s : String) : decode (encode s) = .ok s := by
  unfold decode encode
  rw [Reader.run_encoded {} rfl]
  show Except.ok (String.ofList s.toList) = Except.ok s
  rw [String.ofList_toList]

end StackScript.Text.Utf8
