set_option autoImplicit false

/-! # UTF-8

Text as bytes and back. Encoding is total; decoding refuses every sequence that does not encode a
text: stray continuation bytes, overlong forms, surrogates and values past U+10FFFF. The two are
inverse: `decodeUtf8_encodeUtf8`. -/

namespace Commissioning.Text

/-! ## Encoding -/

/-- The bytes of one character: one to four, by the size of its code point. -/
def encodeChar (c : Char) : List UInt8 :=
  let n := c.toNat
  if n < 0x80 then [UInt8.ofNat n]
  else if n < 0x800 then [UInt8.ofNat (0xC0 + n / 64), UInt8.ofNat (0x80 + n % 64)]
  else if n < 0x10000 then
    [UInt8.ofNat (0xE0 + n / 4096), UInt8.ofNat (0x80 + n / 64 % 64), UInt8.ofNat (0x80 + n % 64)]
  else
    [UInt8.ofNat (0xF0 + n / 262144), UInt8.ofNat (0x80 + n / 4096 % 64),
      UInt8.ofNat (0x80 + n / 64 % 64), UInt8.ofNat (0x80 + n % 64)]

/-- The bytes of a list of characters. -/
def encodeChars (cs : List Char) : List UInt8 :=
  cs.flatMap encodeChar

/-- The bytes of a text. -/
def encodeUtf8 (s : String) : List UInt8 :=
  encodeChars s.toList

/-! ## Decoding -/

/-- The low six bits of a continuation byte. -/
def continuation (b : UInt8) : Option Nat :=
  if 0x80 ≤ b.toNat ∧ b.toNat < 0xC0 then some (b.toNat - 0x80) else none

/-- The character with a code point in the given range, which leaves out overlong forms; a
surrogate is no character. -/
def charWithin (low high n : Nat) : Option Char :=
  if low ≤ n ∧ n < high then
    if n.isValidChar then some (Char.ofNat n) else none
  else none

/-- The first character of a byte sequence and the bytes after it. -/
def decodeChar : List UInt8 → Option (Char × List UInt8)
  | [] => none
  | a :: rest =>
    if a.toNat < 0x80 then (charWithin 0 0x80 a.toNat).map (·, rest)
    else if a.toNat < 0xC0 then none
    else if a.toNat < 0xE0 then
      match rest with
      | b :: rest => do
        let b ← continuation b
        let c ← charWithin 0x80 0x800 ((a.toNat - 0xC0) * 64 + b)
        pure (c, rest)
      | _ => none
    else if a.toNat < 0xF0 then
      match rest with
      | b :: c :: rest => do
        let b ← continuation b
        let c ← continuation c
        let c ← charWithin 0x800 0x10000 ((a.toNat - 0xE0) * 4096 + b * 64 + c)
        pure (c, rest)
      | _ => none
    else if a.toNat < 0xF8 then
      match rest with
      | b :: c :: d :: rest => do
        let b ← continuation b
        let c ← continuation c
        let d ← continuation d
        let c ← charWithin 0x10000 0x110000 ((a.toNat - 0xF0) * 262144 + b * 4096 + c * 64 + d)
        pure (c, rest)
      | _ => none
    else none

/-- The characters of a byte sequence, read with at most `fuel` steps. -/
def decodeCharsWithin : Nat → List UInt8 → Option (List Char)
  | _, [] => some []
  | 0, _ :: _ => none
  | fuel + 1, bytes => do
    let (c, rest) ← decodeChar bytes
    let cs ← decodeCharsWithin fuel rest
    pure (c :: cs)

/-- The characters of a byte sequence, if it encodes a text. -/
def decodeChars (bytes : List UInt8) : Option (List Char) :=
  decodeCharsWithin bytes.length bytes

/-- The text of a byte sequence, if it encodes one. -/
def decodeUtf8 (bytes : List UInt8) : Option String :=
  (decodeChars bytes).map String.ofList

/-! ## Decoding inverts encoding -/

theorem toNat_isValidChar (c : Char) : c.toNat.isValidChar :=
  c.valid

theorem toNat_lt (c : Char) : c.toNat < 0x110000 := by
  have := toNat_isValidChar c
  simp only [Nat.isValidChar] at this
  omega

theorem charWithin_toNat (c : Char) (low high : Nat) (hlow : low ≤ c.toNat)
    (hhigh : c.toNat < high) : charWithin low high c.toNat = some c := by
  rw [charWithin, if_pos ⟨hlow, hhigh⟩, if_pos (toNat_isValidChar c), Char.ofNat_toNat]

theorem continuation_byte (n : Nat) (h : n < 64) :
    continuation (UInt8.ofNat (0x80 + n)) = some n := by
  have hbyte := UInt8.toNat_ofNat_of_lt' (show 0x80 + n < 256 by omega)
  unfold continuation
  rw [hbyte, if_pos ⟨by omega, by omega⟩, Nat.add_sub_cancel_left]

theorem decodeChar_two {a b : UInt8} {y : Nat} (hlow : 0xC0 ≤ a.toNat) (hhigh : a.toNat < 0xE0)
    (hb : continuation b = some y) (rest : List UInt8) :
    decodeChar (a :: b :: rest)
      = (charWithin 0x80 0x800 ((a.toNat - 0xC0) * 64 + y)).map (·, rest) := by
  simp only [decodeChar]
  rw [if_neg (by omega), if_neg (by omega), if_pos hhigh, hb, Option.bind_eq_bind,
    Option.bind_some, Option.map_eq_bind]
  rfl

theorem decodeChar_three {a b c : UInt8} {y z : Nat} (hlow : 0xE0 ≤ a.toNat)
    (hhigh : a.toNat < 0xF0) (hb : continuation b = some y) (hc : continuation c = some z)
    (rest : List UInt8) :
    decodeChar (a :: b :: c :: rest)
      = (charWithin 0x800 0x10000 ((a.toNat - 0xE0) * 4096 + y * 64 + z)).map (·, rest) := by
  simp only [decodeChar]
  rw [if_neg (by omega), if_neg (by omega), if_neg (by omega), if_pos hhigh, hb,
    Option.bind_eq_bind, Option.bind_some, hc, Option.bind_eq_bind, Option.bind_some,
    Option.map_eq_bind]
  rfl

theorem decodeChar_four {a b c d : UInt8} {y z w : Nat} (hlow : 0xF0 ≤ a.toNat)
    (hhigh : a.toNat < 0xF8) (hb : continuation b = some y) (hc : continuation c = some z)
    (hd : continuation d = some w) (rest : List UInt8) :
    decodeChar (a :: b :: c :: d :: rest)
      = (charWithin 0x10000 0x110000
          ((a.toNat - 0xF0) * 262144 + y * 4096 + z * 64 + w)).map (·, rest) := by
  simp only [decodeChar]
  -- One byte after another, since `rfl` would compute the products to tell the two sides apart.
  rw [if_neg (by omega), if_neg (by omega), if_neg (by omega), if_neg (by omega), if_pos hhigh,
    hb, Option.bind_eq_bind, Option.bind_some, hc, Option.bind_eq_bind, Option.bind_some, hd,
    Option.bind_some, Option.map_eq_bind]
  rfl

theorem decodeChar_encodeChar (c : Char) (rest : List UInt8) :
    decodeChar (encodeChar c ++ rest) = some (c, rest) := by
  have hmax := toNat_lt c
  have hsextet : ∀ n, continuation (UInt8.ofNat (0x80 + n % 64)) = some (n % 64) :=
    fun n => continuation_byte _ (Nat.mod_lt n (by decide))
  unfold encodeChar
  simp only
  split
  case isTrue h =>
    simp [decodeChar, UInt8.toNat_ofNat_of_lt' (show c.toNat < 256 by omega), h,
      charWithin_toNat c 0 0x80 (Nat.zero_le _) h]
  case isFalse h1 =>
    split
    case isTrue h2 =>
      have hlead := UInt8.toNat_ofNat_of_lt' (show 0xC0 + c.toNat / 64 < 256 by omega)
      have hpoint : (0xC0 + c.toNat / 64 - 0xC0) * 64 + c.toNat % 64 = c.toNat := by omega
      have hread := decodeChar_two (a := UInt8.ofNat (0xC0 + c.toNat / 64)) (by omega)
        (by omega) (hsextet c.toNat) rest
      rw [hlead, hpoint, charWithin_toNat c 0x80 0x800 (by omega) h2] at hread
      exact hread
    case isFalse h2 =>
      split
      case isTrue h3 =>
        have hlead := UInt8.toNat_ofNat_of_lt' (show 0xE0 + c.toNat / 4096 < 256 by omega)
        have hpoint : (0xE0 + c.toNat / 4096 - 0xE0) * 4096 + c.toNat / 64 % 64 * 64
            + c.toNat % 64 = c.toNat := by omega
        have hread := decodeChar_three (a := UInt8.ofNat (0xE0 + c.toNat / 4096)) (by omega)
          (by omega) (hsextet (c.toNat / 64)) (hsextet c.toNat) rest
        rw [hlead, hpoint, charWithin_toNat c 0x800 0x10000 (by omega) h3] at hread
        exact hread
      case isFalse h3 =>
        have hlead := UInt8.toNat_ofNat_of_lt' (show 0xF0 + c.toNat / 262144 < 256 by omega)
        have hpoint : (0xF0 + c.toNat / 262144 - 0xF0) * 262144 + c.toNat / 4096 % 64 * 4096
            + c.toNat / 64 % 64 * 64 + c.toNat % 64 = c.toNat := by omega
        have hread := decodeChar_four (a := UInt8.ofNat (0xF0 + c.toNat / 262144)) (by omega)
          (by omega) (hsextet (c.toNat / 4096)) (hsextet (c.toNat / 64)) (hsextet c.toNat) rest
        rw [hlead, hpoint, charWithin_toNat c 0x10000 0x110000 (by omega) hmax] at hread
        exact hread

theorem encodeChar_length_pos (c : Char) : 0 < (encodeChar c).length := by
  unfold encodeChar
  simp only
  split
  · simp
  · split
    · simp
    · split <;> simp

theorem decodeCharsWithin_encodeChars (cs : List Char) (fuel : Nat)
    (h : (encodeChars cs).length ≤ fuel) :
    decodeCharsWithin fuel (encodeChars cs) = some cs := by
  induction cs generalizing fuel with
  | nil => cases fuel <;> rfl
  | cons c cs ih =>
    have hpos := encodeChar_length_pos c
    simp only [encodeChars, List.flatMap_cons, List.length_append] at h ih ⊢
    obtain ⟨fuel, rfl⟩ : ∃ n, fuel = n + 1 := ⟨fuel - 1, by omega⟩
    obtain ⟨b, bs, hb⟩ := List.exists_cons_of_length_pos hpos
    have hstep := decodeChar_encodeChar c (cs.flatMap encodeChar)
    rw [hb, List.cons_append] at hstep ⊢
    simp only [decodeCharsWithin, hstep, ih fuel (by omega), Option.bind_eq_bind,
      Option.bind_some, Option.pure_def]

theorem decodeChars_encodeChars (cs : List Char) : decodeChars (encodeChars cs) = some cs :=
  decodeCharsWithin_encodeChars cs _ (Nat.le_refl _)

/-- Decoding the bytes of a text gives the text back. -/
theorem decodeUtf8_encodeUtf8 (s : String) : decodeUtf8 (encodeUtf8 s) = some s := by
  simp [decodeUtf8, encodeUtf8, decodeChars_encodeChars]

end Commissioning.Text
