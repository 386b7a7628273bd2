import Commissioning.Text.Utf8
import Mathlib.Tactic.Common

set_option autoImplicit false

/-! # UTF-8 that has been decoded

Whatever decodes to some characters is their encoding (`eq_encodeChars_of_decodeChars`). A byte
sequence is a text when it is the encoding of some characters (`IsUtf8`); what stands behind a text
at the front of it is one again. -/

namespace Commissioning.Text

/-! ## Encoding inverts decoding -/

theorem toNat_charOfNat {n : Nat} (h : n.isValidChar) : (Char.ofNat n).toNat = n := by
  unfold Char.ofNat
  rw [dif_pos h]
  rfl

theorem charWithin_eq_some {low high n : Nat} {c : Char} (h : charWithin low high n = some c) :
    c.toNat = n ∧ low ≤ n ∧ n < high := by
  unfold charWithin at h
  split at h
  · next hbounds =>
    split at h
    · next hvalid =>
      rw [← Option.some.inj h]
      exact ⟨toNat_charOfNat hvalid, hbounds⟩
    · exact absurd h (by simp)
  · exact absurd h (by simp)

theorem continuation_eq_some {b : UInt8} {n : Nat} (h : continuation b = some n) :
    b = UInt8.ofNat (0x80 + n) ∧ n < 64 := by
  unfold continuation at h
  split at h
  · next hb =>
    obtain rfl := Option.some.inj h
    refine ⟨?_, by omega⟩
    rw [show 0x80 + (b.toNat - 0x80) = b.toNat by omega, UInt8.ofNat_toNat]
  · exact absurd h (by simp)

theorem ofNat_eq_of_toNat {b : UInt8} {n : Nat} (h : b.toNat = n) : UInt8.ofNat n = b := by
  rw [← h, UInt8.ofNat_toNat]

theorem encodeChar_one {c : Char} {a : UInt8} (hpoint : c.toNat = a.toNat)
    (hhigh : c.toNat < 0x80) : encodeChar c = [a] := by
  simp only [encodeChar]
  rw [if_pos hhigh, ofNat_eq_of_toNat hpoint.symm]

theorem encodeChar_two {c : Char} {a : UInt8} {y : Nat} (ha : 0xC0 ≤ a.toNat)
    (hpoint : c.toNat = (a.toNat - 0xC0) * 64 + y) (hlow : 0x80 ≤ c.toNat) (hhigh : c.toNat < 0x800)
    (hy : y < 64) : encodeChar c = [a, UInt8.ofNat (0x80 + y)] := by
  have hlead : UInt8.ofNat (0xC0 + c.toNat / 64) = a := ofNat_eq_of_toNat (by omega)
  simp only [encodeChar]
  rw [if_neg (by omega), if_pos hhigh, hlead, show c.toNat % 64 = y by omega]

theorem encodeChar_three {c : Char} {a : UInt8} {y z : Nat} (ha : 0xE0 ≤ a.toNat)
    (hpoint : c.toNat = (a.toNat - 0xE0) * 4096 + y * 64 + z) (hlow : 0x800 ≤ c.toNat)
    (hhigh : c.toNat < 0x10000) (hy : y < 64) (hz : z < 64) :
    encodeChar c = [a, UInt8.ofNat (0x80 + y), UInt8.ofNat (0x80 + z)] := by
  have hlead : UInt8.ofNat (0xE0 + c.toNat / 4096) = a := ofNat_eq_of_toNat (by omega)
  simp only [encodeChar]
  rw [if_neg (by omega), if_neg (by omega), if_pos hhigh, hlead,
    show c.toNat / 64 % 64 = y by omega, show c.toNat % 64 = z by omega]

theorem encodeChar_four {c : Char} {a : UInt8} {y z w : Nat} (ha : 0xF0 ≤ a.toNat)
    (hpoint : c.toNat = (a.toNat - 0xF0) * 262144 + y * 4096 + z * 64 + w)
    (hlow : 0x10000 ≤ c.toNat) (hy : y < 64) (hz : z < 64) (hw : w < 64) :
    encodeChar c
      = [a, UInt8.ofNat (0x80 + y), UInt8.ofNat (0x80 + z), UInt8.ofNat (0x80 + w)] := by
  have hlead : UInt8.ofNat (0xF0 + c.toNat / 262144) = a := ofNat_eq_of_toNat (by omega)
  simp only [encodeChar]
  rw [if_neg (by omega), if_neg (by omega), if_neg (by omega), hlead,
    show c.toNat / 4096 % 64 = y by omega, show c.toNat / 64 % 64 = z by omega,
    show c.toNat % 64 = w by omega]

/-- The first character is encoded by the bytes that it was decoded from. -/
theorem eq_encodeChar_of_decodeChar {bytes rest : List UInt8} {c : Char}
    (h : decodeChar bytes = some (c, rest)) : bytes = encodeChar c ++ rest := by
  unfold decodeChar at h
  split at h
  · exact absurd h (by simp)
  next a more =>
    -- The range of the lead byte says how many more bytes there are.
    split at h
    · rw [Option.map_eq_some_iff] at h
      obtain ⟨d, hd, heq⟩ := h
      obtain ⟨rfl, rfl⟩ := Prod.mk.inj heq
      obtain ⟨hpoint, -, hhigh⟩ := charWithin_eq_some hd
      rw [encodeChar_one hpoint (by omega)]
      rfl
    · split at h
      · exact absurd h (by simp)
      · split at h
        · split at h
          · simp only [Option.bind_eq_bind, Option.bind_eq_some_iff, Option.pure_def,
              Option.some.injEq] at h
            obtain ⟨y, hfirst, d, hd, heq⟩ := h
            obtain ⟨rfl, rfl⟩ := Prod.mk.inj heq
            obtain ⟨hpoint, hlow, hhigh⟩ := charWithin_eq_some hd
            obtain ⟨rfl, hy⟩ := continuation_eq_some hfirst
            rw [encodeChar_two (by omega) hpoint (by omega) (by omega) hy]
            rfl
          · exact absurd h (by simp)
        · split at h
          · split at h
            · simp only [Option.bind_eq_bind, Option.bind_eq_some_iff, Option.pure_def,
                Option.some.injEq] at h
              obtain ⟨y, hfirst, z, hsecond, d, hd, heq⟩ := h
              obtain ⟨rfl, rfl⟩ := Prod.mk.inj heq
              obtain ⟨hpoint, hlow, hhigh⟩ := charWithin_eq_some hd
              obtain ⟨rfl, hy⟩ := continuation_eq_some hfirst
              obtain ⟨rfl, hz⟩ := continuation_eq_some hsecond
              rw [encodeChar_three (by omega) hpoint (by omega) (by omega) hy hz]
              rfl
            · exact absurd h (by simp)
          · split at h
            · split at h
              · simp only [Option.bind_eq_bind, Option.bind_eq_some_iff, Option.pure_def,
                  Option.some.injEq] at h
                obtain ⟨y, hfirst, z, hsecond, w, hthird, d, hd, heq⟩ := h
                obtain ⟨rfl, rfl⟩ := Prod.mk.inj heq
                obtain ⟨hpoint, hlow, -⟩ := charWithin_eq_some hd
                obtain ⟨rfl, hy⟩ := continuation_eq_some hfirst
                obtain ⟨rfl, hz⟩ := continuation_eq_some hsecond
                obtain ⟨rfl, hw⟩ := continuation_eq_some hthird
                rw [encodeChar_four (by omega) hpoint (by omega) hy hz hw]
                rfl
              · exact absurd h (by simp)
            · exact absurd h (by simp)

theorem eq_encodeChars_of_decodeCharsWithin {fuel : Nat} {bytes : List UInt8} {cs : List Char}
    (h : decodeCharsWithin fuel bytes = some cs) : bytes = encodeChars cs := by
  induction fuel generalizing bytes cs with
  | zero =>
    cases bytes with
    | nil =>
      rw [decodeCharsWithin, Option.some.injEq] at h
      rw [← h]
      rfl
    | cons b bytes => exact absurd h (by simp [decodeCharsWithin])
  | succ fuel ih =>
    cases bytes with
    | nil =>
      rw [decodeCharsWithin, Option.some.injEq] at h
      rw [← h]
      rfl
    | cons b bytes =>
      simp only [decodeCharsWithin, Option.bind_eq_bind, Option.bind_eq_some_iff, Option.pure_def,
        Option.some.injEq] at h
      obtain ⟨⟨c, rest⟩, hc, cs, hcs, rfl⟩ := h
      rw [eq_encodeChar_of_decodeChar hc, show rest = encodeChars cs from ih hcs]
      rfl

/-- **What decodes to some characters is their encoding.** -/
theorem eq_encodeChars_of_decodeChars {bytes : List UInt8} {cs : List Char}
    (h : decodeChars bytes = some cs) : bytes = encodeChars cs :=
  eq_encodeChars_of_decodeCharsWithin h

/-! ## Bytes that are a text -/

/-- Whether some bytes are the encoding of a text. -/
def IsUtf8 (bytes : List UInt8) : Prop :=
  ∃ cs, bytes = encodeChars cs

theorem encodeChars_append (cs ds : List Char) :
    encodeChars (cs ++ ds) = encodeChars cs ++ encodeChars ds :=
  List.flatMap_append

theorem isUtf8_nil : IsUtf8 [] :=
  ⟨[], rfl⟩

theorem isUtf8_encodeChar (c : Char) : IsUtf8 (encodeChar c) :=
  ⟨[c], by simp [encodeChars]⟩

theorem IsUtf8.append {first rest : List UInt8} (h : IsUtf8 first) (hrest : IsUtf8 rest) :
    IsUtf8 (first ++ rest) := by
  obtain ⟨cs, rfl⟩ := h
  obtain ⟨ds, rfl⟩ := hrest
  exact ⟨cs ++ ds, (encodeChars_append cs ds).symm⟩

/-- The characters of a text that starts with the encoding of one. -/
theorem encodeChars_eq_append {cs : List Char} {c : Char} {rest : List UInt8}
    (h : encodeChars cs = encodeChar c ++ rest) : ∃ ds, cs = c :: ds ∧ rest = encodeChars ds := by
  cases cs with
  | nil =>
    have hpos := encodeChar_length_pos c
    have hlength := congrArg List.length h
    rw [List.length_append] at hlength
    exact absurd hlength (by simp [encodeChars]; omega)
  | cons d ds =>
    have hfirst := decodeChar_encodeChar c rest
    rw [← h, encodeChars, List.flatMap_cons, decodeChar_encodeChar] at hfirst
    obtain ⟨rfl, rfl⟩ := Prod.mk.inj (Option.some.inj hfirst)
    exact ⟨ds, rfl, rfl⟩

/-- What stands behind a text at the front of a text is a text. -/
theorem IsUtf8.rest {first rest : List UInt8} (h : IsUtf8 (first ++ rest)) (hfirst : IsUtf8 first) :
    IsUtf8 rest := by
  obtain ⟨cs, rfl⟩ := hfirst
  induction cs with
  | nil => exact h
  | cons c cs ih =>
    obtain ⟨ds, hds⟩ := h
    rw [encodeChars, List.flatMap_cons, List.append_assoc] at hds
    obtain ⟨es, -, hrest⟩ := encodeChars_eq_append hds.symm
    exact ih ⟨es, hrest⟩

theorem isUtf8_cons {b : UInt8} (hb : b.toNat < 0x80) {rest : List UInt8} (h : IsUtf8 rest) :
    IsUtf8 (b :: rest) := by
  have hvalid : b.toNat.isValidChar := Or.inl (by omega)
  have hchar : encodeChar (Char.ofNat b.toNat) = [b] := by
    unfold encodeChar
    simp only
    rw [toNat_charOfNat hvalid, if_pos hb, UInt8.ofNat_toNat]
  exact (hchar ▸ isUtf8_encodeChar (Char.ofNat b.toNat)).append h

theorem isUtf8_of_ascii {bytes : List UInt8} (h : (bytes.all fun b => b.toNat < 0x80) = true) :
    IsUtf8 bytes := by
  induction bytes with
  | nil => exact isUtf8_nil
  | cons b bytes ih =>
    rw [List.all_cons, Bool.and_eq_true, decide_eq_true_eq] at h
    exact isUtf8_cons h.1 (ih h.2)

/-! ## The bytes of one character -/

/-- Whether a byte stands behind the first one of a character. -/
def IsContinuation (b : UInt8) : Prop :=
  0x80 ≤ b.toNat ∧ b.toNat < 0xC0

/-- A character starts with a byte that continues none, and every other byte of it does. -/
theorem encodeChar_eq_cons (c : Char) :
    ∃ b more, encodeChar c = b :: more ∧ ¬ IsContinuation b ∧ (∀ d ∈ more, IsContinuation d) ∧
      (c.toNat < 0x80 → b.toNat = c.toNat) := by
  have hmax := toNat_lt c
  have hnat : ∀ n, n < 256 → (UInt8.ofNat n).toNat = n := fun n h => UInt8.toNat_ofNat_of_lt' h
  have hmore : ∀ n, IsContinuation (UInt8.ofNat (0x80 + n % 64)) := by
    intro n
    unfold IsContinuation
    rw [hnat _ (by omega)]
    omega
  have hlead : ∀ n, n < 256 → n < 0x80 ∨ 0xC0 ≤ n → ¬ IsContinuation (UInt8.ofNat n) := by
    intro n hn h hcontinues
    unfold IsContinuation at hcontinues
    rw [hnat n hn] at hcontinues
    omega
  unfold encodeChar
  simp only
  split
  next h => exact ⟨_, _, rfl, hlead _ (by omega) (by omega), by simp, fun _ => hnat _ (by omega)⟩
  next h1 =>
    split
    next h2 =>
      refine ⟨_, _, rfl, hlead _ (by omega) (by omega), ?_, fun h => absurd h h1⟩
      simp only [List.forall_mem_cons, hmore, List.not_mem_nil, false_implies, implies_true,
        and_self]
    next h2 =>
      split
      next h3 =>
        refine ⟨_, _, rfl, hlead _ (by omega) (by omega), ?_, fun h => absurd h h1⟩
        simp only [List.forall_mem_cons, hmore, List.not_mem_nil, false_implies, implies_true,
          and_self]
      next h3 =>
        refine ⟨_, _, rfl, hlead _ (by omega) (by omega), ?_, fun h => absurd h h1⟩
        simp only [List.forall_mem_cons, hmore, List.not_mem_nil, false_implies, implies_true,
          and_self]

end Commissioning.Text
