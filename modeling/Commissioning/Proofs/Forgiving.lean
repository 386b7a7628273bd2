import Commissioning.Proofs.Payload
import Mathlib.Data.List.Basic

set_option autoImplicit false

/-! # Payloads and the forgiving decode of browsers

Browsers read Base64 by a rule of their own: padding is looked for only if the length of the text is
a multiple of four, two signs of it at most are taken off, and what is left has to be letters. The
decoder of payloads counts padding against the last group instead. The two agree but for one kind of
text (`decode_eq_ok_iff_forgiving`): behind two letters of a last group a single padding sign is
enough here, where the forgiving decode asks for both or none. -/

namespace Commissioning.Payload

open Base64

/-! ## The forgiving decode -/

/-- A text without its last character, if that is a padding sign. -/
def dropPad (text : List Char) : List Char :=
  if text.getLast? = some '=' then text.dropLast else text

/-- What is read of a text: of a text of whole groups two padding signs at most are left out. -/
def unpadded (text : List Char) : List Char :=
  if text.length % 4 = 0 then dropPad (dropPad text) else text

/-- The lowest bytes of a number, the highest of them first. -/
def lowBytes : Nat → Nat → List UInt8
  | 0, _ => []
  | count + 1, n => lowBytes count (n / 256) ++ [UInt8.ofNat n]

/-- The bytes of values that go into a buffer one after another. The buffer is emptied as three bytes
when it holds four values; in the end two values make one byte and three make two, and the bits that
are left over are dropped. -/
def pour (held buffer : Nat) : List Nat → List UInt8
  | v :: rest =>
    if held = 3 then lowBytes 3 (buffer * 64 + v) ++ pour 0 0 rest
    else pour (held + 1) (buffer * 64 + v) rest
  | [] =>
    if held = 2 then lowBytes 1 (buffer / 16)
    else if held = 3 then lowBytes 2 (buffer / 4)
    else []

/-- The bytes of a text for the forgiving decode, which fails on a single letter too many and on
anything that is no letter. -/
def forgiving? (text : List Char) : Option (List UInt8) :=
  if (unpadded text).length % 4 = 1 ∨ ¬ (unpadded text).all (· ∈ alphabet) then none
  else some (pour 0 0 ((unpadded text).map value))

/-! ## The buffer -/

theorem ofNat_congr {n m : Nat} (h : n % 256 = m % 256) : UInt8.ofNat n = UInt8.ofNat m :=
  (UInt8.ofNat_eq_iff_mod_eq_toNat n (UInt8.ofNat m)).2 h

theorem lowBytes_group {a b c d : Nat} (hc : c < 64) (hd : d < 64) :
    lowBytes 3 (((a * 64 + b) * 64 + c) * 64 + d) = bytesOfGroup a b c d := by
  have hfirst : (((a * 64 + b) * 64 + c) * 64 + d) / 256 / 256 = a * 4 + b / 16 := by omega
  have hsecond : (((a * 64 + b) * 64 + c) * 64 + d) / 256 % 256
      = (b % 16 * 16 + c / 4) % 256 := by omega
  have hthird : (((a * 64 + b) * 64 + c) * 64 + d) % 256 = (c % 4 * 64 + d) % 256 := by omega
  simp only [lowBytes, bytesOfGroup, List.nil_append, List.cons_append]
  rw [hfirst, ofNat_congr hsecond, ofNat_congr hthird]

/-- Emptying the buffer group by group gives the bytes of the groups. -/
theorem pour_eq_regroup (values : List Nat) (hlt : ∀ v ∈ values, v < 64) :
    pour 0 0 values = regroup values := by
  fun_induction regroup values with
  | case1 a b c d rest ih =>
    have hgroup := lowBytes_group (a := a) (b := b) (hlt c (by simp)) (hlt d (by simp))
    have hrest := ih fun v hv => hlt v (by simp [hv])
    simpa [pour, hrest] using hgroup
  | case2 a b c =>
    have hb : b < 64 := hlt b (by simp)
    have hc : c < 64 := hlt c (by simp)
    have hfirst : ((a * 64 + b) * 64 + c) / 4 / 256 = a * 4 + b / 16 := by omega
    have hsecond : ((a * 64 + b) * 64 + c) / 4 % 256 = (b % 16 * 16 + c / 4) % 256 := by omega
    simp only [pour, lowBytes, bytesOfGroup, List.nil_append, List.cons_append]
    simp [hfirst, ofNat_congr hsecond]
  | case3 a b =>
    have hb : b < 64 := hlt b (by simp)
    have hfirst : (a * 64 + b) / 16 = a * 4 + b / 16 := by omega
    simp [pour, lowBytes, bytesOfGroup, hfirst]
  | case4 a => rfl
  | case5 => rfl

/-! ## The padding -/

/-- The numbers of letters and of padding signs for the forgiving decode: no padding at all, or as
much as fills the last group up. -/
def FitsWhole (letters pads : Nat) : Prop :=
  letters % 4 ≠ 1 ∧ (pads = 0 ∨ pads ≤ 2 ∧ (letters + pads) % 4 = 0)

/-- What fits is what fits whole, and two letters of a last group with a single padding sign. -/
theorem fits_iff (letters pads : Nat) :
    Fits letters pads ↔ FitsWhole letters pads ∨ letters % 4 = 2 ∧ pads = 1 := by
  simp only [Fits, FitsWhole]
  omega

theorem dropPad_of_letters {letters : List Char} (h : ∀ c ∈ letters, c ∈ alphabet) :
    dropPad letters = letters := by
  have hlast : letters.getLast? ≠ some '=' := by
    intro heq
    have hpad := h '=' (List.mem_of_getLast? heq)
    exact absurd hpad (by decide)
  rw [dropPad, if_neg hlast]

@[simp] theorem dropPad_append_pad (text : List Char) : dropPad (text ++ ['=']) = text := by
  simp [dropPad]

theorem exists_pads_of_dropPad (text : List Char) :
    ∃ pads, pads ≤ 1 ∧ text = dropPad text ++ List.replicate pads '=' := by
  by_cases hlast : text.getLast? = some '='
  · refine ⟨1, Nat.le_refl 1, ?_⟩
    rw [dropPad, if_pos hlast]
    exact (List.dropLast_append_getLast? '=' (by simpa using hlast)).symm
  · exact ⟨0, Nat.zero_le 1, by simp [dropPad, hlast]⟩

/-- What is left out of a text is padding, and nothing unless the text is one of whole groups. -/
theorem exists_pads_of_unpadded (text : List Char) :
    ∃ pads, text = unpadded text ++ List.replicate pads '=' ∧
      (pads = 0 ∨ pads ≤ 2 ∧ text.length % 4 = 0) := by
  by_cases hwhole : text.length % 4 = 0
  · obtain ⟨first, hfirst, htext⟩ := exists_pads_of_dropPad text
    obtain ⟨second, hsecond, hrest⟩ := exists_pads_of_dropPad (dropPad text)
    refine ⟨second + first, ?_, Or.inr ⟨by omega, hwhole⟩⟩
    rw [unpadded, if_pos hwhole, List.replicate_add, ← List.append_assoc, ← hrest, ← htext]
  · exact ⟨0, by simp [unpadded, hwhole], Or.inl rfl⟩

/-- Of a spelling that fits whole the letters are read. -/
theorem unpadded_of_fitsWhole {text letters : List Char} {pads : Nat}
    (h : IsSpelling text letters pads) (hfits : FitsWhole letters.length pads) :
    unpadded text = letters := by
  obtain ⟨rfl, hletters⟩ := h
  have hself := dropPad_of_letters hletters
  obtain ⟨-, rfl | ⟨hpads, hwhole⟩⟩ := hfits
  · simp [unpadded, hself]
  · rw [unpadded, if_pos (by simpa using hwhole)]
    match pads, hpads with
    | 0, _ => simp [hself]
    | 1, _ => simp [hself]
    | 2, _ =>
      have htwo : letters ++ List.replicate 2 '=' = (letters ++ ['=']) ++ ['='] := by simp
      rw [htwo, dropPad_append_pad, dropPad_append_pad]

/-- **The language of the forgiving decode.** It reads the spellings that fit whole, and to the
regrouped values of their letters. -/
theorem forgiving?_eq_some_iff (text : List Char) (bytes : List UInt8) :
    forgiving? text = some bytes ↔ ∃ letters pads, IsSpelling text letters pads ∧
      FitsWhole letters.length pads ∧ bytes = regroup (letters.map value) := by
  constructor
  · intro h
    rw [forgiving?] at h
    split_ifs at h with hrefused
    simp only [not_or, not_not, List.all_eq_true, decide_eq_true_eq] at hrefused
    obtain ⟨hlength, hletters⟩ := hrefused
    obtain ⟨pads, htext, hpads⟩ := exists_pads_of_unpadded text
    have hspelling : IsSpelling text (unpadded text) pads := ⟨htext, hletters⟩
    have hcount : text.length = (unpadded text).length + pads := by
      conv_lhs => rw [htext]
      simp
    rw [pour_eq_regroup _ hspelling.values_lt, Option.some.injEq] at h
    exact ⟨unpadded text, pads, hspelling, ⟨hlength, by rwa [← hcount]⟩, h.symm⟩
  · rintro ⟨letters, pads, hspelling, hfits, rfl⟩
    have hread := unpadded_of_fitsWhole hspelling hfits
    have hall : letters.all (· ∈ alphabet) = true := by simpa using hspelling.2
    rw [forgiving?, hread, if_neg (by simp only [hall, hfits.1]; simp),
      pour_eq_regroup _ hspelling.values_lt]

/-! ## Padding that is half there -/

/-- Whole groups of letters, then two letters and a single padding sign. -/
def IsHalfPadded (text : List Char) : Prop :=
  ∃ letters, IsSpelling text letters 1 ∧ letters.length % 4 = 2

/-- The padding of a text is determined by the text. -/
theorem IsSpelling.count_pad {text letters : List Char} {pads : Nat}
    (h : IsSpelling text letters pads) : text.count '=' = pads := by
  have hnone : letters.count '=' = 0 := by
    rw [List.count_eq_zero]
    intro hmem
    exact absurd (h.2 '=' hmem) (by decide)
  rw [h.1, List.count_append, hnone, List.count_replicate_self, Nat.zero_add]

/-- The forgiving decode refuses a text with half of its padding. -/
theorem forgiving?_eq_none_of_isHalfPadded {text : List Char} (h : IsHalfPadded text) :
    forgiving? text = none := by
  obtain ⟨letters, hspelling, htwo⟩ := h
  rw [Option.eq_none_iff_forall_ne_some]
  intro bytes hsome
  obtain ⟨others, pads, hother, hfits, -⟩ := (forgiving?_eq_some_iff _ _).1 hsome
  -- There is one padding sign in the text, and the rest of it are the letters
  have hpads : pads = 1 := hother.count_pad.symm.trans hspelling.count_pad
  have hlength : others.length = letters.length := by
    have hcounts := congrArg List.length (hother.1.symm.trans hspelling.1)
    simpa [hpads] using hcounts
  simp only [FitsWhole, hpads, hlength] at hfits
  omega

/-- With the padding that is missing the forgiving decode reads it. -/
theorem forgiving?_completed {text letters : List Char} (h : IsSpelling text letters 1)
    (htwo : letters.length % 4 = 2) :
    forgiving? (text ++ ['=']) = some (regroup (letters.map value)) := by
  rw [forgiving?_eq_some_iff]
  refine ⟨letters, 2, ⟨?_, h.2⟩, ?_, rfl⟩
  · rw [h.1, List.append_assoc]
    rfl
  · simp only [FitsWhole]
    omega

/-- **Payloads against the forgiving decode.** Behind the blanks a payload is decoded to just what
the forgiving decode makes of it, with one exception: a text with half of its padding, which the
forgiving decode refuses, is decoded to what the forgiving decode makes of it with all of its
padding. -/
theorem decode_eq_ok_iff_forgiving (payload : String) :
    (∀ bytes, decode payload = .ok bytes ↔
      forgiving? (solid payload) = some bytes ∨
        IsHalfPadded (solid payload) ∧ forgiving? (solid payload ++ ['=']) = some bytes) ∧
    (IsHalfPadded (solid payload) →
      forgiving? (solid payload) = none ∧ ∃ bytes, decode payload = .ok bytes) := by
  have hiff : ∀ bytes, decode payload = .ok bytes ↔
      forgiving? (solid payload) = some bytes ∨
        IsHalfPadded (solid payload) ∧ forgiving? (solid payload ++ ['=']) = some bytes := by
    intro bytes
    rw [decode_eq_ok_iff_spelling]
    constructor
    · rintro ⟨letters, pads, hspelling, hfits, rfl⟩
      rcases (fits_iff _ _).1 hfits with hwhole | ⟨htwo, rfl⟩
      · exact Or.inl ((forgiving?_eq_some_iff _ _).2 ⟨letters, pads, hspelling, hwhole, rfl⟩)
      · exact Or.inr ⟨⟨letters, hspelling, htwo⟩, forgiving?_completed hspelling htwo⟩
    · rintro (hread | ⟨⟨letters, hspelling, htwo⟩, hread⟩)
      · obtain ⟨letters, pads, hspelling, hwhole, rfl⟩ := (forgiving?_eq_some_iff _ _).1 hread
        exact ⟨letters, pads, hspelling, (fits_iff _ _).2 (Or.inl hwhole), rfl⟩
      · rw [forgiving?_completed hspelling htwo, Option.some.injEq] at hread
        exact ⟨letters, 1, hspelling, (fits_iff _ _).2 (Or.inr ⟨htwo, rfl⟩), hread.symm⟩
  refine ⟨hiff, ?_⟩
  rintro ⟨letters, hspelling, htwo⟩
  have hhalf : IsHalfPadded (solid payload) := ⟨letters, hspelling, htwo⟩
  exact ⟨forgiving?_eq_none_of_isHalfPadded hhalf, _,
    (hiff _).2 (Or.inr ⟨hhalf, forgiving?_completed hspelling htwo⟩)⟩

/-- With half of its padding a text is decoded that browsers refuse. -/
theorem decode_half_padded :
    decode "YW=" = .ok [97] ∧ forgiving? (solid "YW=") = none := by
  decide +kernel

/-- The same bytes with all of the padding and with none of it. -/
example : forgiving? (solid "Y W==") = some [97] ∧ forgiving? (solid "YW") = some [97] := by
  decide +kernel

end Commissioning.Payload
