import Commissioning.Proofs.Json.Reader

set_option autoImplicit false

/-! # Reading numbers

A number that ends where its token ends is read as the value of its parts, and is passed over up
to the same place whether it has a value or not. -/

namespace Commissioning.Json

open Reader Grammar

/-! ## Digits -/

theorem isDigit_charOfByte (b : UInt8) : (charOfByte b).isDigit = isDigit b := by
  have h : ∀ c : Char, c.isDigit = (decide (48 ≤ c.toNat) && decide (c.toNat ≤ 57)) := fun c => rfl
  have hb : isDigit b = (decide (48 ≤ b.toNat) && decide (b.toNat ≤ 57)) := rfl
  rw [h, toNat_charOfByte, hb]

theorem isDigit_digitByte (d : Fin 10) : isDigit (digitByte d) = true := by
  revert d
  decide

/-- Whether no digit is ahead. -/
def NoDigit (bytes : List UInt8) : Prop :=
  ∀ b ∈ bytes.head?, isDigit b = false

theorem noDigit_cons {b : UInt8} (h : isDigit b = false) (rest : List UInt8) :
    NoDigit (b :: rest) := by
  intro c hc
  rw [List.head?_cons, Option.mem_some_iff] at hc
  rwa [← hc]

theorem takeWhile_digits (ds : List (Fin 10)) {rest : List UInt8} (h : NoDigit rest) :
    takeWhile isDigit (ds.map digitByte ++ rest) = .ok (ds.map digitByte, rest) := by
  have hfront : ∀ b ∈ ds.map digitByte, isDigit b = true := by
    intro b hb
    obtain ⟨d, -, rfl⟩ := List.mem_map.mp hb
    exact isDigit_digitByte d
  have hstop : rest.takeWhile isDigit = [] ∧ rest.dropWhile isDigit = rest := by
    cases rest with
    | nil => exact ⟨rfl, rfl⟩
    | cons b rest =>
      have hb := h b rfl
      simp [hb]
  unfold takeWhile
  rw [List.takeWhile_append_of_pos hfront, List.dropWhile_append_of_pos hfront, hstop.1, hstop.2,
    List.append_nil]

/-! ## What stands behind the parts of a number -/

theorem isDelimiter_cases {b : UInt8} (h : isDelimiter b = true) :
    b = 32 ∨ b = 10 ∨ b = 9 ∨ b = 13 ∨ b = 44 ∨ b = 93 ∨ b = 125 := by
  simp only [isDelimiter, isBlank, Bool.or_eq_true, beq_iff_eq] at h
  tauto

namespace Reader

/-- What is ahead of a token that ends here goes on no number: neither a digit nor a point nor
the letter of an exponent. -/
theorem Delimited.not_number {bytes : List UInt8} (h : Delimited bytes) :
    ∀ b ∈ bytes.head?, isDigit b = false ∧ charOfByte b ≠ '.' ∧ charOfByte b ≠ 'e'
      ∧ charOfByte b ≠ 'E' := by
  intro b hb
  rcases isDelimiter_cases (h b hb) with rfl | rfl | rfl | rfl | rfl | rfl | rfl <;> decide

theorem Delimited.noDigit {bytes : List UInt8} (h : Delimited bytes) : NoDigit bytes :=
  fun b hb => (h.not_number b hb).1

end Reader

namespace Grammar

theorem NumberForm.noDigit_exponentBytes (n : NumberForm) {rest : List UInt8}
    (h : Delimited rest) : NoDigit (n.exponentBytes ++ rest) := by
  unfold exponentBytes
  cases n.exponent with
  | none => exact h.noDigit
  | some e =>
    refine noDigit_cons ?_ _
    cases e.isUpper <;> rfl

/-- No point is ahead of an exponent or of the end of a number. -/
theorem NumberForm.charOfByte_head?_exponentBytes (n : NumberForm) {rest : List UInt8}
    (h : Delimited rest) : ∀ b ∈ (n.exponentBytes ++ rest).head?, charOfByte b ≠ '.' := by
  unfold exponentBytes
  cases n.exponent with
  | none => exact fun b hb => (h.not_number b hb).2.1
  | some e =>
    intro b hb
    obtain rfl := Option.some.inj hb
    cases e.isUpper <;> decide

theorem Exponent.charOfByte_letter (e : Exponent) :
    charOfByte (if e.isUpper then 69 else 101) = 'e'
      ∨ charOfByte (if e.isUpper then 69 else 101) = 'E' := by
  cases e.isUpper <;> decide

theorem NumberForm.noDigit_fractionBytes (n : NumberForm) {rest : List UInt8}
    (h : Delimited rest) : NoDigit (n.fractionBytes ++ (n.exponentBytes ++ rest)) := by
  unfold fractionBytes
  cases n.fraction with
  | none => exact n.noDigit_exponentBytes h
  | some ds => exact noDigit_cons rfl _

end Grammar

theorem Grammar.Whole.bytes_eq_cons (w : Whole) : ∃ d tail, w.bytes = digitByte d :: tail := by
  cases w with
  | zero => exact ⟨0, [], rfl⟩
  | positive first rest => exact ⟨first.succ, _, rfl⟩

/-- A number starts with a digit behind its sign. -/
theorem Grammar.NumberForm.unsignedBytes_eq_cons (n : NumberForm) :
    ∃ d tail, n.unsignedBytes = digitByte d :: tail := by
  obtain ⟨d, tail, hwhole⟩ := n.whole.bytes_eq_cons
  rw [unsignedBytes, hwhole]
  exact ⟨d, _, rfl⟩

/-- Whether nothing but a number starts with a byte. -/
structure StartsNumber (b : UInt8) : Prop where
  notBlank : isBlank b = false
  notNull : charOfByte b ≠ 'n'
  notTrue : charOfByte b ≠ 't'
  notFalse : charOfByte b ≠ 'f'
  notQuote : charOfByte b ≠ '"'
  notBracket : charOfByte b ≠ '['
  notBrace : charOfByte b ≠ '{'
  notEnd : charOfByte b ≠ ']'

theorem startsNumber_digitByte (d : Fin 10) : StartsNumber (digitByte d) := by
  constructor <;> (revert d; decide)

theorem charOfByte_digitByte_ne_minus (d : Fin 10) : charOfByte (digitByte d) ≠ '-' := by
  revert d
  decide

theorem Grammar.NumberForm.bytes_eq_cons (n : NumberForm) :
    ∃ b tail, n.bytes = b :: tail ∧ StartsNumber b
      ∧ (charOfByte b = '-' ∨ (charOfByte b).isDigit = true) := by
  obtain ⟨d, tail, hbytes⟩ := n.unsignedBytes_eq_cons
  unfold bytes
  cases n.negative with
  | true => exact ⟨45, n.unsignedBytes, rfl, by constructor <;> decide, Or.inl (by decide)⟩
  | false =>
    refine ⟨digitByte d, tail, hbytes, startsNumber_digitByte d, Or.inr ?_⟩
    rw [isDigit_charOfByte, isDigit_digitByte]

/-! ## Parts that are read -/

theorem wholeDigits_bytes (w : Whole) {rest : List UInt8} (h : NoDigit rest) :
    wholeDigits (w.bytes ++ rest) = .ok (w.bytes, rest) := by
  cases w with
  | zero =>
    rw [Whole.bytes, List.cons_append, wholeDigits, bind_of_ok (next_cons _ _)]
    show (peek >>= _) rest = _
    cases rest with
    | nil => rfl
    | cons b rest =>
      rw [bind_of_ok (peek_cons _ _)]
      simp only [isDigit_charOfByte, h b rfl, Bool.false_eq_true, if_false]
      rfl
  | positive first digits =>
    have hzero : charOfByte (digitByte first.succ) ≠ '0' := by
      revert first
      decide
    rw [Whole.bytes, List.cons_append, wholeDigits, bind_of_ok (next_cons _ _)]
    simp only [isDigit_charOfByte, isDigit_digitByte, if_true]
    rw [bind_of_ok (takeWhile_digits digits h), ofNat_charOfByte]
    rfl

theorem fractionDigits_bytes (n : NumberForm) {rest : List UInt8} (h : Delimited rest) :
    fractionDigits (n.fractionBytes ++ (n.exponentBytes ++ rest))
      = .ok (n.fraction.map Digits.bytes, n.exponentBytes ++ rest) := by
  unfold NumberForm.fractionBytes fractionDigits
  cases n.fraction with
  | some ds =>
    have hdigits : takeWhile isDigit (ds.bytes ++ (n.exponentBytes ++ rest))
        = .ok (ds.bytes, n.exponentBytes ++ rest) :=
      takeWhile_digits (ds.first :: ds.rest) (n.noDigit_exponentBytes h)
    simp only [List.cons_append]
    rw [bind_of_ok (peek_cons _ _)]
    show (advance >>= _) _ = _
    rw [bind_of_ok (advance_cons _ _), bind_of_ok hdigits]
    rfl
  | none =>
    obtain ⟨ahead, hpeek, hpoint⟩ :=
      peek_of_head? (p := (· ≠ '.')) (n.charOfByte_head?_exponentBytes h)
    have hpoint : ahead ≠ some '.' := fun he => hpoint '.' he rfl
    simp only [List.nil_append, Option.map_none]
    rw [bind_of_ok hpeek]
    simp only
    rfl

theorem exponentSign_bytes (sign : Sign) (ds : Digits) (rest : List UInt8) :
    exponentSign (sign.bytes ++ (ds.bytes ++ rest))
      = .ok (decide (sign = .minus), ds.bytes ++ rest) := by
  cases sign with
  | plus => rfl
  | minus => rfl
  | none =>
    have hsign : some (charOfByte (digitByte ds.first)) ≠ some '+'
        ∧ some (charOfByte (digitByte ds.first)) ≠ some '-' := by
      generalize ds.first = d
      revert d
      decide
    obtain ⟨hplus, hminus⟩ := hsign
    rw [Sign.bytes, List.nil_append, Digits.bytes, List.cons_append, exponentSign,
      bind_of_ok (peek_cons _ _)]
    simp only
    rfl

theorem exponentDigits_bytes (n : NumberForm) {rest : List UInt8} (h : Delimited rest) :
    exponentDigits (n.exponentBytes ++ rest)
      = .ok (n.exponent.map fun e => (decide (e.sign = .minus), e.digits.bytes), rest) := by
  unfold NumberForm.exponentBytes exponentDigits
  cases n.exponent with
  | some e =>
    have hdigits := takeWhile_digits e.digits.rest h.noDigit
    have hsign := exponentSign_bytes e.sign e.digits rest
    simp only [Exponent.bytes, List.cons_append, List.append_assoc, Option.map_some]
    rw [bind_of_ok (peek_cons _ _)]
    rcases e.charOfByte_letter with hletter | hletter
    all_goals
      simp only [hletter]
      rw [bind_of_ok (advance_cons _ _), bind_of_ok hsign, Digits.bytes, List.cons_append,
        bind_of_ok (next_cons _ _)]
      simp only [isDigit_charOfByte, isDigit_digitByte, if_true]
      rw [bind_of_ok hdigits, ofNat_charOfByte]
      rfl
  | none =>
    simp only [List.nil_append, Option.map_none]
    obtain ⟨ahead, hpeek, hletter⟩ := peek_of_head? (p := fun c => c ≠ 'e' ∧ c ≠ 'E')
      fun b hb => (h.not_number b hb).2.2
    have hlower : ahead ≠ some 'e' := fun he => (hletter 'e' he).1 rfl
    have hupper : ahead ≠ some 'E' := fun he => (hletter 'E' he).2 rfl
    rw [bind_of_ok hpeek]
    simp only
    rfl

/-! ## Numbers that are read -/

theorem scientific_of_ok {negative : Bool} {significand : Nat} {e : Int} {x : Number}
    {bytes left : List UInt8} (h : scientific negative significand e bytes = .ok (x, left))
    (rest : List UInt8) : scientific negative significand e rest = .ok (x, rest) := by
  unfold scientific at h ⊢
  cases hreal : Binary64.ofScientific? significand e with
  | none =>
    simp only [hreal] at h
    exact absurd h (by simp [fail])
  | some r =>
    simp only [hreal, pure_apply, Except.ok.injEq, Prod.mk.injEq] at h ⊢
    exact ⟨h.1, trivial⟩

/-- The value of a number does not depend on what stands behind it. -/
theorem value_of_ok {n : Numeral} {x : Number} {bytes left : List UInt8}
    (h : n.value bytes = .ok (x, left)) (rest : List UInt8) : n.value rest = .ok (x, rest) := by
  unfold Numeral.value at h ⊢
  cases hexponent : n.exponent with
  | none =>
    simp only [hexponent] at h ⊢
    by_cases hwhole : n.fraction.isNone ∧ (accumulate 0 n.whole).2.isEmpty
    · rw [if_pos hwhole] at h ⊢
      simp only [pure_apply, Except.ok.injEq, Prod.mk.injEq] at h ⊢
      exact ⟨h.1, trivial⟩
    · rw [if_neg hwhole] at h ⊢
      exact scientific_of_ok h rest
  | some e =>
    obtain ⟨negative, digits⟩ := e
    simp only [hexponent] at h ⊢
    rcases hvalue : exponentValue digits with ⟨_ | x, seen⟩
    · simp only [hvalue] at h ⊢
      -- The exponent is past all bounds: the number is zero, or it is refused.
      by_cases hpast : (accumulate (accumulate 0 n.whole).1 (n.fraction.getD [])).1 ≠ 0
          ∧ (!negative) = true
      · have hfail := (congrFun (if_pos hpast) bytes).symm.trans h
        exact absurd hfail (by simp [fail])
      · have hzero := (congrFun (if_neg hpast) bytes).symm.trans h
        refine (congrFun (if_neg hpast) rest).trans ?_
        simp only [pure_apply, Except.ok.injEq, Prod.mk.injEq] at hzero ⊢
        exact ⟨hzero.1, trivial⟩
    · simp only [hvalue] at h ⊢
      exact scientific_of_ok h rest

/-- **A number is read as the value of its parts**, from behind its sign. -/
theorem number_unsignedBytes {n : NumberForm} {x : Number} (hn : n.number? = some x)
    {rest : List UInt8} (h : Delimited rest) :
    number n.negative (n.unsignedBytes ++ rest) = .ok (x, rest) := by
  have hvalue : n.parts.value rest = .ok (x, rest) := by
    unfold NumberForm.number? at hn
    cases hparts : n.parts.value [] with
    | error fault =>
      rw [hparts] at hn
      exact absurd hn (by simp)
    | ok pair =>
      obtain ⟨y, left⟩ := pair
      rw [hparts] at hn
      obtain rfl := Option.some.inj hn
      exact value_of_ok hparts rest
  unfold number NumberForm.unsignedBytes
  rw [List.append_assoc, List.append_assoc,
    bind_of_ok (wholeDigits_bytes n.whole (n.noDigit_fractionBytes h)),
    bind_of_ok (fractionDigits_bytes n h), bind_of_ok (exponentDigits_bytes n h)]
  exact hvalue

theorem signedNumber_bytes {n : NumberForm} {x : Number} (hn : n.number? = some x)
    {rest : List UInt8} (h : Delimited rest) :
    signedNumber (n.bytes ++ rest) = .ok (x, rest) := by
  have hnumber := number_unsignedBytes hn h
  unfold NumberForm.bytes signedNumber
  cases hnegative : n.negative with
  | true =>
    rw [hnegative] at hnumber
    rw [if_pos rfl, List.singleton_append, List.cons_append, bind_of_ok (peek_cons _ _)]
    show (advance >>= fun _ => number true) _ = _
    rw [bind_of_ok (advance_cons _ _), hnumber]
  | false =>
    obtain ⟨d, tail, hbytes⟩ := n.unsignedBytes_eq_cons
    -- Without a sign the first byte is a digit, which is not taken for one.
    have hminus : some (charOfByte (digitByte d)) ≠ some '-' :=
      fun he => charOfByte_digitByte_ne_minus d (Option.some.inj he)
    rw [hnegative, hbytes, List.cons_append] at hnumber
    rw [if_neg Bool.false_ne_true, List.nil_append, hbytes, List.cons_append,
      bind_of_ok (peek_cons _ _)]
    simp only [hnumber]

/-! ## Numbers that are passed over -/

theorem skipDigits_cons (d : Fin 10) (ds : List (Fin 10)) {rest : List UInt8} (h : NoDigit rest) :
    skipDigits (digitByte d :: (ds.map digitByte ++ rest)) = .ok ((), rest) := by
  unfold skipDigits
  rw [bind_of_ok (next_cons _ _)]
  simp only [isDigit_charOfByte, isDigit_digitByte, if_true]
  rw [bind_of_ok (takeWhile_digits ds h)]
  rfl

theorem skipWhole_bytes (w : Whole) {rest : List UInt8} (h : NoDigit rest) :
    skipWhole (w.bytes ++ rest) = .ok ((), rest) := by
  unfold skipWhole
  cases w with
  | zero =>
    rw [Whole.bytes, List.cons_append, bind_of_ok (peek_cons _ _)]
    show (advance >>= _) (48 :: rest) = _
    rw [bind_of_ok (advance_cons _ _)]
    cases rest with
    | nil => rfl
    | cons b rest =>
      rw [bind_of_ok (peek_cons _ _)]
      simp only [isDigit_charOfByte, h b rfl, Bool.false_eq_true, if_false]
      rfl
  | positive first digits =>
    have hzero : some (charOfByte (digitByte first.succ)) ≠ some '0' := by
      revert first
      decide
    rw [Whole.bytes, List.cons_append, bind_of_ok (peek_cons _ _)]
    simp only
    exact skipDigits_cons first.succ digits h

theorem skipFraction_bytes (n : NumberForm) {rest : List UInt8} (h : Delimited rest) :
    skipFraction (n.fractionBytes ++ (n.exponentBytes ++ rest))
      = .ok ((), n.exponentBytes ++ rest) := by
  unfold NumberForm.fractionBytes skipFraction
  cases n.fraction with
  | some ds =>
    have hdigits : takeWhile isDigit (ds.bytes ++ (n.exponentBytes ++ rest))
        = .ok (ds.bytes, n.exponentBytes ++ rest) :=
      takeWhile_digits (ds.first :: ds.rest) (n.noDigit_exponentBytes h)
    simp only [List.cons_append]
    rw [bind_of_ok (peek_cons _ _)]
    show (advance >>= _) _ = _
    rw [bind_of_ok (advance_cons _ _), bind_of_ok hdigits]
    rfl
  | none =>
    obtain ⟨ahead, hpeek, hpoint⟩ :=
      peek_of_head? (p := (· ≠ '.')) (n.charOfByte_head?_exponentBytes h)
    have hpoint : ahead ≠ some '.' := fun he => hpoint '.' he rfl
    simp only [List.nil_append]
    rw [bind_of_ok hpeek]
    simp only
    rfl

theorem skipExponent_bytes (n : NumberForm) {rest : List UInt8} (h : Delimited rest) :
    skipExponent (n.exponentBytes ++ rest) = .ok ((), rest) := by
  unfold NumberForm.exponentBytes skipExponent
  cases n.exponent with
  | some e =>
    have hsign := exponentSign_bytes e.sign e.digits rest
    have hdigits := skipDigits_cons e.digits.first e.digits.rest h.noDigit
    simp only [Exponent.bytes, List.cons_append, List.append_assoc]
    rw [bind_of_ok (peek_cons _ _)]
    rcases e.charOfByte_letter with hletter | hletter
    all_goals
      simp only [hletter]
      rw [bind_of_ok (advance_cons _ _), bind_of_ok hsign]
      exact hdigits
  | none =>
    simp only [List.nil_append]
    obtain ⟨ahead, hpeek, hletter⟩ := peek_of_head? (p := fun c => c ≠ 'e' ∧ c ≠ 'E')
      fun b hb => (h.not_number b hb).2.2
    have hlower : ahead ≠ some 'e' := fun he => (hletter 'e' he).1 rfl
    have hupper : ahead ≠ some 'E' := fun he => (hletter 'E' he).2 rfl
    rw [bind_of_ok hpeek]
    simp only
    rfl

theorem skipNumber_unsignedBytes (n : NumberForm) {rest : List UInt8} (h : Delimited rest) :
    skipNumber (n.unsignedBytes ++ rest) = .ok ((), rest) := by
  unfold skipNumber NumberForm.unsignedBytes
  rw [List.append_assoc, List.append_assoc,
    bind_of_ok (skipWhole_bytes n.whole (n.noDigit_fractionBytes h)),
    bind_of_ok (skipFraction_bytes n h)]
  exact skipExponent_bytes n h

end Commissioning.Json
