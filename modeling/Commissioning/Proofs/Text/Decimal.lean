import Commissioning.Text.Decimal
import Mathlib.Data.List.Induction
import Mathlib.Data.Nat.Digits.Defs

set_option autoImplicit false

/-! # Numerals with leading zeros

A numeral is the shortest digits of its number behind zeros, of which there may be none
(`readDecimal_eq_some_iff`): nothing but the zeros is lost when it is read and written again. Its
number is the sum of its digits, each times the power of ten of its place
(`readDecimal_eq_some_iff_isNumeral`). -/

namespace Commissioning.Text

/-- The value of a digit is below ten, and writes the digit. -/
theorem digitChar_of_isDecimal {c : Char} (h : isDecimal c = true) :
    c.toNat - 48 < 10 ∧ Nat.digitChar (c.toNat - 48) = c := by
  simp only [isDecimal, Char.le_def, Bool.and_eq_true, decide_eq_true_eq] at h
  obtain ⟨hlow, hhigh⟩ := h
  have hlow : 48 ≤ c.toNat := hlow
  have hhigh : c.toNat ≤ 57 := hhigh
  refine ⟨by omega, Char.toNat_inj.mp ?_⟩
  rw [Nat.toNat_digitChar_of_lt_ten (by omega)]
  omega

theorem decimal_of_lt_ten {n : Nat} (h : n < 10) : decimal n = [Nat.digitChar n] :=
  Nat.toDigits_of_lt_base h

/-- The digits of a number are those in front of its last digit and that digit. -/
theorem decimal_append_digitChar {m d : Nat} (hm : 0 < m) (hd : d < 10) :
    decimal m ++ [Nat.digitChar d] = decimal (10 * m + d) := by
  rw [← decimal_of_lt_ten hd]
  exact Nat.toDigits_append_toDigits (by decide) hm hd

/-- Digits behind those of a positive number go on with that number. -/
theorem decimal_append {m : Nat} (hm : 0 < m) {cs : List Char}
    (h : ∀ c ∈ cs, isDecimal c = true) :
    decimal m ++ cs = decimal (Nat.ofDigitChars 10 cs m) := by
  induction cs generalizing m with
  | nil => rw [List.append_nil, Nat.ofDigitChars_nil]
  | cons c cs ih =>
    obtain ⟨hlt, hchar⟩ := digitChar_of_isDecimal (h c List.mem_cons_self)
    have hrest := ih (m := 10 * m + (c.toNat - 48)) (by omega)
      fun d hd => h d (List.mem_cons_of_mem c hd)
    calc decimal m ++ c :: cs
      _ = (decimal m ++ [c]) ++ cs := by rw [List.append_assoc, List.singleton_append]
      _ = decimal (10 * m + (c.toNat - 48)) ++ cs := by
        rw [← decimal_append_digitChar hm hlt, hchar]
      _ = decimal (Nat.ofDigitChars 10 (c :: cs) m) := by
        rw [hrest, Nat.ofDigitChars_cons]
        rfl

theorem decimalValue_zeros_append (zeros : Nat) (cs : List Char) :
    decimalValue (List.replicate zeros '0' ++ cs) = decimalValue cs := by
  unfold decimalValue
  rw [Nat.ofDigitChars_append, Nat.ofDigitChars_replicate_zero, Nat.mul_zero]

/-- Digits are the shortest ones of their number behind some zeros. -/
theorem exists_zeros {cs : List Char} (hne : cs ≠ []) (h : ∀ c ∈ cs, isDecimal c = true) :
    ∃ zeros, cs = List.replicate zeros '0' ++ decimal (decimalValue cs) := by
  induction cs with
  | nil => exact absurd rfl hne
  | cons c cs ih =>
    have hcs : ∀ d ∈ cs, isDecimal d = true := fun d hd => h d (List.mem_cons_of_mem c hd)
    obtain ⟨hlt, hchar⟩ := digitChar_of_isDecimal (h c List.mem_cons_self)
    by_cases hzero : c = '0'
    · subst hzero
      by_cases hempty : cs = []
      · subst hempty
        exact ⟨0, rfl⟩
      · -- The zero joins those in front of the rest.
        obtain ⟨zeros, hzeros⟩ := ih hempty hcs
        refine ⟨zeros + 1, ?_⟩
        rw [show decimalValue ('0' :: cs) = decimalValue cs from
          decimalValue_zeros_append 1 cs, List.replicate_succ, List.cons_append, ← hzeros]
    · have hpos : 0 < c.toNat - 48 := by
        refine Nat.pos_of_ne_zero fun hvalue => hzero ?_
        rw [← hchar, hvalue]
        rfl
      refine ⟨0, ?_⟩
      have hdigits := decimal_append hpos hcs
      rw [decimal_of_lt_ten hlt, hchar] at hdigits
      have hvalue : decimalValue (c :: cs) = Nat.ofDigitChars 10 cs (c.toNat - 48) := by
        rw [decimalValue, Nat.ofDigitChars_cons, Nat.mul_zero, Nat.zero_add]
        rfl
      rw [hvalue, ← hdigits]
      rfl

/-- **A text is the numeral of a number** when it is the digits of the number behind zeros, of
which there may be none. -/
theorem readDecimal_eq_some_iff {cs : List Char} {n : Nat} :
    readDecimal cs = some n ↔ ∃ zeros, cs = List.replicate zeros '0' ++ decimal n := by
  constructor
  · intro hread
    unfold readDecimal at hread
    by_cases hdigits : (cs.isEmpty || !cs.all isDecimal) = true
    · rw [if_pos hdigits] at hread
      exact absurd hread (by simp)
    · rw [if_neg hdigits, Option.some.injEq] at hread
      simp only [Bool.or_eq_true, List.isEmpty_iff, Bool.not_eq_true', not_or,
        Bool.not_eq_false, List.all_eq_true] at hdigits
      rw [← hread]
      exact exists_zeros hdigits.1 hdigits.2
  · rintro ⟨zeros, rfl⟩
    have hall : (List.replicate zeros '0' ++ decimal n).all isDecimal = true := by
      rw [List.all_eq_true]
      intro c hc
      rcases List.mem_append.mp hc with hzero | hdigit
      · rw [List.eq_of_mem_replicate hzero]
        rfl
      · exact isDecimal_of_mem_decimal n c hdigit
    have hne : (List.replicate zeros '0' ++ decimal n).isEmpty = false := by
      rw [List.isEmpty_eq_false_iff]
      exact List.append_ne_nil_of_right_ne_nil _ (decimal_ne_nil n)
    rw [readDecimal, hall, hne, decimalValue_zeros_append, decimalValue_decimal]
    rfl

/-! ## Places -/

/-- Whether a text is one or more digits that write a number. -/
structure IsNumeral (s : String) (n : Nat) : Prop where
  ne_empty : s ≠ ""
  digits : ∀ c ∈ s.toList, '0' ≤ c ∧ c ≤ '9'
  /-- The last digit counts ones, the one before it tens, and so on. -/
  value : Nat.ofDigits 10 (s.toList.reverse.map fun c => c.toNat - '0'.toNat) = n

theorem decimalValue_eq_ofDigits (cs : List Char) :
    decimalValue cs = Nat.ofDigits 10 (cs.reverse.map fun c => c.toNat - '0'.toNat) := by
  induction cs using List.reverseRecOn with
  | nil => rfl
  | append_singleton cs c ih =>
    unfold decimalValue at ih ⊢
    rw [Nat.ofDigitChars_append, ih, Nat.ofDigitChars_cons, Nat.ofDigitChars_nil,
      List.reverse_append, List.reverse_singleton, List.singleton_append, List.map_cons,
      Nat.ofDigits_cons, Nat.add_comm]

/-- A text is read as the number that its digits write. -/
theorem readDecimal_eq_some_iff_isNumeral {s : String} {n : Nat} :
    readDecimal s.toList = some n ↔ IsNumeral s n := by
  have hdecimal : s.toList.all isDecimal = true ↔ ∀ c ∈ s.toList, '0' ≤ c ∧ c ≤ '9' := by
    simp [isDecimal]
  constructor
  · intro hread
    unfold readDecimal at hread
    split at hread
    · exact absurd hread (by simp)
    next hdigits =>
      simp only [Bool.or_eq_true, Bool.not_eq_true', not_or, Bool.not_eq_true,
        Bool.not_eq_false] at hdigits
      refine ⟨?_, hdecimal.mp hdigits.2, ?_⟩
      · rintro rfl
        exact absurd hdigits.1 (by simp)
      · rw [← decimalValue_eq_ofDigits, Option.some.inj hread]
  · rintro ⟨hne, hdigits, hvalue⟩
    have hsome : s.toList.isEmpty = false := by
      rw [List.isEmpty_eq_false_iff]
      simpa using hne
    rw [readDecimal, hdecimal.mpr hdigits, hsome, decimalValue_eq_ofDigits, hvalue]
    rfl

end Commissioning.Text
