import Commissioning.Proofs.Json.Number
import Commissioning.Proofs.Json.Taken.Reader
import Mathlib.Data.Nat.Digits.Defs

set_option autoImplicit false

/-! # Natural numbers in JSON

A number in JSON stands for a natural number exactly when it is written without sign, fraction and
exponent and its digits write the number, which fits an unsigned word
(`NumberForm.number?_eq_natural_iff`). Every other form stands for something else or for nothing. -/

namespace Commissioning.Json

open Grammar

/-! ## Digits -/

namespace Grammar.Whole

/-- The digits before the point. -/
def digits : Whole → List (Fin 10)
  | zero => [0]
  | positive first rest => first.succ :: rest

/-- The number that the digits before the point write. The last one counts ones, the one before it
tens, and so on. -/
def value (w : Whole) : Nat :=
  Nat.ofDigits 10 (w.digits.map Fin.val).reverse

theorem bytes_eq (w : Whole) : w.bytes = w.digits.map digitByte := by
  cases w <;> rfl

theorem value_eq_foldl (w : Whole) :
    w.value = (w.digits.map Fin.val).foldl (fun n d => 10 * n + d) 0 := by
  rw [value, Nat.ofDigits_eq_foldr, List.foldr_reverse]
  congr 1
  funext n d
  exact Nat.add_comm d (10 * n)

end Grammar.Whole

theorem digitValue_digitByte (d : Fin 10) : digitValue (digitByte d) = d := by
  revert d
  decide

theorem le_foldl_digits (ds : List Nat) (m : Nat) :
    m ≤ ds.foldl (fun n d => 10 * n + d) m := by
  induction ds generalizing m with
  | nil => exact Nat.le_refl m
  | cons d ds ih =>
    have hrest := ih (10 * m + d)
    rw [List.foldl_cons]
    omega

/-- Digits are all accumulated exactly when their number fits an unsigned word. -/
theorem accumulate_eq_iff (ds : List (Fin 10)) {m k : Nat} (hm : m ≤ greatestWord) :
    accumulate m (ds.map digitByte) = (k, []) ↔
      (ds.map Fin.val).foldl (fun n d => 10 * n + d) m = k ∧ k ≤ greatestWord := by
  induction ds generalizing m with
  | nil =>
    rw [List.map_nil, List.map_nil, List.foldl_nil, accumulate, Prod.mk.injEq]
    constructor
    · rintro ⟨rfl, -⟩
      exact ⟨rfl, hm⟩
    · rintro ⟨rfl, -⟩
      exact ⟨rfl, rfl⟩
  | cons d ds ih =>
    simp only [List.map_cons, List.foldl_cons, accumulate, digitValue_digitByte]
    by_cases hpast : greatestWord < 10 * m + d
    · -- The number of all digits is no less than that of the first ones.
      have hle := le_foldl_digits (ds.map Fin.val) (10 * m + d)
      rw [if_pos hpast]
      constructor
      · intro h
        exact absurd (Prod.mk.inj h).2 (List.cons_ne_nil _ _)
      · rintro ⟨rfl, hfits⟩
        omega
    · rw [if_neg hpast]
      exact ih (by omega)

theorem accumulate_whole_iff (w : Whole) {k : Nat} :
    accumulate 0 w.bytes = (k, []) ↔ w.value = k ∧ k ≤ greatestWord := by
  rw [w.bytes_eq, w.value_eq_foldl]
  exact accumulate_eq_iff w.digits (Nat.zero_le _)

/-! ## Forms of numbers -/

theorem number?_of_accumulate {negative : Bool} {w : Whole} {n : Nat}
    (h : accumulate 0 w.bytes = (n, [])) :
    NumberForm.number? { negative := negative, whole := w } = some (wholeNumber negative n) := by
  have hvalue : Numeral.value (NumberForm.parts { negative := negative, whole := w }) []
      = .ok (wholeNumber negative n, []) := by
    simp only [NumberForm.parts, Numeral.value, Option.map_none, Option.getD_none, h]
    rfl
  rw [NumberForm.number?, hvalue]

/-- Whether an outcome is a binary64 number, if it is a number at all. -/
def IsReal (outcome : Except Fault (Number × List UInt8)) : Prop :=
  ∀ x rest, outcome = .ok (x, rest) → ∃ r, x = .real r

theorem isReal_scientific (negative : Bool) (significand : Nat) (e : Int) (bytes : List UInt8) :
    IsReal (scientific negative significand e bytes) := by
  intro x rest h
  unfold scientific at h
  cases hreal : Binary64.ofScientific? significand e with
  | none =>
    rw [hreal] at h
    exact absurd h (by simp)
  | some r =>
    rw [hreal] at h
    obtain ⟨rfl, -⟩ := Reader.pure_eq_ok.mp h
    exact ⟨_, rfl⟩

/-- A number with a fraction, an exponent, or more digits than fit is a binary64 number. -/
theorem isReal_value {n : Numeral} (bytes : List UInt8)
    (h : n.fraction ≠ none ∨ n.exponent ≠ none ∨ (accumulate 0 n.whole).2 ≠ []) :
    IsReal (n.value bytes) := by
  unfold Numeral.value
  cases hexponent : n.exponent with
  | none =>
    have hnot : ¬ (n.fraction.isNone ∧ (accumulate 0 n.whole).2.isEmpty) := by
      rintro ⟨hfraction, hempty⟩
      rcases h with h | h | h
      · exact h (Option.isNone_iff_eq_none.mp hfraction)
      · exact h hexponent
      · exact h (List.isEmpty_iff.mp hempty)
    simp only
    rw [if_neg hnot]
    exact isReal_scientific _ _ _ _
  | some e =>
    obtain ⟨negative, digits⟩ := e
    simp only
    rcases exponentValue digits with ⟨_ | x, seen⟩
    · intro x rest hx
      by_cases hpast : (accumulate (accumulate 0 n.whole).1 (n.fraction.getD [])).1 ≠ 0
          ∧ (!negative) = true
      · have hfail := (congrFun (if_pos hpast) bytes).symm.trans hx
        exact absurd hfail (by simp [Reader.fail])
      · have hzero := (congrFun (if_neg hpast) bytes).symm.trans hx
        obtain ⟨rfl, -⟩ := Reader.pure_eq_ok.mp hzero
        exact ⟨_, rfl⟩
    · exact isReal_scientific _ _ _ _

/-- A form that stands for an integer has neither fraction nor exponent, and its digits fit. -/
theorem Grammar.NumberForm.of_number?_eq_integer {n : NumberForm} {i : Int}
    (h : n.number? = some (.integer i)) :
    n.fraction = none ∧ n.exponent = none ∧
      ∃ m, accumulate 0 n.whole.bytes = (m, []) ∧ wholeNumber n.negative m = .integer i := by
  have hreal : ¬ IsReal (n.parts.value []) := by
    intro hreal
    unfold number? at h
    cases hparts : n.parts.value [] with
    | error fault => simp [hparts] at h
    | ok pair =>
      obtain ⟨r, hr⟩ := hreal pair.1 pair.2 hparts
      simp [hparts, hr] at h
  have hparts : ¬ (n.parts.fraction ≠ none ∨ n.parts.exponent ≠ none ∨
      (accumulate 0 n.parts.whole).2 ≠ []) :=
    fun hor => hreal (isReal_value [] hor)
  obtain ⟨negative, whole, fraction, exponent⟩ := n
  simp only [parts, not_or, not_not, Option.map_eq_none_iff] at hparts
  obtain ⟨rfl, rfl, hleft⟩ := hparts
  have haccumulate : accumulate 0 whole.bytes = ((accumulate 0 whole.bytes).1, []) :=
    Prod.ext rfl hleft
  refine ⟨rfl, rfl, _, haccumulate, ?_⟩
  rw [number?_of_accumulate haccumulate] at h
  exact Option.some.inj h

/-- A number behind a minus sign is none that an unsigned word holds. -/
theorem wholeNumber_true_ne (n k : Nat) : wholeNumber true n ≠ .integer k := by
  unfold wholeNumber
  simp only [Bool.not_true, Bool.false_eq_true, if_false]
  split
  · intro h
    have hneg := Number.integer.inj h
    omega
  · exact fun h => Number.noConfusion h

/-- **A form stands for a natural number** exactly when it has neither sign nor fraction nor
exponent and its digits write the number, which fits an unsigned word. -/
theorem Grammar.NumberForm.number?_eq_natural_iff {n : NumberForm} {k : Nat} :
    n.number? = some (.integer k) ↔
      n = { whole := n.whole } ∧ n.whole.value = k ∧ k ≤ greatestWord := by
  constructor
  · intro h
    obtain ⟨hfraction, hexponent, m, haccumulate, hnumber⟩ := of_number?_eq_integer h
    obtain ⟨negative, whole, fraction, exponent⟩ := n
    obtain rfl : fraction = none := hfraction
    obtain rfl : exponent = none := hexponent
    cases negative with
    | true => exact absurd hnumber (wholeNumber_true_ne m k)
    | false =>
      obtain rfl : m = k := Int.ofNat.inj (Number.integer.inj hnumber)
      exact ⟨rfl, (accumulate_whole_iff whole).mp haccumulate⟩
  · rintro ⟨hform, hvalue⟩
    rw [hform, number?_of_accumulate ((accumulate_whole_iff n.whole).mpr hvalue)]
    rfl

/-! ## Digits alone -/

theorem delimited_blanks (blanks : List Blank) : Reader.Delimited (blankBytes blanks) := by
  rw [← List.append_nil (blankBytes blanks)]
  exact Reader.delimited_blankBytes blanks Reader.delimited_nil

/-- What is written with digits alone, up to the blanks behind it, is a form that has these digits
and nothing else. -/
theorem Grammar.NumberForm.eq_of_digits {n : NumberForm} {w : Whole} {after after' : List Blank}
    (h : n.bytes ++ blankBytes after = w.bytes ++ blankBytes after') :
    n.negative = false ∧ n.fraction = none ∧ n.exponent = none ∧ n.whole.bytes = w.bytes := by
  have hsign : n.negative = false := by
    by_contra hnegative
    obtain ⟨d, tail, hw⟩ := w.bytes_eq_cons
    rw [bytes, if_pos (by simpa using hnegative), hw] at h
    have hminus := charOfByte_digitByte_ne_minus d
    rw [← (List.cons.inj h).1] at hminus
    exact hminus (by decide)
  have hparts : n.whole.bytes ++ (n.fractionBytes ++ (n.exponentBytes ++ blankBytes after))
      = w.bytes ++ blankBytes after' := by
    rw [bytes, if_neg (by simp [hsign])] at h
    simpa [unsignedBytes] using h
  -- Both sides are cut where the digits end.
  have hdigits : n.whole.bytes = w.bytes ∧
      n.fractionBytes ++ (n.exponentBytes ++ blankBytes after) = blankBytes after' := by
    have hleft := takeWhile_digits n.whole.digits
      (n.noDigit_fractionBytes (delimited_blanks after))
    have hright := takeWhile_digits w.digits (delimited_blanks after').noDigit
    rw [← Whole.bytes_eq] at hleft hright
    rw [hparts, hright] at hleft
    obtain ⟨hwhole, hbehind⟩ := Prod.mk.inj (Except.ok.inj hleft)
    exact ⟨hwhole.symm, hbehind.symm⟩
  obtain ⟨hwhole, hbehind⟩ := hdigits
  have hend := (delimited_blanks after').not_number
  rw [← hbehind] at hend
  have hfraction : n.fraction = none := by
    unfold fractionBytes at hend
    cases hf : n.fraction with
    | none => rfl
    | some ds =>
      rw [hf] at hend
      exact absurd (by decide) (hend 46 rfl).2.1
  have hexponent : n.exponent = none := by
    unfold fractionBytes exponentBytes at hend
    cases he : n.exponent with
    | none => rfl
    | some e =>
      rw [hfraction, he] at hend
      obtain ⟨-, -, hlower, hupper⟩ := hend _ rfl
      rcases e.charOfByte_letter with hletter | hletter
      · exact absurd hletter hlower
      · exact absurd hletter hupper
  exact ⟨hsign, hfraction, hexponent, hwhole⟩

end Commissioning.Json
