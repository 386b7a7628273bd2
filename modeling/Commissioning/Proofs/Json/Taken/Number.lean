import Commissioning.Proofs.Json.Number
import Commissioning.Proofs.Json.Taken.Reader

set_option autoImplicit false

/-! # Numbers that have been taken

Whatever has been read as a number has the form of one, with that value; what has been passed over
as a number has the form of one. -/

namespace Commissioning.Json

open Reader Grammar

/-! ## Digits -/

theorem exists_digit {b : UInt8} (h : isDigit b = true) : ∃ d, b = digitByte d := by
  simp only [isDigit, Bool.and_eq_true, decide_eq_true_eq, UInt8.le_iff_toNat_le] at h
  have hlow : 48 ≤ b.toNat := h.1
  have hhigh : b.toNat ≤ 57 := h.2
  refine ⟨⟨b.toNat - 48, by omega⟩, ?_⟩
  rw [digitByte, show 48 + (b.toNat - 48) = b.toNat by omega, UInt8.ofNat_toNat]

theorem exists_digits {bytes : List UInt8} (h : ∀ b ∈ bytes, isDigit b = true) :
    ∃ ds : List (Fin 10), bytes = ds.map digitByte := by
  induction bytes with
  | nil => exact ⟨[], rfl⟩
  | cons b bytes ih =>
    obtain ⟨d, rfl⟩ := exists_digit (h b List.mem_cons_self)
    obtain ⟨ds, rfl⟩ := ih fun c hc => h c (List.mem_cons_of_mem _ hc)
    exact ⟨d :: ds, rfl⟩

theorem exists_digits_of_takeWhile {bytes rest taken : List UInt8}
    (h : takeWhile isDigit bytes = .ok (taken, rest)) :
    ∃ ds : List (Fin 10), taken = ds.map digitByte ∧ bytes = ds.map digitByte ++ rest := by
  obtain ⟨rfl, hdigits⟩ := takeWhile_eq_ok h
  obtain ⟨ds, rfl⟩ := exists_digits hdigits
  exact ⟨ds, rfl, rfl⟩

/-- The digits before a point, from their first one on. -/
theorem exists_whole {b : UInt8} (hdigit : (charOfByte b).isDigit = true)
    (hzero : charOfByte b ≠ '0') (ds : List (Fin 10)) :
    ∃ w : Whole, b :: ds.map digitByte = w.bytes := by
  rw [isDigit_charOfByte] at hdigit
  obtain ⟨d, rfl⟩ := exists_digit hdigit
  cases d using Fin.cases with
  | zero => exact absurd rfl hzero
  | succ d => exact ⟨.positive d ds, rfl⟩

/-! ## Parts that have been read -/

theorem wholeDigits_eq_ok {bytes rest digits : List UInt8}
    (h : wholeDigits bytes = .ok (digits, rest)) :
    ∃ w : Whole, digits = w.bytes ∧ bytes = w.bytes ++ rest := by
  rw [wholeDigits, bind_eq_ok] at h
  obtain ⟨ahead, mid, hnext, h⟩ := h
  split at h
  · exact absurd h (by simp)
  · obtain ⟨b, rfl, hb⟩ := next_eq_some hnext
    rw [bind_eq_ok] at h
    obtain ⟨ahead, mid', hpeek, h⟩ := h
    obtain ⟨-, rfl⟩ := peek_eq_ok.mp hpeek
    have hdone : digits = [48] ∧ mid' = rest := by
      split at h
      · split at h
        · exact absurd h (by simp)
        · simpa [eq_comm] using h
      · simpa [eq_comm] using h
    obtain ⟨rfl, rfl⟩ := hdone
    exact ⟨.zero, rfl, by rw [eq_ofNat_of_charOfByte hb]; rfl⟩
  next c hzero =>
    obtain ⟨b, rfl, rfl⟩ := next_eq_some hnext
    split at h
    next hdigit =>
      rw [bind_eq_ok] at h
      obtain ⟨taken, mid', htaken, h⟩ := h
      obtain ⟨ds, rfl, rfl⟩ := exists_digits_of_takeWhile htaken
      obtain ⟨w, hw⟩ := exists_whole hdigit hzero ds
      simp only [ofNat_charOfByte, pure_eq_ok] at h
      obtain ⟨rfl, rfl⟩ := h
      exact ⟨w, hw, by rw [← hw]; rfl⟩
    next => exact absurd h (by simp)

theorem fractionDigits_eq_ok {bytes rest : List UInt8} {digits : Option (List UInt8)}
    (h : fractionDigits bytes = .ok (digits, rest)) :
    ∃ fraction : Option Digits, digits = fraction.map Digits.bytes ∧
      ∀ n : NumberForm, n.fraction = fraction → bytes = n.fractionBytes ++ rest := by
  rw [fractionDigits, bind_eq_ok] at h
  obtain ⟨ahead, mid, hpeek, h⟩ := h
  obtain ⟨hahead, rfl⟩ := peek_eq_ok.mp hpeek
  split at h
  · rw [advance_bind_apply] at h
    rw [bind_eq_ok] at h
    obtain ⟨taken, mid', htaken, h⟩ := h
    obtain ⟨ds, rfl, htail⟩ := exists_digits_of_takeWhile htaken
    cases ds with
    | nil =>
      -- No digit stands behind the point.
      simp only [List.map_nil, bind_eq_ok] at h
      obtain ⟨next, mid'', -, h⟩ := h
      split at h <;> exact absurd h (by simp)
    | cons d ds =>
      simp only [List.map_cons, pure_eq_ok] at h
      obtain ⟨rfl, rfl⟩ := h
      refine ⟨some ⟨d, ds⟩, rfl, fun n hn => ?_⟩
      rw [NumberForm.fractionBytes, hn, eq_cons_of_head? hahead, htail]
      rfl
  · simp only [pure_eq_ok] at h
    obtain ⟨rfl, rfl⟩ := h
    refine ⟨none, rfl, fun n hn => ?_⟩
    rw [NumberForm.fractionBytes, hn]
    rfl

theorem exponentSign_eq_ok {bytes rest : List UInt8} {negative : Bool}
    (h : exponentSign bytes = .ok (negative, rest)) :
    ∃ sign : Sign, negative = decide (sign = .minus) ∧ bytes = sign.bytes ++ rest := by
  rw [exponentSign, bind_eq_ok] at h
  obtain ⟨ahead, mid, hpeek, h⟩ := h
  obtain ⟨hahead, rfl⟩ := peek_eq_ok.mp hpeek
  split at h
  · rw [advance_bind_apply] at h
    obtain ⟨rfl, rfl⟩ := pure_eq_ok.mp h
    exact ⟨.plus, rfl, eq_cons_of_head? hahead⟩
  · rw [advance_bind_apply] at h
    obtain ⟨rfl, rfl⟩ := pure_eq_ok.mp h
    exact ⟨.minus, rfl, eq_cons_of_head? hahead⟩
  · obtain ⟨rfl, rfl⟩ := pure_eq_ok.mp h
    exact ⟨.none, rfl, rfl⟩

/-- The digits of an exponent, behind its letter and its sign. -/
theorem exists_exponentDigits {bytes rest : List UInt8} {negative : Bool}
    {digits : Option (Bool × List UInt8)}
    (h : (next >>= fun ahead => match ahead with
      | none => fail (.endOfText .value)
      | some c =>
        if c.isDigit then do
          let digits ← takeWhile isDigit
          pure (some (negative, UInt8.ofNat c.toNat :: digits))
        else fail .invalidNumber) bytes = .ok (digits, rest)) :
    ∃ ds : Digits, digits = some (negative, ds.bytes) ∧ bytes = ds.bytes ++ rest := by
  rw [bind_eq_ok] at h
  obtain ⟨ahead, mid, hnext, h⟩ := h
  split at h
  · exact absurd h (by simp)
  · obtain ⟨b, rfl, rfl⟩ := next_eq_some hnext
    split at h
    next hdigit =>
      rw [bind_eq_ok] at h
      obtain ⟨taken, mid', htaken, h⟩ := h
      obtain ⟨ds, rfl, rfl⟩ := exists_digits_of_takeWhile htaken
      rw [isDigit_charOfByte] at hdigit
      obtain ⟨d, rfl⟩ := exists_digit hdigit
      simp only [ofNat_charOfByte, pure_eq_ok] at h
      obtain ⟨rfl, rfl⟩ := h
      exact ⟨⟨d, ds⟩, rfl, rfl⟩
    next => exact absurd h (by simp)

theorem exponentDigits_eq_ok {bytes rest : List UInt8} {digits : Option (Bool × List UInt8)}
    (h : exponentDigits bytes = .ok (digits, rest)) :
    ∃ exponent : Option Exponent,
      digits = exponent.map (fun e => (decide (e.sign = .minus), e.digits.bytes)) ∧
        ∀ n : NumberForm, n.exponent = exponent → bytes = n.exponentBytes ++ rest := by
  rw [exponentDigits, bind_eq_ok] at h
  obtain ⟨ahead, mid, hpeek, h⟩ := h
  obtain ⟨hahead, rfl⟩ := peek_eq_ok.mp hpeek
  split at h
  case h_3 =>
    obtain ⟨rfl, rfl⟩ := pure_eq_ok.mp h
    refine ⟨none, rfl, fun n hn => ?_⟩
    rw [NumberForm.exponentBytes, hn]
    rfl
  all_goals
    rw [advance_bind_apply] at h
    rw [bind_eq_ok] at h
    obtain ⟨negative, mid', hsign, h⟩ := h
    obtain ⟨sign, rfl, htail⟩ := exponentSign_eq_ok hsign
    obtain ⟨ds, rfl, rfl⟩ := exists_exponentDigits h
  · refine ⟨some ⟨false, sign, ds⟩, rfl, fun n hn => ?_⟩
    rw [NumberForm.exponentBytes, hn, eq_cons_of_head? hahead, htail]
    simp [Exponent.bytes]
  · refine ⟨some ⟨true, sign, ds⟩, rfl, fun n hn => ?_⟩
    rw [NumberForm.exponentBytes, hn, eq_cons_of_head? hahead, htail]
    simp [Exponent.bytes]

/-! ## Numbers that have been read -/

/-- **What is read as a number is one**, with its value. -/
theorem number_eq_ok {negative : Bool} {bytes rest : List UInt8} {x : Number}
    (h : number negative bytes = .ok (x, rest)) :
    ∃ n : NumberForm, n.negative = negative ∧ bytes = n.unsignedBytes ++ rest ∧
      n.number? = some x := by
  rw [number, bind_eq_ok] at h
  obtain ⟨whole, mid, hwhole, h⟩ := h
  rw [bind_eq_ok] at h
  obtain ⟨fraction, mid', hfraction, h⟩ := h
  rw [bind_eq_ok] at h
  obtain ⟨exponent, mid'', hexponent, h⟩ := h
  obtain ⟨w, rfl, rfl⟩ := wholeDigits_eq_ok hwhole
  obtain ⟨fraction, rfl, hmid⟩ := fractionDigits_eq_ok hfraction
  obtain ⟨exponent, rfl, hmid'⟩ := exponentDigits_eq_ok hexponent
  -- The value is computed from the parts, and takes nothing more.
  have hvalue := value_of_ok h
  obtain rfl : mid'' = rest := by
    have hsame := (hvalue mid'').symm.trans h
    exact (pure_eq_ok.mp hsame).2
  let n : NumberForm := ⟨negative, w, fraction, exponent⟩
  refine ⟨n, rfl, ?_, ?_⟩
  · rw [hmid n rfl, hmid' n rfl, NumberForm.unsignedBytes]
    simp only [List.append_assoc]
    rfl
  · have hparts : n.parts.value [] = .ok (x, []) := hvalue []
    unfold NumberForm.number?
    rw [hparts]

theorem signedNumber_eq_ok {bytes rest : List UInt8} {x : Number}
    (h : signedNumber bytes = .ok (x, rest)) :
    ∃ n : NumberForm, bytes = n.bytes ++ rest ∧ n.number? = some x := by
  rw [signedNumber, bind_eq_ok] at h
  obtain ⟨ahead, mid, hpeek, h⟩ := h
  obtain ⟨hahead, rfl⟩ := peek_eq_ok.mp hpeek
  split at h
  · rw [advance_bind_apply] at h
    obtain ⟨n, hnegative, hbytes, hn⟩ := number_eq_ok h
    refine ⟨n, ?_, hn⟩
    rw [NumberForm.bytes, hnegative, if_pos rfl, eq_cons_of_head? hahead, hbytes]
    rfl
  · obtain ⟨n, hnegative, hbytes, hn⟩ := number_eq_ok h
    refine ⟨n, ?_, hn⟩
    rw [NumberForm.bytes, hnegative, if_neg Bool.false_ne_true, hbytes]
    rfl

/-! ## Numbers that have been passed over -/

theorem skipDigits_eq_ok {bytes rest : List UInt8} (h : skipDigits bytes = .ok ((), rest)) :
    ∃ (d : Fin 10) (ds : List (Fin 10)), bytes = digitByte d :: (ds.map digitByte ++ rest) := by
  rw [skipDigits, bind_eq_ok] at h
  obtain ⟨ahead, mid, hnext, h⟩ := h
  split at h
  · obtain ⟨b, rfl, rfl⟩ := next_eq_some hnext
    split at h
    next hdigit =>
      rw [bind_eq_ok] at h
      obtain ⟨taken, mid', htaken, h⟩ := h
      obtain ⟨-, rfl⟩ := pure_eq_ok.mp h
      obtain ⟨ds, rfl, rfl⟩ := exists_digits_of_takeWhile htaken
      rw [isDigit_charOfByte] at hdigit
      obtain ⟨d, rfl⟩ := exists_digit hdigit
      exact ⟨d, ds, rfl⟩
    next => exact absurd h (by simp)
  · exact absurd h (by simp)

theorem skipWhole_eq_ok {bytes rest : List UInt8} (h : skipWhole bytes = .ok ((), rest)) :
    ∃ w : Whole, bytes = w.bytes ++ rest := by
  rw [skipWhole, bind_eq_ok] at h
  obtain ⟨ahead, mid, hpeek, h⟩ := h
  obtain ⟨hahead, rfl⟩ := peek_eq_ok.mp hpeek
  split at h
  · rw [advance_bind_apply] at h
    rw [bind_eq_ok] at h
    obtain ⟨ahead', mid', hpeek', h⟩ := h
    obtain ⟨-, rfl⟩ := peek_eq_ok.mp hpeek'
    refine ⟨.zero, (eq_cons_of_head? hahead).trans ?_⟩
    have hrest : mid.tail = rest := by
      split at h
      · split at h
        · exact absurd h (by simp)
        · exact (pure_eq_ok.mp h).2
      · exact (pure_eq_ok.mp h).2
    rw [hrest]
    rfl
  next hzero =>
    obtain ⟨d, ds, rfl⟩ := skipDigits_eq_ok h
    cases d using Fin.cases with
    | zero => exact absurd hahead hzero
    | succ d => exact ⟨.positive d ds, rfl⟩

theorem skipFraction_eq_ok {bytes rest : List UInt8} (h : skipFraction bytes = .ok ((), rest)) :
    ∃ fraction : Option Digits,
      ∀ n : NumberForm, n.fraction = fraction → bytes = n.fractionBytes ++ rest := by
  rw [skipFraction, bind_eq_ok] at h
  obtain ⟨ahead, mid, hpeek, h⟩ := h
  obtain ⟨hahead, rfl⟩ := peek_eq_ok.mp hpeek
  split at h
  · rw [advance_bind_apply] at h
    rw [bind_eq_ok] at h
    obtain ⟨taken, mid', htaken, h⟩ := h
    obtain ⟨ds, rfl, htail⟩ := exists_digits_of_takeWhile htaken
    cases ds with
    | nil => exact absurd h (by simp)
    | cons d ds =>
      simp only [List.map_cons, pure_eq_ok, true_and] at h
      subst h
      refine ⟨some ⟨d, ds⟩, fun n hn => ?_⟩
      rw [NumberForm.fractionBytes, hn, eq_cons_of_head? hahead, htail]
      rfl
  · obtain ⟨-, rfl⟩ := pure_eq_ok.mp h
    refine ⟨none, fun n hn => ?_⟩
    rw [NumberForm.fractionBytes, hn]
    rfl

theorem skipExponent_eq_ok {bytes rest : List UInt8} (h : skipExponent bytes = .ok ((), rest)) :
    ∃ exponent : Option Exponent,
      ∀ n : NumberForm, n.exponent = exponent → bytes = n.exponentBytes ++ rest := by
  rw [skipExponent, bind_eq_ok] at h
  obtain ⟨ahead, mid, hpeek, h⟩ := h
  obtain ⟨hahead, rfl⟩ := peek_eq_ok.mp hpeek
  split at h
  case h_3 =>
    obtain ⟨-, rfl⟩ := pure_eq_ok.mp h
    refine ⟨none, fun n hn => ?_⟩
    rw [NumberForm.exponentBytes, hn]
    rfl
  all_goals
    rw [advance_bind_apply] at h
    rw [bind_eq_ok] at h
    obtain ⟨negative, mid', hsign, h⟩ := h
    obtain ⟨sign, rfl, htail⟩ := exponentSign_eq_ok hsign
    obtain ⟨d, ds, rfl⟩ := skipDigits_eq_ok h
  · refine ⟨some ⟨false, sign, d, ds⟩, fun n hn => ?_⟩
    rw [NumberForm.exponentBytes, hn, eq_cons_of_head? hahead, htail]
    simp [Exponent.bytes, Digits.bytes]
  · refine ⟨some ⟨true, sign, d, ds⟩, fun n hn => ?_⟩
    rw [NumberForm.exponentBytes, hn, eq_cons_of_head? hahead, htail]
    simp [Exponent.bytes, Digits.bytes]

/-- **What is passed over as a number is one**, whatever its value. -/
theorem skipNumber_eq_ok {bytes rest : List UInt8} (h : skipNumber bytes = .ok ((), rest))
    (negative : Bool) :
    ∃ n : NumberForm, n.negative = negative ∧ bytes = n.unsignedBytes ++ rest := by
  rw [skipNumber, bind_eq_ok] at h
  obtain ⟨⟨⟩, mid, hwhole, h⟩ := h
  rw [bind_eq_ok] at h
  obtain ⟨⟨⟩, mid', hfraction, hexponent⟩ := h
  obtain ⟨w, rfl⟩ := skipWhole_eq_ok hwhole
  obtain ⟨fraction, hmid⟩ := skipFraction_eq_ok hfraction
  obtain ⟨exponent, hmid'⟩ := skipExponent_eq_ok hexponent
  let n : NumberForm := ⟨negative, w, fraction, exponent⟩
  refine ⟨n, rfl, ?_⟩
  rw [hmid n rfl, hmid' n rfl, NumberForm.unsignedBytes]
  simp only [List.append_assoc]
  rfl

/-! ## The bytes of numbers -/

theorem isUtf8_digits (ds : List (Fin 10)) : Text.IsUtf8 (ds.map digitByte) := by
  induction ds with
  | nil => exact Text.isUtf8_nil
  | cons d ds ih => exact Text.isUtf8_cons (by revert d; decide) ih

theorem Grammar.Digits.isUtf8_bytes (ds : Digits) : Text.IsUtf8 ds.bytes :=
  isUtf8_digits (ds.first :: ds.rest)

theorem Grammar.Whole.isUtf8_bytes (w : Whole) : Text.IsUtf8 w.bytes := by
  cases w with
  | zero => exact isUtf8_digits [0]
  | positive first rest => exact isUtf8_digits (first.succ :: rest)

theorem Grammar.Exponent.isUtf8_bytes (e : Exponent) : Text.IsUtf8 e.bytes := by
  have hsign : Text.IsUtf8 e.sign.bytes := by
    cases e.sign with
    | none => exact Text.isUtf8_nil
    | plus => exact Text.isUtf8_cons (by decide) Text.isUtf8_nil
    | minus => exact Text.isUtf8_cons (by decide) Text.isUtf8_nil
  exact Text.isUtf8_cons (by split <;> decide) (hsign.append e.digits.isUtf8_bytes)

theorem Grammar.NumberForm.isUtf8_bytes (n : NumberForm) : Text.IsUtf8 n.bytes := by
  have hsign : Text.IsUtf8 (if n.negative then [45] else []) := by
    split
    · exact Text.isUtf8_cons (by decide) Text.isUtf8_nil
    · exact Text.isUtf8_nil
  have hfraction : Text.IsUtf8 n.fractionBytes := by
    unfold fractionBytes
    split
    · exact Text.isUtf8_nil
    · exact Text.isUtf8_cons (by decide) (Digits.isUtf8_bytes _)
  have hexponent : Text.IsUtf8 n.exponentBytes := by
    unfold exponentBytes
    split
    · exact Text.isUtf8_nil
    · exact Exponent.isUtf8_bytes _
  exact hsign.append ((n.whole.isUtf8_bytes.append hfraction).append hexponent)

end Commissioning.Json
