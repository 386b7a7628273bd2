import Commissioning.Proofs.Protocol.Id

set_option autoImplicit false

/-! # Ids from texts and back

A text stands for no id, for a number, or for itself without the blanks around it, and which of the
three it is can be told from its characters: no number is ever cut short, since digits that are too
many for one stay a text (`parse?_eq_number_iff`, `parse?_eq_text_iff`). What an id is shown as
stands for that id again (`parse?_stable`). -/

namespace Commissioning.Protocol.Id

/-- A text is taken for a number exactly when it is the numeral of that number. -/
theorem parse?_eq_number_iff {typed : String} {n : UInt64} :
    parse? typed = some (number n) ↔ Text.IsNumeral (Text.trim typed) n.toNat := by
  rw [← Text.readDecimal_eq_some_iff_isNumeral]
  constructor
  · intro h
    rcases parse?_cases h with ⟨zeros, m, htrim, hid⟩ | ⟨-, hid⟩
    · rw [htrim, readDecimal_padded, number.inj hid]
    · exact absurd hid (by simp)
  · intro hread
    obtain ⟨zeros, hdigits⟩ := Text.readDecimal_eq_some_iff.mp hread
    have hpadded : Text.trim typed = padded zeros n := by
      rw [padded, ← hdigits, String.ofList_toList]
    exact parse?_of_padded hpadded

/-- A text is taken as it is when it is neither blank nor a number that fits. -/
theorem parse?_eq_text_iff {typed t : String} :
    parse? typed = some (text t) ↔ t = Text.trim typed ∧ Text.isBlankText typed = false ∧
      ∀ n, Text.IsNumeral (Text.trim typed) n → 2 ^ 64 ≤ n := by
  have hfits : (∀ n, Text.IsNumeral (Text.trim typed) n → 2 ^ 64 ≤ n) ↔
      ∀ n, parse? typed ≠ some (number n) := by
    constructor
    · intro hlarge n hparse
      exact absurd (hlarge _ (parse?_eq_number_iff.mp hparse)) (Nat.not_le.mpr n.toNat_lt)
    · intro hnone n hn
      by_contra hlt
      refine hnone (UInt64.ofNat n) (parse?_eq_number_iff.mpr ?_)
      rwa [UInt64.toNat_ofNat_of_lt' (Nat.not_le.mp hlt)]
  rw [hfits, ← Bool.not_eq_true, ← parse?_eq_none_iff]
  constructor
  · intro h
    refine ⟨?_, by simp [h], by simp [h]⟩
    rcases parse?_cases h with ⟨_, _, -, hid⟩ | ⟨-, hid⟩
    · exact absurd hid (by simp)
    · exact text.inj hid
  · rintro ⟨rfl, hsome, hnumber⟩
    obtain ⟨id, hid⟩ := Option.ne_none_iff_exists'.mp hsome
    rcases parse?_cases hid with ⟨_, n, -, rfl⟩ | ⟨-, rfl⟩
    · exact absurd hid (hnumber n)
    · exact hid

/-- Digits that are too many for a number are all kept. -/
theorem parse?_of_large {typed : String} {n : Nat}
    (hn : Text.IsNumeral (Text.trim typed) n) (hlarge : 2 ^ 64 ≤ n) :
    parse? typed = some (text (Text.trim typed)) := by
  have hsome : Text.isBlankText typed = false := by
    rw [← Text.isEmpty_trim, String.isEmpty_eq_false_iff]
    exact hn.ne_empty
  refine parse?_eq_text_iff.mpr ⟨rfl, hsome, fun m hm => ?_⟩
  rwa [← hm.value, hn.value]

/-- The largest number that fits, and the first one that does not. -/
example : parse? " 18446744073709551615" = some (number 18446744073709551615) ∧
    parse? "18446744073709551616" = some (text "18446744073709551616") := by
  decide +kernel

/-- What a number is shown as stands for it. -/
theorem parse?_display_number (n : UInt64) : parse? (number n).display = some (number n) := by
  have hpadded : Text.trim (number n).display = padded 0 n := Text.trim_ofNat n.toNat
  exact parse?_of_padded hpadded

/-- What an id from a text is shown as stands for that id. -/
theorem parse?_display {typed : String} {id : Id} (h : parse? typed = some id) :
    parse? id.display = some id := by
  rcases parse?_cases h with ⟨_, n, -, rfl⟩ | ⟨-, rfl⟩
  · exact parse?_display_number n
  · -- A text that is trimmed again is the same text, so it is taken for the same id.
    rw [← h]
    unfold parse? display
    rw [Text.trim_trim]

/-- **A text stands for one id, and so does what the id is shown as.** -/
theorem parse?_stable (typed : String) :
    (parse? typed = none ↔ Text.isBlankText typed = true) ∧
      (∀ n : UInt64,
        parse? typed = some (number n) ↔ Text.IsNumeral (Text.trim typed) n.toNat) ∧
      (∀ t, parse? typed = some (text t) ↔ t = Text.trim typed ∧
        Text.isBlankText typed = false ∧ ∀ n, Text.IsNumeral (Text.trim typed) n → 2 ^ 64 ≤ n) ∧
      (∀ n, Text.IsNumeral (Text.trim typed) n → 2 ^ 64 ≤ n →
        parse? typed = some (text (Text.trim typed))) ∧
      (∀ n : UInt64, parse? (number n).display = some (number n)) ∧
      ∀ id, parse? typed = some id → parse? id.display = some id := by
  exact ⟨parse?_eq_none_iff, fun n => parse?_eq_number_iff, fun t => parse?_eq_text_iff,
    fun n => parse?_of_large, parse?_display_number, fun id => parse?_display⟩

end Commissioning.Protocol.Id
