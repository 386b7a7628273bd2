import Commissioning.Text.Blank
import Commissioning.Text.Decimal
import Mathlib.Data.List.DropRight

set_option autoImplicit false

/-! # Trimmed texts

What is left of a text without the blanks around it has no blank at either end
(`isTrimmed_trimBlanks`), and a text without blanks at its ends is left as it is
(`IsTrimmed.trimBlanks_eq`); so trimming twice is trimming once. Nothing is left of a text that is
blank, and of no other one (`isEmpty_trim`). Numerals have no blanks in them. -/

namespace Commissioning.Text

/-! ## Blanks at the ends -/

/-- Whether characters have no blank at either end. -/
structure IsTrimmed (cs : List Char) : Prop where
  first : ∀ c ∈ cs.head?, isBlank c = false
  last : ∀ c ∈ cs.getLast?, isBlank c = false

theorem mem_of_mem_trimBlanks {cs : List Char} {c : Char} (h : c ∈ trimBlanks cs) : c ∈ cs := by
  have hdrop : ∀ {xs : List Char}, c ∈ xs.dropWhile isBlank → c ∈ xs :=
    fun hmem => (List.dropWhile_suffix _).mem hmem
  exact hdrop (List.mem_reverse.mp (hdrop (List.mem_reverse.mp h)))

theorem dropWhile_isBlank_of_head? {cs : List Char}
    (h : ∀ c ∈ cs.head?, isBlank c = false) : cs.dropWhile isBlank = cs := by
  cases cs with
  | nil => rfl
  | cons c cs => rw [List.dropWhile_cons, if_neg (by simp [h c rfl])]

theorem head?_dropWhile_isBlank (cs : List Char) :
    ∀ c ∈ (cs.dropWhile isBlank).head?, isBlank c = false := by
  intro c hc
  have hhead := List.head?_dropWhile_not isBlank cs
  rw [Option.mem_def.mp hc] at hhead
  simpa using hhead

theorem dropWhile_isBlank_append (cs : List Char) {ds : List Char}
    (h : ∀ c ∈ ds.head?, isBlank c = false) :
    (cs ++ ds).dropWhile isBlank = cs.dropWhile isBlank ++ ds := by
  rw [List.dropWhile_append, dropWhile_isBlank_of_head? h]
  split
  next hempty => rw [List.isEmpty_iff.mp hempty, List.nil_append]
  next => rfl

/-- Blanks are taken away in front of an end that has none at its own ends, and nowhere else. -/
theorem trimBlanks_append (cs : List Char) {ds : List Char} (hne : ds ≠ []) (h : IsTrimmed ds) :
    trimBlanks (cs ++ ds) = cs.dropWhile isBlank ++ ds := by
  have hend : ∀ c ∈ (cs.dropWhile isBlank ++ ds).reverse.head?, isBlank c = false := by
    intro c hc
    rw [List.head?_reverse, List.getLast?_append_of_ne_nil _ hne] at hc
    exact h.last c hc
  unfold trimBlanks
  rw [dropWhile_isBlank_append cs h.first, dropWhile_isBlank_of_head? hend, List.reverse_reverse]

/-- A text without blanks at its ends is left as it is. -/
theorem IsTrimmed.trimBlanks_eq {cs : List Char} (h : IsTrimmed cs) : trimBlanks cs = cs := by
  by_cases hne : cs = []
  · rw [hne]
    rfl
  · exact trimBlanks_append [] hne h

/-- **What is left has no blank at either end.** -/
theorem isTrimmed_trimBlanks (cs : List Char) : IsTrimmed (trimBlanks cs) where
  first := by
    intro c hc
    unfold trimBlanks at hc
    rw [List.head?_reverse] at hc
    -- The blanks at the end are dropped behind a first character that stays the first one.
    have hsuffix := List.dropWhile_suffix isBlank (l := (cs.dropWhile isBlank).reverse)
    obtain ⟨blanks, hblanks⟩ := hsuffix
    refine head?_dropWhile_isBlank cs c ?_
    rw [← List.reverse_reverse (cs.dropWhile isBlank), List.head?_reverse, ← hblanks,
      List.getLast?_append, Option.mem_def.mp hc]
    rfl
  last := by
    intro c hc
    unfold trimBlanks at hc
    rw [List.getLast?_reverse] at hc
    exact head?_dropWhile_isBlank _ c hc

theorem trim_trim (s : String) : trim (trim s) = trim s := by
  unfold trim
  rw [String.toList_ofList, (isTrimmed_trimBlanks s.toList).trimBlanks_eq]

/-- A text is left as it is exactly when it has no blank at either end. -/
theorem trim_eq_self {s : String} (h : IsTrimmed s.toList) : trim s = s := by
  rw [trim, h.trimBlanks_eq, String.ofList_toList]

/-! ## Blank texts -/

theorem trimBlanks_eq_nil_iff {cs : List Char} :
    trimBlanks cs = [] ↔ ∀ c ∈ cs, isBlank c = true := by
  constructor
  · intro hnil
    rw [trimBlanks, List.reverse_eq_nil_iff, List.dropWhile_eq_nil_iff] at hnil
    -- All that is left in front is blank, so the first blanks were all there is.
    have hfirst := head?_dropWhile_isBlank cs
    cases hdrop : cs.dropWhile isBlank with
    | nil => exact List.dropWhile_eq_nil_iff.mp hdrop
    | cons c rest =>
      rw [hdrop] at hfirst hnil
      have hblank := hnil c (List.mem_reverse.mpr List.mem_cons_self)
      rw [hfirst c rfl] at hblank
      exact absurd hblank (by simp)
  · intro hall
    rw [trimBlanks, List.dropWhile_eq_nil_iff.mpr hall]
    rfl

/-- Nothing is left of a blank text, and of no other one. -/
theorem isEmpty_trim (s : String) : (trim s).isEmpty = isBlankText s := by
  rw [Bool.eq_iff_iff, String.isEmpty_iff, trim, String.ofList_eq_empty_iff,
    trimBlanks_eq_nil_iff, isBlankText, List.all_eq_true]

theorem isBlankText_eq_false_iff {s : String} :
    isBlankText s = false ↔ ∃ char ∈ s.toList, isBlank char = false := by
  simp [isBlankText]

/-- A text without the blanks around it is blank only if it is empty. -/
theorem isBlankText_trim (s : String) : isBlankText (trim s) = (trim s).isEmpty := by
  rw [← isEmpty_trim, trim_trim]

/-! ## Numerals -/

/-- No digit is blank. -/
theorem isBlank_of_isDecimal {c : Char} (h : isDecimal c = true) : isBlank c = false := by
  simp only [isDecimal, Bool.and_eq_true, decide_eq_true_eq, Char.le_def, UInt32.le_iff_toNat_le]
    at h
  have hlow : 48 ≤ c.toNat := h.1
  have hhigh : c.toNat ≤ 57 := h.2
  simp only [isBlank, Bool.or_eq_false_iff, Bool.and_eq_false_iff, decide_eq_false_iff_not,
    beq_eq_false_iff_ne]
  omega

/-- Digits have no blank at either end. -/
theorem isTrimmed_of_isDecimal {cs : List Char} (h : ∀ c ∈ cs, isDecimal c = true) :
    IsTrimmed cs where
  first c hc := isBlank_of_isDecimal (h c (List.mem_of_mem_head? hc))
  last c hc := isBlank_of_isDecimal (h c (List.mem_of_getLast? hc))

theorem trim_ofNat (n : Nat) : trim (ofNat n) = ofNat n := by
  refine trim_eq_self (isTrimmed_of_isDecimal fun c hc => ?_)
  rw [ofNat, String.toList_ofList] at hc
  exact isDecimal_of_mem_decimal n c hc

theorem isBlankText_ofNat (n : Nat) : isBlankText (ofNat n) = false := by
  rw [← isEmpty_trim, trim_ofNat, String.isEmpty_eq_false_iff, ofNat, ne_eq,
    String.ofList_eq_empty_iff]
  exact decimal_ne_nil n

end Commissioning.Text
