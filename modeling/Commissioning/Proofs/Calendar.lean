import Commissioning.Calendar
import Commissioning.Proofs.Text.Decimal
import Mathlib.Data.List.Basic

set_option autoImplicit false

/-! # Written dates

A date can be told from its text, also where the text stands behind another one: the year follows
the last point, and the month and the day have two digits each (`append_text_inj`). -/

namespace Commissioning

namespace Text

/-! ## Padded numerals -/

theorem decimalValue_decimalPadded (width n : Nat) :
    decimalValue (decimalPadded width n) = n := by
  rw [decimalPadded, decimalValue_zeros_append, decimalValue_decimal]

theorem decimalPadded_inj {width n n' : Nat}
    (h : decimalPadded width n = decimalPadded width n') : n = n' := by
  rw [← decimalValue_decimalPadded width n, h, decimalValue_decimalPadded]

theorem isDecimal_of_mem_decimalPadded {width n : Nat} {c : Char}
    (h : c ∈ decimalPadded width n) : isDecimal c = true := by
  rcases List.mem_append.mp h with hzero | hdigit
  · rw [List.eq_of_mem_replicate hzero]
    rfl
  · exact isDecimal_of_mem_decimal n c hdigit

/-- A number below a hundred has two digits. -/
theorem length_decimalPadded_two {n : Nat} (h : n < 100) : (decimalPadded 2 n).length = 2 := by
  revert n
  decide +kernel

end Text

namespace Date

/-! ## Years -/

/-- The characters of a year: digits, and a sign in front of them. -/
theorem mem_yearText {year : Int} {c : Char} (h : c ∈ yearText year) :
    Text.isDecimal c = true ∨ c = '-' ∨ c = '+' := by
  unfold yearText at h
  simp only at h
  split at h
  · rcases List.mem_cons.mp h with rfl | h
    · exact Or.inr (Or.inl rfl)
    · exact Or.inl (Text.isDecimal_of_mem_decimalPadded h)
  · split at h
    · rcases List.mem_cons.mp h with rfl | h
      · exact Or.inr (Or.inr rfl)
      · exact Or.inl (Text.isDecimal_of_mem_decimalPadded h)
    · exact Or.inl (Text.isDecimal_of_mem_decimalPadded h)

/-- The number that the text of a year writes, with its sign. -/
def readYear : List Char → Int
  | '-' :: digits => -(Text.decimalValue digits : Int)
  | '+' :: digits => Text.decimalValue digits
  | digits => Text.decimalValue digits

theorem readYear_of_isDecimal {digits : List Char} (h : ∀ c ∈ digits, Text.isDecimal c = true) :
    readYear digits = Text.decimalValue digits := by
  unfold readYear
  split
  · exact absurd (h '-' List.mem_cons_self) (by decide)
  · exact absurd (h '+' List.mem_cons_self) (by decide)
  · rfl

theorem readYear_yearText (year : Int) : readYear (yearText year) = year := by
  have hvalue := Text.decimalValue_decimalPadded 4 year.natAbs
  unfold yearText
  simp only
  split
  next hneg =>
    rw [readYear, hvalue]
    omega
  next hpos =>
    split
    next hbig =>
      rw [readYear, hvalue]
      omega
    next hsmall =>
      rw [readYear_of_isDecimal fun c => Text.isDecimal_of_mem_decimalPadded, hvalue]
      omega

/-! ## Dates -/

/-- A date is made of nothing but digits, points and signs. -/
theorem mem_text {date : Date} {c : Char} (h : c ∈ date.text) :
    Text.isDecimal c = true ∨ c = '.' ∨ c = '-' ∨ c = '+' := by
  have hpadded : ∀ n, c ∈ Text.decimalPadded 2 n → Text.isDecimal c = true :=
    fun n => Text.isDecimal_of_mem_decimalPadded
  simp only [text, List.mem_append, List.mem_cons] at h
  rcases h with (h | rfl | h) | rfl | h
  · exact Or.inl (hpadded _ h)
  · exact Or.inr (Or.inl rfl)
  · exact Or.inl (hpadded _ h)
  · exact Or.inr (Or.inl rfl)
  · rcases mem_yearText h with h | h
    · exact Or.inl h
    · exact Or.inr (Or.inr h)

theorem day_le (date : Date) : date.day ≤ 31 := by
  have h := date.day_mem.2
  unfold daysInMonth at h
  split at h
  · split at h <;> omega
  · split at h
    · omega
    · split at h <;> omega

theorem ext_iff {date date' : Date} :
    date = date' ↔ date.year = date'.year ∧ date.month = date'.month ∧ date.day = date'.day := by
  obtain ⟨year, month, day, hyear, hday⟩ := date
  obtain ⟨year', month', day', hyear', hday'⟩ := date'
  simp

/-- Two lists are cut alike at the last occurrence of the same element. -/
theorem append_cons_inj {α : Type} {a : α} {as as' bs bs' : List α} (hbs : a ∉ bs)
    (hbs' : a ∉ bs') (h : as ++ a :: bs = as' ++ a :: bs') : as = as' ∧ bs = bs' := by
  rcases List.append_eq_append_iff.mp h with ⟨cs, rfl, hcut⟩ | ⟨cs, rfl, hcut⟩
  · cases cs with
    | nil => simpa using hcut
    | cons c cs =>
      obtain rfl := (List.cons.inj hcut).2
      exact absurd (List.mem_append_right cs List.mem_cons_self) hbs
  · cases cs with
    | nil => simpa [eq_comm] using hcut
    | cons c cs =>
      obtain rfl := (List.cons.inj hcut).2
      exact absurd (List.mem_append_right cs List.mem_cons_self) hbs'

/-- **A date is told from a text that ends with it**, and so is what stands in front of it. -/
theorem append_text_inj {front front' : List Char} {date date' : Date}
    (h : front ++ date.text = front' ++ date'.text) : front = front' ∧ date = date' := by
  have hpoint : ∀ year, '.' ∉ yearText year := by
    intro year hmem
    rcases mem_yearText hmem with h | h | h <;> exact absurd h (by decide)
  have hmonth : ∀ date : Date, (Text.decimalPadded 2 date.month).length = 2 := fun date =>
    Text.length_decimalPadded_two (by have := date.month_mem; omega)
  have hday : ∀ date : Date, (Text.decimalPadded 2 date.day).length = 2 := fun date =>
    Text.length_decimalPadded_two (by have := date.day_le; omega)
  -- The last point is the one in front of the year; from there on lengths are known.
  have hyear : (front ++ Text.decimalPadded 2 date.day ++ '.' :: Text.decimalPadded 2 date.month)
        ++ '.' :: yearText date.year
      = (front' ++ Text.decimalPadded 2 date'.day ++ '.' :: Text.decimalPadded 2 date'.month)
        ++ '.' :: yearText date'.year := by
    simpa only [text, List.append_assoc, List.cons_append] using h
  obtain ⟨hrest, hyear⟩ := append_cons_inj (hpoint _) (hpoint _) hyear
  obtain ⟨hrest, hmonths⟩ := List.append_inj' hrest (by simp [hmonth])
  obtain ⟨hfront, hdays⟩ := List.append_inj' hrest (by rw [hday, hday])
  refine ⟨hfront, ext_iff.mpr ⟨?_, ?_, Text.decimalPadded_inj hdays⟩⟩
  · rw [← readYear_yearText date.year, hyear, readYear_yearText]
  · exact Text.decimalPadded_inj (List.cons.inj hmonths).2

end Date

end Commissioning
