import Commissioning.Proofs.Json.Natural
import Commissioning.Proofs.Protocol.Request

set_option autoImplicit false

/-! # Spelled ids

An id in JSON is either the digits of a number that an unsigned word holds, without sign, fraction
and exponent, or a text (`read_eq_ok_iff`). Whatever else a term is, it is refused, also where it
stands for the same number in another form (`read_ne_ok_of_foreign`). -/

namespace Commissioning.Protocol.Id

open Json Json.Reader Json.Grammar

/-- Whether a term spells an id. -/
inductive Spells : Term → Id → Prop
  | number {w : Whole} {n : UInt64} (h : w.value = n.toNat) :
      Spells (.number { whole := w }) (.number n)
  | text {glyphs : List Glyph} {s : String} (h : text? glyphs = some s) :
      Spells (.text glyphs) (.text s)

/-! ## Terms of ids -/

/-- A value is an id exactly when the id is written so. -/
theorem ofJson?_eq_some_iff {v : Value} {id : Id} : ofJson? v = some id ↔ v = id.toJson := by
  constructor
  · intro h
    unfold ofJson? at h
    split at h
    next n =>
      split at h
      next hword =>
        obtain ⟨hlow, hhigh⟩ := hword
        obtain rfl := Option.some.inj h
        have hsize : Nat.pow 2 64 = 18446744073709551616 := by decide
        rw [hsize] at hhigh
        have hnat : (UInt64.ofNat n.toNat).toNat = n.toNat :=
          UInt64.toNat_ofNat_of_lt' (by rw [UInt64.size]; omega)
        rw [toJson, Value.ofNat, hnat, Int.toNat_of_nonneg hlow]
      next => exact absurd h (by simp)
    · obtain rfl := Option.some.inj h
      rfl
    · exact absurd h (by simp)
  · rintro rfl
    exact ofJson?_toJson id

theorem toNat_le_greatestWord (n : UInt64) : n.toNat ≤ greatestWord := by
  have hlt := n.toNat_lt
  have hword : greatestWord = 18446744073709551615 := by decide
  omega

/-- A term stands for an id exactly when it spells it. -/
theorem value?_eq_some_iff {t : Term} {id : Id} : t.value? = some id.toJson ↔ Spells t id := by
  constructor
  · intro h
    cases id with
    | number n =>
      obtain ⟨form, rfl, hnumber⟩ := Term.value?_eq_number h
      obtain ⟨hform, hvalue, -⟩ := NumberForm.number?_eq_natural_iff.mp hnumber
      rw [hform]
      exact .number hvalue
    | text s =>
      obtain ⟨glyphs, rfl, htext⟩ := Term.value?_eq_text h
      exact .text htext
  · intro h
    cases h with
    | @number w n hvalue =>
      have hnumber : NumberForm.number? { whole := w } = some (.integer n.toNat) :=
        NumberForm.number?_eq_natural_iff.mpr ⟨rfl, hvalue, toNat_le_greatestWord n⟩
      rw [Term.value?, hnumber]
      rfl
    | text htext =>
      rw [Term.value?, htext]
      rfl

theorem recognises_reader (depth : Nat) : Recognises Eq (reader depth) Spells := by
  intro bytes id rest h
  obtain ⟨v, mid, hvalue, h⟩ := bind_eq_ok.mp h
  obtain ⟨blanks, t, hbytes, hstands, -⟩ := recognises_value depth bytes v mid hvalue
  cases hid : ofJson? v with
  | none =>
    rw [hid] at h
    exact absurd h (by simp)
  | some id' =>
    rw [hid] at h
    obtain ⟨rfl, rfl⟩ := pure_eq_ok.mp h
    obtain rfl := ofJson?_eq_some_iff.mp hid
    exact ⟨blanks, t, hbytes, value?_eq_some_iff.mp hstands⟩

theorem Spells.depth_eq {t : Term} {id : Id} (h : Spells t id) : t.depth = 0 := by
  cases h <;> rfl

/-- **A text is read as an id** exactly when it spells it, up to the blanks around it. -/
theorem read_eq_ok_iff {text : String} {id : Id} :
    (reader nesting).read text = .ok id ↔
      ∃ item : Item Term, Text.encodeUtf8 text = item.bytes ∧ Spells item.term id := by
  constructor
  · intro h
    exact readBytes_eq_ok (recognises_reader nesting) h
  · rintro ⟨item, hbytes, hspells⟩
    have hstands : StandsFor nesting item.term id.toJson :=
      ⟨value?_eq_some_iff.mpr hspells, by simp [hspells.depth_eq]⟩
    have hread := readBytes_means (Id.means_reader nesting) hstands trivial
    rw [ofJson?_toJson, ← hbytes] at hread
    exact eq_ok_of_toOption hread

/-- Every id is read back from its text. -/
theorem read_toJson (id : Id) : (reader nesting).read id.toJson.compact = .ok id := by
  have hread := read_means (Id.means_reader nesting) (parse_compact (id.returns_toJson nesting))
    trivial
  rw [ofJson?_toJson] at hread
  exact eq_ok_of_toOption hread

/-! ## Terms of nothing -/

/-- Whether a term has another form than an id, or is a number that no unsigned word holds. -/
inductive Foreign : Term → Prop
  | null : Foreign .null
  | boolean (b : Bool) : Foreign (.boolean b)
  | array (inside : List Blank) (items : List (Item Term)) : Foreign (.array inside items)
  | object (inside : List Blank) (members : List (Member Term)) : Foreign (.object inside members)
  | negative {n : NumberForm} (h : n.negative = true) : Foreign (.number n)
  | fraction {n : NumberForm} (h : n.fraction ≠ none) : Foreign (.number n)
  | exponent {n : NumberForm} (h : n.exponent ≠ none) : Foreign (.number n)
  | large {n : NumberForm} (h : greatestWord < n.whole.value) : Foreign (.number n)

/-- The bytes of a foreign number are not those of digits that fit. -/
theorem Foreign.number_bytes_ne {n : NumberForm} (h : Foreign (.number n)) {w : Whole}
    (hw : w.value ≤ greatestWord) (after after' : List Blank) :
    n.bytes ++ blankBytes after ≠ w.bytes ++ blankBytes after' := by
  intro hbytes
  obtain ⟨hsign, hfraction, hexponent, hwhole⟩ := NumberForm.eq_of_digits hbytes
  cases h with
  | negative h => exact absurd h (by simp [hsign])
  | fraction h => exact h hfraction
  | exponent h => exact h hexponent
  | large h =>
    have hvalue := (accumulate_whole_iff w).mpr ⟨rfl, hw⟩
    rw [← hwhole] at hvalue
    have hsame := ((accumulate_whole_iff n.whole).mp hvalue).1
    omega

/-- The bytes of a foreign term are not those of an id. -/
theorem Foreign.bytes_ne {t t' : Term} {id : Id} (h : Foreign t) (h' : Spells t' id)
    (after after' : List Blank) : t.bytes ++ blankBytes after ≠ t'.bytes ++ blankBytes after' := by
  intro hbytes
  obtain ⟨b, tail, ht, -⟩ := t.bytes_eq_cons
  rw [ht, List.cons_append] at hbytes
  cases h' with
  | text htext =>
    obtain rfl := (List.cons.inj hbytes).1
    obtain ⟨glyphs, rfl⟩ := Term.eq_text_of_quote ht
    cases h
  | @number w n hvalue =>
    have hdigits : Term.bytes (.number { whole := w }) = w.bytes := by
      simp [Term.bytes, NumberForm.bytes, NumberForm.unsignedBytes, NumberForm.fractionBytes,
        NumberForm.exponentBytes]
    obtain ⟨d, more, hw⟩ := w.bytes_eq_cons
    rw [hdigits, hw, List.cons_append] at hbytes
    obtain rfl := (List.cons.inj hbytes).1
    obtain ⟨form, rfl⟩ := Term.eq_number_of_starts ht (startsNumber_digitByte d)
    rw [← List.cons_append, ← List.cons_append, ← ht, ← hw] at hbytes
    exact h.number_bytes_ne (hvalue ▸ toNat_le_greatestWord n) after after' hbytes

/-- **A foreign term is refused**, whatever blanks stand around it. -/
theorem read_ne_ok_of_foreign {text : String} {item : Item Term}
    (hbytes : Text.encodeUtf8 text = item.bytes) (h : Foreign item.term) (id : Id) :
    (reader nesting).read text ≠ .ok id := by
  intro hread
  obtain ⟨item', hbytes', hspells⟩ := read_eq_ok_iff.mp hread
  have hsolid : ∀ (t : Term) (bytes : List UInt8), Solid (t.bytes ++ bytes) := by
    intro t bytes
    obtain ⟨b, tail, ht, hb, -⟩ := t.bytes_eq_cons
    rw [ht]
    exact solid_cons hb _
  -- The blanks in front of either term are the same.
  have hbehind := congrArg (List.dropWhile isBlank) (hbytes.symm.trans hbytes')
  rw [Item.bytes, Item.bytes, List.append_assoc, List.append_assoc,
    dropWhile_blankBytes _ (hsolid _ _), dropWhile_blankBytes _ (hsolid _ _)] at hbehind
  exact h.bytes_ne hspells _ _ hbehind

end Commissioning.Protocol.Id
