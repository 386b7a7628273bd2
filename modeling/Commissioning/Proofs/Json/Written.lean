import Commissioning.Proofs.Json.Meaning
import Commissioning.Proofs.Json.Natural
import Commissioning.Proofs.Text.Decimal

set_option autoImplicit false

/-! # Written values

What is written for a value follows the grammar and stands for the value (`exists_writtenTerm`), so
that it is read back as what it was (`parse_compact`). Integers that fit a word come back exactly;
nothing is said about other numbers, whose digits are rounded when they are read. -/

namespace Commissioning.Json

open Grammar Text

/-! ## Texts -/

theorem encodeChars_cons (c : Char) (cs : List Char) :
    encodeChars (c :: cs) = encodeChar c ++ encodeChars cs :=
  List.flatMap_cons

/-- The escape of one letter that a character is written with, if it has one. -/
def shortEscapeOf? : Char → Option ShortEscape
  | '"' => some .quote
  | '\\' => some .backslash
  | '\x08' => some .backspace
  | '\x0c' => some .formFeed
  | '\n' => some .lineFeed
  | '\r' => some .carriageReturn
  | '\t' => some .tab
  | _ => none

/-- The last hexadecimal digit of a number, in lower case. -/
def lastDigit (n : Nat) : HexDigit where
  value := ⟨n % 16, Nat.mod_lt n (by decide)⟩

/-- The code unit of a control, whose first two digits are zeros. -/
def controlUnit (c : Char) : CodeUnit :=
  ⟨lastDigit 0, lastDigit 0, lastDigit (c.toNat / 16), lastDigit c.toNat⟩

/-- The sign that a character is written as. -/
def writtenGlyph (c : Char) : Glyph :=
  if h : IsPlain c then .plain c h
  else
    match shortEscapeOf? c with
    | some e => .short e
    | none => .unit (controlUnit c)

/-- A character that may not stand as it is: the quote, the backslash, and the controls. -/
theorem eq_ofNat_of_not_isPlain {c : Char} (h : ¬ IsPlain c) :
    ∃ n : Fin 128, c = Char.ofNat n.val ∧ ¬ IsPlain (Char.ofNat n.val) := by
  have hsmall : c.toNat < 128 := by
    by_contra hlarge
    refine h ⟨by omega, ?_, ?_⟩
    · rintro rfl
      exact hlarge (by decide)
    · rintro rfl
      exact hlarge (by decide)
  refine ⟨⟨c.toNat, hsmall⟩, (Char.ofNat_toNat c).symm, ?_⟩
  rwa [Char.ofNat_toNat]

theorem writtenGlyph_of_not_isPlain :
    ∀ n : Fin 128, ¬ IsPlain (Char.ofNat n.val) →
      (writtenGlyph (Char.ofNat n.val)).bytes = encodeChars (writtenChar (Char.ofNat n.val)) ∧
        (writtenGlyph (Char.ofNat n.val)).char? = some (Char.ofNat n.val) := by
  decide +kernel

theorem writtenChar_of_isPlain {c : Char} (h : IsPlain c) : writtenChar c = [c] := by
  obtain ⟨hlow, hquote, hbackslash⟩ := h
  unfold writtenChar
  split
  · exact absurd rfl hquote
  · exact absurd rfl hbackslash
  · exact absurd hlow (by decide)
  · exact absurd hlow (by decide)
  · exact absurd hlow (by decide)
  · exact absurd hlow (by decide)
  · exact absurd hlow (by decide)
  · rw [if_neg (by omega)]

/-- A character is written as its sign, which stands for it. -/
theorem writtenGlyph_spec (c : Char) :
    (writtenGlyph c).bytes = encodeChars (writtenChar c) ∧ (writtenGlyph c).char? = some c := by
  by_cases h : IsPlain c
  · rw [writtenGlyph, dif_pos h, writtenChar_of_isPlain h]
    refine ⟨?_, rfl⟩
    rw [Glyph.bytes, encodeChars, List.flatMap_cons, List.flatMap_nil, List.append_nil]
  · obtain ⟨n, hchar, hplain⟩ := eq_ofNat_of_not_isPlain h
    rw [hchar]
    exact writtenGlyph_of_not_isPlain n hplain

/-- The signs that a text is written as. -/
def writtenGlyphs (s : String) : List Glyph :=
  s.toList.map writtenGlyph

theorem glyphBytes_map_writtenGlyph (cs : List Char) :
    glyphBytes (cs.map writtenGlyph) = encodeChars (cs.flatMap writtenChar) := by
  induction cs with
  | nil => rfl
  | cons c cs ih =>
    rw [List.map_cons, glyphBytes, List.flatMap_cons, (writtenGlyph_spec c).1, List.flatMap_cons,
      encodeChars_append, ← ih]
    rfl

theorem mapM_char?_writtenGlyph (cs : List Char) :
    (cs.map writtenGlyph).mapM Glyph.char? = some cs := by
  induction cs with
  | nil => rfl
  | cons c cs ih =>
    rw [List.map_cons, List.mapM_cons, (writtenGlyph_spec c).2, ih]
    rfl

theorem text?_writtenGlyphs (s : String) : text? (writtenGlyphs s) = some s := by
  rw [text?, writtenGlyphs, mapM_char?_writtenGlyph, Option.map_some, String.ofList_toList]

theorem quotedBytes_writtenGlyphs (s : String) :
    quotedBytes (writtenGlyphs s) = encodeChars (writtenText s) := by
  rw [quotedBytes, writtenGlyphs, glyphBytes_map_writtenGlyph, writtenText, encodeChars_append,
    encodeChars_cons]
  rfl

/-! ## Integers -/

/-- The digits of a positive number start with one that is not zero, and write the number. -/
theorem exists_positive_decimal {n : Nat} (hn : 0 < n) :
    ∃ (first : Fin 9) (rest : List (Fin 10)),
      (Whole.positive first rest).bytes = encodeChars (decimal n) ∧
        (Whole.positive first rest).value = n := by
  have hdigit : ∀ d : Fin 10, [digitByte d] = encodeChars [Nat.digitChar d] := by decide
  induction n using Nat.strongRecOn with
  | ind n ih =>
    by_cases hsmall : n < 10
    · have hsucc : (⟨n - 1, by omega⟩ : Fin 9).succ = (⟨n, hsmall⟩ : Fin 10) :=
        Fin.ext (show n - 1 + 1 = n by omega)
      refine ⟨⟨n - 1, by omega⟩, [], ?_, ?_⟩
      · rw [decimal_of_lt_ten hsmall, Whole.bytes_eq, Whole.digits, hsucc]
        exact hdigit ⟨n, hsmall⟩
      · rw [Whole.value, Whole.digits, hsucc]
        exact Nat.ofDigits_singleton
    · -- The last digit stands behind those of a tenth of the number.
      obtain ⟨first, rest, hbytes, hvalue⟩ := ih (n / 10) (by omega) (by omega)
      have hlast : n % 10 < 10 := Nat.mod_lt n (by decide)
      have hdigits : (Whole.positive first (rest ++ [⟨n % 10, hlast⟩])).digits
          = (Whole.positive first rest).digits ++ [⟨n % 10, hlast⟩] := rfl
      refine ⟨first, rest ++ [⟨n % 10, hlast⟩], ?_, ?_⟩
      · have hsplit := decimal_append_digitChar (m := n / 10) (by omega) hlast
        rw [Nat.div_add_mod] at hsplit
        rw [← hsplit, encodeChars_append, ← hbytes, ← hdigit ⟨n % 10, hlast⟩, Whole.bytes_eq,
          hdigits, List.map_append, ← Whole.bytes_eq]
        rfl
      · rw [Whole.value] at hvalue
        rw [Whole.value, hdigits, List.map_append, List.reverse_append, List.map_singleton,
          List.reverse_singleton, List.singleton_append, Nat.ofDigits_cons, hvalue]
        exact Nat.mod_add_div n 10

/-- The digits of a number before the point write the number. -/
theorem exists_whole_decimal (n : Nat) :
    ∃ w : Whole, w.bytes = encodeChars (decimal n) ∧ w.value = n := by
  rcases Nat.eq_zero_or_pos n with rfl | hpos
  · exact ⟨.zero, rfl, rfl⟩
  · obtain ⟨first, rest, hwritten⟩ := exists_positive_decimal hpos
    exact ⟨.positive first rest, hwritten⟩

/-- Whether an integer fits a word of 64 bits, with a sign or without one. -/
def FitsWord (n : Int) : Prop :=
  -9223372036854775808 ≤ n ∧ n < 18446744073709551616

/-- An integer that fits a word is written as a form that stands for it. -/
theorem exists_form {n : Int} (h : FitsWord n) :
    ∃ form : NumberForm, form.bytes = encodeChars (Number.integer n).written ∧
      form.number? = some (.integer n) := by
  obtain ⟨hlow, hhigh⟩ := h
  have hword : greatestWord = 18446744073709551615 := by decide
  cases n with
  | ofNat n =>
    have hfits : n ≤ greatestWord := by
      rw [Int.ofNat_eq_natCast] at hhigh
      omega
    obtain ⟨w, hbytes, hvalue⟩ := exists_whole_decimal n
    refine ⟨{ whole := w }, ?_, NumberForm.number?_eq_natural_iff.mpr ⟨rfl, hvalue, hfits⟩⟩
    rw [Number.written, ofInt, ofNat, String.toList_ofList, ← hbytes]
    simp [NumberForm.bytes, NumberForm.unsignedBytes, NumberForm.fractionBytes,
      NumberForm.exponentBytes]
  | negSucc n =>
    obtain ⟨w, hbytes, hvalue⟩ := exists_whole_decimal (n + 1)
    have haccumulate := (accumulate_whole_iff w).mpr ⟨hvalue, by omega⟩
    refine ⟨{ negative := true, whole := w }, ?_, ?_⟩
    · rw [Number.written, ofInt, ofNat, String.toList_append, encodeChars_append,
        String.toList_ofList (l := decimal (n + 1)), ← hbytes]
      simp [NumberForm.bytes, NumberForm.unsignedBytes, NumberForm.fractionBytes,
        NumberForm.exponentBytes, encodeChars, encodeChar]
    · rw [number?_of_accumulate haccumulate, wholeNumber, if_neg (by decide), if_pos]
      · rfl
      · have hpow : Nat.pow 2 63 = 9223372036854775808 := by decide
        omega

/-! ## Values -/

mutual

/-- Whether a value comes back when it has been written: its numbers are integers that fit a word,
and no more arrays and objects than allowed are open at once. -/
def Value.Returns : Nat → Value → Prop
  | _, .null => True
  | _, .boolean _ => True
  | _, .number (.integer n) => FitsWord n
  | _, .number (.real _) => False
  | _, .text _ => True
  | 0, .array _ => False
  | depth + 1, .array items => itemsReturn depth items
  | 0, .object _ => False
  | depth + 1, .object members => membersReturn depth members

def itemsReturn : Nat → List Value → Prop
  | _, [] => True
  | depth, v :: items => v.Returns depth ∧ itemsReturn depth items

def membersReturn : Nat → List (String × Value) → Prop
  | _, [] => True
  | depth, (_, v) :: members => v.Returns depth ∧ membersReturn depth members

end

/-- An element without blanks. -/
theorem itemBytes_plain (first : Bool) (t : Term) (items : List (Item Term)) :
    itemBytes first ({ term := t } :: items)
      = comma first ++ (t.bytes ++ itemBytes false items) := by
  simp [itemBytes, blankBytes]

/-- A member without blanks. -/
theorem memberBytes_plain (first : Bool) (name : List Glyph) (t : Term)
    (ms : List (Member Term)) :
    memberBytes first ({ name := name, item := { term := t } } :: ms)
      = comma first ++ (quotedBytes name ++ (58 :: (t.bytes ++ memberBytes false ms))) := by
  simp [memberBytes, blankBytes]

mutual

/-- **What is written for a value is a term that stands for it.** -/
theorem exists_writtenTerm : (v : Value) → (depth : Nat) → v.Returns depth →
    ∃ t : Term, t.bytes = encodeChars v.written ∧ StandsFor depth t v
  | .null, depth, _ => ⟨.null, rfl, rfl, Nat.zero_le depth⟩
  | .boolean true, depth, _ => ⟨.boolean true, rfl, rfl, Nat.zero_le depth⟩
  | .boolean false, depth, _ => ⟨.boolean false, rfl, rfl, Nat.zero_le depth⟩
  | .number (.integer n), depth, h => by
    rw [Value.Returns] at h
    obtain ⟨form, hbytes, hvalue⟩ := exists_form h
    refine ⟨.number form, ?_, ?_, Nat.zero_le depth⟩
    · rw [Term.bytes, hbytes, Value.written]
    · rw [Term.value?, hvalue, Option.map_some]
  | .number (.real _), _, h => by
    rw [Value.Returns] at h
    exact h.elim
  | .text s, depth, _ => by
    refine ⟨.text (writtenGlyphs s), ?_, ?_, Nat.zero_le depth⟩
    · rw [Term.bytes, quotedBytes_writtenGlyphs, Value.written]
    · rw [Term.value?, text?_writtenGlyphs, Option.map_some]
  | .array _, 0, h => by
    rw [Value.Returns] at h
    exact h.elim
  | .array [], depth + 1, _ =>
    ⟨.array [] [], rfl, rfl, Nat.succ_le_succ (Nat.zero_le depth)⟩
  | .array (v :: vs), depth + 1, h => by
    rw [Value.Returns, itemsReturn] at h
    obtain ⟨t, hbytes, hvalue, hdepth⟩ := exists_writtenTerm v depth h.1
    obtain ⟨items, hrestBytes, hrest, hrestDepth⟩ := exists_writtenItems vs depth h.2
    refine ⟨.array [] ({ term := t } :: items), ?_, ?_, ?_⟩
    · simp only [Term.bytes, itemBytes_plain, Value.written, List.cons_append, List.append_assoc,
        encodeChars_cons, encodeChars_append, hbytes, hrestBytes]
      rfl
    · rw [Term.value?, itemValues?, hvalue, hrest]
      rfl
    · rw [Term.depth, itemDepth]
      omega
  | .object _, 0, h => by
    rw [Value.Returns] at h
    exact h.elim
  | .object [], depth + 1, _ =>
    ⟨.object [] [], rfl, rfl, Nat.succ_le_succ (Nat.zero_le depth)⟩
  | .object ((name, v) :: pairs), depth + 1, h => by
    rw [Value.Returns, membersReturn] at h
    obtain ⟨t, hbytes, hvalue, hdepth⟩ := exists_writtenTerm v depth h.1
    obtain ⟨ms, hrestBytes, hrest, hrestDepth⟩ := exists_writtenMembers pairs depth h.2
    refine ⟨.object [] ({ name := writtenGlyphs name, item := { term := t } } :: ms), ?_, ?_, ?_⟩
    · simp only [Term.bytes, memberBytes_plain, Value.written, List.cons_append,
        List.append_assoc, encodeChars_cons, encodeChars_append, quotedBytes_writtenGlyphs, hbytes,
        hrestBytes]
      rfl
    · rw [Term.value?, memberValues?, text?_writtenGlyphs, hvalue, hrest]
      rfl
    · rw [Term.depth, memberDepth]
      omega

theorem exists_writtenItems : (vs : List Value) → (depth : Nat) → itemsReturn depth vs →
    ∃ items : List (Item Term), itemBytes false items ++ [93] = encodeChars (writtenItems vs) ∧
      itemValues? items = some vs ∧ itemDepth items ≤ depth
  | [], depth, _ => ⟨[], rfl, rfl, Nat.zero_le depth⟩
  | v :: vs, depth, h => by
    rw [itemsReturn] at h
    obtain ⟨t, hbytes, hvalue, hdepth⟩ := exists_writtenTerm v depth h.1
    obtain ⟨items, hrestBytes, hrest, hrestDepth⟩ := exists_writtenItems vs depth h.2
    refine ⟨{ term := t } :: items, ?_, ?_, ?_⟩
    · simp only [itemBytes_plain, writtenItems, List.cons_append, List.append_assoc,
        encodeChars_cons, encodeChars_append, hbytes, hrestBytes]
      rfl
    · rw [itemValues?, hvalue, hrest]
      rfl
    · rw [itemDepth]
      omega

theorem exists_writtenMembers : (pairs : List (String × Value)) → (depth : Nat) →
    membersReturn depth pairs →
    ∃ ms : List (Member Term),
      memberBytes false ms ++ [125] = encodeChars (writtenMembers pairs) ∧
      memberValues? ms = some pairs ∧ memberDepth ms ≤ depth
  | [], depth, _ => ⟨[], rfl, rfl, Nat.zero_le depth⟩
  | (name, v) :: pairs, depth, h => by
    rw [membersReturn] at h
    obtain ⟨t, hbytes, hvalue, hdepth⟩ := exists_writtenTerm v depth h.1
    obtain ⟨ms, hrestBytes, hrest, hrestDepth⟩ := exists_writtenMembers pairs depth h.2
    refine ⟨{ name := writtenGlyphs name, item := { term := t } } :: ms, ?_, ?_, ?_⟩
    · simp only [memberBytes_plain, writtenMembers, List.cons_append, List.append_assoc,
        encodeChars_cons, encodeChars_append, quotedBytes_writtenGlyphs, hbytes, hrestBytes]
      rfl
    · rw [memberValues?, text?_writtenGlyphs, hvalue, hrest]
      rfl
    · rw [memberDepth]
      omega

end

/-- **A value that has been written is read back.** -/
theorem parse_compact {v : Value} (h : v.Returns nesting) : parse v.compact = .ok v := by
  obtain ⟨t, hbytes, hvalue, hdepth⟩ := exists_writtenTerm v nesting h
  have hread : (value nesting).readBytes (Item.mk [] t []).bytes = .ok v :=
    readBytes_of_reads (reads_value t nesting v hvalue hdepth)
  rw [parse, Reader.read, encodeUtf8, Value.compact, String.toList_ofList, ← hbytes]
  simpa [Item.bytes, blankBytes] using hread

end Commissioning.Json
