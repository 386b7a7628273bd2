import Commissioning.Payload
import Commissioning.Proofs.Base64
import Commissioning.Protocol.Error

set_option autoImplicit false

/-! # The payloads that are accepted

`decode_language` says which payloads are decoded and to what: behind the blanks there have to be
letters of the standard alphabet and a fitting number of padding signs, and the bytes are the six
bits of each letter, one letter after another, as far as they fill bytes. The bytes of a payload are
those of a Base64 text, and each letter is a symbol of one byte, so the statement about characters
comes down to the one about bytes. -/

namespace Commissioning.Payload

open Base64

/-! ## The alphabet -/

/-- The letters of the standard alphabet, in the order of their six-bit values. -/
def alphabet : List Char :=
  ['A', 'B', 'C', 'D', 'E', 'F', 'G', 'H', 'I', 'J', 'K', 'L', 'M', 'N', 'O', 'P',
   'Q', 'R', 'S', 'T', 'U', 'V', 'W', 'X', 'Y', 'Z', 'a', 'b', 'c', 'd', 'e', 'f',
   'g', 'h', 'i', 'j', 'k', 'l', 'm', 'n', 'o', 'p', 'q', 'r', 's', 't', 'u', 'v',
   'w', 'x', 'y', 'z', '0', '1', '2', '3', '4', '5', '6', '7', '8', '9', '+', '/']

/-- The six bits that a letter stands for. -/
def value (letter : Char) : Nat :=
  alphabet.idxOf letter

/-- The letter that stands for six bits. -/
def letter (value : Nat) : Char :=
  alphabet.getD value '='

theorem letter_mem {v : Nat} (h : v < 64) : letter v ∈ alphabet := by
  have hall : ∀ k : Fin 64, letter k ∈ alphabet := by decide
  exact hall ⟨v, h⟩

theorem value_letter {v : Nat} (h : v < 64) : value (letter v) = v := by
  have hall : ∀ k : Fin 64, value (letter k) = k := by decide
  exact hall ⟨v, h⟩

theorem value_lt {c : Char} (h : c ∈ alphabet) : value c < 64 :=
  List.idxOf_lt_length_of_mem h

theorem letter_value {c : Char} (h : c ∈ alphabet) : letter (value c) = c := by
  have hall : (alphabet.all fun c => letter (value c) == c) = true := by decide
  exact eq_of_beq (List.all_eq_true.mp hall c h)

theorem encodeChar_letter {v : Nat} (h : v < 64) : Text.encodeChar (letter v) = [symbol v] := by
  have hall : ∀ k : Fin 64, Text.encodeChar (letter k) = [symbol k] := by decide
  exact hall ⟨v, h⟩

/-! ## From characters to bytes -/

theorem encodeChars_injective {cs ds : List Char}
    (h : Text.encodeChars cs = Text.encodeChars ds) : cs = ds := by
  have hdecoded := Text.decodeChars_encodeChars cs
  rw [h, Text.decodeChars_encodeChars, Option.some.injEq] at hdecoded
  exact hdecoded.symm

theorem encodeChars_letters (values : List Nat) (pads : Nat) (hlt : ∀ v ∈ values, v < 64) :
    Text.encodeChars (values.map letter ++ List.replicate pads '=') = written values pads := by
  have hpads : (List.replicate pads '=').flatMap Text.encodeChar = List.replicate pads pad := by
    induction pads with
    | zero => rfl
    | succ k ih =>
      rw [List.replicate_succ, List.flatMap_cons, ih]
      rfl
  rw [Text.encodeChars, List.flatMap_append, hpads, written]
  congr 1
  induction values with
  | nil => rfl
  | cons v values ih =>
    rw [List.map_cons, List.flatMap_cons, encodeChar_letter (hlt v (by simp)),
      ih fun w hw => hlt w (by simp [hw])]
    rfl

/-- A text of characters: letters of the alphabet with padding signs behind them. -/
def IsSpelling (text letters : List Char) (pads : Nat) : Prop :=
  text = letters ++ List.replicate pads '=' ∧ ∀ c ∈ letters, c ∈ alphabet

theorem IsSpelling.values_lt {text letters : List Char} {pads : Nat}
    (h : IsSpelling text letters pads) : ∀ v ∈ letters.map value, v < 64 := by
  intro v hv
  obtain ⟨c, hc, rfl⟩ := List.mem_map.1 hv
  exact value_lt (h.2 c hc)

theorem isSpelling_of_written {text : List Char} {values : List Nat} {pads : Nat}
    (hlt : ∀ v ∈ values, v < 64) (h : Text.encodeChars text = written values pads) :
    IsSpelling text (values.map letter) pads := by
  rw [← encodeChars_letters values pads hlt] at h
  refine ⟨encodeChars_injective h, fun c hc => ?_⟩
  obtain ⟨v, hv, rfl⟩ := List.mem_map.1 hc
  exact letter_mem (hlt v hv)

theorem encodeChars_of_isSpelling {text letters : List Char} {pads : Nat}
    (h : IsSpelling text letters pads) :
    Text.encodeChars text = written (letters.map value) pads := by
  rw [← encodeChars_letters (letters.map value) pads h.values_lt, h.1]
  congr 2
  rw [List.map_map]
  exact (List.map_id letters).symm.trans
    (List.map_congr_left fun c hc => (letter_value (h.2 c hc)).symm)

/-! ## Decoding -/

/-- The characters that are dropped: space, tab, line feed, vertical tab, form feed and carriage
return. -/
def blanks : List Char :=
  [' ', '\t', '\n', '\x0b', '\x0c', '\r']

/-- A payload without the characters that are dropped. -/
def solid (payload : String) : List Char :=
  payload.toList.filter (· ∉ blanks)

theorem toList_strip_eq_solid (payload : String) : (strip payload).toList = solid payload := by
  rw [toList_strip, solid]
  apply List.filter_congr
  intro c _
  simp [isAsciiBlank, blanks, Bool.beq_eq_decide_eq, Bool.and_assoc]

theorem decode_eq_decode_solid (payload : String) :
    decode payload = Base64.decode (Text.encodeChars (solid payload)) := by
  rw [decode, Text.encodeUtf8, toList_strip_eq_solid]

/-- A payload is decoded exactly when it is a spelling that fits, and to the regrouped values of
its letters. -/
theorem decode_eq_ok_iff_spelling (payload : String) (bytes : List UInt8) :
    decode payload = .ok bytes ↔ ∃ letters pads, IsSpelling (solid payload) letters pads ∧
      Fits letters.length pads ∧ bytes = regroup (letters.map value) := by
  rw [decode_eq_decode_solid, decode_eq_ok_iff]
  constructor
  · rintro ⟨values, pads, htext, hlt, hfits, hbytes⟩
    refine ⟨values.map letter, pads, isSpelling_of_written hlt htext, by simpa using hfits, ?_⟩
    rw [hbytes, List.map_map]
    congr 1
    exact (List.map_id values).symm.trans
      (List.map_congr_left fun v hv => (value_letter (hlt v hv)).symm)
  · rintro ⟨letters, pads, hspelling, hfits, hbytes⟩
    exact ⟨letters.map value, pads, encodeChars_of_isSpelling hspelling, hspelling.values_lt,
      by simpa using hfits, hbytes⟩

/-- A character that is neither dropped nor a letter nor a padding sign is in no spelling. -/
theorem exists_fault_of_foreign {payload : String} {c : Char} (hmem : c ∈ payload.toList)
    (hblank : c ∉ blanks) (hletter : c ∉ alphabet) (hpad : c ≠ '=') :
    ∃ fault, decode payload = .error fault := by
  cases h : decode payload with
  | error fault => exact ⟨fault, rfl⟩
  | ok bytes =>
    obtain ⟨letters, pads, ⟨htext, halphabet⟩, -, -⟩ := (decode_eq_ok_iff_spelling _ _).1 h
    have hc : c ∈ letters ++ List.replicate pads '=' := by
      rw [← htext]
      exact List.mem_filter.2 ⟨hmem, by simpa using hblank⟩
    rcases List.mem_append.1 hc with hc | hc
    · exact absurd (halphabet c hc) hletter
    · exact absurd (List.eq_of_mem_replicate hc) hpad

/-- **The language of payloads and its value.** A payload is decoded exactly when its characters,
those dropped left out, are letters of the alphabet and padding signs in numbers that fit. The bytes
are three for every four letters, rounded down, and their bits are the first ones of the letters. A
payload with any other character is refused as invalid. -/
theorem decode_language (payload : String) :
    ((∃ bytes, decode payload = .ok bytes) ↔
      ∃ letters pads, IsSpelling (solid payload) letters pads ∧ Fits letters.length pads) ∧
    (∀ bytes, decode payload = .ok bytes ↔
      ∃ letters pads, IsSpelling (solid payload) letters pads ∧ Fits letters.length pads ∧
        bytes.length = 3 * letters.length / 4 ∧
        bitsOfBytes bytes
          = (bitsOfValues (letters.map value)).take (8 * (3 * letters.length / 4))) ∧
    (∀ c ∈ payload.toList, c ∉ blanks → c ∉ alphabet → c ≠ '=' →
      ∃ fault, (decode payload).mapError Protocol.Error.invalidPayload
        = .error (.invalidPayload fault)) := by
  refine ⟨⟨?_, ?_⟩, fun bytes => ⟨?_, ?_⟩, ?_⟩
  · rintro ⟨bytes, h⟩
    obtain ⟨letters, pads, hspelling, hfits, -⟩ := (decode_eq_ok_iff_spelling _ _).1 h
    exact ⟨letters, pads, hspelling, hfits⟩
  · rintro ⟨letters, pads, hspelling, hfits⟩
    exact ⟨_, (decode_eq_ok_iff_spelling _ _).2 ⟨letters, pads, hspelling, hfits, rfl⟩⟩
  · intro h
    obtain ⟨letters, pads, hspelling, hfits, rfl⟩ := (decode_eq_ok_iff_spelling _ _).1 h
    refine ⟨letters, pads, hspelling, hfits, by simp [length_regroup], ?_⟩
    rw [bits_regroup _ hspelling.values_lt, List.length_map]
  · rintro ⟨letters, pads, hspelling, hfits, -, hbits⟩
    refine (decode_eq_ok_iff_spelling _ _).2 ⟨letters, pads, hspelling, hfits, ?_⟩
    -- Bytes are determined by their bits
    apply eq_of_bitsOfBytes_eq
    rw [hbits, bits_regroup _ hspelling.values_lt, List.length_map]
  · intro c hmem hblank hletter hpad
    obtain ⟨fault, hfault⟩ := exists_fault_of_foreign hmem hblank hletter hpad
    exact ⟨fault, by rw [hfault]; rfl⟩

/-- Blanks, half of the padding, and bits left over in the last letter. -/
example : decode "Z h\n=" = .ok [102] := by decide +kernel

end Commissioning.Payload
