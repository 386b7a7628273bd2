import Commissioning.Proofs.Json.Reader

set_option autoImplicit false

/-! # Reading texts

Whatever escapes a text is spelled with, reading it gives the characters that they stand for, and
passing over it stops behind the same quote. -/

namespace Commissioning.Json

open Reader Grammar

/-! ## Escapes -/

theorem hexValue_byte (d : HexDigit) :
    Text.hexValue (charOfByte d.byte) = some d.value.val := by
  obtain ⟨value, isUpper⟩ := d
  revert value isUpper
  decide

theorem codeUnit_bytes (u : CodeUnit) (rest : List UInt8) :
    codeUnit (u.bytes ++ rest) = .ok (u.number, rest) := by
  have hlength : ¬ (u.bytes ++ rest).length < 4 := by
    simp [CodeUnit.bytes]
  have hword : hexWord? ((u.bytes ++ rest).take 4) = some u.number := by
    simp only [CodeUnit.bytes, List.cons_append, List.take_succ_cons, List.take_zero, hexWord?,
      List.foldlM_cons, List.foldlM_nil, hexValue_byte, Option.map_some, Option.bind_eq_bind,
      Option.bind_some, Option.pure_def, CodeUnit.number]
    congr 1
    omega
  unfold codeUnit
  rw [if_neg hlength, hword]
  rfl

theorem codeUnitEscape_unit (u : CodeUnit) (h : ¬ (u.IsLeading ∨ u.IsTrailing))
    (rest : List UInt8) :
    codeUnitEscape (u.bytes ++ rest) = .ok (Text.encodeChar (Char.ofNat u.number), rest) := by
  unfold CodeUnit.IsLeading CodeUnit.IsTrailing at h
  unfold codeUnitEscape
  rw [bind_of_ok (codeUnit_bytes u rest), if_neg (by omega), if_neg (by omega)]
  rfl

theorem codeUnitEscape_pair (high low : CodeUnit) (hhigh : high.IsLeading) (hlow : low.IsTrailing)
    (rest : List UInt8) :
    codeUnitEscape (high.bytes ++ 92 :: 117 :: low.bytes ++ rest)
      = .ok (Text.encodeChar (Char.ofNat
          (0x10000 + 1024 * (high.number - 0xD800) + (low.number - 0xDC00))), rest) := by
  unfold CodeUnit.IsLeading at hhigh
  unfold CodeUnit.IsTrailing at hlow
  have hsign : ∀ bytes, (pairSign '\\') (92 :: bytes) = .ok ((), bytes) := fun _ => rfl
  have hletter : ∀ bytes, (pairSign 'u') (117 :: bytes) = .ok ((), bytes) := fun _ => rfl
  rw [List.append_assoc, List.cons_append, List.cons_append]
  unfold codeUnitEscape
  rw [bind_of_ok (codeUnit_bytes high _), if_neg (by omega), if_pos (by omega),
    bind_of_ok (hsign _), bind_of_ok (hletter _), bind_of_ok (codeUnit_bytes low rest),
    if_pos (by omega), Nat.mul_comm 1024]
  rfl

theorem shortEscape?_letter (e : ShortEscape) :
    shortEscape? (charOfByte (UInt8.ofNat e.letter.toNat)) = some (UInt8.ofNat e.char.toNat)
      ∧ charOfByte (UInt8.ofNat e.letter.toNat) ≠ 'u'
      ∧ Text.encodeChar e.char = [UInt8.ofNat e.char.toNat] := by
  cases e <;> decide

theorem escape_letter (e : ShortEscape) (rest : List UInt8) :
    escape (UInt8.ofNat e.letter.toNat :: rest) = .ok (Text.encodeChar e.char, rest) := by
  obtain ⟨hbyte, hletter, hchar⟩ := shortEscape?_letter e
  unfold escape
  rw [bind_of_ok (next_cons _ _)]
  simp only [hbyte, hchar]
  rfl

theorem escape_codeUnit (bytes : List UInt8) : escape (117 :: bytes) = codeUnitEscape bytes :=
  bind_of_ok (next_cons _ _)

/-! ## Plain characters -/

/-- Whether a byte inside a text stands for itself. -/
def IsOrdinary (b : UInt8) : Prop :=
  0x20 ≤ b.toNat ∧ b.toNat ≠ 34 ∧ b.toNat ≠ 92

theorem isOrdinary_of_isPlain {c : Char} (h : IsPlain c) :
    ∀ b ∈ Text.encodeChar c, IsOrdinary b := by
  obtain ⟨hlow, hquote, hbackslash⟩ := h
  have hmax := Text.toNat_lt c
  have hne : ∀ d : Char, c ≠ d → c.toNat ≠ d.toNat := fun d hd heq => hd (Char.toNat_inj.mp heq)
  have hquote := hne _ hquote
  have hbackslash := hne _ hbackslash
  have hbyte : ∀ n, n < 256 → 0x20 ≤ n → n ≠ 34 → n ≠ 92 → IsOrdinary (UInt8.ofNat n) := by
    intro n hn h1 h2 h3
    unfold IsOrdinary
    rw [UInt8.toNat_ofNat_of_lt' hn]
    exact ⟨h1, h2, h3⟩
  intro b hb
  unfold Text.encodeChar at hb
  simp only [Char.reduceToNat] at hb hquote hbackslash
  split at hb
  -- One byte is the character itself; the bytes of a longer encoding all lie above ASCII.
  · rw [List.mem_singleton] at hb
    subst hb
    exact hbyte _ (by omega) hlow hquote hbackslash
  · split at hb
    · simp only [List.mem_cons, List.not_mem_nil, or_false] at hb
      rcases hb with rfl | rfl <;> exact hbyte _ (by omega) (by omega) (by omega) (by omega)
    · split at hb
      · simp only [List.mem_cons, List.not_mem_nil, or_false] at hb
        rcases hb with rfl | rfl | rfl <;>
          exact hbyte _ (by omega) (by omega) (by omega) (by omega)
      · simp only [List.mem_cons, List.not_mem_nil, or_false] at hb
        rcases hb with rfl | rfl | rfl | rfl <;>
          exact hbyte _ (by omega) (by omega) (by omega) (by omega)

/-! ## Texts that are read -/

/-- Whether a text is read from the given bytes, with as many steps as there are bytes. -/
def ReadsText (bytes text rest : List UInt8) : Prop :=
  ∀ fuel, bytes.length < fuel → textBytes fuel bytes = .ok (text, rest)

theorem readsText_quote (rest : List UInt8) : ReadsText (34 :: rest) [] rest := by
  intro fuel hfuel
  obtain ⟨fuel, rfl⟩ : ∃ n, fuel = n + 1 := ⟨fuel - 1, by omega⟩
  rfl

theorem ReadsText.ordinary {bytes text rest : List UInt8} (h : ReadsText bytes text rest)
    {front : List UInt8} (hfront : ∀ b ∈ front, IsOrdinary b) :
    ReadsText (front ++ bytes) (front ++ text) rest := by
  induction front with
  | nil => exact h
  | cons b front ih =>
    have hrest := ih fun c hc => hfront c (List.mem_cons_of_mem b hc)
    obtain ⟨hlow, hquote, hbackslash⟩ := hfront b List.mem_cons_self
    intro fuel hfuel
    rw [List.cons_append, List.length_cons] at hfuel
    obtain ⟨fuel, rfl⟩ : ∃ n, fuel = n + 1 := ⟨fuel - 1, by omega⟩
    have hnotQuote : charOfByte b ≠ '"' := charOfByte_ne hquote
    have hnotBackslash : charOfByte b ≠ '\\' := charOfByte_ne hbackslash
    rw [List.cons_append, textBytes, bind_of_ok (next_cons _ _)]
    simp only
    rw [toNat_charOfByte, if_neg (by omega), bind_of_ok (hrest fuel (by omega)),
      UInt8.ofNat_toNat]
    rfl

theorem ReadsText.escape {bytes text rest : List UInt8} (h : ReadsText bytes text rest)
    {front char : List UInt8} (hfront : escape (front ++ bytes) = .ok (char, bytes)) :
    ReadsText (92 :: front ++ bytes) (char ++ text) rest := by
  intro fuel hfuel
  rw [List.cons_append, List.length_cons, List.length_append] at hfuel
  obtain ⟨fuel, rfl⟩ : ∃ n, fuel = n + 1 := ⟨fuel - 1, by omega⟩
  rw [List.cons_append, textBytes, bind_of_ok (next_cons _ _)]
  show (Json.escape >>= _) (front ++ bytes) = _
  rw [bind_of_ok hfront, bind_of_ok (h fuel (by omega))]
  rfl

/-- One sign in front of a text is read as the character that it stands for. -/
theorem ReadsText.glyph {bytes text rest : List UInt8} (h : ReadsText bytes text rest)
    {g : Glyph} {c : Char} (hg : g.char? = some c) :
    ReadsText (g.bytes ++ bytes) (Text.encodeChar c ++ text) rest := by
  cases g with
  | plain d hd =>
    rw [Glyph.char?, Option.some.injEq] at hg
    subst hg
    exact h.ordinary (isOrdinary_of_isPlain hd)
  | short e =>
    rw [Glyph.char?, Option.some.injEq] at hg
    subst hg
    exact h.escape (escape_letter e bytes)
  | unit u =>
    rw [Glyph.char?] at hg
    split at hg
    -- Half of a pair that stands alone spells no character.
    · exact absurd hg (by simp)
    · next hu =>
      rw [Option.some.injEq] at hg
      subst hg
      have hescape : Json.escape (117 :: u.bytes ++ bytes)
          = .ok (Text.encodeChar (Char.ofNat u.number), bytes) := by
        rw [List.cons_append, escape_codeUnit, codeUnitEscape_unit u hu]
      exact h.escape hescape
  | pair high low hhigh hlow =>
    rw [Glyph.char?, Option.some.injEq] at hg
    subst hg
    rw [Glyph.bytes, List.cons_append]
    refine h.escape ?_
    rw [List.cons_append, List.cons_append, escape_codeUnit]
    exact codeUnitEscape_pair high low hhigh hlow bytes

theorem readsText_glyphBytes {glyphs : List Glyph} {cs : List Char}
    (h : glyphs.mapM Glyph.char? = some cs) (rest : List UInt8) :
    ReadsText (glyphBytes glyphs ++ 34 :: rest) (Text.encodeChars cs) rest := by
  induction glyphs generalizing cs with
  | nil =>
    rw [List.mapM_nil, Option.pure_def, Option.some.injEq] at h
    subst h
    exact readsText_quote rest
  | cons g glyphs ih =>
    rw [List.mapM_cons] at h
    simp only [Option.bind_eq_bind, Option.bind_eq_some_iff, Option.pure_def,
      Option.some.injEq] at h
    obtain ⟨c, hc, cs, hcs, rfl⟩ := h
    rw [glyphBytes, List.flatMap_cons, List.append_assoc, Text.encodeChars, List.flatMap_cons]
    exact (ih hcs).glyph hc

/-- **A text is read as what it spells**, from behind its opening quote. -/
theorem textBody_glyphBytes {glyphs : List Glyph} {s : String} (h : text? glyphs = some s)
    (rest : List UInt8) : textBody (glyphBytes glyphs ++ 34 :: rest) = .ok (s, rest) := by
  unfold text? at h
  rw [Option.map_eq_some_iff] at h
  obtain ⟨cs, hcs, rfl⟩ := h
  have hread : bounded textBytes (glyphBytes glyphs ++ 34 :: rest)
      = .ok (Text.encodeChars cs, rest) :=
    readsText_glyphBytes hcs rest _ (Nat.lt_succ_self _)
  have hdecode : Text.decodeUtf8 (Text.encodeChars cs) = some (String.ofList cs) := by
    rw [Text.decodeUtf8, Text.decodeChars_encodeChars, Option.map_some]
  unfold textBody
  rw [bind_of_ok hread, hdecode]
  rfl

theorem quotedText_quotedBytes {glyphs : List Glyph} {s : String} (h : text? glyphs = some s)
    (rest : List UInt8) : quotedText (quotedBytes glyphs ++ rest) = .ok (s, rest) := by
  rw [quotedBytes, List.cons_append, List.cons_append, List.append_assoc, quotedText,
    bind_of_ok (advance_cons _ _)]
  exact textBody_glyphBytes h rest

/-! ## Texts that are passed over -/

theorem skipEscape_letter (e : ShortEscape) (rest : List UInt8) :
    skipEscape (UInt8.ofNat e.letter.toNat :: rest) = .ok ((), rest) := by
  obtain ⟨hbyte, hletter, -⟩ := shortEscape?_letter e
  unfold skipEscape
  rw [bind_of_ok (next_cons _ _)]
  simp only [hbyte, Option.isSome_some, if_true]
  rfl

theorem skipEscape_codeUnit (u : CodeUnit) (rest : List UInt8) :
    skipEscape (117 :: u.bytes ++ rest) = .ok ((), rest) := by
  rw [List.cons_append]
  unfold skipEscape
  rw [bind_of_ok (next_cons _ _)]
  show (codeUnit >>= fun _ => pure ()) (u.bytes ++ rest) = _
  rw [bind_of_ok (codeUnit_bytes u rest)]
  rfl

/-- Whether a text is passed over, with as many steps as there are bytes. -/
def SkipsText (bytes rest : List UInt8) : Prop :=
  ∀ fuel, bytes.length < fuel → skipTextBytes fuel bytes = .ok ((), rest)

theorem skipsText_quote (rest : List UInt8) : SkipsText (34 :: rest) rest := by
  intro fuel hfuel
  obtain ⟨fuel, rfl⟩ : ∃ n, fuel = n + 1 := ⟨fuel - 1, by omega⟩
  rfl

theorem SkipsText.ordinary {bytes rest : List UInt8} (h : SkipsText bytes rest)
    {front : List UInt8} (hfront : ∀ b ∈ front, IsOrdinary b) :
    SkipsText (front ++ bytes) rest := by
  induction front with
  | nil => exact h
  | cons b front ih =>
    have hrest := ih fun c hc => hfront c (List.mem_cons_of_mem b hc)
    obtain ⟨hlow, hquote, hbackslash⟩ := hfront b List.mem_cons_self
    intro fuel hfuel
    rw [List.cons_append, List.length_cons] at hfuel
    obtain ⟨fuel, rfl⟩ : ∃ n, fuel = n + 1 := ⟨fuel - 1, by omega⟩
    have hnotQuote : charOfByte b ≠ '"' := charOfByte_ne hquote
    have hnotBackslash : charOfByte b ≠ '\\' := charOfByte_ne hbackslash
    rw [List.cons_append, skipTextBytes, bind_of_ok (peek_cons _ _)]
    simp only
    rw [toNat_charOfByte, if_neg (by omega), bind_of_ok (advance_cons _ _),
      hrest fuel (by omega)]

theorem SkipsText.escape {bytes rest : List UInt8} (h : SkipsText bytes rest)
    {front : List UInt8} (hfront : skipEscape (front ++ bytes) = .ok ((), bytes)) :
    SkipsText (92 :: front ++ bytes) rest := by
  intro fuel hfuel
  rw [List.cons_append, List.length_cons, List.length_append] at hfuel
  obtain ⟨fuel, rfl⟩ : ∃ n, fuel = n + 1 := ⟨fuel - 1, by omega⟩
  rw [List.cons_append, skipTextBytes, bind_of_ok (peek_cons _ _)]
  show (advance >>= fun _ => skipEscape >>= fun _ => skipTextBytes fuel) _ = _
  rw [bind_of_ok (advance_cons _ _), bind_of_ok hfront, h fuel (by omega)]

theorem SkipsText.glyph {bytes rest : List UInt8} (h : SkipsText bytes rest) (g : Glyph) :
    SkipsText (g.bytes ++ bytes) rest := by
  cases g with
  | plain d hd => exact h.ordinary (isOrdinary_of_isPlain hd)
  | short e => exact h.escape (skipEscape_letter e bytes)
  | unit u => exact h.escape (skipEscape_codeUnit u bytes)
  | pair high low hhigh hlow =>
    -- Passing over knows nothing of pairs: these are two escapes.
    have hlow := h.escape (skipEscape_codeUnit low bytes)
    have hhigh := hlow.escape (skipEscape_codeUnit high _)
    rw [Glyph.bytes, List.append_assoc]
    exact hhigh

/-- Every text is passed over up to its closing quote, whether its escapes stand for characters
or not. -/
theorem skipText_glyphBytes (glyphs : List Glyph) (rest : List UInt8) :
    skipText (glyphBytes glyphs ++ 34 :: rest) = .ok ((), rest) := by
  have hskip : SkipsText (glyphBytes glyphs ++ 34 :: rest) rest := by
    induction glyphs with
    | nil => exact skipsText_quote rest
    | cons g glyphs ih =>
      rw [glyphBytes, List.flatMap_cons, List.append_assoc]
      exact ih.glyph g
  exact hskip _ (Nat.lt_succ_self _)

end Commissioning.Json
