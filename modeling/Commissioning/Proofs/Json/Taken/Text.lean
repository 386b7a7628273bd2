import Commissioning.Proofs.Json.Taken.Likeness
import Commissioning.Proofs.Json.Taken.Reader
import Commissioning.Proofs.Json.Text

set_option autoImplicit false

/-! # Texts that have been taken

Whatever has been read as a text is spelled by signs that stand for its characters. What has been
passed over as a text is spelled by signs once it is mended: nobody has looked whether the bytes are
UTF-8. -/

namespace Commissioning.Json

open Reader Grammar

/-! ## Escapes -/

/-- The digit with a value that a byte writes. -/
theorem exists_hexDigit {b : UInt8} {v : Nat} (h : Text.hexValue (charOfByte b) = some v) :
    ∃ d : HexDigit, b = d.byte ∧ d.value.val = v := by
  have hnat := toNat_charOfByte b
  have hbyte : ∀ (value : Fin 16) (isUpper : Bool) (n : Nat), b.toNat = n →
      (⟨value, isUpper⟩ : HexDigit).byte = UInt8.ofNat n → b = (⟨value, isUpper⟩ : HexDigit).byte :=
    fun _ _ n hn hdigit => by rw [hdigit, ← hn, UInt8.ofNat_toNat]
  simp only [Text.hexValue, Bool.and_eq_true, decide_eq_true_eq, Char.le_def,
    UInt32.le_iff_toNat_le] at h
  have hchar : (charOfByte b).val.toNat = b.toNat := hnat
  simp only [hchar, hnat] at h
  split at h
  next hrange =>
    have hlow : 48 ≤ b.toNat := hrange.1
    have hhigh : b.toNat ≤ 57 := hrange.2
    rw [Option.some.injEq] at h
    refine ⟨⟨⟨v, by omega⟩, false⟩, hbyte _ _ (48 + v) (by omega) ?_, rfl⟩
    rw [HexDigit.byte, if_pos (show v < 10 by omega)]
  next =>
    split at h
    next hrange =>
      have hlow : 97 ≤ b.toNat := hrange.1
      have hhigh : b.toNat ≤ 102 := hrange.2
      rw [Option.some.injEq] at h
      refine ⟨⟨⟨v, by omega⟩, false⟩, hbyte _ _ (87 + v) (by omega) ?_, rfl⟩
      rw [HexDigit.byte, if_neg (show ¬ v < 10 by omega), if_neg Bool.false_ne_true]
    next =>
      split at h
      next hrange =>
        have hlow : 65 ≤ b.toNat := hrange.1
        have hhigh : b.toNat ≤ 70 := hrange.2
        rw [Option.some.injEq] at h
        refine ⟨⟨⟨v, by omega⟩, true⟩, hbyte _ _ (55 + v) (by omega) ?_, rfl⟩
        rw [HexDigit.byte, if_neg (show ¬ v < 10 by omega), if_pos rfl]
      next => exact absurd h (by simp)

theorem codeUnit_eq_ok {bytes rest : List UInt8} {n : Nat} (h : codeUnit bytes = .ok (n, rest)) :
    ∃ u : CodeUnit, bytes = u.bytes ++ rest ∧ u.number = n := by
  unfold codeUnit at h
  split at h
  · exact absurd h (by simp)
  next hlength =>
    split at h
    next word hword =>
      obtain ⟨rfl, rfl⟩ := pure_eq_ok.mp h
      rcases bytes with _ | ⟨a, _ | ⟨b, _ | ⟨c, _ | ⟨d, bytes⟩⟩⟩⟩
      case cons.cons.cons.cons =>
        simp only [hexWord?, List.take_succ_cons, List.take_zero, List.foldlM_cons,
          List.foldlM_nil, Option.bind_eq_bind, Option.bind_eq_some_iff, Option.map_eq_some_iff,
          Option.pure_def, Option.some.injEq] at hword
        obtain ⟨_, ⟨x, hx, rfl⟩, _, ⟨y, hy, rfl⟩, _, ⟨z, hz, rfl⟩, _, ⟨w, hw, rfl⟩, rfl⟩ := hword
        obtain ⟨x, rfl, rfl⟩ := exists_hexDigit hx
        obtain ⟨y, rfl, rfl⟩ := exists_hexDigit hy
        obtain ⟨z, rfl, rfl⟩ := exists_hexDigit hz
        obtain ⟨w, rfl, rfl⟩ := exists_hexDigit hw
        refine ⟨⟨x, y, z, w⟩, rfl, ?_⟩
        simp only [CodeUnit.number]
        omega
      all_goals simp at hlength
    next => exact absurd h (by simp)

theorem pairSign_eq_ok {c : Char} {bytes rest : List UInt8}
    (h : pairSign c bytes = .ok ((), rest)) :
    bytes = UInt8.ofNat c.toNat :: rest := by
  rw [pairSign, bind_eq_ok] at h
  obtain ⟨ahead, mid, hpeek, h⟩ := h
  obtain ⟨hahead, rfl⟩ := peek_eq_ok.mp hpeek
  split at h
  · exact absurd h (by simp)
  next d =>
    rw [advance_bind_apply] at h
    split at h
    next hd =>
      obtain ⟨-, rfl⟩ := pure_eq_ok.mp h
      rw [← hd]
      exact eq_cons_of_head? hahead
    next => exact absurd h (by simp)

/-- The sign whose escape has been resolved, from behind its backslash and its letter. -/
theorem codeUnitEscape_eq_ok {bytes rest out : List UInt8}
    (h : codeUnitEscape bytes = .ok (out, rest)) :
    ∃ (g : Glyph) (c : Char), g.char? = some c ∧ out = Text.encodeChar c ∧
      92 :: 117 :: bytes = g.bytes ++ rest := by
  rw [codeUnitEscape, bind_eq_ok] at h
  obtain ⟨_, mid, hhigh, h⟩ := h
  obtain ⟨high, rfl, rfl⟩ := codeUnit_eq_ok hhigh
  split at h
  · exact absurd h (by simp)
  next hnotTrailing =>
    split at h
    next hleading =>
      rw [bind_eq_ok] at h
      obtain ⟨⟨⟩, _, hsign, h⟩ := h
      rw [bind_eq_ok] at h
      obtain ⟨⟨⟩, _, hletter, h⟩ := h
      rw [bind_eq_ok] at h
      obtain ⟨_, mid', hlow, h⟩ := h
      obtain ⟨low, rfl, rfl⟩ := codeUnit_eq_ok hlow
      obtain rfl := pairSign_eq_ok hletter
      obtain rfl := pairSign_eq_ok hsign
      split at h
      next htrailing =>
        obtain ⟨rfl, rfl⟩ := pure_eq_ok.mp h
        have hhigh : high.IsLeading := ⟨hleading.1, by omega⟩
        have hlow : low.IsTrailing := ⟨htrailing.1, by omega⟩
        refine ⟨.pair high low hhigh hlow, _, rfl, ?_, ?_⟩
        · rw [Nat.mul_comm 1024]
        · simp [Glyph.bytes]
      next => exact absurd h (by simp)
    next hnotLeading =>
      obtain ⟨rfl, rfl⟩ := pure_eq_ok.mp h
      have hwhole : ¬ (high.IsLeading ∨ high.IsTrailing) := by
        unfold CodeUnit.IsLeading CodeUnit.IsTrailing
        omega
      exact ⟨.unit high, _, if_neg hwhole, rfl, rfl⟩

theorem exists_shortEscape {c : Char} {b : UInt8} (h : shortEscape? c = some b) :
    ∃ e : ShortEscape, c = e.letter ∧ [b] = Text.encodeChar e.char := by
  unfold shortEscape? at h
  split at h
  case h_9 => exact absurd h (by simp)
  all_goals obtain rfl := Option.some.inj h
  · exact ⟨.quote, rfl, by decide⟩
  · exact ⟨.backslash, rfl, by decide⟩
  · exact ⟨.slash, rfl, by decide⟩
  · exact ⟨.backspace, rfl, by decide⟩
  · exact ⟨.formFeed, rfl, by decide⟩
  · exact ⟨.lineFeed, rfl, by decide⟩
  · exact ⟨.carriageReturn, rfl, by decide⟩
  · exact ⟨.tab, rfl, by decide⟩

/-- The sign whose escape has been resolved, from behind its backslash. -/
theorem escape_eq_ok {bytes rest out : List UInt8} (h : escape bytes = .ok (out, rest)) :
    ∃ (g : Glyph) (c : Char), g.char? = some c ∧ out = Text.encodeChar c ∧
      92 :: bytes = g.bytes ++ rest := by
  rw [escape, bind_eq_ok] at h
  obtain ⟨ahead, mid, hnext, h⟩ := h
  split at h
  · exact absurd h (by simp)
  · obtain ⟨b, rfl, hb⟩ := next_eq_some hnext
    obtain ⟨g, c, hchar, hout, hbytes⟩ := codeUnitEscape_eq_ok h
    refine ⟨g, c, hchar, hout, ?_⟩
    rw [← hbytes, eq_ofNat_of_charOfByte hb]
    rfl
  next letter _ =>
    cases hshort : shortEscape? letter with
    | none => exact absurd h (by simp [hshort])
    | some b' =>
      rw [hshort] at h
      obtain ⟨rfl, rfl⟩ := pure_eq_ok.mp h
      obtain ⟨b, rfl, hb⟩ := next_eq_some hnext
      obtain ⟨e, rfl, hchar⟩ := exists_shortEscape hshort
      exact ⟨.short e, _, rfl, hchar, by rw [eq_ofNat_of_charOfByte hb]; rfl⟩

/-- The sign whose escape has been passed over, from behind its backslash. -/
theorem skipEscape_eq_ok {bytes rest : List UInt8} (h : skipEscape bytes = .ok ((), rest)) :
    ∃ g : Glyph, 92 :: bytes = g.bytes ++ rest := by
  rw [skipEscape, bind_eq_ok] at h
  obtain ⟨ahead, mid, hnext, h⟩ := h
  split at h
  · exact absurd h (by simp)
  · obtain ⟨b, rfl, hb⟩ := next_eq_some hnext
    rw [bind_eq_ok] at h
    obtain ⟨_, mid', hunit, h⟩ := h
    obtain ⟨-, rfl⟩ := pure_eq_ok.mp h
    obtain ⟨u, rfl, rfl⟩ := codeUnit_eq_ok hunit
    exact ⟨.unit u, by rw [eq_ofNat_of_charOfByte hb]; rfl⟩
  next letter _ =>
    split at h
    next hshort =>
      obtain ⟨-, rfl⟩ := pure_eq_ok.mp h
      obtain ⟨b, rfl, hb⟩ := next_eq_some hnext
      obtain ⟨b', hshort⟩ := Option.isSome_iff_exists.mp hshort
      obtain ⟨e, rfl, -⟩ := exists_shortEscape hshort
      exact ⟨.short e, by rw [eq_ofNat_of_charOfByte hb]; rfl⟩
    next => exact absurd h (by simp)

/-! ## Plain characters -/

theorem isOrdinary_of_charOfByte {b : UInt8} (hlow : ¬ (charOfByte b).toNat < 0x20)
    (hquote : charOfByte b ≠ '"') (hbackslash : charOfByte b ≠ '\\') : IsOrdinary b := by
  rw [toNat_charOfByte] at hlow
  refine ⟨by omega, fun hb => hquote ?_, fun hb => hbackslash ?_⟩
  · rw [← UInt8.ofNat_toNat (x := b), hb]; rfl
  · rw [← UInt8.ofNat_toNat (x := b), hb]; rfl

/-- A character whose first byte stands for itself does so too. -/
theorem isPlain_of_isOrdinary {c : Char} {b : UInt8} {more : List UInt8}
    (hchar : Text.encodeChar c = b :: more) (hb : IsOrdinary b) : IsPlain c := by
  obtain ⟨hlow, hquote, hbackslash⟩ := hb
  obtain ⟨b', more', hchar', -, -, hascii⟩ := Text.encodeChar_eq_cons c
  obtain ⟨rfl, rfl⟩ := List.cons.inj (hchar.symm.trans hchar')
  have hne : ∀ n, n < 0x80 → b.toNat ≠ n → c.toNat ≠ n :=
    fun n hn hb hc => hb ((hascii (by omega)).trans hc)
  refine ⟨?_, fun hc => ?_, fun hc => ?_⟩
  · by_contra h
    have := hascii (by omega)
    omega
  · exact hne 34 (by omega) hquote (by rw [hc]; rfl)
  · exact hne 92 (by omega) hbackslash (by rw [hc]; rfl)

/-! ## Texts that have been read -/

theorem glyphBytes_cons (g : Glyph) (glyphs : List Glyph) (rest : List UInt8) :
    glyphBytes (g :: glyphs) ++ rest = g.bytes ++ (glyphBytes glyphs ++ rest) := by
  rw [glyphBytes, List.flatMap_cons, List.append_assoc]
  rfl

/-- What one step of reading a text has met: the closing quote, an escape, or a byte that stands
for itself. -/
theorem textBytes_cases {fuel : Nat} {bytes rest out : List UInt8}
    (h : textBytes (fuel + 1) bytes = .ok (out, rest)) :
    (bytes = 34 :: rest ∧ out = []) ∨
    (∃ (g : Glyph) (c : Char) (mid out' : List UInt8), g.char? = some c ∧ bytes = g.bytes ++ mid ∧
      out = Text.encodeChar c ++ out' ∧ textBytes fuel mid = .ok (out', rest)) ∨
    ∃ (b : UInt8) (mid out' : List UInt8), IsOrdinary b ∧ bytes = b :: mid ∧ out = b :: out' ∧
      textBytes fuel mid = .ok (out', rest) := by
  rw [textBytes, bind_eq_ok] at h
  obtain ⟨ahead, mid, hnext, h⟩ := h
  split at h
  · exact absurd h (by simp)
  · obtain ⟨b, rfl, hb⟩ := next_eq_some hnext
    obtain ⟨rfl, rfl⟩ := pure_eq_ok.mp h
    exact .inl ⟨by rw [eq_ofNat_of_charOfByte hb]; rfl, rfl⟩
  · obtain ⟨b, rfl, hb⟩ := next_eq_some hnext
    rw [bind_eq_ok] at h
    obtain ⟨char, mid', hescape, h⟩ := h
    rw [bind_eq_ok] at h
    obtain ⟨out', rest', hrest, h⟩ := h
    obtain ⟨rfl, rfl⟩ := pure_eq_ok.mp h
    obtain ⟨g, c, hchar, rfl, hbytes⟩ := escape_eq_ok hescape
    refine .inr (.inl ⟨g, c, mid', out', hchar, ?_, rfl, hrest⟩)
    rw [← hbytes, eq_ofNat_of_charOfByte hb]
    rfl
  next c hquote hbackslash =>
    split at h
    · exact absurd h (by simp)
    next hcontrol =>
      obtain ⟨b, rfl, rfl⟩ := next_eq_some hnext
      rw [bind_eq_ok] at h
      obtain ⟨out', rest', hrest, h⟩ := h
      obtain ⟨rfl, rfl⟩ := pure_eq_ok.mp h
      rw [ofNat_charOfByte]
      have hb := isOrdinary_of_charOfByte hcontrol hquote hbackslash
      exact .inr (.inr ⟨b, mid, out', hb, rfl, rfl, hrest⟩)

/-- Bytes that continue a character come out of a text only where they stand in it: an escape
gives a whole character. -/
theorem textBytes_of_continuations {fuel : Nat} {bytes rest more out : List UInt8}
    (h : textBytes fuel bytes = .ok (more ++ out, rest))
    (hmore : ∀ b ∈ more, Text.IsContinuation b) :
    ∃ fuel' mid, fuel' ≤ fuel ∧ bytes = more ++ mid ∧ textBytes fuel' mid = .ok (out, rest) := by
  induction more generalizing fuel bytes with
  | nil => exact ⟨fuel, bytes, Nat.le_refl _, rfl, h⟩
  | cons d more ih =>
    have hd := hmore d List.mem_cons_self
    obtain _ | fuel := fuel
    · exact absurd h (by simp [textBytes])
    · obtain ⟨-, hout⟩ | ⟨g, c, mid, out', -, -, hout, -⟩ | ⟨b, mid, out', -, rfl, hout, hrest⟩ :=
        textBytes_cases h
      · exact absurd hout (by simp)
      · -- An escape would have given the first byte of a character.
        obtain ⟨b, tail, hchar, hfirst, -, -⟩ := Text.encodeChar_eq_cons c
        rw [hchar, List.cons_append, List.cons_append] at hout
        exact absurd ((List.cons.inj hout).1 ▸ hd) hfirst
      · rw [List.cons_append] at hout
        obtain ⟨rfl, rfl⟩ := List.cons.inj hout
        obtain ⟨fuel', mid', hle, rfl, hmid⟩ :=
          ih hrest fun b hb => hmore b (List.mem_cons_of_mem _ hb)
        exact ⟨fuel', mid', by omega, rfl, hmid⟩

theorem textBytes_eq_ok {fuel : Nat} {bytes rest : List UInt8} {cs : List Char}
    (h : textBytes fuel bytes = .ok (Text.encodeChars cs, rest)) :
    ∃ glyphs, glyphs.mapM Glyph.char? = some cs ∧ bytes = glyphBytes glyphs ++ 34 :: rest := by
  -- On the steps left, since a character of several bytes takes several of them.
  induction fuel using Nat.strong_induction_on generalizing bytes cs with
  | _ fuel ih =>
    obtain _ | fuel := fuel
    · exact absurd h (by simp [textBytes])
    · obtain ⟨rfl, hout⟩ | ⟨g, c, mid, out', hg, rfl, hout, hrest⟩ |
        ⟨b, mid, out', hb, rfl, hout, hrest⟩ := textBytes_cases h
      · obtain rfl : cs = [] := by
          cases cs with
          | nil => rfl
          | cons c cs =>
            obtain ⟨b, more, hchar, -⟩ := Text.encodeChar_eq_cons c
            rw [Text.encodeChars, List.flatMap_cons, hchar] at hout
            exact absurd hout (by simp)
        exact ⟨[], rfl, rfl⟩
      · obtain ⟨ds, rfl, rfl⟩ := Text.encodeChars_eq_append hout
        obtain ⟨glyphs, hglyphs, rfl⟩ := ih fuel (Nat.lt_succ_self _) hrest
        refine ⟨g :: glyphs, ?_, ?_⟩
        · rw [List.mapM_cons, hg, hglyphs]
          rfl
        · rw [glyphBytes_cons]
      · cases cs with
        | nil => exact absurd hout (by simp [Text.encodeChars])
        | cons c cs =>
          obtain ⟨b', more, hchar, -, hmore, -⟩ := Text.encodeChar_eq_cons c
          rw [Text.encodeChars, List.flatMap_cons, hchar, List.cons_append] at hout
          obtain ⟨rfl, rfl⟩ := List.cons.inj hout
          obtain ⟨fuel', mid', hle, rfl, hmid⟩ := textBytes_of_continuations hrest hmore
          obtain ⟨glyphs, hglyphs, rfl⟩ := ih fuel' (by omega) hmid
          refine ⟨.plain c (isPlain_of_isOrdinary hchar hb) :: glyphs, ?_, ?_⟩
          · rw [List.mapM_cons, hglyphs]
            rfl
          · rw [glyphBytes_cons, Glyph.bytes, hchar]
            rfl

/-- **What is read as a text is spelled by signs** that stand for its characters. -/
theorem textBody_eq_ok {bytes rest : List UInt8} {s : String}
    (h : textBody bytes = .ok (s, rest)) :
    ∃ glyphs, text? glyphs = some s ∧ bytes = glyphBytes glyphs ++ 34 :: rest := by
  rw [textBody, bind_eq_ok] at h
  obtain ⟨out, mid, hread, h⟩ := h
  cases hdecode : Text.decodeUtf8 out with
  | none => exact absurd h (by simp [hdecode])
  | some s' =>
    rw [hdecode] at h
    obtain ⟨rfl, rfl⟩ := pure_eq_ok.mp h
    rw [Text.decodeUtf8, Option.map_eq_some_iff] at hdecode
    obtain ⟨cs, hcs, rfl⟩ := hdecode
    obtain rfl := Text.eq_encodeChars_of_decodeChars hcs
    obtain ⟨glyphs, hglyphs, hbytes⟩ := textBytes_eq_ok hread
    exact ⟨glyphs, by rw [text?, hglyphs]; rfl, hbytes⟩

/-! ## Texts that have been passed over -/

/-- The bytes of a sign are a text of their own. -/
theorem Grammar.Glyph.isUtf8_bytes (g : Glyph) : Text.IsUtf8 g.bytes := by
  have hdigit : ∀ d : HexDigit, d.byte.toNat < 0x80 := by
    intro d
    obtain ⟨value, isUpper⟩ := d
    revert value isUpper
    decide
  have hunit : ∀ u : CodeUnit, Text.IsUtf8 u.bytes := fun u =>
    Text.isUtf8_of_ascii (by simp [CodeUnit.bytes, hdigit])
  cases g with
  | plain c hc => exact Text.isUtf8_encodeChar c
  | short e =>
    exact Text.isUtf8_cons (by decide) (Text.isUtf8_cons (by cases e <;> decide) Text.isUtf8_nil)
  | unit u =>
    exact Text.isUtf8_cons (by decide) (Text.isUtf8_cons (by decide) (hunit u))
  | pair high low hhigh hlow =>
    have hescape : ∀ u : CodeUnit, Text.IsUtf8 (92 :: 117 :: u.bytes) := fun u =>
      Text.isUtf8_cons (by decide) (Text.isUtf8_cons (by decide) (hunit u))
    exact (hescape high).append (hescape low)

theorem isUtf8_glyphBytes (glyphs : List Glyph) : Text.IsUtf8 (glyphBytes glyphs) := by
  induction glyphs with
  | nil => exact Text.isUtf8_nil
  | cons g glyphs ih =>
    rw [glyphBytes, List.flatMap_cons]
    exact g.isUtf8_bytes.append ih

theorem isUtf8_quotedBytes (glyphs : List Glyph) : Text.IsUtf8 (quotedBytes glyphs) :=
  (Text.isUtf8_cons (by decide) (isUtf8_glyphBytes glyphs)).append
    (Text.isUtf8_cons (by decide) Text.isUtf8_nil)

/-- What one step of passing over a text has met. -/
theorem skipTextBytes_cases {fuel : Nat} {bytes rest : List UInt8}
    (h : skipTextBytes (fuel + 1) bytes = .ok ((), rest)) :
    bytes = 34 :: rest ∨
    (∃ (g : Glyph) (mid : List UInt8), bytes = g.bytes ++ mid ∧
      skipTextBytes fuel mid = .ok ((), rest)) ∨
    ∃ (b : UInt8) (mid : List UInt8), IsOrdinary b ∧ bytes = b :: mid ∧
      skipTextBytes fuel mid = .ok ((), rest) := by
  rw [skipTextBytes, bind_eq_ok] at h
  obtain ⟨ahead, mid, hpeek, h⟩ := h
  obtain ⟨hahead, rfl⟩ := peek_eq_ok.mp hpeek
  split at h
  · exact absurd h (by simp)
  · obtain rfl := advance_eq_ok.mp h
    exact .inl (eq_cons_of_head? hahead)
  · rw [advance_bind_apply] at h
    rw [bind_eq_ok] at h
    obtain ⟨⟨⟩, mid', hescape, h⟩ := h
    obtain ⟨g, hbytes⟩ := skipEscape_eq_ok hescape
    exact .inr (.inl ⟨g, mid', by rw [← hbytes]; exact eq_cons_of_head? hahead, h⟩)
  next c hquote hbackslash =>
    split at h
    · exact absurd h (by simp)
    next hcontrol =>
      rw [advance_bind_apply] at h
      obtain ⟨b, tail, rfl, rfl⟩ := exists_of_head? hahead
      have hb := isOrdinary_of_charOfByte hcontrol hquote hbackslash
      exact .inr (.inr ⟨b, tail, hb, rfl, h⟩)

theorem skipTextBytes_cons {b : UInt8} (h : IsOrdinary b) (fuel : Nat) (bytes : List UInt8) :
    skipTextBytes (fuel + 1) (b :: bytes) = skipTextBytes fuel bytes := by
  obtain ⟨hlow, hquote, hbackslash⟩ := h
  have hnotQuote : charOfByte b ≠ '"' := charOfByte_ne hquote
  have hnotBackslash : charOfByte b ≠ '\\' := charOfByte_ne hbackslash
  rw [skipTextBytes, bind_of_ok (peek_cons _ _)]
  simp only
  rw [toNat_charOfByte, if_neg (by omega), bind_of_ok (advance_cons _ _)]

/-- Passing over a text passes over the ordinary bytes at the front of it. -/
theorem skipTextBytes_of_append {fuel : Nat} {bytes rest front : List UInt8}
    (h : skipTextBytes fuel (front ++ bytes) = .ok ((), rest))
    (hfront : ∀ b ∈ front, IsOrdinary b) :
    ∃ fuel' ≤ fuel, skipTextBytes fuel' bytes = .ok ((), rest) := by
  induction front generalizing fuel with
  | nil => exact ⟨fuel, Nat.le_refl _, h⟩
  | cons d front ih =>
    obtain _ | fuel := fuel
    · exact absurd h (by simp [skipTextBytes])
    · rw [List.cons_append, skipTextBytes_cons (hfront d List.mem_cons_self)] at h
      obtain ⟨fuel', hle, hrest⟩ := ih h fun b hb => hfront b (List.mem_cons_of_mem _ hb)
      exact ⟨fuel', by omega, hrest⟩

theorem skipTextBytes_eq_ok {fuel : Nat} {bytes rest : List UInt8}
    (h : skipTextBytes fuel bytes = .ok ((), rest)) (hutf8 : Text.IsUtf8 bytes) :
    ∃ glyphs, bytes = glyphBytes glyphs ++ 34 :: rest := by
  induction fuel using Nat.strong_induction_on generalizing bytes with
  | _ fuel ih =>
    obtain _ | fuel := fuel
    · exact absurd h (by simp [skipTextBytes])
    · obtain rfl | ⟨g, mid, rfl, hrest⟩ | ⟨b, mid, hb, rfl, hrest⟩ := skipTextBytes_cases h
      · exact ⟨[], rfl⟩
      · obtain ⟨glyphs, rfl⟩ := ih fuel (Nat.lt_succ_self _) hrest (hutf8.rest g.isUtf8_bytes)
        exact ⟨g :: glyphs, (glyphBytes_cons g glyphs _).symm⟩
      · -- The byte belongs to a character, which is passed over byte by byte.
        obtain ⟨cs, hcs⟩ := hutf8
        cases cs with
        | nil => exact absurd hcs (by simp [Text.encodeChars])
        | cons c cs =>
          obtain ⟨b', more, hchar, -⟩ := Text.encodeChar_eq_cons c
          rw [Text.encodeChars, List.flatMap_cons, hchar, List.cons_append] at hcs
          obtain ⟨rfl, rfl⟩ := List.cons.inj hcs
          have hplain := isPlain_of_isOrdinary hchar hb
          have hmore : ∀ d ∈ more, IsOrdinary d := fun d hd =>
            isOrdinary_of_isPlain hplain d (hchar ▸ List.mem_cons_of_mem b hd)
          obtain ⟨fuel', hle, hrest⟩ := skipTextBytes_of_append hrest hmore
          obtain ⟨glyphs, hglyphs⟩ := ih fuel' (by omega) hrest ⟨cs, rfl⟩
          refine ⟨.plain c hplain :: glyphs, ?_⟩
          rw [glyphBytes_cons, Glyph.bytes, hchar, List.cons_append, ← hglyphs]

/-- An ordinary byte is taken for a sign: for the character that it is, or for a question mark. -/
theorem exists_glyph_of_isOrdinary {b : UInt8} (h : IsOrdinary b) :
    ∃ (g : Glyph) (c : UInt8), IsTakenFor b c ∧ g.bytes = [c] := by
  by_cases hascii : b.toNat < 0x80
  · have hpoint : (Char.ofNat b.toNat).toNat = b.toNat :=
      Text.toNat_charOfNat (Or.inl (by omega))
    have hchar : Text.encodeChar (Char.ofNat b.toNat) = [b] :=
      Text.encodeChar_one hpoint (by omega)
    exact ⟨.plain _ (isPlain_of_isOrdinary hchar h), b, .inl rfl, hchar⟩
  · exact ⟨.plain '?' (by decide), 63, .inr ⟨by omega, rfl⟩, by decide⟩

theorem skipTextBytes_bytewise {fuel : Nat} {bytes rest : List UInt8}
    (h : skipTextBytes fuel bytes = .ok ((), rest)) :
    ∃ glyphs, List.Forall₂ IsTakenFor bytes (glyphBytes glyphs ++ 34 :: rest) := by
  induction fuel generalizing bytes with
  | zero => exact absurd h (by simp [skipTextBytes])
  | succ fuel ih =>
    obtain rfl | ⟨g, mid, rfl, hrest⟩ | ⟨b, mid, hb, rfl, hrest⟩ := skipTextBytes_cases h
    · exact ⟨[], forall₂_isTakenFor_refl _⟩
    · obtain ⟨glyphs, hglyphs⟩ := ih hrest
      refine ⟨g :: glyphs, ?_⟩
      rw [glyphBytes_cons]
      exact List.rel_append (forall₂_isTakenFor_refl g.bytes) hglyphs
    · obtain ⟨glyphs, hglyphs⟩ := ih hrest
      obtain ⟨g, c, hc, hbytes⟩ := exists_glyph_of_isOrdinary hb
      refine ⟨g :: glyphs, ?_⟩
      rw [glyphBytes_cons, hbytes]
      exact .cons hc hglyphs

/-- **What is passed over as a text is spelled by signs** once it is mended, whether they stand for
characters or not. -/
theorem skipText_eq_ok {bytes rest : List UInt8} (h : skipText bytes = .ok ((), rest)) :
    ∃ glyphs, Mended bytes (glyphBytes glyphs ++ 34 :: rest) := by
  by_cases hutf8 : Text.IsUtf8 bytes
  · obtain ⟨glyphs, hbytes⟩ := skipTextBytes_eq_ok h hutf8
    exact ⟨glyphs, hbytes ▸ mended_refl bytes⟩
  · obtain ⟨glyphs, hbytes⟩ := skipTextBytes_bytewise h
    exact ⟨glyphs, hbytes, fun hyes => absurd hyes hutf8⟩

end Commissioning.Json
