import Commissioning.Proofs.Json.Grammar
import Mathlib.Tactic.Common

set_option autoImplicit false

/-! # What readers take

The steps of a reader on a byte sequence whose front is known. Every statement leaves the bytes
behind the front open. -/

namespace Commissioning.Json

open Grammar

namespace Reader

variable {α β : Type}

/-! ## One reader after another -/

theorem bind_of_ok {r : Reader α} {f : α → Reader β} {bytes rest : List UInt8} {a : α}
    (h : r bytes = .ok (a, rest)) : (r >>= f) bytes = f a rest := by
  show bind r f bytes = f a rest
  unfold bind
  rw [h]

@[simp] theorem pure_apply (a : α) (bytes : List UInt8) :
    (pure a : Reader α) bytes = .ok (a, bytes) :=
  rfl

/-! ## Single bytes -/

theorem toNat_charOfByte (b : UInt8) : (charOfByte b).toNat = b.toNat := by
  have hb := b.toNat_lt
  have hvalid : b.toNat.isValidChar := Or.inl (by omega)
  unfold charOfByte Char.ofNat
  rw [dif_pos hvalid]
  rfl

theorem charOfByte_ne {b : UInt8} {c : Char} (h : b.toNat ≠ c.toNat) : charOfByte b ≠ c := by
  intro hc
  rw [← hc, toNat_charOfByte] at h
  exact h rfl

@[simp] theorem ofNat_charOfByte (b : UInt8) : UInt8.ofNat (charOfByte b).toNat = b := by
  rw [toNat_charOfByte, UInt8.ofNat_toNat]

theorem peek_cons (b : UInt8) (rest : List UInt8) :
    peek (b :: rest) = .ok (some (charOfByte b), b :: rest) :=
  rfl

/-- Whatever a look ahead shows is what the bytes start with. -/
theorem peek_of_head? {p : Char → Prop} {bytes : List UInt8}
    (h : ∀ b ∈ bytes.head?, p (charOfByte b)) :
    ∃ ahead, peek bytes = .ok (ahead, bytes) ∧ ∀ c, ahead = some c → p c := by
  cases bytes with
  | nil => exact ⟨none, rfl, fun c hc => absurd hc (by simp)⟩
  | cons b rest =>
    refine ⟨some (charOfByte b), peek_cons b rest, fun c hc => ?_⟩
    rw [← Option.some.inj hc]
    exact h b rfl

theorem next_cons (b : UInt8) (rest : List UInt8) :
    next (b :: rest) = .ok (some (charOfByte b), rest) :=
  rfl

theorem advance_cons (b : UInt8) (rest : List UInt8) : advance (b :: rest) = .ok ((), rest) :=
  rfl

/-! ## Blanks -/

/-- Whether no blank is ahead. -/
def Solid (bytes : List UInt8) : Prop :=
  ∀ b ∈ bytes.head?, isBlank b = false

theorem solid_nil : Solid [] := by
  intro b hb
  simp at hb

theorem solid_cons {b : UInt8} (h : isBlank b = false) (rest : List UInt8) : Solid (b :: rest) := by
  intro c hc
  rw [List.head?_cons, Option.mem_some_iff] at hc
  rwa [← hc]

theorem isBlank_byte (b : Blank) : isBlank b.byte = true := by
  cases b <;> decide

theorem blankBytes_append (first second : List Blank) :
    blankBytes (first ++ second) = blankBytes first ++ blankBytes second :=
  List.map_append

theorem dropWhile_blankBytes (blanks : List Blank) {bytes : List UInt8} (h : Solid bytes) :
    (blankBytes blanks ++ bytes).dropWhile isBlank = bytes := by
  induction blanks with
  | nil =>
    cases bytes with
    | nil => rfl
    | cons b rest =>
      have hb := h b rfl
      simp [blankBytes, hb]
  | cons b blanks ih =>
    simp only [blankBytes, List.map_cons, List.cons_append] at ih ⊢
    rw [List.dropWhile_cons, if_pos (isBlank_byte b), ih]

theorem peekToken_blankBytes (blanks : List Blank) {bytes : List UInt8} (h : Solid bytes) :
    peekToken (blankBytes blanks ++ bytes) = .ok (bytes.head?.map charOfByte, bytes) := by
  have hskip : skipBlanks (blankBytes blanks ++ bytes) = .ok ((), bytes) := by
    unfold skipBlanks
    rw [dropWhile_blankBytes blanks h]
  unfold peekToken
  rw [bind_of_ok hskip]
  rfl

/-- What is ahead behind some blanks. -/
theorem peekToken_cons (blanks : List Blank) {b : UInt8} (h : isBlank b = false)
    (rest : List UInt8) :
    peekToken (blankBytes blanks ++ b :: rest) = .ok (some (charOfByte b), b :: rest) :=
  peekToken_blankBytes blanks (solid_cons h rest)

/-! ## Ends of tokens -/

/-- Whether a byte ends the token before it. -/
def isDelimiter (b : UInt8) : Bool :=
  isBlank b || b == 44 || b == 93 || b == 125

/-- Whether a token ends here: the end of the text ends it too. -/
def Delimited (bytes : List UInt8) : Prop :=
  ∀ b ∈ bytes.head?, isDelimiter b = true

theorem delimited_nil : Delimited [] := by
  intro b hb
  simp at hb

theorem delimited_cons {b : UInt8} (h : isDelimiter b = true) (rest : List UInt8) :
    Delimited (b :: rest) := by
  intro c hc
  rw [List.head?_cons, Option.mem_some_iff] at hc
  rwa [← hc]

/-- Blanks end a token, and where there are none, what is behind them has to. -/
theorem delimited_blankBytes (blanks : List Blank) {bytes : List UInt8} (h : Delimited bytes) :
    Delimited (blankBytes blanks ++ bytes) := by
  cases blanks with
  | nil => exact h
  | cons b blanks =>
    refine delimited_cons ?_ _
    unfold isDelimiter
    rw [isBlank_byte]
    rfl

end Reader

end Commissioning.Json
