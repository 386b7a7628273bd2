import Commissioning.Json.Reader

set_option autoImplicit false

/-! # Texts in JSON

The inside of a text, from behind its opening quote. Reading one resolves the escapes and checks
that the bytes are UTF-8; skipping one checks the escapes only by their form. -/

namespace Commissioning.Json

open Reader

/-- The byte a short escape stands for. -/
def shortEscape? : Char → Option UInt8
  | '"' => some 34
  | '\\' => some 92
  | '/' => some 47
  | 'b' => some 8
  | 'f' => some 12
  | 'n' => some 10
  | 'r' => some 13
  | 't' => some 9
  | _ => none

/-- The number that four hexadecimal digits write. -/
def hexWord? (digits : List UInt8) : Option Nat :=
  digits.foldlM (fun n b => (Text.hexValue (charOfByte b)).map (16 * n + ·)) 0

/-- The four digits of a code unit. -/
def codeUnit : Reader Nat := fun bytes =>
  if bytes.length < 4 then fail (.endOfText .string) []
  else
    match hexWord? (bytes.take 4) with
    | some n => .ok (n, bytes.drop 4)
    | none => fail .invalidEscape (bytes.drop 4)

/-- One character that the second escape of a surrogate pair has to start with. -/
def pairSign (c : Char) : Reader Unit := do
  match ← peek with
  | none => fail (.endOfText .string)
  | some d => do
    advance
    if d = c then pure () else fail .surrogateCutShort

/-- The bytes of the character that an escape with a code unit stands for. A leading surrogate
takes a trailing one with it. -/
def codeUnitEscape : Reader (List UInt8) := do
  let high ← codeUnit
  if 0xDC00 ≤ high ∧ high ≤ 0xDFFF then fail .loneSurrogate
  else if 0xD800 ≤ high ∧ high ≤ 0xDBFF then do
    pairSign '\\'
    pairSign 'u'
    let low ← codeUnit
    if 0xDC00 ≤ low ∧ low ≤ 0xDFFF then
      pure (Text.encodeChar (Char.ofNat (0x10000 + (high - 0xD800) * 1024 + (low - 0xDC00))))
    else fail .loneSurrogate
  else pure (Text.encodeChar (Char.ofNat high))

/-- The bytes that an escape stands for, from behind its backslash. -/
def escape : Reader (List UInt8) := do
  match ← next with
  | none => fail (.endOfText .string)
  | some 'u' => codeUnitEscape
  | some c =>
    match shortEscape? c with
    | some b => pure [b]
    | none => fail .invalidEscape

/-- The bytes up to the closing quote, escapes resolved, in at most the given number of steps. -/
def textBytes : Nat → Reader (List UInt8)
  | 0 => fail (.endOfText .string)
  | fuel + 1 => do
    match ← next with
    | none => fail (.endOfText .string)
    | some '"' => pure []
    | some '\\' => do
      let bytes ← escape
      let rest ← textBytes fuel
      pure (bytes ++ rest)
    | some c =>
      if c.toNat < 0x20 then fail .controlCharacter
      else do
        let rest ← textBytes fuel
        pure (UInt8.ofNat c.toNat :: rest)

/-- A text, from behind its opening quote. -/
def textBody : Reader String := do
  let bytes ← bounded textBytes
  match Text.decodeUtf8 bytes with
  | some s => pure s
  | none => fail .invalidCodePoint

/-- An escape passed over: a code unit may be any four digits. -/
def skipEscape : Reader Unit := do
  match ← next with
  | none => fail (.endOfText .string)
  | some 'u' => do
    let _ ← codeUnit
    pure ()
  | some c => if (shortEscape? c).isSome then pure () else fail .invalidEscape

/-- A text passed over, in at most the given number of steps. -/
def skipTextBytes : Nat → Reader Unit
  | 0 => fail (.endOfText .string)
  | fuel + 1 => do
    match ← peek with
    | none => fail (.endOfText .string)
    | some '"' => advance
    | some '\\' => do
      advance
      skipEscape
      skipTextBytes fuel
    | some c =>
      if c.toNat < 0x20 then fail .controlCharacter
      else do
        advance
        skipTextBytes fuel

/-- A text passed over, from behind its opening quote. -/
def skipText : Reader Unit :=
  bounded skipTextBytes

end Commissioning.Json
