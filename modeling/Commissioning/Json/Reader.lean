import Commissioning.Json.Fault
import Commissioning.Text.Utf8

set_option autoImplicit false

/-! # Readers

A reader takes what it wants from the front of a byte sequence and leaves the rest, or says why
it cannot. A fault is placed where the reader stands, or one byte ahead when the byte at fault has
only been looked at. -/

namespace Commissioning.Json

/-- Takes a value from the front of a byte sequence. -/
def Reader (α : Type) : Type :=
  List UInt8 → Except Fault (α × List UInt8)

namespace Reader

/-- One reader after another. -/
def bind {α β : Type} (r : Reader α) (f : α → Reader β) : Reader β := fun bytes =>
  match r bytes with
  | .ok (a, rest) => f a rest
  | .error fault => .error fault

instance : Monad Reader where
  pure a := fun bytes => .ok (a, bytes)
  bind := bind

/-- The byte sequence refused where the reader stands. -/
def fail {α : Type} (reason : Reason) : Reader α := fun bytes =>
  .error ⟨reason, bytes, true⟩

/-- The byte sequence refused for the byte ahead, which is left where it is. -/
def failAhead {α : Type} (reason : Reason) : Reader α := fun bytes =>
  .error ⟨reason, bytes.tail, true⟩

/-- A value refused as a whole, with no place of its own. -/
def failWhole {α : Type} (reason : Reason) : Reader α := fun bytes =>
  .error ⟨reason, bytes, false⟩

/-- A reader whose faults all have a place: those without one get the place where it stopped. -/
def located {α : Type} (r : Reader α) : Reader α := fun bytes =>
  match r bytes with
  | .ok a => .ok a
  | .error fault => .error { fault with placed := true }

/-- A byte as the character of the same number. -/
def charOfByte (b : UInt8) : Char :=
  Char.ofNat b.toNat

/-- The next byte, which is left where it is. -/
def peek : Reader (Option Char) := fun bytes =>
  .ok (bytes.head?.map charOfByte, bytes)

/-- The next byte. -/
def next : Reader (Option Char) := fun bytes =>
  .ok (bytes.head?.map charOfByte, bytes.tail)

/-- The byte ahead is passed over. -/
def advance : Reader Unit := fun bytes =>
  .ok ((), bytes.tail)

/-- Whether a byte is a blank between tokens. -/
def isBlank (b : UInt8) : Bool :=
  b == 32 || b == 10 || b == 9 || b == 13

/-- Blanks are passed over. -/
def skipBlanks : Reader Unit := fun bytes =>
  .ok ((), bytes.dropWhile isBlank)

/-- The first byte behind the blanks, which is left where it is. -/
def peekToken : Reader (Option Char) := do
  skipBlanks
  peek

/-- The bytes up to the first one without a property. -/
def takeWhile (p : UInt8 → Bool) : Reader (List UInt8) := fun bytes =>
  .ok (bytes.takeWhile p, bytes.dropWhile p)

/-- The given letters, one by one. -/
def letters : List Char → Reader Unit
  | [] => pure ()
  | c :: rest => do
    match ← next with
    | none => fail (.endOfText .value)
    | some d => if d = c then letters rest else fail .expectedIdentifier

/-- A reader that is given the number of bytes ahead, and one more, as a bound on its steps. -/
def bounded {α : Type} (r : Nat → Reader α) : Reader α := fun bytes =>
  r (bytes.length + 1) bytes

/-! ## Whole texts -/

/-- A reader of a whole text: nothing but blanks may follow what it takes. -/
def complete {α : Type} (r : Reader α) : Reader α := do
  let a ← r
  match ← peekToken with
  | none => pure a
  | some _ => failAhead .trailingCharacters

/-- What a reader makes of a whole byte sequence. -/
def readBytes {α : Type} (r : Reader α) (bytes : List UInt8) : Except Error α :=
  match r.complete bytes with
  | .ok (a, _) => .ok a
  | .error fault => .error (fault.toError bytes)

/-- What a reader makes of a whole text. -/
def read {α : Type} (r : Reader α) (text : String) : Except Error α :=
  r.readBytes (Text.encodeUtf8 text)

end Reader

end Commissioning.Json
