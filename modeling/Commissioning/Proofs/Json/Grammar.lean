import Commissioning.Json.Structure

set_option autoImplicit false

/-! # The grammar of JSON

JSON texts as trees. A tree keeps all that a text has and its value has not: the blanks, the
escapes, and the form of the numbers. Every tree is well-formed, so a JSON text is nothing else
than the bytes of a tree. What a tree stands for is said apart from its bytes: a text with half of
a surrogate pair, or a number past the largest one, has a form and no value. -/

namespace Commissioning.Json.Grammar

/-! ## Blanks -/

/-- A blank between tokens. -/
inductive Blank where
  | space
  | tab
  | lineFeed
  | carriageReturn
  deriving DecidableEq, Repr

def Blank.byte : Blank → UInt8
  | space => 32
  | tab => 9
  | lineFeed => 10
  | carriageReturn => 13

/-- The bytes of some blanks. -/
def blankBytes (blanks : List Blank) : List UInt8 :=
  blanks.map Blank.byte

/-! ## Texts -/

/-- An escape of one letter. -/
inductive ShortEscape where
  | quote
  | backslash
  | slash
  | backspace
  | formFeed
  | lineFeed
  | carriageReturn
  | tab
  deriving DecidableEq, Repr

/-- The letter behind the backslash. -/
def ShortEscape.letter : ShortEscape → Char
  | quote => '"'
  | backslash => '\\'
  | slash => '/'
  | backspace => 'b'
  | formFeed => 'f'
  | lineFeed => 'n'
  | carriageReturn => 'r'
  | tab => 't'

/-- The character that an escape stands for. -/
def ShortEscape.char : ShortEscape → Char
  | quote => '"'
  | backslash => '\\'
  | slash => '/'
  | backspace => '\x08'
  | formFeed => '\x0c'
  | lineFeed => '\n'
  | carriageReturn => '\r'
  | tab => '\t'

/-- A hexadecimal digit, with a letter in either case. -/
structure HexDigit where
  value : Fin 16
  isUpper : Bool := false
  deriving DecidableEq, Repr

def HexDigit.byte (d : HexDigit) : UInt8 :=
  if d.value.val < 10 then UInt8.ofNat (48 + d.value.val)
  else if d.isUpper then UInt8.ofNat (55 + d.value.val)
  else UInt8.ofNat (87 + d.value.val)

/-- A code unit of UTF-16. -/
structure CodeUnit where
  first : HexDigit
  second : HexDigit
  third : HexDigit
  fourth : HexDigit
  deriving DecidableEq, Repr

namespace CodeUnit

def bytes (u : CodeUnit) : List UInt8 :=
  [u.first.byte, u.second.byte, u.third.byte, u.fourth.byte]

def number (u : CodeUnit) : Nat :=
  4096 * u.first.value + 256 * u.second.value + 16 * u.third.value + u.fourth.value

/-- Whether a code unit is the first half of a pair. -/
def IsLeading (u : CodeUnit) : Prop :=
  0xD800 ≤ u.number ∧ u.number < 0xDC00

/-- Whether a code unit is the second half of a pair. -/
def IsTrailing (u : CodeUnit) : Prop :=
  0xDC00 ≤ u.number ∧ u.number < 0xE000

instance (u : CodeUnit) : Decidable u.IsLeading :=
  inferInstanceAs (Decidable (_ ∧ _))

instance (u : CodeUnit) : Decidable u.IsTrailing :=
  inferInstanceAs (Decidable (_ ∧ _))

end CodeUnit

/-- Whether a character may stand in a text as it is. -/
def IsPlain (c : Char) : Prop :=
  0x20 ≤ c.toNat ∧ c ≠ '"' ∧ c ≠ '\\'

instance (c : Char) : Decidable (IsPlain c) :=
  inferInstanceAs (Decidable (_ ∧ _))

/-- One sign of a text. -/
inductive Glyph where
  | plain (c : Char) (h : IsPlain c)
  | short (e : ShortEscape)
  | unit (u : CodeUnit)
  | pair (high low : CodeUnit) (hhigh : high.IsLeading) (hlow : low.IsTrailing)

namespace Glyph

def bytes : Glyph → List UInt8
  | plain c _ => Text.encodeChar c
  | short e => [92, UInt8.ofNat e.letter.toNat]
  | unit u => 92 :: 117 :: u.bytes
  | pair high low _ _ => 92 :: 117 :: high.bytes ++ 92 :: 117 :: low.bytes

/-- The character that a sign stands for; half a pair stands for none. -/
def char? : Glyph → Option Char
  | plain c _ => some c
  | short e => some e.char
  | unit u => if u.IsLeading ∨ u.IsTrailing then none else some (Char.ofNat u.number)
  | pair high low _ _ =>
    some (Char.ofNat (0x10000 + 1024 * (high.number - 0xD800) + (low.number - 0xDC00)))

end Glyph

/-- The bytes of a text between its quotes. -/
def glyphBytes (glyphs : List Glyph) : List UInt8 :=
  glyphs.flatMap Glyph.bytes

/-- The bytes of a text with its quotes. -/
def quotedBytes (glyphs : List Glyph) : List UInt8 :=
  34 :: glyphBytes glyphs ++ [34]

/-- The text that some signs spell. -/
def text? (glyphs : List Glyph) : Option String :=
  (glyphs.mapM Glyph.char?).map String.ofList

/-- The signs for characters that stand for themselves; others are left out. -/
def plainGlyphs (cs : List Char) : List Glyph :=
  cs.filterMap fun c => if h : IsPlain c then some (.plain c h) else none

/-! ## Numbers -/

def digitByte (d : Fin 10) : UInt8 :=
  UInt8.ofNat (48 + d.val)

/-- Digits, one at least. -/
structure Digits where
  first : Fin 10
  rest : List (Fin 10) := []
  deriving DecidableEq, Repr

def Digits.bytes (ds : Digits) : List UInt8 :=
  digitByte ds.first :: ds.rest.map digitByte

/-- The digits before the point: none stands behind a zero at the front. -/
inductive Whole where
  | zero
  | positive (first : Fin 9) (rest : List (Fin 10))
  deriving DecidableEq, Repr

def Whole.bytes : Whole → List UInt8
  | zero => [48]
  | positive first rest => digitByte first.succ :: rest.map digitByte

/-- The sign of an exponent, which may be left out. -/
inductive Sign where
  | none
  | plus
  | minus
  deriving DecidableEq, Repr

def Sign.bytes : Sign → List UInt8
  | none => []
  | plus => [43]
  | minus => [45]

/-- An exponent with its letter, in either case. -/
structure Exponent where
  isUpper : Bool
  sign : Sign
  digits : Digits
  deriving DecidableEq, Repr

def Exponent.bytes (e : Exponent) : List UInt8 :=
  (if e.isUpper then 69 else 101) :: e.sign.bytes ++ e.digits.bytes

/-- A number as it stands in a text. -/
structure NumberForm where
  negative : Bool := false
  whole : Whole
  fraction : Option Digits := none
  exponent : Option Exponent := none
  deriving DecidableEq, Repr

namespace NumberForm

/-- The point with the digits behind it, if there is one. -/
def fractionBytes (n : NumberForm) : List UInt8 :=
  match n.fraction with
  | none => []
  | some ds => 46 :: ds.bytes

def exponentBytes (n : NumberForm) : List UInt8 :=
  match n.exponent with
  | none => []
  | some e => e.bytes

/-- The bytes behind the sign. -/
def unsignedBytes (n : NumberForm) : List UInt8 :=
  n.whole.bytes ++ n.fractionBytes ++ n.exponentBytes

def bytes (n : NumberForm) : List UInt8 :=
  (if n.negative then [45] else []) ++ n.unsignedBytes

/-- The parts that the value of a number comes from. -/
def parts (n : NumberForm) : Numeral where
  negative := n.negative
  whole := n.whole.bytes
  fraction := n.fraction.map Digits.bytes
  exponent := n.exponent.map fun e => (e.sign = .minus, e.digits.bytes)

/-- The number that a form stands for, unless it is past the largest one. -/
def number? (n : NumberForm) : Option Number :=
  match n.parts.value [] with
  | .ok (x, _) => some x
  | .error _ => none

end NumberForm

/-! ## Values -/

/-- An element of an array, or what stands behind the colon of a member, with the blanks around
it. -/
structure Item (τ : Type) where
  before : List Blank := []
  term : τ
  after : List Blank := []

/-- A member of an object, with the blanks around its name. -/
structure Member (τ : Type) where
  before : List Blank := []
  name : List Glyph
  beforeColon : List Blank := []
  item : Item τ

/-- A value as it stands in a text. -/
inductive Term where
  | null
  | boolean (b : Bool)
  | number (n : NumberForm)
  | text (glyphs : List Glyph)
  /-- The blanks stand behind the bracket. -/
  | array (inside : List Blank) (items : List (Item Term))
  /-- The blanks stand behind the brace. -/
  | object (inside : List Blank) (members : List (Member Term))

/-- The comma before every element and member but the first. -/
def comma (first : Bool) : List UInt8 :=
  if first then [] else [44]

mutual

/-- The bytes of a value. -/
def Term.bytes : Term → List UInt8
  | .null => [110, 117, 108, 108]
  | .boolean true => [116, 114, 117, 101]
  | .boolean false => [102, 97, 108, 115, 101]
  | .number n => n.bytes
  | .text glyphs => quotedBytes glyphs
  | .array inside items => 91 :: blankBytes inside ++ itemBytes true items ++ [93]
  | .object inside members => 123 :: blankBytes inside ++ memberBytes true members ++ [125]

/-- The bytes of the elements of an array, from the first one on or from a later one. -/
def itemBytes : Bool → List (Item Term) → List UInt8
  | _, [] => []
  | first, ⟨before, t, after⟩ :: rest =>
    comma first ++ blankBytes before ++ t.bytes ++ blankBytes after ++ itemBytes false rest

/-- The bytes of the members of an object, from the first one on or from a later one. -/
def memberBytes : Bool → List (Member Term) → List UInt8
  | _, [] => []
  | first, ⟨before, name, beforeColon, ⟨beforeTerm, t, after⟩⟩ :: rest =>
    comma first ++ blankBytes before ++ quotedBytes name ++ blankBytes beforeColon ++ 58 ::
      blankBytes beforeTerm ++ t.bytes ++ blankBytes after ++ memberBytes false rest

end

mutual

/-- The value that a term stands for. -/
def Term.value? : Term → Option Value
  | .null => some .null
  | .boolean b => some (.boolean b)
  | .number n => n.number?.map .number
  | .text glyphs => (text? glyphs).map .text
  | .array _ items => (itemValues? items).map .array
  | .object _ members => (memberValues? members).map .object

/-- The values of the elements of an array. -/
def itemValues? : List (Item Term) → Option (List Value)
  | [] => some []
  | ⟨_, t, _⟩ :: rest => do
    let v ← t.value?
    let vs ← itemValues? rest
    pure (v :: vs)

/-- The names and values of the members of an object. -/
def memberValues? : List (Member Term) → Option (List (String × Value))
  | [] => some []
  | ⟨_, name, _, ⟨_, t, _⟩⟩ :: rest => do
    let s ← text? name
    let v ← t.value?
    let vs ← memberValues? rest
    pure ((s, v) :: vs)

end

/-- The members of an object, each with the text that its name spells. -/
def named? (members : List (Member Term)) : Option (List (String × Term)) :=
  members.mapM fun m => (text? m.name).map fun name => (name, m.item.term)

/-- The members of a term that is an object. -/
def Term.members? : Term → Option (List (String × Term))
  | .object _ members => named? members
  | _ => none

mutual

/-- How many arrays and objects are open where a value is nested deepest. -/
def Term.depth : Term → Nat
  | .array _ items => itemDepth items + 1
  | .object _ members => memberDepth members + 1
  | _ => 0

def itemDepth : List (Item Term) → Nat
  | [] => 0
  | ⟨_, t, _⟩ :: rest => max t.depth (itemDepth rest)

def memberDepth : List (Member Term) → Nat
  | [] => 0
  | ⟨_, _, _, ⟨_, t, _⟩⟩ :: rest => max t.depth (memberDepth rest)

end

end Commissioning.Json.Grammar
