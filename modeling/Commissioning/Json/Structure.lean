import Commissioning.Json.Numeral
import Commissioning.Json.Text

set_option autoImplicit false

/-! # Arrays, objects and values

The punctuation of arrays and objects, apart from what their elements and members are read as;
readers of whole values, and of values that are passed over. A value that is read may nest 127
arrays and objects; one that is passed over may nest any number. -/

namespace Commissioning.Json

open Reader

/-- How many arrays and objects may be open around a value. -/
def nesting : Nat := 127

/-! ## Punctuation -/

/-- Whether another element follows, from behind the bracket or the last element. The element is
left ahead, and so is the closing bracket. -/
def nextElement (first : Bool) : Reader Bool := do
  match ← peekToken with
  | none => failAhead (.endOfText .list)
  | some ']' => pure false
  | some c =>
    if first then pure true
    else if c = ',' then do
      advance
      match ← peekToken with
      | none => failAhead (.endOfText .value)
      | some ']' => failAhead .trailingComma
      | some _ => pure true
    else failAhead .expectedCommaOrBracket

/-- Whether another member follows, from behind the brace or the last member. The quote of its
name is left ahead, and so is the closing brace. -/
def nextMember (first : Bool) : Reader Bool := do
  match ← peekToken with
  | none => failAhead (.endOfText .object)
  | some '}' => pure false
  | some c =>
    if first then
      if c = '"' then pure true else failAhead .keyNotString
    else if c = ',' then do
      advance
      match ← peekToken with
      | none => failAhead (.endOfText .value)
      | some '"' => pure true
      | some '}' => failAhead .trailingComma
      | some _ => failAhead .keyNotString
    else failAhead .expectedCommaOrBrace

/-- The colon between a name and its value. -/
def colon : Reader Unit := do
  match ← peekToken with
  | none => failAhead (.endOfText .object)
  | some ':' => advance
  | some _ => failAhead .expectedColon

/-- The closing bracket. -/
def closeArray : Reader Unit := do
  match ← peekToken with
  | none => failAhead (.endOfText .list)
  | some ']' => advance
  | some ',' => do
    advance
    match ← peekToken with
    | some ']' => failAhead .trailingComma
    | _ => failAhead .trailingCharacters
  | some _ => failAhead .trailingCharacters

/-- The closing brace. -/
def closeObject : Reader Unit := do
  match ← peekToken with
  | none => failAhead (.endOfText .object)
  | some '}' => advance
  | some ',' => failAhead .trailingComma
  | some _ => failAhead .trailingCharacters

/-- Where reading stands after an attempt to close an array. -/
def pastArray (bytes : List UInt8) : List UInt8 :=
  match bytes.dropWhile isBlank with
  | 93 :: rest => rest
  | 44 :: rest => rest.dropWhile isBlank
  | rest => rest

/-- Where reading stands after an attempt to close an object. -/
def pastObject (bytes : List UInt8) : List UInt8 :=
  match bytes.dropWhile isBlank with
  | 125 :: rest => rest
  | rest => rest

/-- The inside of an array or object and then its end. A fault about the inside as a whole gets
the place where the end was looked for. -/
def enclosed {α : Type} (inside : Reader α) (close : Reader Unit)
    (past : List UInt8 → List UInt8) : Reader α := fun bytes =>
  match inside bytes with
  | .ok (a, rest) =>
    match close rest with
    | .ok (_, rest) => .ok (a, rest)
    | .error fault => .error fault
  | .error fault =>
    .error (if fault.placed then fault else ⟨fault.reason, past fault.rest, true⟩)

/-- The inside of an array, from its bracket to behind its end. -/
def inArray {α : Type} (inside : Reader α) : Reader α := do
  advance
  enclosed inside closeArray pastArray

/-- The inside of an object, from its brace to behind its end. -/
def inObject {α : Type} (inside : Reader α) : Reader α := do
  advance
  enclosed inside closeObject pastObject

/-! ## Elements and members -/

/-- The elements of an array up to its bracket, in at most the given number of steps. -/
def elementsWithin {α : Type} (element : Reader α) : Nat → Bool → Reader (List α)
  | 0, _ => failAhead (.endOfText .list)
  | fuel + 1, first => do
    if ← nextElement first then do
      let a ← element
      let rest ← elementsWithin element fuel false
      pure (a :: rest)
    else pure []

/-- The elements of an array up to its bracket. -/
def elements {α : Type} (element : Reader α) : Reader (List α) :=
  bounded fun fuel => elementsWithin element fuel true

/-- The name of a member, from its quote on. -/
def memberName : Reader String := do
  advance
  textBody

/-- The members of an object up to its brace, in at most the given number of steps; each takes
the state one step further. -/
def membersWithin {σ : Type} (member : σ → String → Reader σ) : Nat → Bool → σ → Reader σ
  | 0, _, _ => failAhead (.endOfText .object)
  | fuel + 1, first, s => do
    if ← nextMember first then do
      let name ← memberName
      let s ← member s name
      membersWithin member fuel false s
    else pure s

/-- The members of an object up to its brace; each takes the state one step further. -/
def members {σ : Type} (member : σ → String → Reader σ) (s : σ) : Reader σ :=
  bounded fun fuel => membersWithin member fuel true s

/-! ## Values -/

/-- A literal name, from its first letter on. -/
def literal {α : Type} (name : List Char) (a : α) : Reader α := do
  advance
  letters name
  pure a

/-- A number with its sign. -/
def signedNumber : Reader Number := do
  match ← peek with
  | some '-' => do
    advance
    number true
  | _ => number false

/-- A text with its quotes. -/
def quotedText : Reader String := do
  advance
  textBody

/-- A value whose elements and members are read as `inner`, if it may have any. -/
def valueWith (inner : Option (Reader Value)) : Reader Value := do
  match ← peekToken with
  | none => failAhead (.endOfText .value)
  | some 'n' => literal ['u', 'l', 'l'] .null
  | some 't' => literal ['r', 'u', 'e'] (.boolean true)
  | some 'f' => literal ['a', 'l', 's', 'e'] (.boolean false)
  | some '"' => do
    let s ← quotedText
    pure (.text s)
  | some '[' =>
    match inner with
    | none => failAhead .nestedTooDeep
    | some inner => do
      let items ← inArray (elements inner)
      pure (.array items)
  | some '{' =>
    match inner with
    | none => failAhead .nestedTooDeep
    | some inner => do
      let read ← inObject (members (fun (read : List (String × Value)) name => do
        colon
        let v ← inner
        pure (read ++ [(name, v)])) [])
      pure (.object read)
  | some c =>
    if c = '-' ∨ c.isDigit then do
      let n ← signedNumber
      pure (.number n)
    else failAhead .expectedValue

/-- A value in which the given number of arrays and objects may be nested. -/
def value : Nat → Reader Value
  | 0 => valueWith none
  | depth + 1 => valueWith (some (value depth))

/-- A value of another type than expected: what it is goes into the refusal. -/
def unexpected {α : Type} (expected : String) : Reader α := located do
  match ← peek with
  | some 'n' => do
    literal ['u', 'l', 'l'] ()
    failWhole (.mismatch .null expected)
  | some 't' => do
    literal ['r', 'u', 'e'] ()
    failWhole (.mismatch (.boolean true) expected)
  | some 'f' => do
    literal ['a', 'l', 's', 'e'] ()
    failWhole (.mismatch (.boolean false) expected)
  | some '"' => do
    let s ← quotedText
    failWhole (.mismatch (.text s) expected)
  | some '[' => failWhole (.mismatch .sequence expected)
  | some '{' => failWhole (.mismatch .map expected)
  | some c =>
    if c = '-' ∨ c.isDigit then do
      let n ← signedNumber
      failWhole (.mismatch (.number n) expected)
    else failAhead .expectedValue
  | none => failAhead .expectedValue

/-! ## Values passed over -/

mutual

/-- A value passed over, in at most the given number of steps. -/
def skipWithin : Nat → Reader Unit
  | 0 => failAhead (.endOfText .value)
  | fuel + 1 => do
    match ← peekToken with
    | none => failAhead (.endOfText .value)
    | some 'n' => literal ['u', 'l', 'l'] ()
    | some 't' => literal ['r', 'u', 'e'] ()
    | some 'f' => literal ['a', 'l', 's', 'e'] ()
    | some '"' => do
      advance
      skipText
    | some '[' => do
      advance
      match ← peekToken with
      | none => failAhead (.endOfText .list)
      | some ']' => advance
      | some _ => skipElements fuel
    | some '{' => do
      advance
      match ← peekToken with
      | none => failAhead (.endOfText .object)
      | some '}' => advance
      | some _ => skipMembers fuel
    | some '-' => do
      advance
      skipNumber
    | some c => if c.isDigit then skipNumber else failAhead .expectedValue

/-- The elements of an array passed over, one at least, and the bracket. -/
def skipElements : Nat → Reader Unit
  | 0 => failAhead (.endOfText .list)
  | fuel + 1 => do
    skipWithin fuel
    match ← peekToken with
    | none => failAhead (.endOfText .list)
    | some ',' => do
      advance
      skipElements fuel
    | some ']' => advance
    | some _ => failAhead .expectedCommaOrBracket

/-- The members of an object passed over, one at least, and the brace. -/
def skipMembers : Nat → Reader Unit
  | 0 => failAhead (.endOfText .object)
  | fuel + 1 => do
    match ← peekToken with
    | none => failAhead (.endOfText .object)
    | some '"' => do
      advance
      skipText
    | some _ => failAhead .keyNotString
    colon
    skipWithin fuel
    match ← peekToken with
    | none => failAhead (.endOfText .object)
    | some ',' => do
      advance
      skipMembers fuel
    | some '}' => advance
    | some _ => failAhead .expectedCommaOrBrace

end

/-- A value passed over. -/
def skip : Reader Unit :=
  bounded fun fuel => skipWithin (2 * fuel)

/-- The value of a whole text. -/
def parse (text : String) : Except Error Value :=
  (value nesting).read text

end Commissioning.Json
