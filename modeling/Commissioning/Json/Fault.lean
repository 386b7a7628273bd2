import Commissioning.Json.Value
import Commissioning.Text.Quoted

set_option autoImplicit false

/-! # Faults in JSON

Why a text is no JSON, or is JSON of another shape than asked for, and where. A fault found while
reading carries the bytes that were left; its place is known once the whole text is. -/

namespace Commissioning.Json

/-- What a text ended in the middle of. -/
inductive Part where
  | value
  | list
  | object
  | string
  deriving DecidableEq, Repr

/-- What was found where something else was expected. -/
inductive Found where
  | null
  | boolean (b : Bool)
  | number (n : Number)
  | text (s : String)
  | sequence
  | map
  deriving DecidableEq, Repr

/-- Why a text was refused. -/
inductive Reason where
  | endOfText (inside : Part)
  | expectedColon
  | expectedCommaOrBracket
  | expectedCommaOrBrace
  | expectedIdentifier
  | expectedValue
  | invalidEscape
  | invalidNumber
  | numberOutOfRange
  | invalidCodePoint
  | controlCharacter
  | keyNotString
  | loneSurrogate
  | surrogateCutShort
  | trailingComma
  | trailingCharacters
  | nestedTooDeep
  /-- A value of another type. -/
  | mismatch (found : Found) (expected : String)
  /-- A value of the right type that does not fit. -/
  | unfit (found : Found) (expected : String)
  /-- A sequence with another number of elements. -/
  | wrongLength (found : Nat) (expected : String)
  | repeatedField (name : String)
  | missingField (name : String)
  | unknownVariant (name : String) (known : List String)
  /-- A value that none of the untagged variants of a type accepts. -/
  | noVariant (type : String)
  deriving DecidableEq, Repr

namespace Part

def text : Part → String
  | value => "a value"
  | list => "a list"
  | object => "an object"
  | string => "a string"

end Part

namespace Found

/-- How a message names what was found. -/
def message : Found → String
  | null => "null"
  | boolean true => "boolean `true`"
  | boolean false => "boolean `false`"
  | number (.integer n) => "integer `" ++ Text.ofInt n ++ "`"
  | number (.real x) => "floating point `" ++ x.text ++ "`"
  | text s => "string " ++ Text.quoted s
  | sequence => "sequence"
  | map => "map"

/-- What a message calls a value. -/
def ofValue : Value → Found
  | .null => .null
  | .boolean b => .boolean b
  | .number n => .number n
  | .text s => .text s
  | .array _ => .sequence
  | .object _ => .map

end Found

namespace Reason

/-- The names a variant may have, as a message lists them. -/
def oneOf : List String → String
  | [] => "there are no variants"
  | [a] => "expected `" ++ a ++ "`"
  | [a, b] => "expected `" ++ a ++ "` or `" ++ b ++ "`"
  | names => "expected one of " ++ ", ".intercalate (names.map fun n => "`" ++ n ++ "`")

/-- The wording of a reason. -/
def message : Reason → String
  | endOfText inside => "EOF while parsing " ++ inside.text
  | expectedColon => "expected `:`"
  | expectedCommaOrBracket => "expected `,` or `]`"
  | expectedCommaOrBrace => "expected `,` or `\x7d`"
  | expectedIdentifier => "expected ident"
  | expectedValue => "expected value"
  | invalidEscape => "invalid escape"
  | invalidNumber => "invalid number"
  | numberOutOfRange => "number out of range"
  | invalidCodePoint => "invalid unicode code point"
  | controlCharacter => "control character (\\u0000-\\u001F) found while parsing a string"
  | keyNotString => "key must be a string"
  | loneSurrogate => "lone leading surrogate in hex escape"
  | surrogateCutShort => "unexpected end of hex escape"
  | trailingComma => "trailing comma"
  | trailingCharacters => "trailing characters"
  | nestedTooDeep => "recursion limit exceeded"
  | mismatch found expected =>
    "invalid type: " ++ found.message ++ ", expected " ++ expected
  | unfit found expected => "invalid value: " ++ found.message ++ ", expected " ++ expected
  | wrongLength found expected =>
    "invalid length " ++ Text.ofNat found ++ ", expected " ++ expected
  | repeatedField name => "duplicate field `" ++ name ++ "`"
  | missingField name => "missing field `" ++ name ++ "`"
  | unknownVariant name known => "unknown variant `" ++ name ++ "`, " ++ oneOf known
  | noVariant type => "data did not match any variant of untagged enum " ++ type

end Reason

/-- A reason together with the bytes left when it arose. A fault about a whole value has no place
until the object or array around the value is closed. -/
structure Fault where
  reason : Reason
  rest : List UInt8
  placed : Bool
  deriving DecidableEq, Repr

/-! ## Places -/

/-- A place in a text: the line, counted from one, and the bytes of the line before the place. -/
structure Place where
  line : Nat
  column : Nat
  deriving DecidableEq, Repr

/-- The place behind a sequence of bytes. -/
def Place.after (bytes : List UInt8) : Place :=
  { line := bytes.count 10 + 1
    column := (bytes.reverse.takeWhile (· ≠ 10)).length }

/-- Why a whole text was refused, and where if that is known. -/
structure Error where
  reason : Reason
  place : Option Place
  deriving DecidableEq, Repr

/-- The wording of an error. -/
def Error.message (e : Error) : String :=
  match e.place with
  | none => e.reason.message
  | some p =>
    e.reason.message ++ " at line " ++ Text.ofNat p.line ++ " column " ++ Text.ofNat p.column

/-- The error that a fault is in the text it arose in. -/
def Fault.toError (text : List UInt8) (fault : Fault) : Error :=
  { reason := fault.reason
    place := if fault.placed then
        some (Place.after (text.take (text.length - fault.rest.length)))
      else none }

end Commissioning.Json
