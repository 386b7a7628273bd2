import Commissioning.Binary64
import Commissioning.Text.Hex

set_option autoImplicit false

/-! # JSON values

The values of JSON, with the members of an object in the order of the text and repetitions kept,
and two ways to write them: on one line, or with two blanks of indentation a level. -/

namespace Commissioning.Json

/-- A number: an exact integer where it fits a word of 64 bits, and a binary64 number otherwise. -/
inductive Number where
  | integer (n : Int)
  | real (x : Binary64)
  deriving DecidableEq, Repr

/-- A JSON value. -/
inductive Value where
  | null
  | boolean (b : Bool)
  | number (n : Number)
  | text (s : String)
  | array (items : List Value)
  | object (members : List (String × Value))

namespace Value

/-- A natural number as a value. -/
def ofNat (n : Nat) : Value :=
  .number (.integer n)

/-- A list of texts as a value. -/
def ofTexts (texts : List String) : Value :=
  .array (texts.map .text)

/-- The value of the last member with a name. -/
def member? (name : String) (members : List (String × Value)) : Option Value :=
  (members.reverse.find? fun m => m.1 == name).map (·.2)

end Value

/-! ## Writing -/

/-- One character of a written text. -/
def writtenChar (c : Char) : List Char :=
  match c with
  | '"' => ['\\', '"']
  | '\\' => ['\\', '\\']
  | '\x08' => ['\\', 'b']
  | '\x0c' => ['\\', 'f']
  | '\n' => ['\\', 'n']
  | '\r' => ['\\', 'r']
  | '\t' => ['\\', 't']
  | c =>
    if c.toNat < 0x20 then
      ['\\', 'u', '0', '0', Text.hexDigit (c.toNat / 16), Text.hexDigit c.toNat]
    else [c]

/-- A text between quotes, with the quote, the backslash and the controls escaped. -/
def writtenText (s : String) : List Char :=
  '"' :: s.toList.flatMap writtenChar ++ ['"']

/-- A number as it is written. -/
def Number.written : Number → List Char
  | .integer n => (Text.ofInt n).toList
  | .real x => x.text.toList

mutual

/-- A value on one line, without blanks. -/
def Value.written : Value → List Char
  | .null => ['n', 'u', 'l', 'l']
  | .boolean true => ['t', 'r', 'u', 'e']
  | .boolean false => ['f', 'a', 'l', 's', 'e']
  | .number n => n.written
  | .text s => writtenText s
  | .array [] => ['[', ']']
  | .array (v :: items) => '[' :: v.written ++ writtenItems items
  | .object [] => ['{', '}']
  | .object ((name, v) :: members) =>
    '{' :: writtenText name ++ ':' :: v.written ++ writtenMembers members

/-- The elements after the first one, and the bracket. -/
def writtenItems : List Value → List Char
  | [] => [']']
  | v :: items => ',' :: v.written ++ writtenItems items

/-- The members after the first one, and the brace. -/
def writtenMembers : List (String × Value) → List Char
  | [] => ['}']
  | (name, v) :: members =>
    ',' :: writtenText name ++ ':' :: v.written ++ writtenMembers members

end

/-- The text of a value on one line. -/
def Value.compact (v : Value) : String :=
  String.ofList v.written

/-- A new line with its indentation. -/
def newLine (depth : Nat) : List Char :=
  '\n' :: List.replicate (2 * depth) ' '

mutual

/-- A value with every element and member on a line of its own. -/
def Value.indented (depth : Nat) : Value → List Char
  | .array (v :: items) =>
    '[' :: newLine (depth + 1) ++ v.indented (depth + 1) ++ indentedItems depth items
  | .object ((name, v) :: members) =>
    '{' :: newLine (depth + 1) ++ writtenText name ++ ':' :: ' ' :: v.indented (depth + 1)
      ++ indentedMembers depth members
  | .array [] => ['[', ']']
  | .object [] => ['{', '}']
  | .null => ['n', 'u', 'l', 'l']
  | .boolean true => ['t', 'r', 'u', 'e']
  | .boolean false => ['f', 'a', 'l', 's', 'e']
  | .number n => n.written
  | .text s => writtenText s

/-- The elements after the first one, each on a line, and the bracket. -/
def indentedItems (depth : Nat) : List Value → List Char
  | [] => newLine depth ++ [']']
  | v :: items =>
    ',' :: newLine (depth + 1) ++ v.indented (depth + 1) ++ indentedItems depth items

/-- The members after the first one, each on a line, and the brace. -/
def indentedMembers (depth : Nat) : List (String × Value) → List Char
  | [] => newLine depth ++ ['}']
  | (name, v) :: members =>
    ',' :: newLine (depth + 1) ++ writtenText name ++ ':' :: ' ' :: v.indented (depth + 1)
      ++ indentedMembers depth members

end

/-- The text of a value over several lines. -/
def Value.pretty (v : Value) : String :=
  String.ofList (v.indented 0)

end Commissioning.Json
