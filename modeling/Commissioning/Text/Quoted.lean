import Commissioning.Text.Hex
import Commissioning.Text.Printable

set_option autoImplicit false

/-! # Quoted text

How a text is shown inside a message: between double quotes, with short escapes for the quote, the
backslash and the common controls, and with the code point of every other character that is not
printable. -/

namespace Commissioning.Text

/-- One character of a quoted text. -/
def quotedChar (c : Char) : List Char :=
  match c with
  | '"' => ['\\', '"']
  | '\\' => ['\\', '\\']
  | '\n' => ['\\', 'n']
  | '\r' => ['\\', 'r']
  | '\t' => ['\\', 't']
  | '\x00' => ['\\', '0']
  | c => if isPrintable c then [c] else '\\' :: 'u' :: '{' :: hexadecimal c.toNat ++ ['}']

/-- The text between double quotes. -/
def quoted (s : String) : String :=
  String.ofList ('"' :: s.toList.flatMap quotedChar ++ ['"'])

end Commissioning.Text
