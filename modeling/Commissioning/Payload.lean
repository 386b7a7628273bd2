import Commissioning.Base64
import Commissioning.Text.Utf8

set_option autoImplicit false

/-! # Payloads

A backend sends a document as Base64 text that may be broken into lines. Six ASCII blanks are
dropped wherever they stand; any other blank, U+00A0 for instance, is kept and makes the payload
invalid. -/

namespace Commissioning.Payload

/-- The ASCII blanks: space, tab, line feed, vertical tab, form feed and carriage return. -/
def isAsciiBlank (c : Char) : Bool :=
  c == ' ' || c == '\t' || c == '\n' || c == '\x0b' || c == '\x0c' || c == '\r'

/-- The payload without its ASCII blanks. -/
def strip (payload : String) : String :=
  String.ofList (payload.toList.filter fun c => !isAsciiBlank c)

theorem toList_strip (payload : String) :
    (strip payload).toList = payload.toList.filter fun c => !isAsciiBlank c := by
  simp [strip]

/-- The bytes that a payload stands for. -/
def decode (payload : String) : Except Base64.Fault (List UInt8) :=
  Base64.decode (Text.encodeUtf8 (strip payload))

end Commissioning.Payload
