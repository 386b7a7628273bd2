import Commissioning.Text.Hex
import Commissioning.Text.Utf8

set_option autoImplicit false

/-! # Percent encoding

A character that may not stand in some part of a URL is written as the bytes of its UTF-8 form,
each as a percent sign and two hexadecimal digits. Every part has a set of ASCII characters of its
own; characters outside ASCII are always encoded. -/

namespace Commissioning.Url

/-- The controls. -/
def isControl (c : Char) : Bool :=
  c.toNat < 0x20 || c.toNat == 0x7F

/-- The characters encoded in a fragment. -/
def fragmentSet (c : Char) : Bool :=
  isControl c || [' ', '"', '<', '>', '`'].contains c

/-- The characters encoded in a path. -/
def pathSet (c : Char) : Bool :=
  fragmentSet c || ['#', '?', '{', '}'].contains c

/-- The characters encoded in a user name or a password. -/
def userInfoSet (c : Char) : Bool :=
  pathSet c || ['/', ':', ';', '=', '@', '[', '\\', ']', '^', '|'].contains c

/-- The characters encoded in a query. -/
def querySet (c : Char) : Bool :=
  isControl c || [' ', '"', '#', '<', '>'].contains c

/-- The characters encoded in the query of a special scheme. -/
def specialQuerySet (c : Char) : Bool :=
  querySet c || c == '\''

/-- A byte as a percent sign and two digits. -/
def percentByte (b : UInt8) : List Char :=
  ['%', Text.hexDigitUpper (b.toNat / 16), Text.hexDigitUpper b.toNat]

/-- A character in a part with the given set. -/
def encodeChar (set : Char → Bool) (c : Char) : List Char :=
  if 0x80 ≤ c.toNat || set c then (Text.encodeChar c).flatMap percentByte else [c]

/-- Characters in a part with the given set. -/
def percentEncode (set : Char → Bool) (cs : List Char) : List Char :=
  cs.flatMap (encodeChar set)

/-- The value of a hexadecimal digit given as a byte. -/
def hexByte (b : UInt8) : Option Nat :=
  Text.hexValue (Char.ofNat b.toNat)

/-- The bytes with every encoded one resolved; a percent sign without two digits stays. -/
def percentDecode : List UInt8 → List UInt8
  | 37 :: a :: b :: rest =>
    match hexByte a, hexByte b with
    | some x, some y => UInt8.ofNat (16 * x + y) :: percentDecode rest
    | _, _ => 37 :: percentDecode (a :: b :: rest)
  | b :: rest => b :: percentDecode rest
  | [] => []

end Commissioning.Url
