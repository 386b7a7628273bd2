import Commissioning.Text.Utf8
import Commissioning.Url.Domain.Direction
import Commissioning.Url.Domain.Joining
import Commissioning.Url.Domain.Mapping
import Commissioning.Url.Punycode

set_option autoImplicit false

/-! # Domain names

The ASCII form of a domain name. Its characters are mapped and composed, and every label with
characters outside ASCII is written in Punycode. A label that is in Punycode already has to decode
to one that needs no mapping. -/

namespace Commissioning.Url

/-- The ASCII characters that no domain name has. -/
def isForbiddenInDomain (c : Char) : Bool :=
  c.toNat ≤ 0x20 || c.toNat == 0x7F
    || ['%', '#', '/', ':', '<', '>', '?', '@', '[', '\\', ']', '^', '|'].contains c

/-- Whether a character is in ASCII. -/
def isAscii (c : Char) : Bool :=
  c.toNat < 128

/-- The characters of a name, mapped and composed. -/
def normalized (cs : List Char) : Option (List Char) := do
  let mapped ← cs.mapM mapChar
  let cs := composed mapped.flatten
  if cs.any isForbiddenInDomain then none else some cs

/-- What the labels start with that are in Punycode. -/
def punycodeMark : List Char := ['x', 'n', '-', '-']

/-- The number of characters up to which labels are decoded. -/
def longestEncoded : Nat := 2000

/-- The number of characters up to which labels are encoded. -/
def longestDecoded : Nat := 1000

/-- A label with its Punycode resolved. What it resolves to has to be in composed form and made of
valid characters. -/
def decodedLabel (label : List Char) : Option (List Char) :=
  if !punycodeMark.isPrefixOf label then some label
  else
    let text := label.drop 4
    if text.any (!isAscii ·) || text.getLast? == none || text.getLast? == some '-'
        || longestEncoded < text.length then none
    else do
      let decoded ← Punycode.decode text
      if decoded.all isValid && !decoded.any isForbiddenInDomain && composed decoded == decoded then
        some decoded
      else none

/-- Whether a label starts and continues as a label may. -/
def isProper (label : List Char) : Bool :=
  !(label.head?.any isMark) && joinersFit [] label
    && (label.all isAscii || label.length ≤ longestDecoded)

/-- The ASCII form of a label. -/
def labelToAscii (label : List Char) : List Char :=
  if label.all isAscii then label else punycodeMark ++ Punycode.encode label

/-- The ASCII form of a domain name given in UTF-8. -/
def domainToAscii (bytes : List UInt8) : Option (List Char) := do
  let cs ← Text.decodeChars bytes
  let cs ← normalized cs
  let labels ← (Text.pieces '.' cs).mapM decodedLabel
  if !labels.all isProper then none
  else if labels.any (·.any fun c => (Direction.of c).isBackward) && !labels.all keepsLook then
    none
  else some (Text.joinPieces '.' (labels.map labelToAscii))

end Commissioning.Url
