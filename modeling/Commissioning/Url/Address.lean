import Commissioning.Text.Decimal
import Commissioning.Text.Hex
import Commissioning.Text.Pieces

set_option autoImplicit false

/-! # Numeric addresses

Addresses of version 4, written as one to four numbers in decimal, octal or hexadecimal, and
addresses of version 6, written as up to eight groups of hexadecimal digits. -/

namespace Commissioning.Url

/-! ## Version 4 -/

/-- The digits of a number and their base. -/
def numberForm : List Char → List Char × Nat
  | '0' :: 'x' :: digits => (digits, 16)
  | '0' :: 'X' :: digits => (digits, 16)
  | '0' :: d :: digits => (d :: digits, 8)
  | digits => (digits, 10)

/-- The number that one part of an address writes. -/
def addressNumber (part : List Char) : Option Nat :=
  if part.isEmpty then none
  else
    let (digits, base) := numberForm part
    digits.foldlM (fun n c => do
      let d ← Text.hexValue c
      if d < base then some (n * base + d) else none) 0

/-- The parts of an address; a dot at the very end is ignored. -/
def addressParts (text : List Char) : List (List Char) :=
  match (Text.pieces '.' text).reverse with
  | [] :: rest@(_ :: _) => rest.reverse
  | parts => parts.reverse

/-- Whether the last part of a name is a number, which makes the name an address. -/
def endsInNumber (text : List Char) : Bool :=
  match (addressParts text).getLast? with
  | none => false
  | some last =>
    (!last.isEmpty && last.all Text.isDecimal) || (addressNumber last).isSome

/-- The address of version 4 that a text writes. The last number fills the bytes left over by the
others, which have to fit a byte each. -/
def address4 (text : List Char) : Option Nat := do
  let parts := addressParts text
  if 4 < parts.length then none
  let numbers ← parts.mapM addressNumber
  let last ← numbers.getLast?
  let heads := numbers.dropLast
  if Nat.pow 256 (4 - heads.length) ≤ last || heads.any (255 < ·) then none
  else some (heads.foldr (fun n rest => n * Nat.pow 256 3 + rest / 256) 0 + last)

/-- An address of version 4 as four decimal numbers. -/
def address4Text (n : Nat) : List Char :=
  let byte (i : Nat) : List Char := Text.decimal (n / Nat.pow 256 i % 256)
  byte 3 ++ '.' :: byte 2 ++ '.' :: byte 1 ++ '.' :: byte 0

/-! ## Version 6 -/

/-- The groups read so far, and the number of them before the gap of zeros. -/
structure Groups where
  values : List Nat
  gap : Option Nat

/-- One of the four numbers of a dotted ending: at most 255, without leading zeros. -/
def dottedNumber (digits : List Char) : Option Nat := do
  let n ← Text.readDecimal digits
  if 255 < n || (1 < digits.length && digits.head? == some '0') then none else some n

/-- The two groups of a dotted ending. -/
def dottedGroups (text : List Char) : Option (List Nat) := do
  match ← (Text.pieces '.' text).mapM dottedNumber with
  | [a, b, c, d] => some [a * 256 + b, c * 256 + d]
  | _ => none

/-- The groups of an address, from one group on, in at most the given number of steps. -/
def groupsWithin : Nat → Groups → List Char → Option Groups
  | _, read, [] => some read
  | 0, _, _ :: _ => none
  | fuel + 1, read, text@(c :: rest) =>
    if 8 ≤ read.values.length then none
    else if c = ':' then
      if read.gap.isSome then none
      else groupsWithin fuel ⟨read.values ++ [0], some (read.values.length + 1)⟩ rest
    else
      let digits := (text.take 4).takeWhile fun c => (Text.hexValue c).isSome
      let value := digits.foldl (fun n c => n * 16 + (Text.hexValue c).getD 0) 0
      let next : Groups := { read with values := read.values ++ [value] }
      match text.drop digits.length with
      | [] => some next
      | ':' :: [] => none
      | ':' :: after => groupsWithin fuel next after
      | '.' :: _ =>
        if digits.isEmpty || 6 < read.values.length then none
        else do
          let ending ← dottedGroups text
          some { read with values := read.values ++ ending }
      | _ => none

/-- The eight groups of an address of version 6. -/
def address6 (text : List Char) : Option (List Nat) := do
  let read ←
    match text with
    | ':' :: ':' :: rest => groupsWithin text.length ⟨[0], some 1⟩ rest
    | ':' :: _ => none
    | [] => none
    | [_] => none
    | _ => groupsWithin text.length ⟨[], none⟩ text
  match read.gap with
  | some gap =>
    if 8 < read.values.length then none
    else some (read.values.take gap ++ List.replicate (8 - read.values.length) 0
      ++ read.values.drop gap)
  | none => if read.values.length = 8 then some read.values else none

/-- The start and the length of the first of the longest runs of zero groups, if it has two groups
or more. -/
def longestGap (groups : List Nat) : Option (Nat × Nat) :=
  let runs := (List.range groups.length).map fun i =>
    (i, ((groups.drop i).takeWhile (· = 0)).length)
  let best := runs.foldl (fun best run => if best.2 < run.2 then run else best) (0, 0)
  if 2 ≤ best.2 then some best else none

/-- Groups with colons between them. -/
def groupsText (groups : List Nat) : List Char :=
  (groups.map Text.hexadecimal).intersperse [':'] |>.flatten

/-- An address of version 6, with its longest run of zero groups left out. -/
def address6Text (groups : List Nat) : List Char :=
  match longestGap groups with
  | some (start, length) =>
    groupsText (groups.take start) ++ ':' :: ':' :: groupsText (groups.drop (start + length))
  | none => groupsText groups

end Commissioning.Url
