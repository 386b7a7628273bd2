set_option autoImplicit false

/-! # Base64

The standard alphabet, sixty-four symbols of six bits each. Decoding takes whole groups of four
symbols and a last group of two to four; padding is optional, and the bits of the last symbol
that do not fill a byte are ignored. Every refusal says which byte was at fault and where.
Encoding always pads. -/

namespace Commissioning.Base64

/-- Why a sequence of bytes is no Base64. -/
inductive Fault where
  /-- A byte that may not stand at this offset. -/
  | symbol (value : UInt8) (offset : Nat)
  /-- A last group of a single symbol, which holds less than a byte. -/
  | length (symbols : Nat)
  deriving DecidableEq, Repr

/-- The padding sign `=`. -/
def pad : UInt8 := 61

/-- The six bits that a symbol of the alphabet stands for. -/
def sextet? (b : UInt8) : Option Nat :=
  let n := b.toNat
  if 65 ≤ n ∧ n ≤ 90 then some (n - 65)
  else if 97 ≤ n ∧ n ≤ 122 then some (n - 71)
  else if 48 ≤ n ∧ n ≤ 57 then some (n + 4)
  else if n = 43 then some 62
  else if n = 47 then some 63
  else none

/-- The symbol that stands for six bits. -/
def symbol (n : Nat) : UInt8 :=
  if n < 26 then UInt8.ofNat (n + 65)
  else if n < 52 then UInt8.ofNat (n + 71)
  else if n < 62 then UInt8.ofNat (n - 4)
  else if n = 62 then 43
  else 47

theorem sextet?_lt {b : UInt8} {n : Nat} (h : sextet? b = some n) : n < 64 := by
  simp only [sextet?] at h
  grind

theorem sextet?_pad : sextet? pad = none := by decide

/-! ## Decoding -/

/-- The six bits of the symbol at `offset`. -/
def sextetAt (offset : Nat) (b : UInt8) : Except Fault Nat :=
  match sextet? b with
  | some n => .ok n
  | none => .error (.symbol b offset)

/-- The three bytes of a group of four symbols. -/
def bytesOfGroup (a b c d : Nat) : List UInt8 :=
  [UInt8.ofNat (a * 4 + b / 16), UInt8.ofNat (b % 16 * 16 + c / 4), UInt8.ofNat (c % 4 * 64 + d)]

/-- The six bits of each symbol in the last group. Padding may follow two symbols or more, and
nothing but padding may follow padding. -/
def lastSextets (offset : Nat) (read : List Nat) : List UInt8 → Except Fault (List Nat)
  | [] => .ok read
  | b :: rest =>
    let here := offset + read.length
    if b = pad then
      if read.length < 2 ∨ ¬ rest.all (· == pad) then .error (.symbol pad here) else .ok read
    else do
      let n ← sextetAt here b
      lastSextets offset (read ++ [n]) rest

/-- The bytes of the last group: six bits short of a whole number of bytes are dropped. -/
def decodeLast (offset : Nat) (group : List UInt8) : Except Fault (List UInt8) := do
  match ← lastSextets offset [] group with
  | [] => .ok []
  | [_] => .error (.length (offset + 1))
  | [a, b] => .ok ((bytesOfGroup a b 0 0).take 1)
  | [a, b, c] => .ok ((bytesOfGroup a b c 0).take 2)
  | a :: b :: c :: d :: _ => .ok (bytesOfGroup a b c d)

/-- The bytes of the groups that start at `offset`. A group of four symbols with more behind it
holds no padding. -/
def decodeGroups (offset : Nat) : List UInt8 → Except Fault (List UInt8)
  | a :: b :: c :: d :: e :: rest => do
    let a ← sextetAt offset a
    let b ← sextetAt (offset + 1) b
    let c ← sextetAt (offset + 2) c
    let d ← sextetAt (offset + 3) d
    let bytes ← decodeGroups (offset + 4) (e :: rest)
    .ok (bytesOfGroup a b c d ++ bytes)
  | group => decodeLast offset group

/-- A single byte left over at the very end that is neither a symbol nor padding, such as a line
break; it is reported before anything else. -/
def strayEnd? (text : List UInt8) : Option Fault :=
  if text.length % 4 = 1 then
    match text.getLast? with
    | some b => if b ≠ pad ∧ (sextet? b).isNone then some (.symbol b (text.length - 1)) else none
    | none => none
  else none

/-- The bytes that a Base64 text stands for. -/
def decode (text : List UInt8) : Except Fault (List UInt8) :=
  match strayEnd? text with
  | some fault => .error fault
  | none => decodeGroups 0 text

/-! ## Encoding -/

/-- The Base64 text of a byte sequence, padded to whole groups. -/
def encode : List UInt8 → List UInt8
  | [] => []
  | [a] =>
    [symbol (a.toNat / 4), symbol (a.toNat % 4 * 16), pad, pad]
  | [a, b] =>
    [symbol (a.toNat / 4), symbol (a.toNat % 4 * 16 + b.toNat / 16),
      symbol (b.toNat % 16 * 4), pad]
  | a :: b :: c :: rest =>
    symbol (a.toNat / 4) :: symbol (a.toNat % 4 * 16 + b.toNat / 16)
      :: symbol (b.toNat % 16 * 4 + c.toNat / 64) :: symbol (c.toNat % 64) :: encode rest

end Commissioning.Base64
