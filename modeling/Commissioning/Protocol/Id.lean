import Commissioning.Json.Record
import Commissioning.Text.Blank
import Commissioning.Text.Decimal

set_option autoImplicit false

/-! # Protocol ids

The token that a backend hands out for a setup protocol: a number of 64 bits or a text. A token
typed by a person is a number when it is made of digits and fits, and a text otherwise; in JSON
the two are told apart by their type. -/

namespace Commissioning.Protocol

/-- The token of a setup protocol. -/
inductive Id where
  | number (n : UInt64)
  | text (s : String)
  deriving DecidableEq, Repr

namespace Id

/-- The token as it is shown. -/
def display : Id → String
  | number n => Text.ofNat n.toNat
  | text s => s

/-- The token that a typed text stands for; blanks alone stand for none. -/
def parse? (typed : String) : Option Id :=
  let s := Text.trim typed
  if s.isEmpty then none
  else
    match Text.readDecimal s.toList with
    | some n => if n < Nat.pow 2 64 then some (number (UInt64.ofNat n)) else some (text s)
    | none => some (text s)

/-- Why a typed text stands for no token. -/
def blankMessage : String := "Protocol id must not be empty"

/-! ## JSON -/

/-- A token as JSON. -/
def toJson : Id → Json.Value
  | number n => .ofNat n.toNat
  | text s => .text s

/-- The token that a JSON value is. -/
def ofJson? : Json.Value → Option Id
  | .number (.integer n) =>
    if 0 ≤ n ∧ n < Nat.pow 2 64 then some (number (UInt64.ofNat n.toNat)) else none
  | .text s => some (text s)
  | _ => none

/-- Every token is read back from its JSON value. -/
theorem ofJson?_toJson (id : Id) : ofJson? id.toJson = some id := by
  cases id with
  | text s => rfl
  | number n =>
    have hlt : ((n.toNat : Nat) : Int) < 18446744073709551616 := by
      have := n.toNat_lt
      omega
    simp [toJson, Json.Value.ofNat, ofJson?, hlt]

/-- A token in JSON, inside which the given number of arrays and objects may be nested. -/
def reader (depth : Nat) : Json.Reader Id := do
  let v ← Json.value depth
  match ofJson? v with
  | some id => pure id
  | none => Json.Reader.failWhole (.noVariant "ProtocolId")

end Id

end Commissioning.Protocol
