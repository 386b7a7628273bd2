import Commissioning.Json.Structure

set_option autoImplicit false

/-! # Typed readers

Readers for texts, lists, optional values, names out of a list, and records. A record is written
as an object with a member for each field, in any order and with other members between them, or
as an array of the fields in their order. No field may be repeated. -/

namespace Commissioning.Json

open Reader

/-! ## Texts, lists and optional values -/

/-- A text. -/
def textAs (expected : String) : Reader String := do
  match ← peekToken with
  | none => failAhead (.endOfText .value)
  | some '"' => quotedText
  | some _ => unexpected expected

/-- A text, called a string in messages. -/
def text : Reader String :=
  textAs "a string"

/-- A file path. -/
def path : Reader String :=
  textAs "path string"

/-- A value or `null`. -/
def optional {α : Type} (r : Reader α) : Reader (Option α) := do
  match ← peekToken with
  | some 'n' => literal ['u', 'l', 'l'] none
  | _ => do
    let a ← r
    pure (some a)

/-- A list of texts. -/
def texts : Reader (List String) := do
  match ← peekToken with
  | none => failAhead (.endOfText .value)
  | some '[' => inArray (elements text)
  | some _ => unexpected "a sequence"

/-! ## Names out of a list -/

/-- The variant with a name. -/
def variantNamed {α : Type} (variants : List (String × α)) (name : String) : Reader α :=
  match variants.find? fun v => v.1 == name with
  | some v => pure v.2
  | none => fail (.unknownVariant name (variants.map (·.1)))

/-- One of several names, as a text or as the single member of an object whose value is null. -/
def variant {α : Type} (variants : List (String × α)) : Reader α := do
  match ← peekToken with
  | none => failAhead (.endOfText .value)
  | some '"' => do
    let name ← quotedText
    variantNamed variants name
  | some '{' => do
    advance
    let a ← match ← peekToken with
      | none => failAhead (.endOfText .value)
      | some '"' => do
        let name ← quotedText
        variantNamed variants name
      | some _ => unexpected "variant identifier"
    colon
    match ← peekToken with
    | none => failAhead (.endOfText .value)
    | some 'n' => literal ['u', 'l', 'l'] ()
    | some _ => unexpected "unit"
    match ← peekToken with
    | none => fail (.endOfText .object)
    | some '}' => do
      advance
      pure a
    | some _ => fail .expectedValue
  | some _ => failAhead .expectedValue

/-! ## Records -/

/-- A field of a record that is read into a state: its name, whether the state has it already,
how its value is read, and whether it has to be there. -/
structure Field (σ : Type) where
  name : String
  required : Bool
  present : σ → Bool
  read : σ → Reader σ

/-- A field with a lens on the state. -/
def Field.ofLens {σ β : Type} (name : String) (required : Bool) (get : σ → Option β)
    (set : σ → β → σ) (r : Reader β) : Field σ :=
  { name := name
    required := required
    present := fun s => (get s).isSome
    read := fun s => do
      let b ← r
      pure (set s b) }

/-- A member of an object read into the state: a field, once, or a value passed over. -/
def fieldMember {σ : Type} (fields : List (Field σ)) (s : σ) (name : String) : Reader σ :=
  match fields.find? fun f => f.name == name with
  | some f =>
    if f.present s then failWhole (.repeatedField name)
    else do
      colon
      f.read s
  | none => do
    colon
    skip
    pure s

/-- The first field that has to be there and is not. -/
def missing? {σ : Type} (fields : List (Field σ)) (s : σ) : Option String :=
  (fields.find? fun f => f.required && !f.present s).map (·.name)

/-- The fields from the members of an object. -/
def fieldsOfMembers {σ : Type} (fields : List (Field σ)) (start : σ) : Reader σ := do
  let s ← members (fieldMember fields) start
  match missing? fields s with
  | some name => failWhole (.missingField name)
  | none => pure s

/-- The fields from the elements of an array. -/
def fieldsOfElements {σ : Type} (expected : String) :
    Nat → List (Field σ) → σ → Reader σ
  | _, [], s => pure s
  | i, f :: fields, s => do
    if ← nextElement (i == 0) then do
      let s ← f.read s
      fieldsOfElements expected (i + 1) fields s
    else if f.required then failWhole (.wrongLength i expected)
    else fieldsOfElements expected (i + 1) fields s

/-- How a message names the array form of a record. -/
def elementForm (type : String) (count : Nat) : String :=
  type ++ " with " ++ Text.ofNat count ++ (if count = 1 then " element" else " elements")

/-- A record, from its fields and the state before any of them. -/
def record {σ : Type} (type : String) (fields : List (Field σ)) (start : σ) : Reader σ := do
  match ← peekToken with
  | none => failAhead (.endOfText .value)
  | some '{' => inObject (fieldsOfMembers fields start)
  | some '[' =>
    inArray (fieldsOfElements (elementForm type fields.length) 0 fields start)
  | some _ => unexpected type

end Commissioning.Json
