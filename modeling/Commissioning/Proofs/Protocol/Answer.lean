import Commissioning.Proofs.Json.Taken.Slots
import Commissioning.Protocol.Reply

set_option autoImplicit false

/-! # What an answer means

The answer to a remote call as a function of the JSON value that the body stands for. An error
counts by its code and its message, a result by its payload, and null counts as neither. -/

namespace Commissioning.Protocol

open Json Json.Reader Json.Grammar

/-! ## Errors of a call -/

namespace CallError

/-- The integer of 64 bits with a sign that a value is. -/
def integer? : Value → Option Int
  | .number (.integer n) =>
    if -9223372036854775808 ≤ n ∧ n ≤ 9223372036854775807 then some n else none
  | _ => none

theorem recognises_integer : Recognises Eq integer fun _ _ => True := by
  intro bytes n rest h
  rw [integer, bind_eq_ok] at h
  obtain ⟨ahead, mid, hpeek, h⟩ := h
  obtain ⟨blanks, rfl, -⟩ := peekToken_eq_ok hpeek
  split at h
  · exact absurd h (by simp)
  · split at h
    · rw [bind_eq_ok] at h
      obtain ⟨x, mid', hnumber, h⟩ := h
      obtain ⟨form, rfl, -⟩ := signedNumber_eq_ok hnumber
      refine ⟨blanks, .number form, ?_, trivial⟩
      split at h
      · split at h
        · obtain ⟨-, rfl⟩ := pure_eq_ok.mp h
          rfl
        · exact absurd h (by simp)
      · exact absurd h (by simp)
    · exact absurd h unexpected_ne_ok

theorem means_integer (depth : Nat) : Means depth (fun _ => True) integer integer? := by
  intro t v hstands _ blanks rest hrest
  obtain ⟨b, tail, hbytes, hb⟩ := Term.announces hstands.1
  have hahead := peekToken_cons blanks hb.notBlank (tail ++ rest)
  by_cases hnumber : ∃ x, v = .number x
  · obtain ⟨x, rfl⟩ := hnumber
    obtain ⟨form, rfl, hform⟩ := Term.value?_eq_number hstands.1
    have hread := signedNumber_bytes hform hrest
    obtain ⟨b', tail', hform', -, hstart⟩ := form.bytes_eq_cons
    rw [Term.bytes] at hbytes ⊢
    obtain ⟨rfl, rfl⟩ := List.cons.inj (hbytes.symm.trans hform')
    rw [hbytes, List.cons_append] at hread ⊢
    rw [integer, bind_of_ok hahead]
    simp only [hstart, if_true]
    rw [bind_of_ok hread]
    cases x with
    | integer n =>
      simp only [integer?]
      split <;> rfl
    | real x => rfl
  · have hnone : integer? v = none := by
      cases v with
      | number x => exact absurd ⟨x, rfl⟩ hnumber
      | _ => rfl
    have hstart : ¬ (charOfByte b = '-' ∨ (charOfByte b).isDigit = true) :=
      fun h => hnumber (hb.number h)
    rw [hbytes, List.cons_append, hnone, integer, bind_of_ok hahead]
    simp only [hstart, if_false]
    exact toOption_unexpected "i64" _

/-- The fields of an error as two slots. -/
def slots : Slots Draft Int String where
  make code message := { code := code, message := message }
  getFirst := (·.code)
  setFirst d n := { d with code := some n }
  getSecond := (·.message)
  setSecond d s := { d with message := some s }
  getFirst_make _ _ := rfl
  setFirst_make _ _ _ := rfl
  getSecond_make _ _ := rfl
  setSecond_make _ _ _ := rfl

def codeSlot : Slot Int where
  name := "code"
  required := true
  read := integer
  meaning := integer?
  domain _ := True

def messageSlot : Slot String where
  name := "message"
  required := true
  read := Json.text
  meaning := Value.text?
  domain _ := True

/-- An error whose fields have all been read. -/
def ofDraft (d : Draft) : CallError where
  code := d.code.getD 0
  message := d.message.getD ""

/-- The error that a value is. -/
def ofValue? (v : Value) : Option CallError :=
  (slots.meaning codeSlot messageSlot v).map ofDraft

theorem ofValue?_object (fields : List (String × Value)) :
    ofValue? (.object fields)
      = ((Value.member? "code" fields).bind integer?).bind fun code =>
        ((Value.member? "message" fields).bind Value.text?).map fun message =>
          { code := code, message := message } := by
  rw [ofValue?, Slots.meaning_required rfl rfl, Option.map_bind]
  simp only [Function.comp_def, Option.map_map]
  rfl

/-- Whether a value can be told to be an error: it is no array and repeats no member. -/
def domain : Value → Prop :=
  Slots.domain codeSlot messageSlot

theorem recognises_reader : Recognises Mended reader fun _ _ => True :=
  ((Slots.recognises_record slots codeSlot messageSlot (by decide)
    (recognises_integer.of_eq likeness_mended)
    ((recognises_textAs _).of_eq likeness_mended) "struct JsonRpcError").map ofDraft).mono
      fun _ _ _ => trivial

theorem means_reader (depth : Nat) : Means (depth + 1) domain reader ofValue? :=
  (Slots.means_record slots codeSlot messageSlot (by decide)
    (means_integer depth) (means_textAs depth _) "struct JsonRpcError").map ofDraft

end CallError

/-! ## Members that are given -/

/-- The member of an object with a name, where null counts as none. -/
def given? (name : String) (members : List (String × Value)) : Option Value :=
  match Value.member? name members with
  | some .null => none
  | found => found

theorem getD_filled_optional {α : Type} (f : Value → Option α) (name : String)
    (members : List (String × Value)) :
    (filled (Value.optional? f) none (Value.member? name members)).map (·.getD none)
      = match given? name members with
        | none => some none
        | some v => (f v).map some := by
  unfold given?
  cases Value.member? name members with
  | none => rfl
  | some v =>
    cases v with
    | null => rfl
    | _ =>
      simp only [filled, Value.optional?, Option.map_map]
      rfl

/-! ## Answers -/

namespace Reply

/-- The fields of an answer as two slots. -/
def slots : Slots Draft (Option Value) (Option CallError) where
  make result error := { result := result, error := error }
  getFirst := (·.result)
  setFirst d v := { d with result := some v }
  getSecond := (·.error)
  setSecond d e := { d with error := some e }
  getFirst_make _ _ := rfl
  setFirst_make _ _ _ := rfl
  getSecond_make _ _ := rfl
  setSecond_make _ _ _ := rfl

def resultSlot : Slot (Option Value) where
  name := "result"
  required := false
  read := Json.optional (value (nesting - 1))
  meaning := Value.optional? some
  domain _ := True

def errorSlot : Slot (Option CallError) where
  name := "error"
  required := false
  read := Json.optional CallError.reader
  meaning := Value.optional? CallError.ofValue?
  domain v := CallError.domain v

/-- An answer whose fields have been read. -/
def ofDraft (d : Draft) : Reply where
  result := d.result.getD none
  error := d.error.getD none

/-- The answer that a value is. -/
def ofValue? (v : Value) : Option Reply :=
  (slots.meaning resultSlot errorSlot v).map ofDraft

/-- How an answer is filled by a term: the result by one that stands for a value, or by null, and the
error by null for none. -/
def FilledFrom (t : Term) (r : Reply) : Prop :=
  ∃ ts us result error, FilledBy "result" "error" t ts us ∧ r = ofDraft (slots.make result error) ∧
    SlotRun (OrNull (StandsFor (nesting - 1))) ts none result ∧
    SlotRun (OrNull fun _ _ => True) us none error

theorem recognises_reader : Recognises Mended reader FilledFrom := by
  have hresult := recognises_optional likeness_eq (recognises_value (nesting - 1))
  have herror := recognises_optional likeness_mended CallError.recognises_reader
  refine ((Slots.recognises_record slots resultSlot errorSlot
    (by decide) (hresult.of_eq likeness_mended) herror "struct JsonRpcResponse").map ofDraft).mono
      fun t r h => ?_
  obtain ⟨d, ⟨ts, us, result, error, hfilled, rfl, hts, hus⟩, rfl⟩ := h
  exact ⟨ts, us, result, error, hfilled, rfl, hts, hus⟩

theorem means_reader : Means nesting (Slots.domain resultSlot errorSlot) reader ofValue? :=
  (Slots.means_record slots resultSlot errorSlot (by decide)
    (means_optional (means_value (nesting - 1)))
    (means_optional (CallError.means_reader (nesting - 2))) "struct JsonRpcResponse").map ofDraft

/-- The answer that an object is, from what it gives for an error and for a result. -/
theorem ofValue?_object (members : List (String × Value)) :
    ofValue? (.object members)
      = match given? "error" members with
        | none => some { result := given? "result" members, error := none }
        | some v => (CallError.ofValue? v).map fun e =>
            { result := given? "result" members, error := some e } := by
  have hresult : (filled (Value.optional? some) none (Value.member? "result" members)).map
      (·.getD none) = some (given? "result" members) := by
    rw [getD_filled_optional]
    cases given? "result" members <;> rfl
  have herror := getD_filled_optional CallError.ofValue? "error" members
  have hmeaning : ofValue? (.object members)
      = ((filled (Value.optional? some) none (Value.member? "result" members)).map
          (·.getD none)).bind fun result =>
        ((filled (Value.optional? CallError.ofValue?) none (Value.member? "error" members)).map
          (·.getD none)).map fun error => { result := result, error := error } := by
    unfold ofValue? Slots.meaning
    simp only [resultSlot, errorSlot]
    cases filled (Value.optional? some) none (Value.member? "result" members) with
    | none => rfl
    | some a =>
      cases filled (Value.optional? CallError.ofValue?) none (Value.member? "error" members) <;> rfl
  rw [hmeaning, hresult, herror, Option.bind_some]
  cases given? "error" members with
  | none => rfl
  | some v => exact Option.map_map _ _ _

end Reply

end Commissioning.Protocol
