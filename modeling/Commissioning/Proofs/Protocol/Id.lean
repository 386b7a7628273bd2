import Commissioning.Proofs.Protocol.Request
import Commissioning.Proofs.Text.Trim

set_option autoImplicit false

/-! # Typed ids

What is typed for an id is kept but for the blanks around it, with one exception: the zeros in
front of a number are dropped. Two typed ids ask for the same protocol exactly when they are the
same but for that (`parse?_keeps`). -/

namespace Commissioning.Protocol

namespace Id

/-! ## Numbers behind zeros -/

/-- The digits of a number behind some zeros. -/
def padded (zeros : Nat) (n : UInt64) : String :=
  String.ofList (List.replicate zeros '0' ++ Text.decimal n.toNat)

/-- Whether a text is a number of 64 bits behind zeros. -/
def IsPadded (s : String) : Prop :=
  ∃ zeros n, 0 < zeros ∧ s = padded zeros n

theorem readDecimal_padded (zeros : Nat) (n : UInt64) :
    Text.readDecimal (padded zeros n).toList = some n.toNat := by
  rw [padded, String.toList_ofList]
  exact Text.readDecimal_eq_some_iff.mpr ⟨zeros, rfl⟩

/-- A text is one number behind one number of zeros at most. -/
theorem padded_inj {zeros zeros' : Nat} {n n' : UInt64} (h : padded zeros n = padded zeros' n') :
    zeros = zeros' ∧ n = n' := by
  obtain rfl : n = n' := by
    have hread := readDecimal_padded zeros n
    rw [h, readDecimal_padded, Option.some.injEq] at hread
    exact UInt64.toNat_inj.mp hread.symm
  refine ⟨?_, rfl⟩
  have hzeros := List.append_cancel_right (String.ofList_injective h)
  simpa using congrArg List.length hzeros

theorem display_number (n : UInt64) : (number n).display = padded 0 n :=
  rfl

theorem padded_ne_empty (zeros : Nat) (n : UInt64) : (padded zeros n).isEmpty = false := by
  rw [padded, String.isEmpty_eq_false_iff, ne_eq, String.ofList_eq_empty_iff]
  exact List.append_ne_nil_of_right_ne_nil _ (Text.decimal_ne_nil n.toNat)

theorem not_isPadded_zero (n : UInt64) : ¬ IsPadded (padded 0 n) := by
  rintro ⟨zeros, n', hpos, hpadded⟩
  have hzeros := (padded_inj hpadded).1
  omega

/-! ## Typed texts -/

/-- A typed text stands for no id exactly when it is blank. -/
theorem parse?_eq_none_iff {typed : String} :
    parse? typed = none ↔ Text.isBlankText typed = true := by
  rw [← Text.isEmpty_trim]
  unfold parse?
  cases hempty : (Text.trim typed).isEmpty with
  | true => simp only [hempty, if_true]
  | false =>
    -- A text that is not empty is a number that fits, or it is taken as it is.
    simp only [hempty, Bool.false_eq_true, if_false, iff_false]
    cases Text.readDecimal (Text.trim typed).toList with
    | none => exact Option.some_ne_none _
    | some n =>
      simp only
      split <;> exact Option.some_ne_none _

theorem isEmpty_trim_of_parse? {typed : String} {id : Id} (h : parse? typed = some id) :
    (Text.trim typed).isEmpty = false := by
  have hne : parse? typed ≠ none := by simp [h]
  rw [Text.isEmpty_trim, ← Bool.not_eq_true, ← parse?_eq_none_iff]
  exact hne

/-- Digits of a word are taken for the number, whatever zeros stand in front of them. -/
theorem parse?_of_padded {typed : String} {zeros : Nat} {n : UInt64}
    (h : Text.trim typed = padded zeros n) : parse? typed = some (number n) := by
  have hlt : n.toNat < Nat.pow 2 64 := n.toNat_lt
  unfold parse?
  simp only [h, padded_ne_empty, readDecimal_padded, Bool.false_eq_true, if_false, if_pos hlt,
    UInt64.ofNat_toNat]

/-- Any other text is taken as it is. -/
theorem parse?_of_not_padded {typed : String} (hne : (Text.trim typed).isEmpty = false)
    (h : ∀ zeros n, Text.trim typed ≠ padded zeros n) :
    parse? typed = some (text (Text.trim typed)) := by
  unfold parse?
  simp only [hne, Bool.false_eq_true, if_false]
  cases hread : Text.readDecimal (Text.trim typed).toList with
  | none => rfl
  | some n =>
    simp only
    rw [if_neg]
    -- A number that fits is the one of the digits behind the zeros.
    intro hlt
    obtain ⟨zeros, hdigits⟩ := Text.readDecimal_eq_some_iff.mp hread
    refine h zeros (UInt64.ofNat n) ?_
    rw [padded, UInt64.toNat_ofNat_of_lt' hlt, ← hdigits, String.ofList_toList]

/-- **What a typed text is taken for.** -/
theorem parse?_cases {typed : String} {id : Id} (h : parse? typed = some id) :
    (∃ zeros n, Text.trim typed = padded zeros n ∧ id = number n) ∨
      ((∀ zeros n, Text.trim typed ≠ padded zeros n) ∧ id = text (Text.trim typed)) := by
  by_cases hpadded : ∃ zeros n, Text.trim typed = padded zeros n
  · obtain ⟨zeros, n, hpadded⟩ := hpadded
    rw [parse?_of_padded hpadded, Option.some.injEq] at h
    exact .inl ⟨zeros, n, hpadded, h.symm⟩
  · have hnot : ∀ zeros n, Text.trim typed ≠ padded zeros n :=
      fun zeros n heq => hpadded ⟨zeros, n, heq⟩
    rw [parse?_of_not_padded (isEmpty_trim_of_parse? h) hnot, Option.some.injEq] at h
    exact .inr ⟨hnot, h.symm⟩

/-- A typed text is shown as it is, unless it is a number behind zeros. -/
theorem display_eq_trim_iff {typed : String} {id : Id} (h : parse? typed = some id) :
    id.display = Text.trim typed ↔ ¬ IsPadded (Text.trim typed) := by
  rcases parse?_cases h with ⟨zeros, n, htrim, rfl⟩ | ⟨hnot, rfl⟩
  · rw [htrim, display_number]
    constructor
    · intro hsame
      rw [← hsame]
      exact not_isPadded_zero n
    · intro hnot
      rcases Nat.eq_zero_or_pos zeros with rfl | hpos
      · rfl
      · exact absurd ⟨zeros, n, hpos, rfl⟩ hnot
  · exact iff_of_true rfl fun ⟨zeros, n, _, hpadded⟩ => hnot zeros n hpadded

/-- Two typed texts are taken for one id exactly when they are the same text, or one number behind
some zeros each. -/
theorem parse?_eq_iff {typed other : String} {id id' : Id} (h : parse? typed = some id)
    (h' : parse? other = some id') :
    id = id' ↔ Text.trim typed = Text.trim other ∨
      ∃ zeros zeros' n, Text.trim typed = padded zeros n ∧ Text.trim other = padded zeros' n := by
  constructor
  · rintro rfl
    rcases parse?_cases h with ⟨zeros, n, htrim, hid⟩ | ⟨hnot, hid⟩ <;>
      rcases parse?_cases h' with ⟨zeros', n', htrim', hid'⟩ | ⟨hnot', hid'⟩
    · obtain rfl := number.inj (hid.symm.trans hid')
      exact .inr ⟨zeros, zeros', n, htrim, htrim'⟩
    · exact absurd (hid.symm.trans hid') (by simp)
    · exact absurd (hid.symm.trans hid') (by simp)
    · exact .inl (text.inj (hid.symm.trans hid'))
  · rintro (hsame | ⟨zeros, zeros', n, htrim, htrim'⟩)
    · have hparse : parse? typed = parse? other := by
        unfold parse?
        rw [hsame]
      rw [h, h', Option.some.injEq] at hparse
      exact hparse
    · rw [parse?_of_padded htrim, Option.some.injEq] at h
      rw [parse?_of_padded htrim', Option.some.injEq] at h'
      rw [← h, ← h']

theorem toJson_inj {id id' : Id} : id.toJson = id'.toJson ↔ id = id' := by
  constructor
  · intro hsame
    have hread := ofJson?_toJson id
    rw [hsame, ofJson?_toJson, Option.some.injEq] at hread
    exact hread.symm
  · rintro rfl
    rfl

/-! ## On the wire -/

/-- The id that the body of a request asks for. -/
def sentId? (body : String) : Option Json.Value :=
  match Json.parse body with
  | .ok (.object members) =>
    match Json.Value.member? "params" members with
    | some (.object params) => Json.Value.member? "setupProtocolId" params
    | _ => none
  | _ => none

theorem sentId?_request (s : Service) (callId : String) (r : Request) :
    sentId? (s.request callId r).body = some r.setupProtocolId.toJson := by
  have hparse : Json.parse (s.request callId r).body = .ok (r.envelope callId) :=
    r.parse_envelope callId
  rw [sentId?, hparse]
  rfl

/-- **A typed id is kept but for zeros in front of a number**: it is shown as it was typed, without
the blanks around it, and so are two typed ids told apart by the backend. -/
theorem parse?_keeps {typed : String} {id : Id} (h : parse? typed = some id) :
    (id.display = Text.trim typed ↔ ¬ IsPadded (Text.trim typed)) ∧
      (∀ zeros n, Text.trim typed = padded zeros n → id.display = padded 0 n) ∧
      ∀ other id', parse? other = some id' →
        ∀ (s s' : Service) (callId callId' : String),
          (sentId? (s.request callId ⟨id⟩).body = sentId? (s'.request callId' ⟨id'⟩).body ↔
            Text.trim typed = Text.trim other ∨ ∃ zeros zeros' n,
              Text.trim typed = padded zeros n ∧ Text.trim other = padded zeros' n) := by
  refine ⟨display_eq_trim_iff h, ?_, ?_⟩
  · intro zeros n htrim
    rw [parse?_of_padded htrim, Option.some.injEq] at h
    rw [← h, display_number]
  · intro other id' h' s s' callId callId'
    rw [sentId?_request, sentId?_request, Option.some.injEq, toJson_inj]
    exact parse?_eq_iff h h'

/-! ### A number behind two zeros -/

/-- A service whose backend is called desk. -/
def desk : Service where
  endpoint := ⟨"http", some { host := some (.domain "desk") }, "/", none, none⟩

theorem parse?_keeps_seven :
    parse? "007" = some (number 7) ∧ (number 7).display = padded 0 7 ∧
      parse? " A-7" = some (text "A-7") ∧
      sentId? (desk.request "1" ⟨number 7⟩).body
        ≠ sentId? (desk.request "2" ⟨text "A-7"⟩).body := by
  have htyped : parse? "007" = some (number 7) := by decide
  have hother : parse? " A-7" = some (text "A-7") := by decide
  obtain ⟨-, hshown, hsent⟩ := parse?_keeps htyped
  refine ⟨htyped, hshown 2 7 (by decide), hother, fun hsame => ?_⟩
  rcases (hsent " A-7" _ hother desk desk "1" "2").mp hsame with htrim | ⟨_, zeros, n, -, htrim⟩
  · exact absurd htrim (by decide)
  · have hread := readDecimal_padded zeros n
    rw [← htrim, show Text.readDecimal (Text.trim " A-7").toList = none by decide] at hread
    exact absurd hread (by simp)

/-- Two typed ids that differ in the zeros alone ask for the same protocol. -/
theorem zeros_dropped :
    parse? "007" = some (number 7) ∧ (number 7).display ≠ Text.trim "007" ∧
      Text.trim "007" ≠ Text.trim "7" ∧
      (parse? "007").map (fun id => sentId? (desk.request "1" ⟨id⟩).body)
        = (parse? "7").map fun id => sentId? (desk.request "1" ⟨id⟩).body := by
  have htyped : parse? "007" = some (number 7) := by decide
  have hother : parse? "7" = some (number 7) := by decide
  refine ⟨htyped, by decide, by decide, ?_⟩
  rw [htyped, hother]

end Id

end Commissioning.Protocol
