import Commissioning.Proofs.Installation
import Commissioning.Proofs.Protocol.Spelling

set_option autoImplicit false

/-! # Ids of installations

The id of an installation in JSON is exactly what is spelled there, and there is none where the
member is `null` or left out (`ofValue?_eq_some_iff`). With what texts spell ids, no id is ever
rounded or taken for another one (`ids_exact`). -/

namespace Commissioning.Installation

open Json Json.Grammar Protocol

/-! ## Members of installations -/

/-- Whether neither field of an installation stands twice among some members. -/
def Once (members : List (String × Value)) : Prop :=
  (members.map Prod.fst).count "edgeId" ≤ 1 ∧ (members.map Prod.fst).count "setupProtocolId" ≤ 1

/-- Whether the member for the id says what the id is. -/
def SaysId (member : Option Value) : Option Id → Prop
  | some id => member = some id.toJson
  | none => member = none ∨ member = some .null

/-- Whether some members say what an installation is. -/
structure Says (members : List (String × Value)) (i : Installation) : Prop where
  edgeId : Value.member? "edgeId" members = some (.text i.edgeId)
  setupProtocolId : SaysId (Value.member? "setupProtocolId" members) i.setupProtocolId

theorem optional?_eq_some_iff {v : Value} {id : Option Id} :
    Value.optional? Id.ofJson? v = some id ↔ SaysId (some v) id := by
  by_cases hnull : v = .null
  · subst hnull
    cases id with
    | none => simp [Value.optional?, SaysId]
    | some id =>
      have hne : Value.null ≠ id.toJson := by
        cases id <;> simp [Id.toJson, Value.ofNat]
      simp [Value.optional?, SaysId, hne]
  · rw [Value.optional?_of_ne_null _ hnull]
    cases id with
    | none => simp [SaysId, hnull]
    | some id => simp [SaysId, Id.ofJson?_eq_some_iff]

/-- The slot of the id holds what the member says. -/
theorem filled_id_iff {member : Option Value} {id : Option Id} :
    (∃ held, filled (Value.optional? Id.ofJson?) none member = some held ∧ held.getD none = id) ↔
      SaysId member id := by
  cases member with
  | none =>
    constructor
    · rintro ⟨held, hheld, rfl⟩
      obtain rfl := Option.some.inj hheld
      exact .inl rfl
    · intro h
      cases id with
      | none => exact ⟨none, rfl, rfl⟩
      | some id => exact absurd h (by simp [SaysId])
  | some v =>
    rw [← optional?_eq_some_iff]
    constructor
    · rintro ⟨held, hheld, rfl⟩
      obtain ⟨id, hid, rfl⟩ := Option.map_eq_some_iff.mp hheld
      exact hid
    · intro h
      exact ⟨some id, by rw [filled, h]; rfl, rfl⟩

/-- The device has to be there, and the id need not be. -/
theorem ofValue?_object (members : List (String × Value)) :
    ofValue? (.object members)
      = ((Value.member? "edgeId" members).bind Value.text?).bind fun edge =>
        (filled (Value.optional? Id.ofJson?) none
          (Value.member? "setupProtocolId" members)).map fun held => ⟨edge, held.getD none⟩ := by
  have hmeaning : slots.meaning edgeSlot idSlot (.object members)
      = (filled Value.text? none (Value.member? "edgeId" members)).bind fun edge =>
        (filled (Value.optional? Id.ofJson?) none
          (Value.member? "setupProtocolId" members)).bind fun held =>
            if edge.isNone then none else some (slots.make edge held) := by
    simp only [Slots.meaning, edgeSlot, idSlot, Bool.true_and, Bool.false_and, Bool.or_false]
    rfl
  rw [ofValue?, hmeaning, Slots.filled_bind _ _ (by simp), Option.map_bind]
  congr 1
  funext edge
  simp only [Function.comp_apply, Option.isNone_some, Bool.false_eq_true, if_false]
  cases filled (Value.optional? Id.ofJson?) none (Value.member? "setupProtocolId" members) <;> rfl

/-- **An object is read as what its members say.** -/
theorem ofValue?_eq_some_iff {members : List (String × Value)} {i : Installation} :
    ofValue? (.object members) = some i ↔ Says members i := by
  rw [ofValue?_object]
  constructor
  · intro h
    obtain ⟨edge, hedge, h⟩ := Option.bind_eq_some_iff.mp h
    obtain ⟨v, hmember, hv⟩ := Option.bind_eq_some_iff.mp hedge
    obtain ⟨held, hheld, rfl⟩ := Option.map_eq_some_iff.mp h
    rw [Value.text?_eq_some.mp hv] at hmember
    exact ⟨hmember, filled_id_iff.mp ⟨held, hheld, rfl⟩⟩
  · rintro ⟨hedge, hid⟩
    obtain ⟨held, hheld, hsame⟩ := filled_id_iff.mpr hid
    rw [hedge, hheld]
    simp [Value.text?, hsame]

/-! ## Texts of installations -/

/-- An object is read from its two fields, whatever stands between them. -/
theorem read_of_parse {text : String} {members : List (String × Value)}
    (h : parse text = .ok (.object members)) (honce : Once members) :
    (reader.read text).toOption = ofValue? (.object members) := by
  have hrecord : Means nesting (RecordDomain (Slots.Within edgeSlot idSlot)) reader fun v =>
      (recordOf (slots.fields edgeSlot idSlot) (slots.sense edgeSlot idSlot)
        (slots.make none none) v).map ofDraft :=
    (Slots.means_recordOf slots edgeSlot idSlot (by decide) (means_textAs (nesting - 1) _)
      (means_optional (Id.means_reader (nesting - 1))) "struct InstallationData").map ofDraft
  have hdomain : RecordDomain (Slots.Within edgeSlot idSlot) (.object members) :=
    ⟨fun items => by simp, fun _ _ _ _ => ⟨fun _ => trivial, fun _ => trivial⟩⟩
  rw [read_means hrecord h hdomain, Slots.recordOf_object_of_once (by decide) honce.1 honce.2]
  rfl

/-- The text of an object is read exactly if its members say what the installation is. -/
theorem read_eq_ok_iff {text : String} {members : List (String × Value)} {i : Installation}
    (h : parse text = .ok (.object members)) (honce : Once members) :
    reader.read text = .ok i ↔ Says members i := by
  rw [← ofValue?_eq_some_iff, ← read_of_parse h honce]
  cases reader.read text <;> simp [Except.toOption]

/-- **No id is rounded or taken for another one.** Alone, exactly the digits of a number that an
unsigned word holds and exactly the texts are read as ids, and whatever is foreign to them is
refused. Ids and installations come back from what is written for them, and there is no id exactly
where the member is `null` or left out. -/
theorem ids_exact :
    (∀ text id, (Id.reader nesting).read text = .ok id ↔
      ∃ item : Item Term, Text.encodeUtf8 text = item.bytes ∧ Id.Spells item.term id) ∧
    (∀ text (item : Item Term), Text.encodeUtf8 text = item.bytes → Id.Foreign item.term →
      ∀ id, (Id.reader nesting).read text ≠ .ok id) ∧
    (∀ id : Id, (Id.reader nesting).read id.toJson.compact = .ok id) ∧
    (∀ i : Installation, reader.read i.toJson.compact = .ok i) ∧
    ∀ text members, parse text = .ok (.object members) → Once members →
      ∀ i, reader.read text = .ok i ↔ Says members i := by
  refine ⟨fun text id => Id.read_eq_ok_iff, ?_, Id.read_toJson, read_toJson, ?_⟩
  · intro text item hbytes hforeign id
    exact Id.read_ne_ok_of_foreign hbytes hforeign id
  · intro text members h honce i
    exact read_eq_ok_iff h honce

/-! ### The largest number and the next one -/

/-- The fields of an installation without an id, behind a name that is repeated. -/
def withoutId : List (String × Value) :=
  [("note", .boolean true), ("note", .null), ("setupProtocolId", .null), ("edgeId", .text "E1")]

theorem ids_exact_word :
    (Id.reader nesting).read " 18446744073709551615\n" = .ok (.number 18446744073709551615) ∧
      (∀ id, (Id.reader nesting).read "18446744073709551616" ≠ .ok id) ∧
      (∀ id, (Id.reader nesting).read "7.0" ≠ .ok id) ∧
      (∀ id, (Id.reader nesting).read "-0" ≠ .ok id) ∧
      reader.read (Value.object withoutId).compact
        = .ok { edgeId := "E1", setupProtocolId := none } := by
  obtain ⟨hread, hforeign, -, -, hobject⟩ := ids_exact
  let front : List (Fin 10) := [8, 4, 4, 6, 7, 4, 4, 0, 7, 3, 7, 0, 9, 5, 5, 1, 6, 1]
  refine ⟨?_, ?_, ?_, ?_, ?_⟩
  · let digits : Item Term :=
      ⟨[.space], .number { whole := .positive 0 (front ++ [5]) }, [.lineFeed]⟩
    have hspells : Id.Spells digits.term (.number 18446744073709551615) :=
      .number (by decide +kernel)
    exact (hread _ _).mpr ⟨digits, by decide +kernel, hspells⟩
  · exact hforeign _ { term := .number { whole := .positive 0 (front ++ [6]) } }
      (by decide +kernel) (.large (by decide +kernel))
  · exact hforeign _
      { term := .number { whole := .positive 6 [], fraction := some { first := 0 } } }
      (by decide +kernel) (.fraction (Option.some_ne_none _))
  · exact hforeign _ { term := .number { negative := true, whole := .zero } }
      (by decide +kernel) (.negative rfl)
  · have hparse : parse (Value.object withoutId).compact = .ok (.object withoutId) :=
      parse_compact ⟨trivial, trivial, trivial, trivial, trivial⟩
    exact (hobject _ _ hparse ⟨by decide, by decide⟩ _).mpr ⟨rfl, .inr rfl⟩

end Commissioning.Installation
