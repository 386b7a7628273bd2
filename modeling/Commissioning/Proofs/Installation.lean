import Commissioning.Proofs.Operations
import Commissioning.Proofs.Protocol.Answer
import Commissioning.Proofs.Protocol.Id

set_option autoImplicit false

/-! # Blank ids

An id that a person types is never blank: what is left of the text without the blanks around it is
taken, and if nothing is left there is no id. An installation that is read from JSON has whatever
text stands there. A download makes no difference between the two, so the requests for blank ids are
those of installations that were read with a blank text (`blank_asked_iff`). -/

namespace Commissioning

open Json Json.Reader

/-! ## Blank ids -/

namespace Protocol.Id

/-- Whether an id is shown as a blank text. -/
def IsBlank (id : Id) : Prop :=
  Text.isBlankText id.display = true

/-- A blank id is a blank text: numbers are shown as digits. -/
theorem isBlank_iff {id : Id} : id.IsBlank ↔ ∃ t, Text.isBlankText t = true ∧ id = text t := by
  cases id with
  | number n => simp [IsBlank, display, Text.isBlankText_ofNat]
  | text t => simp [IsBlank, display]

/-- **A typed id is not blank.** -/
theorem not_isBlank_of_parse? {typed : String} {id : Id} (h : parse? typed = some id) :
    ¬ id.IsBlank := by
  intro hblank
  obtain ⟨t, ht, rfl⟩ := isBlank_iff.1 hblank
  rcases parse?_cases h with ⟨zeros, n, -, hid⟩ | ⟨-, hid⟩
  · exact absurd hid (by simp)
  · obtain rfl := text.inj hid
    rw [Text.isBlankText_trim, isEmpty_trim_of_parse? h] at ht
    exact absurd ht (by simp)

end Protocol.Id

/-! ## Reading installations -/

namespace Installation

open Protocol

/-- The fields of an installation as two slots. -/
def slots : Slots Draft String (Option Id) where
  make edgeId id := { edgeId := edgeId, setupProtocolId := id }
  getFirst := (·.edgeId)
  setFirst d s := { d with edgeId := some s }
  getSecond := (·.setupProtocolId)
  setSecond d id := { d with setupProtocolId := some id }
  getFirst_make _ _ := rfl
  setFirst_make _ _ _ := rfl
  getSecond_make _ _ := rfl
  setSecond_make _ _ _ := rfl

def edgeSlot : Slot String where
  name := "edgeId"
  required := true
  read := Json.text
  meaning := Value.text?
  domain _ := True

def idSlot : Slot (Option Id) where
  name := "setupProtocolId"
  required := false
  read := Json.optional (Id.reader (nesting - 1))
  meaning := Value.optional? Id.ofJson?
  domain _ := True

/-- An installation whose fields have been read. -/
def ofDraft (d : Draft) : Installation where
  edgeId := d.edgeId.getD ""
  setupProtocolId := d.setupProtocolId.getD none

/-- The installation that a value is. -/
def ofValue? (v : Value) : Option Installation :=
  (slots.meaning edgeSlot idSlot v).map ofDraft

theorem means_reader : Means nesting (Slots.domain edgeSlot idSlot) reader ofValue? :=
  (Slots.means_record slots edgeSlot idSlot (by decide) (means_textAs (nesting - 1) _)
    (means_optional (Id.means_reader (nesting - 1))) "struct InstallationData").map ofDraft

/-- The id of an installation as JSON. -/
def idJson (i : Installation) : Value :=
  match i.setupProtocolId with
  | some id => id.toJson
  | none => .null

theorem toJson_eq (i : Installation) :
    i.toJson = .object [("edgeId", .text i.edgeId), ("setupProtocolId", i.idJson)] :=
  rfl

theorem optional?_idJson (i : Installation) :
    Value.optional? Id.ofJson? i.idJson = some i.setupProtocolId := by
  unfold idJson
  cases i.setupProtocolId with
  | none => rfl
  | some id =>
    have hne : id.toJson ≠ .null := by
      cases id <;> simp [Id.toJson, Value.ofNat]
    simp only
    rw [Value.optional?_of_ne_null _ hne, Id.ofJson?_toJson, Option.map_some]

theorem ofValue?_toJson (i : Installation) : ofValue? i.toJson = some i := by
  have hmembers : slots.meaning edgeSlot idSlot i.toJson
      = (filled (Value.optional? Id.ofJson?) none (some i.idJson)).bind fun found =>
        some { edgeId := some i.edgeId, setupProtocolId := found } :=
    rfl
  rw [ofValue?, hmembers, filled, optional?_idJson]
  rfl

theorem returns_toJson (i : Installation) (depth : Nat) : i.toJson.Returns (depth + 1) := by
  refine ⟨trivial, ?_, trivial⟩
  cases i.setupProtocolId with
  | none => exact trivial
  | some id => exact id.returns_toJson depth

/-- Every installation is read back from its JSON text, with whatever id it has. -/
theorem read_toJson (i : Installation) : reader.read i.toJson.compact = .ok i := by
  have hdomain : Slots.domain edgeSlot idSlot i.toJson := by
    rw [toJson_eq]
    refine ⟨fun items => by simp, fun pairs hpairs => ?_⟩
    obtain rfl := Value.object.inj hpairs
    exact ⟨by simp, fun _ _ => trivial, fun _ _ => trivial⟩
  have hread := read_means means_reader (parse_compact (i.returns_toJson (nesting - 1))) hdomain
  rw [ofValue?_toJson] at hread
  exact eq_ok_of_toOption hread

/-! ## Where installations come from -/

/-- Whether an installation has been typed: its id is one. -/
def IsTyped (i : Installation) : Prop :=
  ∃ typed id, Id.parse? typed = some id ∧ i.setupProtocolId = some id

/-- Whether an installation can be read from a JSON text. -/
def IsRead (i : Installation) : Prop :=
  ∃ text, reader.read text = .ok i

/-- Whether the id of an installation is a blank text. -/
def HasBlankText (i : Installation) : Prop :=
  ∃ t, Text.isBlankText t = true ∧ i.setupProtocolId = some (.text t)

theorem isRead (i : Installation) : i.IsRead :=
  ⟨_, i.read_toJson⟩

theorem hasBlankText_iff (i : Installation) :
    i.HasBlankText ↔ ∃ id, i.setupProtocolId = some id ∧ id.IsBlank := by
  constructor
  · rintro ⟨t, ht, hid⟩
    exact ⟨.text t, hid, Id.isBlank_iff.2 ⟨t, ht, rfl⟩⟩
  · rintro ⟨id, hid, hblank⟩
    obtain ⟨t, ht, rfl⟩ := Id.isBlank_iff.1 hblank
    exact ⟨t, ht, hid⟩

theorem not_isTyped_of_hasBlankText (i : Installation) (h : i.HasBlankText) : ¬ i.IsTyped := by
  rintro ⟨typed, id, hparse, hid⟩
  obtain ⟨other, hother, hblank⟩ := i.hasBlankText_iff.1 h
  obtain rfl := Option.some.inj (hid.symm.trans hother)
  exact Id.not_isBlank_of_parse? hparse hblank

end Installation

/-! ## What is asked for -/

namespace Session

open Protocol

variable {σ : Type} [Host (StateM σ)] {see : σ → Sight} {notify : Notification → StateM σ Unit}

/-- A download sends one request if there is an id, and none if there is no id. -/
theorem exists_sent_of_download (h : Host.Visible see) (hnotify : Tells see notify Noted)
    (session : Session) (i : Installation) (s : σ) :
    ∃ outcome s' sent, (session.download notify i).run s = (outcome, s') ∧
      (see s').exchanges = (see s).exchanges ++ sent ∧
      List.Forall₂ (fun id exchange => ∃ callId, exchange.1 = session.service.request callId ⟨id⟩)
        i.setupProtocolId.toList sent := by
  obtain ⟨⟨next, answer⟩, s', hact, hacted⟩ := acted h hnotify session (.download i) s
  obtain ⟨sent, hsent, hrequests⟩ := hacted.account.requests
  have hids : [Operation.download i].filterMap (·.protocol?) = i.setupProtocolId.toList := by
    cases hid : i.setupProtocolId <;> simp [Operation.protocol?, hid]
  rw [hids] at hrequests
  have hrun : (session.act notify (.download i)).run s
      = ((session, .ended ((session.download notify i).run s).1),
        ((session.download notify i).run s).2) :=
    rfl
  rw [hrun] at hact
  exact ⟨_, _, sent, rfl, (Prod.mk.inj hact).2 ▸ hsent, hrequests⟩

/-- Whether one of several requests asks for a blank id. -/
def AsksForBlank (sent : List (Http.Request × Option Http.Response)) : Prop :=
  ∃ id : Id, id.IsBlank ∧ ∃ exchange ∈ sent, Id.sentId? exchange.1.body = some id.toJson

/-- What is asked for is blank exactly when the id is. -/
theorem asksForBlank_iff {session : Session} {ids : List Id}
    {sent : List (Http.Request × Option Http.Response)}
    (h : List.Forall₂ (fun id exchange => ∃ callId, exchange.1 = session.service.request callId ⟨id⟩)
      ids sent) : AsksForBlank sent ↔ ∃ id ∈ ids, id.IsBlank := by
  induction h with
  | nil => simp [AsksForBlank]
  | @cons id exchange ids sent hid hrest ih =>
    obtain ⟨callId, hrequest⟩ := hid
    have hsent : Id.sentId? exchange.1.body = some id.toJson := by
      rw [hrequest]
      exact Id.sentId?_request session.service callId ⟨id⟩
    have hcons : AsksForBlank (exchange :: sent) ↔ id.IsBlank ∨ AsksForBlank sent := by
      constructor
      · rintro ⟨other, hblank, asked, hmem, hasked⟩
        rcases List.mem_cons.1 hmem with rfl | hmem
        · rw [hsent, Option.some.injEq, Id.toJson_inj] at hasked
          exact .inl (hasked ▸ hblank)
        · exact .inr ⟨other, hblank, asked, hmem, hasked⟩
      · rintro (hblank | ⟨other, hblank, asked, hmem, hasked⟩)
        · exact ⟨id, hblank, exchange, List.mem_cons_self, hsent⟩
        · exact ⟨other, hblank, asked, List.mem_cons_of_mem _ hmem, hasked⟩
    rw [hcons, ih, List.exists_mem_cons_iff]

/-- **Blank ids that are asked for.** An installation with an id costs one request, whatever the id
is. The id that is asked for is blank exactly when the installation has a blank text for one; such an
installation is never typed, and each of them can be read from JSON. -/
theorem blank_asked_iff (h : Host.Visible see) (hnotify : Tells see notify Noted)
    (session : Session) (i : Installation) (s : σ) :
    (∃ outcome s' sent, (session.download notify i).run s = (outcome, s') ∧
      (see s').exchanges = (see s).exchanges ++ sent ∧
      sent.length = i.setupProtocolId.toList.length ∧
      (AsksForBlank sent ↔ i.HasBlankText)) ∧
    (i.HasBlankText → ¬ i.IsTyped ∧ i.IsRead) := by
  obtain ⟨outcome, s', sent, hrun, hsent, hrequests⟩ :=
    exists_sent_of_download h hnotify session i s
  refine ⟨⟨outcome, s', sent, hrun, hsent, hrequests.length_eq.symm, ?_⟩, ?_⟩
  · rw [asksForBlank_iff hrequests, i.hasBlankText_iff]
    simp
  · intro hblank
    exact ⟨i.not_isTyped_of_hasBlankText hblank, i.isRead⟩

/-! ### A blank id in the booth -/

/-- An installation with two blanks for an id. -/
def blankInstallation : Installation where
  edgeId := "E1"
  setupProtocolId := some (.text "  ")

theorem blank_asked_iff_booth :
    ∃ session, create Attended.boothConfig = .ok session ∧
      ∃ outcome s' sent, (session.download Attended.take blankInstallation).run Attended.booth
          = (outcome, s') ∧
        s'.sight.exchanges = Attended.booth.sight.exchanges ++ sent ∧ sent.length = 1 ∧
        AsksForBlank sent := by
  obtain ⟨session, hcreate⟩ := Attended.exists_session_booth
  obtain ⟨⟨outcome, s', sent, hrun, hsent, hlength, hblank⟩, -⟩ :=
    blank_asked_iff Attended.visible tells_take session blankInstallation Attended.booth
  exact ⟨session, hcreate, outcome, s', sent, hrun, hsent, hlength, hblank.2 ⟨"  ", by decide, rfl⟩⟩

/-- The same blanks are refused when they are typed. -/
theorem blank_asked_booth :
    Id.parse? "  " = none ∧
    Installation.reader.read blankInstallation.toJson.compact = .ok blankInstallation ∧
    ∃ session, create Attended.boothConfig = .ok session ∧
      ∃ outcome s' sent, (session.download Attended.take blankInstallation).run Attended.booth
          = (outcome, s') ∧
        s'.sight.exchanges = Attended.booth.sight.exchanges ++ sent ∧
        AsksForBlank sent := by
  obtain ⟨session, hcreate⟩ := Attended.exists_session_booth
  obtain ⟨outcome, s', sent, hrun, hsent, hrequests⟩ :=
    exists_sent_of_download Attended.visible tells_take session blankInstallation Attended.booth
  refine ⟨by decide, blankInstallation.read_toJson, session, hcreate, outcome, s', sent, hrun, hsent,
    (asksForBlank_iff hrequests).2 ⟨.text "  ", by decide, ?_⟩⟩
  show Text.isBlankText "  " = true
  decide

end Session

end Commissioning
