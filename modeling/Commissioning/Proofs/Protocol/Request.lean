import Commissioning.Proofs.Json.Written
import Commissioning.Service

set_option autoImplicit false

/-! # Requests on the wire

A request travels as the JSON text of its envelope, which is read back as exactly that, and the
parameters of the envelope are read as the request and as no other (`request_carries_id`): a
number stays a number, and a text a text, whatever its characters are. -/

namespace Commissioning.Protocol

open Json Json.Reader Json.Grammar

/-! ## Ids -/

namespace Id

theorem returns_toJson (id : Id) (depth : Nat) : id.toJson.Returns depth := by
  cases id with
  | text s => exact trivial
  | number n =>
    have hlt := n.toNat_lt
    have hfits : FitsWord (n.toNat : Int) := ⟨by omega, by omega⟩
    exact hfits

theorem means_reader (depth : Nat) : Means depth (fun _ => True) (reader depth) ofJson? := by
  intro t v hstands hdomain blanks rest hrest
  rw [reader, toOption_bind, means_value depth t v hstands hdomain blanks rest hrest]
  simp only [Option.map_some, Option.bind_some]
  cases ofJson? v <;> rfl

end Id

/-! ## Requests -/

namespace Request

/-- What the field of a request makes of its value. -/
def sense (_ : String) (d : Draft) (v : Value) : Option Draft :=
  (Id.ofJson? v).map fun id => { d with setupProtocolId := some id }

/-- A request whose field has been read. -/
def ofDraft (d : Draft) : Request where
  setupProtocolId := d.setupProtocolId.getD (.number 0)

/-- The request that a value is. -/
def ofValue? (v : Value) : Option Request :=
  (recordOf fields sense {} v).map ofDraft

/-- A request is read from an object; nothing is said of one that is written as an array. -/
theorem means_reader :
    Means nesting (RecordDomain fun _ _ => True) reader ofValue? := by
  have hfields : ∀ f ∈ fields, ∀ d,
      Means (nesting - 1) (fun _ => True) (f.read d) (sense f.name d) := by
    intro f hf d
    obtain rfl := List.mem_singleton.mp hf
    exact means_ofLens (Id.means_reader _) _ _ _ _ d
  have hrecord : Means (nesting - 1 + 1) (RecordDomain fun _ _ => True)
      (record "struct GetSetupProtocolRequest" fields {}) (recordOf fields sense {}) :=
    means_record hfields _ _
  rw [show nesting - 1 + 1 = nesting from rfl] at hrecord
  exact hrecord.map ofDraft

theorem ofValue?_toJson (r : Request) : ofValue? r.toJson = some r := by
  have hstep : recordStep fields sense {} ("setupProtocolId", r.setupProtocolId.toJson)
      = some { setupProtocolId := some r.setupProtocolId } := by
    show sense "setupProtocolId" {} r.setupProtocolId.toJson = _
    rw [sense, Id.ofJson?_toJson, Option.map_some]
  rw [ofValue?, toJson, recordOf, List.foldlM_cons, hstep]
  rfl

/-- Every text that stands for a request is read as that request. -/
theorem read_of_parse {r : Request} {text : String} (h : parse text = .ok r.toJson) :
    reader.read text = .ok r := by
  have hdomain : RecordDomain (fun _ _ => True) r.toJson :=
    ⟨fun items harray => by simp [toJson] at harray, fun _ _ _ _ => trivial⟩
  have hread := read_means means_reader h hdomain
  rw [ofValue?_toJson] at hread
  exact eq_ok_of_toOption hread

/-! ## Envelopes -/

theorem returns_toJson (r : Request) (depth : Nat) : r.toJson.Returns (depth + 1) :=
  ⟨r.setupProtocolId.returns_toJson depth, trivial⟩

theorem returns_envelope (r : Request) (callId : String) (depth : Nat) :
    (r.envelope callId).Returns (depth + 2) :=
  ⟨trivial, trivial, trivial, r.returns_toJson depth, trivial⟩

theorem parse_envelope (r : Request) (callId : String) :
    parse (r.envelope callId).compact = .ok (r.envelope callId) :=
  parse_compact (r.returns_envelope callId (nesting - 2))

end Request

/-- **A request carries exactly its id.** -/
theorem request_carries_id (s : Service) (callId : String) (r : Request) :
    ∃ params, params = .object [("setupProtocolId", r.setupProtocolId.toJson)] ∧
      parse (s.request callId r).body = .ok (.object [("jsonrpc", .text "2.0"),
        ("id", .text callId), ("method", .text "getSetupProtocol"), ("params", params)]) ∧
      parse params.compact = .ok params ∧
      ∀ text, parse text = .ok params → Request.reader.read text = .ok r := by
  refine ⟨r.toJson, rfl, r.parse_envelope callId, ?_, fun text h => Request.read_of_parse h⟩
  exact parse_compact (r.returns_toJson (nesting - 1))

end Commissioning.Protocol
