import Commissioning.Protocol.Id

set_option autoImplicit false

/-! # Installations

What is known about an installation when its commissioning ends. -/

namespace Commissioning

/-- An installation. -/
structure Installation where
  /-- The device that the protocol belongs to; it names the file. -/
  edgeId : String
  /-- The protocol, once the backend has made it. -/
  setupProtocolId : Option Protocol.Id
  deriving DecidableEq, Repr

namespace Installation

/-- An installation that is being read. -/
structure Draft where
  edgeId : Option String := none
  setupProtocolId : Option (Option Protocol.Id) := none

/-- The fields of an installation in JSON. -/
def fields : List (Json.Field Draft) :=
  [.ofLens "edgeId" true (·.edgeId) (fun d s => { d with edgeId := some s }) Json.text,
   .ofLens "setupProtocolId" false (·.setupProtocolId)
     (fun d id => { d with setupProtocolId := some id })
     (Json.optional (Protocol.Id.reader (Json.nesting - 1)))]

/-- An installation in JSON. -/
def reader : Json.Reader Installation := do
  let d ← Json.record "struct InstallationData" fields {}
  pure { edgeId := d.edgeId.getD "", setupProtocolId := d.setupProtocolId.getD none }

/-- An installation as JSON. -/
def toJson (i : Installation) : Json.Value :=
  .object [("edgeId", .text i.edgeId),
    ("setupProtocolId", match i.setupProtocolId with | some id => id.toJson | none => .null)]

end Installation

end Commissioning
