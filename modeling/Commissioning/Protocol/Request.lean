import Commissioning.Protocol.Id

set_option autoImplicit false

/-! # Requests for a setup protocol

A request names the protocol that is wanted. It travels inside the envelope of a remote call of
JSON-RPC 2.0, which has an id of its own. -/

namespace Commissioning.Protocol

/-- A request for a setup protocol. -/
structure Request where
  setupProtocolId : Id
  deriving DecidableEq, Repr

namespace Request

/-- The remote method that answers requests. -/
def method : String := "getSetupProtocol"

/-- A request that is being read. -/
structure Draft where
  setupProtocolId : Option Id := none

/-- The fields of a request in JSON. -/
def fields : List (Json.Field Draft) :=
  [.ofLens "setupProtocolId" true (·.setupProtocolId)
    (fun d id => { d with setupProtocolId := some id }) (Id.reader (Json.nesting - 1))]

/-- A request in JSON. -/
def reader : Json.Reader Request := do
  let d ← Json.record "struct GetSetupProtocolRequest" fields {}
  pure { setupProtocolId := d.setupProtocolId.getD (.number 0) }

/-- A request as JSON. -/
def toJson (r : Request) : Json.Value :=
  .object [("setupProtocolId", r.setupProtocolId.toJson)]

/-- The remote call that carries a request. -/
def envelope (r : Request) (callId : String) : Json.Value :=
  .object [("jsonrpc", .text "2.0"), ("id", .text callId), ("method", .text method),
    ("params", r.toJson)]

end Request

end Commissioning.Protocol
