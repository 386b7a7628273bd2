import Commissioning.Http.Message
import Commissioning.Protocol.Error
import Commissioning.Json.Record

set_option autoImplicit false

/-! # Answers to a request for a setup protocol

A response with a success status holds the answer to a remote call: an error, or a result whose
payload is the document as Base64 text. An error wins over a result. -/

namespace Commissioning.Protocol

/-! ## Payloads -/

/-- The result of a call answered with a file. -/
structure PayloadResult where
  /-- The file as Base64 text, which may be broken into lines. -/
  payload : String
  deriving DecidableEq, Repr

namespace PayloadResult

/-- A result that is being read. -/
structure Draft where
  payload : Option String := none

/-- The fields of a result in JSON. -/
def fields : List (Json.Field Draft) :=
  [.ofLens "payload" true (·.payload) (fun d s => { d with payload := some s }) Json.text]

/-- How messages name a result. -/
def typeName : String := "struct Base64PayloadResponse"

/-- A result in JSON. -/
def reader : Json.Reader PayloadResult := do
  let d ← Json.record typeName fields {}
  pure { payload := d.payload.getD "" }

/-- A result as JSON. -/
def toJson (r : PayloadResult) : Json.Value :=
  .object [("payload", .text r.payload)]

/-- The payload that is a given value. -/
def payloadOf : Json.Value → Except Json.Reason String
  | .text s => .ok s
  | v => .error (.mismatch (.ofValue v) "a string")

/-- The result that a JSON value is. -/
def ofJson : Json.Value → Except Json.Reason PayloadResult
  | .object members =>
    match Json.Value.member? "payload" members with
    | some v => (payloadOf v).map (⟨·⟩)
    | none => .error (.missingField "payload")
  | .array [] => .error (.wrongLength 0 (Json.elementForm typeName 1))
  | .array (v :: rest) => do
    let payload ← payloadOf v
    if rest.isEmpty then .ok ⟨payload⟩
    else .error (.wrongLength (rest.length + 1) "fewer elements in array")
  | v => .error (.mismatch (.ofValue v) typeName)

end PayloadResult

/-! ## Calls -/

/-- An error that the backend answers with. -/
structure CallError where
  code : Int
  message : String
  deriving DecidableEq, Repr

namespace CallError

/-- An integer of 64 bits with a sign. -/
def integer : Json.Reader Int := do
  match ← Json.Reader.peekToken with
  | none => Json.Reader.failAhead (.endOfText .value)
  | some c =>
    if c = '-' ∨ c.isDigit then do
      match ← Json.signedNumber with
      | .integer n =>
        if -9223372036854775808 ≤ n ∧ n ≤ 9223372036854775807 then pure n
        else Json.Reader.fail (.unfit (.number (.integer n)) "i64")
      | .real x => Json.Reader.fail (.mismatch (.number (.real x)) "i64")
    else Json.unexpected "i64"

/-- An error that is being read. -/
structure Draft where
  code : Option Int := none
  message : Option String := none

/-- The fields of an error in JSON. -/
def fields : List (Json.Field Draft) :=
  [.ofLens "code" true (·.code) (fun d n => { d with code := some n }) integer,
   .ofLens "message" true (·.message) (fun d s => { d with message := some s }) Json.text]

/-- An error in JSON. -/
def reader : Json.Reader CallError := do
  let d ← Json.record "struct JsonRpcError" fields {}
  pure { code := d.code.getD 0, message := d.message.getD "" }

end CallError

/-- The answer to a remote call. -/
structure Reply where
  result : Option Json.Value
  error : Option CallError

namespace Reply

/-- An answer that is being read. -/
structure Draft where
  result : Option (Option Json.Value) := none
  error : Option (Option CallError) := none

/-- The fields of an answer in JSON. -/
def fields : List (Json.Field Draft) :=
  [.ofLens "result" false (·.result) (fun d v => { d with result := some v })
     (Json.optional (Json.value (Json.nesting - 1))),
   .ofLens "error" false (·.error) (fun d e => { d with error := some e })
     (Json.optional CallError.reader)]

/-- An answer in JSON. -/
def reader : Json.Reader Reply := do
  let d ← Json.record "struct JsonRpcResponse" fields {}
  pure { result := d.result.getD none, error := d.error.getD none }

/-- The payload of an answer, or what it has instead. -/
def payload (r : Reply) : Except Error String :=
  match r.error with
  | some e => .error (.rpc e.code e.message)
  | none =>
    match r.result with
    | none => .error (.malformedResponse .noResult)
    | some v =>
      match PayloadResult.ofJson v with
      | .ok result => .ok result.payload
      | .error reason => .error (.malformedResponse (.result reason))

end Reply

/-- The payload of a response, or what the response has instead. -/
def payloadOfResponse (response : Http.Response) : Except Error String :=
  if !Http.isSuccess response.status then .error (.httpStatus response.status)
  else if !response.isWhole then .error (.malformedResponse .body)
  else
    match Reply.reader.readBytes response.body with
    | .error _ => .error (.malformedResponse .body)
    | .ok reply => reply.payload

end Commissioning.Protocol
