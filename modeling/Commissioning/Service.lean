import Commissioning.Host
import Commissioning.Protocol.Reply
import Commissioning.Protocol.Request
import Commissioning.Url.Percent

set_option autoImplicit false

/-! # The backend

Setup protocols are asked for over HTTP: one request a protocol, with the credentials that the
endpoint and the configuration name. -/

namespace Commissioning

/-- Where setup protocols are asked for. -/
structure Service where
  endpoint : Url
  /-- The user name and the password of the configuration. -/
  credentials : Option (String × String) := none
  deriving DecidableEq, Repr

namespace Service

/-- The service behind an endpoint, which has to use HTTP. -/
def ofEndpoint (endpoint : Url) : Except Protocol.Error Service :=
  if endpoint.isHttp then .ok { endpoint := endpoint }
  else .error (.invalidEndpoint endpoint.text)

/-- The service with the credentials of the configuration. -/
def withCredentials (s : Service) (username password : String) : Service :=
  { s with credentials := some (username, password) }

/-- A part of a URL with its encoded bytes resolved, if they are a text. -/
def decoded (part : String) : Option String :=
  Text.decodeUtf8 (Url.percentDecode (Text.encodeUtf8 part))

/-- The user name and the password that a URL names. -/
def credentialsOf (url : Url) : Option (String × String) := do
  let username ← decoded url.username
  let password := url.password?.bind decoded
  if username.isEmpty && password.isNone then none else some (username, password.getD "")

/-- The values of the header Authorization: the credentials of the endpoint, then those of the
configuration. -/
def authorization (s : Service) : List String :=
  ((credentialsOf s.endpoint).toList ++ s.credentials.toList).map fun c =>
    Http.basicCredentials c.1 c.2

/-- The request for a setup protocol. -/
def request (s : Service) (callId : String) (r : Protocol.Request) : Http.Request where
  url := s.endpoint
  authorization := s.authorization
  contentType := "application/json"
  body := (r.envelope callId).compact

/-- The event before a request. -/
def sending (s : Service) (callId : String) (r : Protocol.Request) : Log.Event where
  level := .debug
  source := "ibn_protocol::transport"
  message := "Sending request"
  fields :=
    [{ name := "request_id", value := callId },
     { name := "method", value := Protocol.Request.method },
     { name := "setup_protocol_id", value := r.setupProtocolId.display },
     { name := "endpoint", value := s.endpoint.text }]

/-- The endpoint as an error names it: without the credentials that were sent as a header. -/
def shownEndpoint (s : Service) : String :=
  if (credentialsOf s.endpoint).isSome then s.endpoint.textWithoutUser else s.endpoint.text

/-- What an answer to a request, or none, says about the payload. -/
def payloadOf (s : Service) : Option Http.Response → Except Protocol.Error String
  | none => .error (.network s.shownEndpoint)
  | some response => Protocol.payloadOfResponse response

/-- The payload of a setup protocol, asked for with one request. -/
def ask {m : Type → Type} [Monad m] [Host m] (s : Service) (r : Protocol.Request) :
    m (Except Protocol.Error String) := do
  let callId ← Host.freshId
  Host.log (s.sending callId r)
  let response ← Host.exchange (s.request callId r)
  pure (s.payloadOf response)

end Service

end Commissioning
