import Commissioning.Base64
import Commissioning.Text.Utf8
import Commissioning.Url.Basic

set_option autoImplicit false

/-! # HTTP messages

The requests that the tool sends and the responses it gets back. -/

namespace Commissioning.Http

/-- A request whose method is POST. -/
structure Request where
  /-- Where the request goes. -/
  url : Url
  /-- The values of the header Authorization, in their order. -/
  authorization : List String
  contentType : String
  body : String
  deriving DecidableEq, Repr

/-- The method of every request. -/
def Request.method : String := "POST"

/-- A response as it arrives. -/
structure Response where
  status : Nat
  body : List UInt8
  /-- Whether the body is as long as it was announced to be. -/
  isWhole : Bool := true
  deriving DecidableEq, Repr

/-- Whether a status stands for success. -/
def isSuccess (status : Nat) : Bool :=
  200 ≤ status && status < 300

/-- The response to a body that is sent with an announced length: a longer body is cut there, and
a shorter one is known to be incomplete. A status without content has no body. -/
def Response.received (status : Nat) (body : List UInt8) (announced : Nat) : Response :=
  if status = 204 ∨ status = 304 then { status := status, body := [] }
  else
    { status := status
      body := body.take announced
      isWhole := announced ≤ body.length }

/-- The value of the header Authorization for a user name and a password. -/
def basicCredentials (username password : String) : String :=
  let encoded := Base64.encode (Text.encodeUtf8 (username ++ ":" ++ password))
  "Basic " ++ String.ofList (encoded.map fun b => Char.ofNat b.toNat)

end Commissioning.Http
