import Commissioning.Base64
import Commissioning.Files.Error
import Commissioning.Json.Fault

set_option autoImplicit false

/-! # Download errors

Why a setup protocol could not be requested, understood or saved. -/

namespace Commissioning

namespace Base64

/-- The wording of a fault. -/
def Fault.message : Fault → String
  | symbol value offset =>
    "Invalid symbol " ++ Text.ofNat value.toNat ++ ", offset " ++ Text.ofNat offset ++ "."
  | length symbols => "Invalid input length: " ++ Text.ofNat symbols

end Base64

namespace Protocol

/-- What is wrong with an answer of the backend. -/
inductive Malformation where
  /-- The body is cut short, or is no answer to a remote call. -/
  | body
  | noResult
  | result (reason : Json.Reason)
  /-- A description in the words of whoever read the answer. -/
  | stated (text : String)
  deriving DecidableEq, Repr

/-- The wording of a malformation. -/
def Malformation.message : Malformation → String
  | body => "error decoding response body"
  | noResult => "missing result"
  | result reason => reason.message
  | stated text => text

/-- Why a setup protocol could not be downloaded. -/
inductive Error where
  /-- No answer came from this URL. -/
  | network (url : String)
  | httpStatus (status : Nat)
  | rpc (code : Int) (message : String)
  | malformedResponse (malformation : Malformation)
  | invalidPayload (fault : Base64.Fault)
  | serialization (error : Json.Error)
  | file (error : Files.Error)
  | invalidEndpoint (url : String)
  deriving DecidableEq, Repr

/-- The wording of an error. -/
def Error.message : Error → String
  | network url => "Network error: error sending request for url (" ++ url ++ ")"
  | httpStatus status => "Server responded with HTTP " ++ Text.ofNat status
  | rpc code message => "JSON-RPC error " ++ Text.ofInt code ++ ": " ++ message
  | malformedResponse malformation => "Malformed response: " ++ malformation.message
  | invalidPayload fault => "Invalid base64 payload: " ++ fault.message
  | serialization error => "Serialization error: " ++ error.message
  | file error => "IO error: " ++ error.message
  | invalidEndpoint url => "Invalid endpoint: " ++ url

end Protocol

end Commissioning
