import Commissioning.Http.Message
import Commissioning.Url.Relative

set_option autoImplicit false

/-! # Redirects

A response may send a request on to another place. What goes there depends on the status, and the
credentials go no further than to the server that they are meant for. -/

namespace Commissioning.Http

/-- A request on its way, which redirects may have changed. -/
structure Hop where
  method : String
  url : Url
  authorization : List String
  /-- The content with its type. -/
  content : Option (String × String)
  /-- The place that has sent the request on. -/
  referer : Option String := none
  deriving DecidableEq, Repr

/-- A request as it sets out. -/
def Request.hop (r : Request) : Hop where
  method := Request.method
  url := r.url
  authorization := r.authorization
  content := some (r.contentType, r.body)

/-- A response with the place that it names. -/
structure Arrival where
  response : Response
  location : Option String := none

namespace Hop

/-- How many redirects are followed. -/
def limit : Nat := 10

/-- Whether a request keeps its method and its content where a status sends it on. -/
def keepsContent? (status : Nat) : Option Bool :=
  if status = 301 ∨ status = 302 ∨ status = 303 then some false
  else if status = 307 ∨ status = 308 then some true
  else none

/-- Whether two URLs lead to the same server. -/
def isSameServer (url url' : Url) : Bool :=
  url.host? == url'.host? && url.portOrDefault? == url'.portOrDefault?

/-- What the place that a request is sent on to is told about where it comes from. -/
def refererFor? (url next : Url) : Option String :=
  if url.scheme == "https" && next.scheme == "http" then none
  else some { url with fragment := none }.textWithoutUser

/-- The request that a response sends on, if it does. -/
def next? (h : Hop) (arrival : Arrival) : Option Hop := do
  let keeps ← keepsContent? arrival.response.status
  let url ← (h.url.resolve (← arrival.location)).toOption
  some {
    method := if keeps then h.method else "GET"
    url := url
    authorization := if isSameServer h.url url then h.authorization else []
    content := if keeps then h.content else none
    referer := refererFor? h.url url <|> h.referer }

end Hop

end Commissioning.Http
