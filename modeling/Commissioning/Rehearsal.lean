import Commissioning.Files.System
import Commissioning.Host
import Commissioning.Text.Hex

set_option autoImplicit false

/-! # Rehearsals

A host that does everything on a value: files in memory, a server with prepared responses, a fixed
date, and a record of what was sent, logged and printed. -/

namespace Commissioning

/-- A server with prepared responses, one a request; a request without one gets no answer. -/
structure Server where
  /-- The scheme of the URLs that lead to the server. -/
  scheme : String := "http"
  host : Url.Host
  port : Nat
  /-- Whether the server takes connections. -/
  isListening : Bool := true
  responses : List (Option Http.Response) := []
  /-- The requests that it got. -/
  requests : List Http.Request := []

namespace Server

/-- Whether a URL leads to the server. -/
def serves (s : Server) (url : Url) : Bool :=
  s.isListening && url.scheme == s.scheme && url.host? == some s.host
    && url.portOrDefault? == some s.port

/-- The response of the server to a request. A status has three digits, and below 200 none ends
an exchange except a switch of protocols. -/
def answer (s : Server) (request : Http.Request) : Option Http.Response × Server :=
  if !s.serves request.url then (none, s)
  else
    let next := s.responses.head?.join.filter fun r =>
      r.status == 101 || (200 ≤ r.status && r.status < 1000)
    (next, { s with responses := s.responses.tail, requests := s.requests ++ [request] })

end Server

/-- Everything that a rehearsal changes. -/
structure Rehearsal where
  files : FileSystem
  server : Option Server := none
  date : Date
  /-- The time that the log shows. -/
  time : String := "TIME"
  /-- How many ids were handed out. -/
  calls : Nat := 0
  log : List Log.Event := []
  printed : List String := []
  printedErrors : List String := []

namespace Rehearsal

/-- The id that is handed out after a number of others. -/
def callId (n : Nat) : String :=
  "00000000-0000-4000-8000-" ++ String.ofList
    (List.replicate (12 - (Text.hexadecimal n).length) '0' ++ Text.hexadecimal n)

instance : Host (StateM Rehearsal) where
  readFile path r := (r.files.read path, r)
  pathExists path r := (r.files.contains path, r)
  makeDirectories path r :=
    let (files, fault) := r.files.makeDirectories path
    (match fault with | some e => .error e | none => .ok (), { r with files := files })
  writeFile path bytes r :=
    match r.files.write path bytes with
    | .ok files => (.ok (), { r with files := files })
    | .error e => (.error e, r)
  exchange request r :=
    match r.server with
    | none => (none, r)
    | some server =>
      let (response, server) := server.answer request
      (response, { r with server := some server })
  today r := (r.date, r)
  clock r := (r.time, r)
  freshId r := (callId r.calls, { r with calls := r.calls + 1 })
  log event r := ((), { r with log := r.log ++ [event] })
  printLine line r := ((), { r with printed := r.printed ++ [line] })
  printErrorLine line r := ((), { r with printedErrors := r.printedErrors ++ [line] })

end Rehearsal

end Commissioning
