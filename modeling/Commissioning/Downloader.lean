import Commissioning.Document
import Commissioning.Notification
import Commissioning.Protocol.Error
import Commissioning.Protocol.Request
import Commissioning.Files.Path

set_option autoImplicit false

/-! # Downloads

A download asks for a setup protocol once, decodes the answer, and saves the document once. Where
any of this fails it tells the user so, once, and logs why; its caller sees an outcome and never an
error. A download is a run of steps, so that several of them may take turns. -/

namespace Commissioning

/-- What a downloader works with: someone to ask, someone to save, someone to tell, and the date. -/
structure Downloader (m : Type → Type) where
  ask : Protocol.Request → m (Except Protocol.Error String)
  save : Document → m (Except Protocol.Error Path)
  notify : Notification → m Unit
  log : Log.Event → m Unit
  today : m Date
  /-- The first part of the name of a document. -/
  stem : String := "IBN"

/-- How a download ended. -/
inductive Outcome where
  | saved (fileName : String) (path : Path) (size : Nat)
  /-- The user has been told. -/
  | failed
  deriving DecidableEq, Repr

namespace Outcome

/-- Whether a document was saved. -/
def isSaved : Outcome → Bool
  | saved .. => true
  | failed => false

/-- An outcome as JSON. -/
def toJson : Outcome → Json.Value
  | saved fileName path size =>
    .object [("outcome", .text "saved"), ("file_name", .text fileName),
      ("path", .text path.text), ("size", .ofNat size)]
  | failed => .object [("outcome", .text "failed")]

end Outcome

namespace Downloader

/-! ## Failures -/

/-- What the user is told about a failed download. -/
def failureNotice : Notification where
  message := "The protocol could not be downloaded."
  severity := .danger

/-- The event for a failed download. -/
def failure (reason : String) : Log.Event where
  level := .warn
  source := "ibn_protocol::downloader"
  message := "Setup protocol download failed"
  fields := [{ name := "reason", value := reason }]

/-- The event for a download that starts. -/
def starting (entity : String) (id : Protocol.Id) : Log.Event where
  level := .info
  source := "ibn_protocol::downloader"
  message := "Downloading setup protocol"
  fields := [{ name := "entity_id", value := entity },
    { name := "setup_protocol_id", value := id.display }]

variable {m : Type → Type} [Monad m]

/-- The user is told that a download failed, and the reason is logged. -/
def reportFailure (d : Downloader m) (reason : String) : m Unit := do
  d.log (failure reason)
  d.notify failureNotice

/-- The name that the protocol of an entity gets when it is saved today. -/
def fileNameFor (d : Downloader m) (entity : String) : m String := do
  let date ← d.today
  pure (Document.protocolFileName d.stem entity date)

/-! ## Steps -/

/-- How far a download has come. -/
inductive Stage where
  | ready (entity : String) (id : Protocol.Id)
  | answered (entity : String) (answer : Except Protocol.Error String)
  | decoded (document : Document)
  | refused (reason : Protocol.Error)
  | finished (outcome : Outcome)

/-- The next step of a download. The date is read when the answer has arrived. -/
def step (d : Downloader m) : Stage → m Stage
  | .ready entity id => do
    d.log (starting entity id)
    let answer ← d.ask { setupProtocolId := id }
    pure (.answered entity answer)
  | .answered _ (.error reason) => pure (.refused reason)
  | .answered entity (.ok payload) => do
    let fileName ← d.fileNameFor entity
    match Document.ofPayload payload fileName with
    | .ok document => pure (.decoded document)
    | .error fault => pure (.refused (.invalidPayload fault))
  | .decoded document => do
    match ← d.save document with
    | .ok path => pure (.finished (.saved document.fileName path document.size))
    | .error reason => pure (.refused reason)
  | .refused reason => do
    d.reportFailure reason.message
    pure (.finished .failed)
  | .finished outcome => pure (.finished outcome)

/-- Several steps of a download. -/
def steps (d : Downloader m) : Nat → Stage → m Stage
  | 0, stage => pure stage
  | n + 1, stage => do
    let stage ← d.step stage
    d.steps n stage

/-- The outcome of a download that has come to its end. -/
def Stage.outcome : Stage → Outcome
  | finished outcome => outcome
  | _ => .failed

/-- The setup protocol of an entity is downloaded: four steps at most. -/
def download (d : Downloader m) (entity : String) (id : Protocol.Id) : m Outcome := do
  let stage ← d.steps 4 (.ready entity id)
  pure stage.outcome

/-- Two downloads at once: both ask before either goes on. -/
def downloadBoth (d : Downloader m) (entity : String) (id : Protocol.Id) (entity' : String)
    (id' : Protocol.Id) : m (Outcome × Outcome) := do
  let first ← d.step (.ready entity id)
  let second ← d.step (.ready entity' id')
  let first ← d.steps 3 first
  let second ← d.steps 3 second
  pure (first.outcome, second.outcome)

end Downloader

end Commissioning
