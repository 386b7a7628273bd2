import Commissioning.Json.Record
import Commissioning.Log.Event

set_option autoImplicit false

/-! # Notifications

Short messages to the user, with a severity, and the ways to show them: on a channel that a user
interface drains, in the log, or on the terminal. -/

namespace Commissioning

/-- What a notification is about. -/
inductive Severity where
  | success
  | info
  | warning
  | danger
  deriving DecidableEq, Repr

namespace Severity

/-- The name of a severity. -/
def name : Severity → String
  | success => "success"
  | info => "info"
  | warning => "warning"
  | danger => "danger"

/-- Every severity with its name. -/
def named : List (String × Severity) :=
  [success, info, warning, danger].map fun s => (s.name, s)

/-- A severity in JSON. -/
def reader : Json.Reader Severity :=
  Json.variant named

/-- A severity as JSON. -/
def toJson (s : Severity) : Json.Value :=
  .text s.name

/-- The word that the terminal shows for a severity. -/
def label : Severity → String
  | danger => "error"
  | warning => "warning"
  | success => "ok"
  | info => "info"

/-- The level at which the log shows a severity. -/
def level : Severity → Log.Level
  | danger => .error
  | warning => .warn
  | success => .info
  | info => .info

end Severity

/-- A short message to the user. -/
structure Notification where
  message : String
  severity : Severity
  deriving DecidableEq, Repr

namespace Notification

/-- A notification that is being read. -/
structure Draft where
  message : Option String := none
  severity : Option Severity := none

/-- The fields of a notification in JSON. -/
def fields : List (Json.Field Draft) :=
  [.ofLens "message" true (·.message) (fun d s => { d with message := some s }) Json.text,
   .ofLens "severity" true (·.severity) (fun d s => { d with severity := some s })
     Severity.reader]

/-- A notification in JSON. -/
def reader : Json.Reader Notification := do
  let d ← Json.record "struct Notification" fields {}
  pure { message := d.message.getD "", severity := d.severity.getD .info }

/-- A notification as JSON. -/
def toJson (n : Notification) : Json.Value :=
  .object [("message", .text n.message), ("severity", n.severity.toJson)]

/-- The line that the terminal shows. -/
def line (n : Notification) : String :=
  "[" ++ n.severity.label ++ "] " ++ n.message

/-- The event that the log shows instead of a notification. -/
def event (n : Notification) : Log.Event where
  level := n.severity.level
  source := "ibn_protocol::host"
  message := "Notification"
  fields := [{ name := "message", value := n.message }]

/-- The event before a notification is shown on the terminal. -/
def showing (n : Notification) : Log.Event where
  level := .debug
  source := "ibn::notifier"
  message := "Showing notification"
  fields := [{ name := "severity", value := n.severity.name }]

end Notification

/-! ## Channels -/

/-- A channel to a user interface, which drains it until it goes away. -/
structure Channel where
  waiting : List Notification := []
  isOpen : Bool := true
  deriving DecidableEq, Repr

namespace Channel

/-- The event for a notification that nobody will see. -/
def dropped : Log.Event where
  level := .debug
  source := "ibn_protocol::host"
  message := "Notification receiver dropped"

/-- A notification put on the channel; it is lost once the receiver has gone. -/
def send (c : Channel) (n : Notification) : Channel × List Log.Event :=
  if c.isOpen then ({ c with waiting := c.waiting ++ [n] }, []) else (c, [dropped])

/-- What waits on the channel, as long as there is a receiver. -/
def drain (c : Channel) : Channel × Option (List Notification) :=
  if c.isOpen then ({ c with waiting := [] }, some c.waiting) else (c, none)

/-- The receiver goes away, and what waits is lost. -/
def close (_ : Channel) : Channel :=
  { waiting := [], isOpen := false }

end Channel

end Commissioning
