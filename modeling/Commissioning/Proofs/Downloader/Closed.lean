import Commissioning.Session

set_option autoImplicit false

/-! # What holds of every download

A property of computations holds of a download when it holds of each thing that a host does and goes
over from steps to what is put together from them (`Host.Closed`). -/

namespace Commissioning

/-- Whether a property of computations holds of what a host does for a download, and of what is put
together from computations with the property. -/
structure Host.Closed {m : Type → Type} [Monad m] [Host m] (P : (α : Type) → m α → Prop) :
    Prop where
  pure {α : Type} (a : α) : P α (Pure.pure a)
  bind {α β : Type} {x : m α} {f : α → m β} (hx : P α x) (hf : ∀ a, P β (f a)) :
    P β (x >>= f)
  makeDirectories (path : Path) : P _ (Host.makeDirectories path)
  writeFile (path : Path) (bytes : List UInt8) : P _ (Host.writeFile path bytes)
  exchange (request : Http.Request) : P _ (Host.exchange request)
  today : P _ Host.today
  freshId : P _ Host.freshId
  log (event : Log.Event) : P _ (Host.log event)

namespace Host.Closed

variable {m : Type → Type} [Monad m] [Host m] {P : (α : Type) → m α → Prop}

theorem ask (h : Closed P) (service : Service) (request : Protocol.Request) :
    P _ (service.ask request) :=
  h.bind h.freshId fun _ => h.bind (h.log _) fun _ => h.bind (h.exchange _) fun _ => h.pure _

theorem save (h : Closed P) (saver : Saver) (document : Document) : P _ (saver.save document) := by
  refine h.bind (h.makeDirectories _) fun made => ?_
  cases made with
  | error e => exact h.pure _
  | ok =>
    refine h.bind (h.writeFile _ _) fun written => ?_
    cases written with
    | error e => exact h.pure _
    | ok => exact h.bind (h.log _) fun _ => h.pure _

variable {notify : Notification → m Unit}

theorem reportFailure (h : Closed P) (hnotify : ∀ notice, P _ (notify notice)) (session : Session)
    (reason : String) : P _ ((session.downloader notify).reportFailure reason) :=
  h.bind (h.log _) fun _ => hnotify _

theorem step (h : Closed P) (hnotify : ∀ notice, P _ (notify notice)) (session : Session)
    (stage : Downloader.Stage) : P _ ((session.downloader notify).step stage) := by
  cases stage with
  | ready entity id =>
    exact h.bind (h.log _) fun _ => h.bind (h.ask session.service _) fun _ => h.pure _
  | answered entity answer =>
    cases answer with
    | error reason => exact h.pure _
    | ok payload =>
      refine h.bind (h.bind h.today fun _ => h.pure _) fun fileName => ?_
      cases Document.ofPayload payload fileName with
      | ok document => exact h.pure _
      | error fault => exact h.pure _
  | decoded document =>
    refine h.bind (h.save _ document) fun saved => ?_
    cases saved with
    | ok path => exact h.pure _
    | error reason => exact h.pure _
  | refused reason => exact h.bind (h.reportFailure hnotify session _) fun _ => h.pure _
  | finished outcome => exact h.pure _

theorem steps (h : Closed P) (hnotify : ∀ notice, P _ (notify notice)) (session : Session) (n : Nat)
    (stage : Downloader.Stage) : P _ ((session.downloader notify).steps n stage) := by
  induction n generalizing stage with
  | zero => exact h.pure _
  | succ n ih => exact h.bind (h.step hnotify session stage) ih

/-- **What holds of each thing that a host does holds of a download.** -/
theorem download (h : Closed P) (hnotify : ∀ notice, P _ (notify notice)) (session : Session)
    (i : Installation) : P _ (session.download notify i) := by
  unfold Session.download
  cases i.setupProtocolId with
  | some id => exact h.bind (h.steps hnotify session 4 _) fun _ => h.pure _
  | none => exact h.bind (h.reportFailure hnotify session _) fun _ => h.pure _

end Host.Closed

end Commissioning
