import Commissioning.Json.Record

set_option autoImplicit false

/-! # Navigation events and wizard states

A view asks for the next or the previous one. The wizard is in progress until its last view is
confirmed, and stays finished from then on. -/

namespace Commissioning

/-- The lower-case form of a letter as far as the names of events and states need it: the ASCII
letters, and the Kelvin sign, whose lower-case form is a plain `k`. -/
def lowerName (s : String) : String :=
  String.ofList (s.toList.map fun c => if c = '\u212a' then 'k' else c.toLower)

/-! ## Events -/

/-- What a view asks for. -/
inductive ViewEvent where
  | previous
  | next
  deriving DecidableEq, Repr

namespace ViewEvent

/-- The name of an event. -/
def name : ViewEvent → String
  | previous => "previous"
  | next => "next"

/-- The event with a typed name, in any case. -/
def parse? (typed : String) : Option ViewEvent :=
  let s := lowerName typed
  if s ∈ ["previous", "prev", "back"] then some previous
  else if s ∈ ["next", "forward"] then some next
  else none

/-- Why a typed text names no event. -/
def unknownMessage (typed : String) : String :=
  "Unknown view event: " ++ typed

/-- An event in JSON. -/
def reader : Json.Reader ViewEvent :=
  Json.variant [("previous", previous), ("next", next)]

/-- An event as JSON. -/
def toJson (e : ViewEvent) : Json.Value :=
  .text e.name

end ViewEvent

/-! ## States -/

/-- Whether the wizard still takes events. -/
inductive WizardState where
  | inProgress
  | finished
  deriving DecidableEq, Repr

namespace WizardState

/-- The name of a state. -/
def name : WizardState → String
  | inProgress => "in_progress"
  | finished => "finished"

/-- The state with a typed name, in any case. -/
def parse? (typed : String) : Option WizardState :=
  let s := lowerName typed
  if s = "in_progress" then some inProgress
  else if s = "finished" then some finished
  else none

/-- Why a typed text names no state. -/
def unknownMessage (typed : String) : String :=
  "Unknown wizard state: " ++ typed

/-- Whether the wizard may go from one state to another: a finished wizard goes nowhere. -/
def canTransitionTo : WizardState → WizardState → Bool
  | inProgress, finished => true
  | inProgress, inProgress => true
  | _, _ => false

/-- A state in JSON. -/
def reader : Json.Reader WizardState :=
  Json.variant [("in_progress", inProgress), ("finished", finished)]

/-- A state as JSON. -/
def toJson (s : WizardState) : Json.Value :=
  .text s.name

end WizardState

end Commissioning
