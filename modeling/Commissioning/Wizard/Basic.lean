import Commissioning.Log.Event
import Commissioning.Text.Decimal
import Commissioning.Wizard.Event

set_option autoImplicit false

/-! # The wizard

A list of distinct views shown one after another. The wizard alone decides which view comes next;
confirming the last view finishes it. A refused event changes nothing. -/

namespace Commissioning

/-- The first element of a list that equals an earlier one. -/
def firstRepeated? {α : Type} [DecidableEq α] : List α → List α → Option α
  | _, [] => none
  | seen, a :: rest => if a ∈ seen then some a else firstRepeated? (a :: seen) rest

/-- Where the wizard stands. -/
structure Wizard where
  views : List String
  position : Nat
  state : WizardState
  position_lt : position < views.length

namespace Wizard

/-- Why the wizard refuses a list of views or an event. -/
inductive Fault where
  | noViews
  | duplicateView (view : String)
  | invalidTransition (view : String) (event : ViewEvent)
  | finished
  deriving DecidableEq, Repr

/-- The wording of a refusal. -/
def Fault.message : Fault → String
  | noViews => "Wizard has no views"
  | duplicateView view => "Duplicate view: " ++ view
  | invalidTransition view event => "Invalid transition: " ++ event.name ++ " on " ++ view
  | finished => "Wizard already finished"

/-- The wizard on the first of its views. -/
def ofViews (views : List String) : Except Fault Wizard :=
  if h : 0 < views.length then
    match firstRepeated? [] views with
    | some view => .error (.duplicateView view)
    | none => .ok { views := views, position := 0, state := .inProgress, position_lt := h }
  else .error .noViews

/-- The view that is shown. -/
def currentView (w : Wizard) : String :=
  w.views.get ⟨w.position, w.position_lt⟩

/-- Whether the last view is shown. -/
def isLastView (w : Wizard) : Bool :=
  w.position + 1 == w.views.length

/-! ## Transitions -/

/-- A step of the wizard: the event, the view shown before it and after it, and the state. -/
structure Transition where
  event : ViewEvent
  origin : String
  target : String
  state : WizardState
  deriving DecidableEq, Repr

/-- The event that the log shows for a step. -/
def Transition.logged (t : Transition) : Log.Event where
  level := .info
  source := "ibn_wizard::coordinator"
  message := "Wizard transition"
  fields :=
    [{ name := "event", value := t.event.name }, { name := "from", value := t.origin },
     { name := "to", value := t.target }, { name := "state", value := t.state.name }]

/-- The wizard at another position in its list. -/
def moveTo (w : Wizard) (position : Nat) (h : position < w.views.length) : Wizard :=
  { w with position := position, position_lt := h }

/-- The wizard after an event and the step it made, or why it refuses the event. -/
def handle (w : Wizard) (event : ViewEvent) : Except Fault (Wizard × Transition) :=
  if w.state = .finished then .error .finished
  else if event = .previous ∧ w.position = 0 then
    .error (.invalidTransition w.currentView event)
  else
    let target := if event = .next ∧ w.isLastView then WizardState.finished else .inProgress
    if !w.state.canTransitionTo target then .error (.invalidTransition w.currentView event)
    else
      let moved :=
        match target, event with
        | .finished, _ => w
        | .inProgress, .next =>
          if h : w.position + 1 < w.views.length then w.moveTo (w.position + 1) h else w
        | .inProgress, .previous =>
          w.moveTo (w.position - 1) (Nat.lt_of_le_of_lt (Nat.sub_le _ _) w.position_lt)
      let after := { moved with state := target }
      .ok (after, ⟨event, w.currentView, after.currentView, target⟩)

/-- The wizard as JSON. -/
def toJson (w : Wizard) : Json.Value :=
  .object [("views", .ofTexts w.views), ("position", .ofNat w.position),
    ("state", w.state.toJson)]

end Wizard

end Commissioning
