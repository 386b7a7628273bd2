import Commissioning.Wizard.Basic
import Mathlib.Tactic.Common

set_option autoImplicit false

/-! # Runs of the wizard

What one event does to the wizard (`handle_cases`), and a run of events in which a refused one
leaves the wizard where it is. -/

namespace Commissioning.Wizard

/-! ## One event -/

/-- The wizard at the end: the last view stays, and nothing is taken any more. -/
def finish (w : Wizard) : Wizard :=
  { w with state := .finished }

@[simp] theorem finish_views (w : Wizard) : w.finish.views = w.views := rfl
@[simp] theorem finish_position (w : Wizard) : w.finish.position = w.position := rfl
@[simp] theorem finish_state (w : Wizard) : w.finish.state = .finished := rfl

@[simp] theorem moveTo_views (w : Wizard) (i : Nat) (h : i < w.views.length) :
    (w.moveTo i h).views = w.views := rfl
@[simp] theorem moveTo_position (w : Wizard) (i : Nat) (h : i < w.views.length) :
    (w.moveTo i h).position = i := rfl
@[simp] theorem moveTo_state (w : Wizard) (i : Nat) (h : i < w.views.length) :
    (w.moveTo i h).state = w.state := rfl

/-- What an event does, by where the wizard stands: it is refused by a finished wizard and by the
first view, it confirms the last view, or it moves by one view. -/
inductive Handled (w : Wizard) : ViewEvent → Except Fault (Wizard × Transition) → Prop
  | atEnd (event : ViewEvent) (hstate : w.state = .finished) :
      Handled w event (.error .finished)
  | atStart (hstate : w.state = .inProgress) (hfirst : w.position = 0) :
      Handled w .previous (.error (.invalidTransition w.currentView .previous))
  | confirm (hstate : w.state = .inProgress) (hlast : w.position + 1 = w.views.length) :
      Handled w .next (.ok (w.finish, ⟨.next, w.currentView, w.currentView, .finished⟩))
  | forward (hstate : w.state = .inProgress) (h : w.position + 1 < w.views.length) :
      Handled w .next (.ok (w.moveTo (w.position + 1) h,
        ⟨.next, w.currentView, (w.moveTo (w.position + 1) h).currentView, .inProgress⟩))
  | back (hstate : w.state = .inProgress) (hpos : 0 < w.position)
      (h : w.position - 1 < w.views.length) :
      Handled w .previous (.ok (w.moveTo (w.position - 1) h,
        ⟨.previous, w.currentView, (w.moveTo (w.position - 1) h).currentView, .inProgress⟩))

theorem handle_cases (w : Wizard) (event : ViewEvent) : Handled w event (w.handle event) := by
  cases hstate : w.state with
  | finished =>
    have heq : w.handle event = .error .finished := by simp [handle, hstate]
    rw [heq]
    exact .atEnd event hstate
  | inProgress =>
    cases event with
    | previous =>
      by_cases hfirst : w.position = 0
      · have heq : w.handle .previous = .error (.invalidTransition w.currentView .previous) := by
          simp [handle, hstate, hfirst]
        rw [heq]
        exact .atStart hstate hfirst
      · have hlt : w.position - 1 < w.views.length := by
          have := w.position_lt
          omega
        have heq : w.handle .previous = .ok (w.moveTo (w.position - 1) hlt,
            ⟨.previous, w.currentView, (w.moveTo (w.position - 1) hlt).currentView,
              .inProgress⟩) := by
          simp [handle, hstate, hfirst, WizardState.canTransitionTo, moveTo]
        rw [heq]
        exact .back hstate (by omega) hlt
    | next =>
      by_cases hlast : w.position + 1 = w.views.length
      · have heq : w.handle .next
            = .ok (w.finish, ⟨.next, w.currentView, w.currentView, .finished⟩) := by
          simp [handle, hstate, isLastView, hlast, WizardState.canTransitionTo, finish,
            currentView]
        rw [heq]
        exact .confirm hstate hlast
      · have hlt : w.position + 1 < w.views.length := by
          have := w.position_lt
          omega
        have heq : w.handle .next = .ok (w.moveTo (w.position + 1) hlt,
            ⟨.next, w.currentView, (w.moveTo (w.position + 1) hlt).currentView,
              .inProgress⟩) := by
          simp [handle, hstate, isLastView, hlast, hlt, WizardState.canTransitionTo, moveTo]
        rw [heq]
        exact .forward hstate hlt

/-! ## Events in turn -/

/-- The wizard after an event; it stays as it is when it refuses. -/
def after (w : Wizard) (event : ViewEvent) : Wizard :=
  match w.handle event with
  | .ok (next, _) => next
  | .error _ => w

/-- The wizard after several events. -/
def afterAll (w : Wizard) (events : List ViewEvent) : Wizard :=
  events.foldl after w

/-- What the wizard answers to several events: the steps it makes, and why it makes none. -/
def answers (w : Wizard) : List ViewEvent → List (Except Fault Transition)
  | [] => []
  | event :: events => (w.handle event).map (·.2) :: (w.after event).answers events

theorem after_of_ok {w next : Wizard} {event : ViewEvent} {t : Transition}
    (h : w.handle event = .ok (next, t)) : w.after event = next := by
  rw [after, h]

theorem after_of_error {w : Wizard} {event : ViewEvent} {fault : Fault}
    (h : w.handle event = .error fault) : w.after event = w := by
  rw [after, h]

theorem afterAll_cons (w : Wizard) (event : ViewEvent) (events : List ViewEvent) :
    w.afterAll (event :: events) = (w.after event).afterAll events :=
  rfl

theorem afterAll_append (w : Wizard) (events later : List ViewEvent) :
    w.afterAll (events ++ later) = (w.afterAll events).afterAll later :=
  List.foldl_append

theorem answers_append (w : Wizard) (events later : List ViewEvent) :
    w.answers (events ++ later) = w.answers events ++ (w.afterAll events).answers later := by
  induction events generalizing w with
  | nil => rfl
  | cons event events ih =>
    rw [List.cons_append, answers, answers, ih, List.cons_append]
    rfl

end Commissioning.Wizard
