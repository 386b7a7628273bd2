import Commissioning.Proofs.Wizard.Run
import Commissioning.Proofs.Wizard.Views

set_option autoImplicit false

/-! # The wizard as a bounded counter

A wizard over `n` views counts the views that are behind it, from none to all: the next view adds
one as long as some are ahead, the previous one takes one away as long as the wizard is neither at
its start nor at its end. `run_refines_counter` says that the two agree after every run of events,
on what they take and on what they refuse. -/

namespace Commissioning

/-! ## The counter -/

namespace Counter

/-- The counter after an event, if it takes the event. -/
def step (n c : Nat) : ViewEvent → Option Nat
  | .next => if c < n then some (c + 1) else none
  | .previous => if 0 < c ∧ c < n then some (c - 1) else none

/-- The counter after an event; it stays as it is when it refuses. -/
def after (n c : Nat) (event : ViewEvent) : Nat :=
  (step n c event).getD c

/-- The counter after several events. -/
def afterAll (n c : Nat) (events : List ViewEvent) : Nat :=
  events.foldl (after n) c

/-- Which of several events the counter takes. -/
def accepts (n c : Nat) : List ViewEvent → List Bool
  | [] => []
  | event :: events => (step n c event).isSome :: accepts n (after n c event) events

end Counter

namespace Wizard

/-! ## The simulation -/

/-- The wizard stands where the counter does: it shows the view that comes next, or the last one
when every view is behind it. -/
structure Tracks (w : Wizard) (c : Nat) : Prop where
  le : c ≤ w.views.length
  finished : w.state = .finished ↔ c = w.views.length
  position : w.position = min c (w.views.length - 1)

theorem tracks_start {views : List String} {w : Wizard} (h : ofViews views = .ok w) :
    w.views = views ∧ w.Tracks 0 := by
  obtain ⟨hviews, hposition, hstate, -⟩ := start_of_ofViews h
  have hlt := w.position_lt
  refine ⟨hviews, ⟨Nat.zero_le _, ?_, by simp [hposition]⟩⟩
  simp only [hstate, reduceCtorEq, false_iff]
  omega

/-- A wizard in progress has as many views behind it as its position says. -/
theorem Tracks.of_inProgress {w : Wizard} {c : Nat} (h : w.Tracks c)
    (hstate : w.state = .inProgress) : c < w.views.length ∧ w.position = c := by
  have hne : c ≠ w.views.length := by
    intro hc
    have hfinished := h.finished.2 hc
    rw [hstate] at hfinished
    exact absurd hfinished (by decide)
  have hle := h.le
  have hposition := h.position
  omega

theorem Tracks.finish {w : Wizard} {c : Nat} (h : w.Tracks c) (hstate : w.state = .inProgress)
    (hlast : w.position + 1 = w.views.length) : w.finish.Tracks (c + 1) := by
  obtain ⟨hlt, hposition⟩ := h.of_inProgress hstate
  refine ⟨?_, ?_, ?_⟩
  · simp only [finish_views]
    omega
  · simp only [finish_state, finish_views, true_iff]
    omega
  · simp only [finish_position, finish_views]
    omega

theorem tracks_moveTo {w : Wizard} (hstate : w.state = .inProgress) (i : Nat)
    (hi : i < w.views.length) : (w.moveTo i hi).Tracks i := by
  refine ⟨Nat.le_of_lt hi, ?_, ?_⟩
  · simp only [moveTo_state, moveTo_views, hstate, reduceCtorEq, false_iff]
    omega
  · simp only [moveTo_position, moveTo_views]
    omega

/-- How an event that is taken moves the wizard: by one view, or not at all when it confirms the
last one. -/
def Moves (w next : Wizard) (event : ViewEvent) : Prop :=
  next.state = .finished ∧ event = .next ∧ next.position = w.position ∨
  next.state = .inProgress ∧ event = .next ∧ next.position = w.position + 1 ∨
  next.state = .inProgress ∧ event = .previous ∧ next.position + 1 = w.position

/-- One event on the two sides: both take it and keep standing at the same place, or both refuse
it, for the reason that the counter gives. -/
inductive StepsWith (w : Wizard) (c : Nat) (event : ViewEvent) :
    Option Nat → Except Fault (Wizard × Transition) → Prop
  | taken {c' : Nat} {next : Wizard} {t : Transition} (views : next.views = w.views)
      (tracks : next.Tracks c') (moves : w.Moves next event) :
      StepsWith w c event (some c') (.ok (next, t))
  | refused {fault : Fault} (finished : fault = .finished ↔ c = w.views.length)
      (invalid : c ≠ w.views.length → event = .previous ∧ w.position = 0 ∧
        fault = .invalidTransition w.currentView .previous) :
      StepsWith w c event none (.error fault)

theorem stepsWith {w : Wizard} {c : Nat} (h : w.Tracks c) (event : ViewEvent) :
    StepsWith w c event (Counter.step w.views.length c event) (w.handle event) := by
  -- Where the wizard stands decides its answer, and by `h` the counter's too.
  have hcases := handle_cases w event
  generalize w.handle event = answer at hcases
  cases hcases with
  | atEnd _ hstate =>
    have hc := h.finished.1 hstate
    have hstep : Counter.step w.views.length c event = none := by
      cases event <;> simp [Counter.step, hc]
    rw [hstep]
    exact .refused (by simp [hc]) (fun hne => absurd hc hne)
  | atStart hstate hfirst =>
    obtain ⟨hlt, hposition⟩ := h.of_inProgress hstate
    have hstep : Counter.step w.views.length c .previous = none := by
      simp only [Counter.step]
      rw [if_neg (by omega)]
    rw [hstep]
    exact .refused (by simp; omega) (fun _ => ⟨rfl, hfirst, rfl⟩)
  | confirm hstate hlast =>
    obtain ⟨hlt, hposition⟩ := h.of_inProgress hstate
    have hstep : Counter.step w.views.length c .next = some (c + 1) := by
      simp only [Counter.step]
      rw [if_pos hlt]
    rw [hstep]
    exact .taken rfl (h.finish hstate hlast) (Or.inl ⟨rfl, rfl, rfl⟩)
  | forward hstate hnext =>
    obtain ⟨hlt, hposition⟩ := h.of_inProgress hstate
    have hstep : Counter.step w.views.length c .next = some (w.position + 1) := by
      simp only [Counter.step]
      rw [if_pos hlt, hposition]
    rw [hstep]
    exact .taken rfl (tracks_moveTo hstate _ hnext) (Or.inr (Or.inl ⟨hstate, rfl, rfl⟩))
  | back hstate hpos hprevious =>
    obtain ⟨hlt, hposition⟩ := h.of_inProgress hstate
    have hstep : Counter.step w.views.length c .previous = some (w.position - 1) := by
      simp only [Counter.step]
      rw [if_pos (by omega), hposition]
    rw [hstep]
    refine .taken rfl (tracks_moveTo hstate _ hprevious) (Or.inr (Or.inr ⟨hstate, rfl, ?_⟩))
    simp only [moveTo_position]
    omega

/-! ## Runs -/

theorem tracks_after {w : Wizard} {c : Nat} (h : w.Tracks c) (event : ViewEvent) :
    (w.after event).views = w.views ∧
      (w.after event).Tracks (Counter.after w.views.length c event) := by
  have hstep := stepsWith h event
  rw [after, Counter.after]
  -- Both answers as variables, so that one case split decides them together.
  generalize Counter.step w.views.length c event = count at hstep
  generalize w.handle event = answer at hstep
  cases hstep with
  | taken hviews htracks _ => exact ⟨hviews, htracks⟩
  | refused _ _ => exact ⟨rfl, h⟩

theorem tracks_afterAll {w : Wizard} {c : Nat} (h : w.Tracks c) (events : List ViewEvent) :
    (w.afterAll events).views = w.views ∧
      (w.afterAll events).Tracks (Counter.afterAll w.views.length c events) := by
  induction events generalizing w c with
  | nil => exact ⟨rfl, h⟩
  | cons event events ih =>
    obtain ⟨hviews, htracks⟩ := tracks_after h event
    obtain ⟨hviews', htracks'⟩ := ih htracks
    rw [hviews] at hviews' htracks'
    exact ⟨hviews', htracks'⟩

theorem accepts_eq {w : Wizard} {c : Nat} (h : w.Tracks c) (events : List ViewEvent) :
    (w.answers events).map (·.isOk) = Counter.accepts w.views.length c events := by
  induction events generalizing w c with
  | nil => rfl
  | cons event events ih =>
    obtain ⟨hviews, htracks⟩ := tracks_after h event
    have hrest := ih htracks
    rw [hviews] at hrest
    have hfirst : ((w.handle event).map (·.2)).isOk
        = (Counter.step w.views.length c event).isSome := by
      have hstep := stepsWith h event
      generalize Counter.step w.views.length c event = count at hstep
      generalize w.handle event = answer at hstep
      cases hstep with
      | taken _ _ _ => rfl
      | refused _ _ => rfl
    rw [answers, List.map_cons, hfirst, hrest]
    rfl

/-- The view that is shown is the one that the counter points at. -/
theorem getElem?_currentView {w : Wizard} {c : Nat} (h : w.Tracks c) :
    w.views[min c (w.views.length - 1)]? = some w.currentView := by
  rw [← h.position, currentView]
  exact List.getElem?_eq_getElem w.position_lt

/-- What a wizard over some views and the counter of those views agree on: where they stand, what
they take next, and why they refuse. -/
structure Agrees (views : List String) (w : Wizard) (c : Nat) : Prop where
  views_eq : w.views = views
  finished : w.state = .finished ↔ c = views.length
  in_bounds : w.position < views.length ∧ w.position = min c (views.length - 1)
  shown : views[min c (views.length - 1)]? = some w.currentView
  /-- What the counter takes, the wizard takes, and it moves by one view at most. -/
  taken : ∀ event c', Counter.step views.length c event = some c' →
    ∃ next t, w.handle event = .ok (next, t) ∧ w.after event = next ∧ w.Moves next event
  /-- What the counter refuses, the wizard refuses, and nothing changes. -/
  refused : ∀ event, Counter.step views.length c event = none →
    w.after event = w ∧ ∃ fault, w.handle event = .error fault ∧
      (fault = .finished ↔ c = views.length) ∧
      (c ≠ views.length → ∃ first, views.head? = some first ∧
        fault = .invalidTransition first .previous)
  /-- Only the first view refuses a transition: the question whether the state may change is always
  answered with yes. -/
  guard : (∀ event view named, w.handle event = .error (.invalidTransition view named) →
      event = .previous ∧ w.position = 0) ∧
    (w.state ≠ .finished → ∀ target, w.state.canTransitionTo target = true)

theorem canTransitionTo_of_ne_finished {state : WizardState} (h : state ≠ .finished)
    (target : WizardState) : state.canTransitionTo target = true := by
  cases state with
  | finished => exact absurd rfl h
  | inProgress => cases target <;> rfl

theorem Tracks.agrees {w : Wizard} {c : Nat} (h : w.Tracks c) : Agrees w.views w c where
  views_eq := rfl
  finished := h.finished
  in_bounds := ⟨w.position_lt, h.position⟩
  shown := getElem?_currentView h
  taken := by
    intro event c' hstep
    have hsteps := stepsWith h event
    rw [hstep] at hsteps
    generalize hanswer : w.handle event = answer at hsteps
    cases hsteps with
    | @taken _ next t _ _ hmoves => exact ⟨next, t, rfl, after_of_ok hanswer, hmoves⟩
  refused := by
    intro event hstep
    have hsteps := stepsWith h event
    rw [hstep] at hsteps
    generalize hanswer : w.handle event = answer at hsteps
    cases hsteps with
    | @refused fault hfinished hinvalid =>
      refine ⟨after_of_error hanswer, fault, rfl, hfinished, fun hne => ?_⟩
      obtain ⟨-, hfirst, hfault⟩ := hinvalid hne
      refine ⟨w.currentView, ?_, hfault⟩
      rw [List.head?_eq_getElem?, ← getElem?_currentView h, ← h.position, hfirst]
  guard := by
    refine ⟨fun event view named hanswer => ?_, canTransitionTo_of_ne_finished⟩
    have hsteps := stepsWith h event
    rw [hanswer] at hsteps
    generalize Counter.step w.views.length c event = count at hsteps
    cases hsteps with
    | refused hfinished hinvalid =>
      have hne : c ≠ w.views.length := fun hc => absurd (hfinished.2 hc) (by simp)
      obtain ⟨hevent, hfirst, -⟩ := hinvalid hne
      exact ⟨hevent, hfirst⟩

/-- **The wizard is a bounded counter.** After any events, it has taken those that the counter of
its views has taken, and the two agree on everything that follows. -/
theorem run_refines_counter {views : List String} {start : Wizard}
    (hstart : ofViews views = .ok start) (events : List ViewEvent) :
    (start.answers events).map (·.isOk) = Counter.accepts views.length 0 events ∧
      Agrees views (start.afterAll events) (Counter.afterAll views.length 0 events) := by
  obtain ⟨hviews, htracks⟩ := tracks_start hstart
  obtain ⟨hviews', htracks'⟩ := tracks_afterAll htracks events
  refine ⟨?_, ?_⟩
  · rw [accepts_eq htracks, hviews]
  · have hagrees := htracks'.agrees
    rw [hviews', hviews] at hagrees
    exact hagrees

/-- Two views, gone through forward and back and then to the end: the third event, which asks for
the view before the first one, is refused, and so is the last one, behind the end. -/
theorem run_refines_counter_two_views :
    ∃ start, ofViews ["configuration", "completion"] = .ok start ∧
      (start.answers [.next, .previous, .previous, .next, .next, .next]).map (·.isOk)
        = [true, true, false, true, true, false] ∧
      (start.afterAll [.next, .previous, .previous, .next, .next, .next]).state = .finished := by
  obtain ⟨start, hstart⟩ : ∃ start, ofViews ["configuration", "completion"] = .ok start := ⟨_, rfl⟩
  obtain ⟨haccepts, hagrees⟩ := run_refines_counter hstart
    [.next, .previous, .previous, .next, .next, .next]
  exact ⟨start, hstart, haccepts, hagrees.finished.2 rfl⟩

end Wizard

end Commissioning
