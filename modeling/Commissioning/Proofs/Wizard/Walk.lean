import Commissioning.Proofs.Wizard.Counter

set_option autoImplicit false

/-! # Walks through the views

A walk is a list of events. It is legal when the events that lead on and those that lead back
balance (`IsLegal`): before every event no view has been left more often than it was reached and
some view is ahead, and at the end at most all of them are behind. Where a legal walk leads, a
wizard takes an event exactly when the walk stays legal with it (`Follows.handle`). -/

namespace Commissioning

namespace Walk

/-- How many more of some events lead on than back. -/
def tally (events : List ViewEvent) : Int :=
  (events.count .next : Int) - events.count .previous

/-- Whether a walk through `n` views is legal. -/
structure IsLegal (n : Nat) (events : List ViewEvent) : Prop where
  within : ∀ i < events.length, 0 ≤ tally (events.take i) ∧ tally (events.take i) < n
  ends : 0 ≤ tally events ∧ tally events ≤ n

instance (n : Nat) (events : List ViewEvent) : Decidable (IsLegal n events) :=
  decidable_of_iff
    ((∀ i < events.length, 0 ≤ tally (events.take i) ∧ tally (events.take i) < n) ∧
      0 ≤ tally events ∧ tally events ≤ n)
    ⟨fun h => ⟨h.1, h.2⟩, fun h => ⟨h.within, h.ends⟩⟩

/-- How far an event leads. -/
def stride : ViewEvent → Int
  | .next => 1
  | .previous => -1

theorem tally_concat (events : List ViewEvent) (event : ViewEvent) :
    tally (events ++ [event]) = tally events + stride event := by
  cases event with
  | next =>
    simp [tally, stride]
    omega
  | previous =>
    simp [tally, stride]
    omega

variable {n : Nat} {events : List ViewEvent} {event : ViewEvent}

theorem isLegal_nil (n : Nat) : IsLegal n [] :=
  ⟨by simp, by simp [tally]⟩

/-- A walk is legal as long as it goes if it is legal in the end. -/
theorem IsLegal.of_append {later : List ViewEvent} (h : IsLegal n (events ++ later)) :
    IsLegal n events := by
  refine ⟨fun i hi => ?_, ?_⟩
  · have hwithin := h.within i (by simp; omega)
    rwa [List.take_append_of_le_length (Nat.le_of_lt hi)] at hwithin
  · cases later with
    | nil => simpa using h.ends
    | cons event later =>
      have hwithin := h.within events.length (by simp)
      rw [List.take_left] at hwithin
      exact ⟨hwithin.1, Int.le_of_lt hwithin.2⟩

/-- A legal walk goes on with an event if a view is ahead, and none before the first one is asked
for. -/
theorem IsLegal.concat_iff (h : IsLegal n events) :
    IsLegal n (events ++ [event]) ↔ tally events < n ∧ 0 ≤ tally (events ++ [event]) := by
  constructor
  · intro hlonger
    have hlast := hlonger.within events.length (by simp)
    rw [List.take_left] at hlast
    exact ⟨hlast.2, hlonger.ends.1⟩
  · rintro ⟨hahead, hback⟩
    refine ⟨fun i hi => ?_, hback, ?_⟩
    · rw [List.length_append, List.length_singleton] at hi
      rcases Nat.lt_succ_iff_lt_or_eq.mp hi with hi | rfl
      · rw [List.take_append_of_le_length (Nat.le_of_lt hi)]
        exact h.within i hi
      · rw [List.take_left]
        exact ⟨h.ends.1, hahead⟩
    · rw [tally_concat]
      cases event <;> simp only [stride] <;> omega

/-- The counter that stands where a legal walk leads takes an event exactly when the walk goes on
with it, and then stands where that leads. -/
theorem IsLegal.step_eq_some_iff (h : IsLegal n events) {c' : Nat} :
    Counter.step n (tally events).toNat event = some c' ↔
      IsLegal n (events ++ [event]) ∧ (c' : Int) = tally (events ++ [event]) := by
  have hstart := h.ends
  rw [h.concat_iff, tally_concat]
  cases event with
  | next =>
    simp only [Counter.step, stride]
    split
    · simp only [Option.some.injEq]
      omega
    · simp only [reduceCtorEq, false_iff]
      omega
  | previous =>
    simp only [Counter.step, stride]
    split
    · simp only [Option.some.injEq]
      omega
    · simp only [reduceCtorEq, false_iff]
      omega

/-! ## What is said on the way -/

/-- The line about the last event of a walk, by what the walk has led to: the view that is shown,
and whether all views are behind. -/
def line (views : List String) (events : List ViewEvent) (event : ViewEvent) : String :=
  event.name ++ " -> " ++ views.getD (min (tally events) (views.length - 1)).toNat "" ++ " ("
    ++ (if tally events = views.length then WizardState.finished else .inProgress).name ++ ")"

/-- The lines about the events of a walk. -/
def lines (views : List String) (events : List ViewEvent) : List String :=
  events.mapIdx fun i event => line views (events.take (i + 1)) event

/-- Why a wizard does not go on where a legal walk leads. -/
def refusal (views : List String) (events : List ViewEvent) : Wizard.Fault :=
  if tally events = views.length then .finished
  else .invalidTransition (views.headD "") .previous

theorem lines_concat (views : List String) (events : List ViewEvent) (event : ViewEvent) :
    lines views (events ++ [event])
      = lines views events ++ [line views (events ++ [event]) event] := by
  unfold lines
  rw [List.mapIdx_concat, List.take_of_length_le (by simp)]
  congr 1
  refine List.mapIdx_eq_mapIdx_iff.mpr fun i hi => ?_
  rw [List.take_append_of_le_length hi]

example : lines ["first", "last"] [.next, .previous, .next, .next]
    = ["next -> last (in_progress)", "previous -> first (in_progress)",
        "next -> last (in_progress)", "next -> last (finished)"] := by
  decide +kernel

end Walk

open Walk

namespace Wizard

/-! ## The wizard on a walk -/

/-- Whether a wizard stands where a legal walk leads. -/
structure Follows (w : Wizard) (events : List ViewEvent) : Prop where
  legal : IsLegal w.views.length events
  tracks : w.Tracks (tally events).toNat

variable {w : Wizard} {events : List ViewEvent} {event : ViewEvent}

theorem follows_nil {views : List String} (h : ofViews views = .ok w) :
    w.views = views ∧ w.Follows [] := by
  obtain ⟨hviews, htracks⟩ := tracks_start h
  exact ⟨hviews, isLegal_nil _, htracks⟩

/-- What a wizard does with an event where a legal walk leads: it follows the walk, or the walk
does not stay legal. -/
inductive Answered (w : Wizard) (events : List ViewEvent) (event : ViewEvent) :
    Except Fault (Wizard × Transition) → Prop
  | taken (next : Wizard) (t : Transition) (hviews : next.views = w.views)
      (hfollows : next.Follows (events ++ [event])) : Answered w events event (.ok (next, t))
  | refused (hhalt : ¬ IsLegal w.views.length (events ++ [event])) :
      Answered w events event (.error (refusal w.views events))

theorem headD_of_position {w : Wizard} (h : w.position = 0) :
    w.views.headD "" = w.currentView := by
  obtain ⟨views, position, state, hlt⟩ := w
  obtain rfl : position = 0 := h
  cases views with
  | nil => simp at hlt
  | cons view views => rfl

theorem Follows.handle (h : w.Follows events) (event : ViewEvent) :
    Answered w events event (w.handle event) := by
  have hsteps := stepsWith h.tracks event
  have hcount : ∀ c', Counter.step w.views.length (tally events).toNat event = some c' ↔
      IsLegal w.views.length (events ++ [event]) ∧ (c' : Int) = tally (events ++ [event]) :=
    fun _ => h.legal.step_eq_some_iff
  generalize Counter.step w.views.length (tally events).toNat event = count at hsteps hcount
  generalize w.handle event = answer at hsteps
  cases hsteps with
  | @taken c' next t hviews htracks _ =>
    obtain ⟨hlegal, hc⟩ := (hcount c').mp rfl
    obtain rfl : c' = (tally (events ++ [event])).toNat := by omega
    exact .taken next t hviews ⟨hviews ▸ hlegal, htracks⟩
  | @refused fault hfinished hinvalid =>
    have hhalt : ¬ IsLegal w.views.length (events ++ [event]) := fun hlegal => by
      have hback := hlegal.ends.1
      exact absurd ((hcount (tally (events ++ [event])).toNat).mpr ⟨hlegal, by omega⟩) (by simp)
    have hend : (tally events).toNat = w.views.length ↔ tally events = w.views.length := by
      have := h.legal.ends
      omega
    obtain rfl : fault = refusal w.views events := by
      unfold refusal
      split
      · next htally => exact hfinished.mpr (hend.mpr htally)
      · next htally =>
        obtain ⟨-, hfirst, hfault⟩ := hinvalid (mt hend.mp htally)
        rw [hfault, headD_of_position hfirst]
    exact .refused hhalt

/-- A wizard says of itself what the walk says. -/
theorem Follows.line_eq (h : w.Follows events) (event : ViewEvent) :
    event.name ++ " -> " ++ w.currentView ++ " (" ++ w.state.name ++ ")"
      = line w.views events event := by
  have hends := h.legal.ends
  have hview := getElem?_currentView h.tracks
  have hindex : (min (tally events) (w.views.length - 1)).toNat
      = min (tally events).toNat (w.views.length - 1) := by
    omega
  have hstate : w.state = if tally events = w.views.length then .finished else .inProgress := by
    have hfinished := h.tracks.finished
    split
    · exact hfinished.mpr (by omega)
    · next hne =>
      cases hstate : w.state with
      | inProgress => rfl
      | finished => exact absurd (hfinished.mp hstate) (by omega)
  unfold line
  rw [hindex, List.getD_eq_getElem?_getD, hview, Option.getD_some, ← hstate]

end Wizard

end Commissioning
