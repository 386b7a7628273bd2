import Commissioning.Proofs.Wizard.Counter
import Commissioning.Proofs.Wizard.Views
import Mathlib.Data.Nat.Find
import Mathlib.Order.Fin.Basic

set_option autoImplicit false

/-! # Visits of the views

A wizard that has been led to its end has shown every one of its views on the way
(`finished_visits_all`): the counter behind it starts at none, moves by one at most, and so meets
every number up to the last one before any greater one. -/

namespace Commissioning

/-! ## Moments of the counter -/

/-- A count that starts at zero and grows by one at most reaches every number below one that it
reaches, and is smaller before that. -/
theorem exists_first_reached {count : Nat → Nat} (hstart : count 0 = 0)
    (hstep : ∀ k, count (k + 1) ≤ count k + 1) {i last : Nat} (hi : i ≤ count last) :
    ∃ k, k ≤ last ∧ count k = i ∧ ∀ j < k, count j < i := by
  classical
  have hreached : ∃ k, i ≤ count k := ⟨last, hi⟩
  have hspec := Nat.find_spec hreached
  have hbelow : ∀ j < Nat.find hreached, count j < i := by
    intro j hj
    exact Nat.not_le.mp (Nat.find_min hreached hj)
  refine ⟨Nat.find hreached, Nat.find_min' hreached hi, ?_, hbelow⟩
  -- One moment earlier the count was smaller, and it has not jumped since.
  cases hk : Nat.find hreached with
  | zero =>
    rw [hk, hstart] at hspec
    rw [hstart]
    omega
  | succ k =>
    have hbefore := hbelow k (by omega)
    have hmove := hstep k
    rw [hk] at hspec
    omega

/-- The moments at which such a count first reaches the numbers below its last one come in the
order of the numbers. -/
theorem exists_first_moments {count : Nat → Nat} (hstart : count 0 = 0)
    (hstep : ∀ k, count (k + 1) ≤ count k + 1) (last : Nat) :
    ∃ first : Fin (count last) → Nat,
      (∀ i, first i ≤ last ∧ count (first i) = i ∧ ∀ j < first i, count j < i) ∧
        StrictMono first := by
  choose first hwithin hhere hbefore using fun i : Fin (count last) =>
    exists_first_reached hstart hstep i.isLt.le
  refine ⟨first, fun i => ⟨hwithin i, hhere i, hbefore i⟩, fun i j hij => ?_⟩
  -- The count has met the smaller number before it met the greater one.
  have hi := hhere i
  have hj := hhere j
  have hlt : (i : Nat) < j := hij
  by_contra hnot
  rcases Nat.lt_or_ge (first j) (first i) with hearlier | hlater
  · have hsmaller := hbefore i _ hearlier
    omega
  · have hsame : first i = first j := by omega
    rw [hsame] at hi
    omega

namespace Counter

theorem after_le (n c : Nat) (event : ViewEvent) : after n c event ≤ c + 1 := by
  unfold after
  cases hstep : step n c event with
  | none =>
    rw [Option.getD_none]
    omega
  | some c' =>
    rw [Option.getD_some]
    cases event <;>
      · simp only [step, Option.ite_none_right_eq_some, Option.some.injEq] at hstep
        omega

/-- From one moment of a run to the next one, the counter grows by one at most. -/
theorem afterAll_take_succ_le (n : Nat) (events : List ViewEvent) (k : Nat) :
    afterAll n 0 (events.take (k + 1)) ≤ afterAll n 0 (events.take k) + 1 := by
  rw [List.take_add_one]
  unfold afterAll
  rw [List.foldl_append]
  cases events[k]? with
  | none => simp
  | some event => exact after_le n _ event

/-- How many of several events are next ones that are taken. -/
def nexts (n c : Nat) (events : List ViewEvent) : Nat :=
  (events.zip (accepts n c events)).countP fun p => p.1 == .next && p.2

/-- Every view behind the counter is there by a next event of its own. -/
theorem afterAll_le (n c : Nat) (events : List ViewEvent) :
    afterAll n c events ≤ c + nexts n c events := by
  induction events generalizing c with
  | nil => simp [afterAll]
  | cons event events ih =>
    have hrest := ih (after n c event)
    have hfirst : after n c event + nexts n (after n c event) events
        ≤ c + nexts n c (event :: events) := by
      simp only [nexts, accepts, List.zip_cons_cons, List.countP_cons]
      cases event with
      | next =>
        simp only [after, step]
        by_cases hlt : c < n
        · simp only [hlt, if_true, Option.getD_some, Option.isSome_some, beq_self_eq_true,
            Bool.and_self]
          omega
        · simp [hlt]
      | previous =>
        simp only [after, step]
        by_cases hmoves : 0 < c ∧ c < n
        · simp only [hmoves, and_self, if_true, Option.getD_some]
          omega
        · simp [hmoves]
    exact Nat.le_trans hrest hfirst

end Counter

namespace Wizard

/-! ## Moments of a run -/

/-- The wizard at a moment of a run, behind so many of its events. -/
def atMoment (w : Wizard) (events : List ViewEvent) (k : Nat) : Wizard :=
  w.afterAll (events.take k)

/-- Whether a wizard in progress shows a view. -/
def Shows (w : Wizard) (view : String) : Prop :=
  w.state = .inProgress ∧ w.currentView = view

/-- Whether a moment of a run is the first one at which a view is shown. -/
structure FirstShown (w : Wizard) (events : List ViewEvent) (view : String) (k : Nat) : Prop where
  within : k ≤ events.length
  shown : (w.atMoment events k).Shows view
  notBefore : ∀ j < k, ¬ (w.atMoment events j).Shows view

/-- How many of several events are next ones that the wizard takes. -/
def takenNexts (w : Wizard) (events : List ViewEvent) : Nat :=
  (events.zip (w.answers events)).countP fun p => p.1 == .next && p.2.isOk

theorem takenNexts_eq {w : Wizard} {c : Nat} (h : w.Tracks c) (events : List ViewEvent) :
    w.takenNexts events = Counter.nexts w.views.length c events := by
  unfold takenNexts Counter.nexts
  rw [← accepts_eq h, List.zip_map_right, List.countP_map]
  rfl

/-- A view is shown exactly when those before it are behind the wizard. -/
theorem Tracks.shows_iff {w : Wizard} {c : Nat} (h : w.Tracks c) (hnodup : w.views.Nodup)
    {i : Nat} (hi : i < w.views.length) : w.Shows w.views[i] ↔ c = i := by
  have hle := h.le
  have hcurrent := getElem?_currentView h
  constructor
  · rintro ⟨hstate, hview⟩
    obtain ⟨hlt, -⟩ := h.of_inProgress hstate
    rw [Nat.min_eq_left (by omega), List.getElem?_eq_getElem hlt, hview] at hcurrent
    exact (hnodup.getElem_inj_iff).mp (Option.some.inj hcurrent)
  · intro hc
    have hnot : w.state ≠ .finished := fun hstate => by
      have hend := h.finished.mp hstate
      omega
    have hstate : w.state = .inProgress := by
      cases hw : w.state with
      | inProgress => rfl
      | finished => exact absurd hw hnot
    subst hc
    rw [Nat.min_eq_left (by omega), List.getElem?_eq_getElem hi] at hcurrent
    exact ⟨hstate, (Option.some.inj hcurrent).symm⟩

/-- At every moment of a run the counter has come as far as the events up to it. -/
theorem tracks_atMoment {views : List String} {start : Wizard} (hstart : ofViews views = .ok start)
    (events : List ViewEvent) (k : Nat) : (start.atMoment events k).views = views ∧
      (start.atMoment events k).Tracks (Counter.afterAll views.length 0 (events.take k)) := by
  obtain ⟨rfl, htracks⟩ := tracks_start hstart
  exact tracks_afterAll htracks (events.take k)

theorem shows_atMoment_iff {views : List String} {start : Wizard}
    (hstart : ofViews views = .ok start) (events : List ViewEvent) (i : Fin views.length)
    (k : Nat) : (start.atMoment events k).Shows (views.get i) ↔
      Counter.afterAll views.length 0 (events.take k) = i := by
  obtain ⟨hviews, htracks⟩ := tracks_atMoment hstart events k
  obtain ⟨-, -, -, hnodup⟩ := start_of_ofViews hstart
  have hlt : (i : Nat) < (start.atMoment events k).views.length := by
    rw [hviews]
    exact i.isLt
  rw [← htracks.shows_iff (by rwa [hviews]) hlt]
  simp only [hviews, List.get_eq_getElem]

/-! ## The way to the end -/

/-- A finished run has brought the counter behind the last view. -/
theorem counter_of_finished {views : List String} {start : Wizard}
    (hstart : ofViews views = .ok start) {events : List ViewEvent}
    (hend : (start.afterAll events).state = .finished) :
    Counter.afterAll views.length 0 events = views.length := by
  obtain ⟨hviews, htracks⟩ := tracks_atMoment hstart events events.length
  rw [atMoment, List.take_length] at hviews htracks
  rw [htracks.finished.mp hend, hviews]

/-- **No view is skipped.** A wizard that has finished, whatever it was asked for on the way, has
shown each of its views while it was in progress, the views for the first time in the order of the
list, and has taken a next event for every one of them. -/
theorem finished_visits_all {views : List String} {start : Wizard}
    (hstart : ofViews views = .ok start) (events : List ViewEvent)
    (hend : (start.afterAll events).state = .finished) :
    ∃ first : Fin views.length → Nat,
      (∀ i, FirstShown start events (views.get i) (first i)) ∧ StrictMono first ∧
        views.length ≤ start.takenNexts events := by
  have hlast := counter_of_finished hstart hend
  let count (k : Nat) : Nat := Counter.afterAll views.length 0 (events.take k)
  have hcount : count events.length = views.length := by
    show Counter.afterAll views.length 0 (events.take events.length) = views.length
    rw [List.take_length, hlast]
  have hmoments := exists_first_moments (show count 0 = 0 from rfl)
    (Counter.afterAll_take_succ_le _ events) events.length
  rw [hcount] at hmoments
  obtain ⟨first, hfirst, hmono⟩ := hmoments
  refine ⟨first, fun i => ?_, hmono, ?_⟩
  · obtain ⟨hwithin, hhere, hbefore⟩ := hfirst i
    refine ⟨hwithin, (shows_atMoment_iff hstart events i _).mpr hhere, fun j hj hshown => ?_⟩
    have hsmaller := hbefore j hj
    have hsame : count j = i := (shows_atMoment_iff hstart events i j).mp hshown
    omega
  · obtain ⟨rfl, htracks⟩ := tracks_start hstart
    have htaken := Counter.afterAll_le start.views.length 0 events
    rw [← takenNexts_eq htracks] at htaken
    omega

/-- Three views: the way there goes back once, and two events are refused, one in front of the
first view and one behind the end. -/
theorem finished_visits_all_three_views :
    ∃ start, ofViews ["pre-installation", "configuration", "completion"] = .ok start ∧
      (start.afterAll [.previous, .next, .previous, .next, .next, .next, .next]).state
        = .finished ∧
      ∃ first : Fin 3 → Nat,
        (∀ i, FirstShown start [.previous, .next, .previous, .next, .next, .next, .next]
          (["pre-installation", "configuration", "completion"].get i) (first i)) ∧
        StrictMono first ∧
        3 ≤ start.takenNexts [.previous, .next, .previous, .next, .next, .next, .next] := by
  obtain ⟨start, hstart⟩ :
      ∃ start, ofViews ["pre-installation", "configuration", "completion"] = .ok start := ⟨_, rfl⟩
  have hend : (start.afterAll
      [.previous, .next, .previous, .next, .next, .next, .next]).state = .finished := by
    obtain rfl := Except.ok.inj hstart
    rfl
  exact ⟨start, hstart, hend, finished_visits_all hstart _ hend⟩

end Wizard

end Commissioning
