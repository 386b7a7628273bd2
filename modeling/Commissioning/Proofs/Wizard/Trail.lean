import Commissioning.Program
import Commissioning.Proofs.Operations
import Commissioning.Proofs.Recorded
import Commissioning.Proofs.Wizard.Views
import Mathlib.Data.List.Chain

set_option autoImplicit false

/-! # The trail of a wizard

The log shows each step that a wizard makes. Together the steps are a walk through its views that
starts on the first one and ends where the wizard stands (`Wizard.leads_trail`), since every step
starts where the last one has ended (`Wizard.stepped_of_handle`). A session logs these steps and
nothing else while it is led through its views (`Session.trail_logged`). -/

namespace Commissioning

namespace Wizard

variable {w next last : Wizard} {event : ViewEvent} {t : Transition}

/-! ## One step -/

/-- A step through some views: to the view behind the one that was shown, to the one before it, or
to the end, which the last view leads to. -/
inductive Moved (views : List String) : Transition → Prop
  | forward (i : Nat) (origin target : String) (horigin : views[i]? = some origin)
      (htarget : views[i + 1]? = some target) : Moved views ⟨.next, origin, target, .inProgress⟩
  | back (i : Nat) (origin target : String) (horigin : views[i + 1]? = some origin)
      (htarget : views[i]? = some target) : Moved views ⟨.previous, origin, target, .inProgress⟩
  | finish (view : String) (hview : views.getLast? = some view) :
      Moved views ⟨.next, view, view, .finished⟩

/-- What a step says of the event, of the wizard before it and of the one after it. -/
structure Stepped (w : Wizard) (event : ViewEvent) (next : Wizard) (t : Transition) : Prop where
  inProgress : w.state = .inProgress
  views_eq : next.views = w.views
  event_eq : t.event = event
  origin_eq : t.origin = w.currentView
  target_eq : t.target = next.currentView
  state_eq : t.state = next.state
  moved : Moved w.views t

theorem getElem?_position (w : Wizard) : w.views[w.position]? = some w.currentView :=
  List.getElem?_eq_getElem w.position_lt

theorem stepped_of_handle (h : w.handle event = .ok (next, t)) : Stepped w event next t := by
  have hcases := handle_cases w event
  rw [h] at hcases
  cases hcases with
  | confirm hstate hlast =>
    refine ⟨hstate, rfl, rfl, rfl, rfl, rfl, .finish _ ?_⟩
    rw [List.getLast?_eq_getElem?, ← hlast]
    exact w.getElem?_position
  | forward hstate hlt =>
    have htarget := (w.moveTo (w.position + 1) hlt).getElem?_position
    exact ⟨hstate, rfl, rfl, rfl, rfl, hstate.symm, .forward _ _ _ w.getElem?_position htarget⟩
  | back hstate hpos hlt =>
    have htarget := (w.moveTo (w.position - 1) hlt).getElem?_position
    refine ⟨hstate, rfl, rfl, rfl, rfl, hstate.symm, .back (w.position - 1) _ _ ?_ htarget⟩
    rw [Nat.sub_add_cancel hpos]
    exact w.getElem?_position

/-! ## Steps in turn -/

/-- The steps that a wizard makes on several events. -/
def trail (w : Wizard) (events : List ViewEvent) : List Transition :=
  (w.answers events).filterMap (·.toOption)

/-- Those of several events that the wizard takes. -/
def taken (w : Wizard) (events : List ViewEvent) : List ViewEvent :=
  ((events.zip (w.answers events)).filter fun p => p.2.isOk).map Prod.fst

theorem trail_cons_of_ok (h : w.handle event = .ok (next, t)) (events : List ViewEvent) :
    w.trail (event :: events) = t :: next.trail events := by
  rw [trail, answers, h, after_of_ok h]
  rfl

theorem trail_cons_of_error {fault : Fault} (h : w.handle event = .error fault)
    (events : List ViewEvent) : w.trail (event :: events) = w.trail events := by
  rw [trail, answers, h, after_of_error h]
  rfl

theorem trail_append (w : Wizard) (events later : List ViewEvent) :
    w.trail (events ++ later) = w.trail events ++ (w.afterAll events).trail later := by
  rw [trail, answers_append, List.filterMap_append]
  rfl

theorem taken_cons_of_ok (h : w.handle event = .ok (next, t)) (events : List ViewEvent) :
    w.taken (event :: events) = event :: next.taken events := by
  rw [taken, answers, h, after_of_ok h]
  rfl

theorem taken_cons_of_error {fault : Fault} (h : w.handle event = .error fault)
    (events : List ViewEvent) : w.taken (event :: events) = w.taken events := by
  rw [taken, answers, h, after_of_error h]
  rfl

/-- There is one step for each event that is taken, in the order of the events. -/
theorem map_event_trail (w : Wizard) (events : List ViewEvent) :
    (w.trail events).map (·.event) = w.taken events := by
  induction events generalizing w with
  | nil => rfl
  | cons event events ih =>
    cases hanswer : w.handle event with
    | ok step =>
      obtain ⟨next, t⟩ := step
      rw [trail_cons_of_ok hanswer, taken_cons_of_ok hanswer, List.map_cons,
        (stepped_of_handle hanswer).event_eq, ih]
    | error fault => rw [trail_cons_of_error hanswer, taken_cons_of_error hanswer, ih]

/-- Whether some steps lead a wizard from one standing to another. -/
structure Leads (w : Wizard) (trail : List Transition) (last : Wizard) : Prop where
  /-- The first step starts on the view that is shown before it. -/
  starts : ∀ t ∈ trail.head?, t.origin = w.currentView
  /-- Every further step starts where the one before it has ended. -/
  connected : trail.IsChain fun t later => later.origin = t.target
  moved : ∀ t ∈ trail, Moved w.views t
  /-- A step to the end is the last one. -/
  nothing_after : ∀ before t later, trail = before ++ t :: later → t.state = .finished → later = []
  /-- The last step ends on the view that is shown after it. -/
  ends : ∀ t ∈ trail.getLast?, t.target = last.currentView ∧ t.state = last.state
  unmoved : trail = [] → last = w
  unmoved_of_finished : w.state = .finished → trail = []

theorem Leads.nil (w : Wizard) : Leads w [] w where
  starts := by simp
  connected := .nil
  moved := by simp
  nothing_after := by simp
  ends := by simp
  unmoved _ := rfl
  unmoved_of_finished _ := rfl

theorem Leads.cons {trail : List Transition} (hstep : Stepped w event next t)
    (h : Leads next trail last) : Leads w (t :: trail) last where
  starts := by simpa using hstep.origin_eq
  connected := by
    refine List.isChain_cons.mpr ⟨fun later hlater => ?_, h.connected⟩
    rw [h.starts later hlater, hstep.target_eq]
  moved := by
    intro step hmem
    rcases List.mem_cons.mp hmem with rfl | hmem
    · exact hstep.moved
    · exact hstep.views_eq ▸ h.moved step hmem
  nothing_after := by
    rintro before step later hsplit hfinished
    cases before with
    | nil =>
      -- The step is the first one, and the wizard behind it has finished.
      obtain ⟨rfl, rfl⟩ := List.cons.inj hsplit
      exact h.unmoved_of_finished (hstep.state_eq ▸ hfinished)
    | cons first before =>
      obtain ⟨-, hrest⟩ := List.cons.inj hsplit
      exact h.nothing_after before step later hrest hfinished
  ends := by
    intro step hlast
    cases trail with
    | nil =>
      obtain rfl : t = step := by simpa using hlast
      rw [h.unmoved rfl]
      exact ⟨hstep.target_eq, hstep.state_eq⟩
    | cons second trail =>
      rw [List.getLast?_cons_cons] at hlast
      exact h.ends step hlast
  unmoved := by simp
  unmoved_of_finished hfinished := absurd (hstep.inProgress.symm.trans hfinished) (by simp)

/-- Whatever events there are, the steps that they make lead to where they lead. -/
theorem leads_trail (w : Wizard) (events : List ViewEvent) :
    Leads w (w.trail events) (w.afterAll events) := by
  induction events generalizing w with
  | nil => exact .nil w
  | cons event events ih =>
    cases hanswer : w.handle event with
    | ok step =>
      obtain ⟨next, t⟩ := step
      rw [trail_cons_of_ok hanswer, afterAll_cons, after_of_ok hanswer]
      exact (ih next).cons (stepped_of_handle hanswer)
    | error fault =>
      rw [trail_cons_of_error hanswer, afterAll_cons, after_of_error hanswer]
      exact ih w

/-- Behind a step to the end there is none, whatever events may come. -/
theorem trail_append_of_finished {events : List ViewEvent} (ht : t ∈ w.trail events)
    (hfinished : t.state = .finished) (later : List ViewEvent) :
    w.trail (events ++ later) = w.trail events := by
  obtain ⟨before, after, hsplit⟩ := List.append_of_mem ht
  have hwhole : w.trail (events ++ later)
      = before ++ t :: (after ++ (w.afterAll events).trail later) := by
    rw [trail_append, hsplit, List.append_assoc, List.cons_append]
  have hnothing := (leads_trail w (events ++ later)).nothing_after _ _ _ hwhole hfinished
  rw [trail_append, (List.append_eq_nil_iff.mp hnothing).2, List.append_nil]

/-- What the steps that a wizard makes on several events say of it. -/
structure Told (views : List String) (start : Wizard) (events : List ViewEvent)
    (trail : List Transition) (last : Wizard) : Prop where
  /-- There is one step for each event that is taken, and none for any other. -/
  events_eq : trail.map (·.event) = start.taken events
  /-- The first step starts on the first view, and every further one where the last one ended. -/
  starts : ∀ t ∈ trail.head?, views.head? = some t.origin
  connected : trail.IsChain fun t later => later.origin = t.target
  moved : ∀ t ∈ trail, Moved views t
  /-- A step to the end is the last one that there will ever be. -/
  nothing_after : ∀ before t later, trail = before ++ t :: later → t.state = .finished →
    later = [] ∧ ∀ more, start.trail (events ++ more) = trail
  /-- The last step says where the wizard stands; without a step it stands where it has started. -/
  ends : ∀ t ∈ trail.getLast?, t.target = last.currentView ∧ t.state = last.state
  unmoved : trail = [] → last = start

theorem told {views : List String} {start : Wizard} (hstart : ofViews views = .ok start)
    (events : List ViewEvent) :
    Told views start events (start.trail events) (start.afterAll events) := by
  obtain ⟨hviews, hfirst, -⟩ := start_of_ofViews hstart
  have hleads := start.leads_trail events
  constructor
  case events_eq => exact start.map_event_trail events
  case starts =>
    intro t ht
    rw [hleads.starts t ht, ← hviews]
    exact head?_views hfirst
  case connected => exact hleads.connected
  case moved => exact hviews ▸ hleads.moved
  case nothing_after =>
    intro before t later hsplit hfinished
    refine ⟨hleads.nothing_after before t later hsplit hfinished, fun more => ?_⟩
    have ht : t ∈ start.trail events := hsplit ▸ List.mem_append_right before List.mem_cons_self
    exact trail_append_of_finished ht hfinished more
  case ends => exact hleads.ends
  case unmoved => exact hleads.unmoved

end Wizard

/-! ## The log

An event of the log tells which step it is about. -/

theorem ViewEvent.name_injective : Function.Injective ViewEvent.name := by
  intro event event' h
  cases event <;> cases event' <;> simp_all [name]

theorem WizardState.name_injective : Function.Injective WizardState.name := by
  intro state state' h
  cases state <;> cases state' <;> simp_all [name]

theorem Wizard.Transition.logged_injective : Function.Injective Transition.logged := by
  rintro ⟨event, origin, target, state⟩ ⟨event', origin', target', state'⟩ h
  simp only [logged, Log.Event.mk.injEq, List.cons.injEq, Log.Field.mk.injEq, true_and,
    and_true] at h
  obtain ⟨hevent, rfl, rfl, hstate⟩ := h
  rw [ViewEvent.name_injective hevent, WizardState.name_injective hstate]

/-- The event of the log that a call is for. -/
def Call.event? : Call → Option Log.Event
  | log event => some event
  | _ => none

namespace Session

variable {σ : Type} [Host (StateM σ)]

/-- A session that is led through its views logs the steps of its wizard, and asks for nothing
else. -/
theorem run_actAll_navigate (display : Notification → StateM σ Unit) (s : Session)
    (events : List ViewEvent) (r : Recorded σ) :
    ∃ answers base,
      (s.actAll (Recorded.notify display) (events.map .navigate)).run r
        = (({ s with wizard := s.wizard.afterAll events }, answers),
          ⟨base, r.calls ++ (s.wizard.trail events).map fun t => .log t.logged⟩) := by
  induction events generalizing s r with
  | nil =>
    refine ⟨[], r.base, ?_⟩
    have hnone : s.wizard.trail [] = [] := rfl
    rw [hnone, List.map_nil, List.map_nil, List.append_nil]
    rfl
  | cons event events ih =>
    cases hanswer : s.wizard.handle event with
    | ok step =>
      obtain ⟨next, t⟩ := step
      obtain ⟨answers, base, hrest⟩ := ih { s with wizard := next }
        ((Host.log t.logged : StateM (Recorded σ) Unit).run r).2
      refine ⟨.moved (.ok t) :: answers, base, ?_⟩
      rw [List.map_cons, run_actAll_cons (run_act_of_ok hanswer r), hrest, Wizard.afterAll_cons,
        Wizard.after_of_ok hanswer, Wizard.trail_cons_of_ok hanswer, List.map_cons,
        List.append_cons]
      rfl
    | error fault =>
      obtain ⟨answers, base, hrest⟩ := ih s r
      refine ⟨.moved (.error (.wizard fault)) :: answers, base, ?_⟩
      rw [List.map_cons, run_actAll_cons (run_act_of_error hanswer r), hrest,
        Wizard.afterAll_cons, Wizard.after_of_error hanswer, Wizard.trail_cons_of_error hanswer]

/-- The command `wizard` logs the steps of the events up to the first one that is refused. -/
theorem exists_logged_replay (s : Session) (events : List ViewEvent) (r : Recorded σ) :
    ∃ before later, events = before ++ later ∧ s.wizard.taken before = before ∧
      (∀ event ∈ later.head?, ((s.wizard.afterAll before).handle event).isOk = false) ∧
      (((Program.replay s events : StateM (Recorded σ) Nat).run r).2.calls.filterMap Call.event?)
        = r.calls.filterMap Call.event? ++ (s.wizard.trail before).map (·.logged) := by
  induction events generalizing s r with
  | nil => exact ⟨[], [], rfl, rfl, by simp, (List.append_nil _).symm⟩
  | cons event events ih =>
    unfold Program.replay
    cases hanswer : s.wizard.handle event with
    | error fault =>
      refine ⟨[], event :: events, rfl, rfl, ?_, ?_⟩
      · intro other hother
        obtain rfl : event = other := by simpa using hother
        exact congrArg Except.isOk hanswer
      · simp only [navigate_of_error hanswer]
        show (r.calls ++ [Call.printErrorLine _]).filterMap Call.event? = _
        rw [List.filterMap_append]
        rfl
    | ok step =>
      obtain ⟨next, t⟩ := step
      simp only [navigate_of_ok hanswer]
      generalize event.name ++ " -> " ++ next.currentView ++ " (" ++ next.state.name ++ ")" = line
      obtain ⟨before, later, hevents, htaken, hrefused, hlog⟩ := ih { s with wizard := next }
        ((Host.printLine line : StateM (Recorded σ) Unit).run
          ((Host.log t.logged : StateM (Recorded σ) Unit).run r).2).2
      refine ⟨event :: before, later, by rw [hevents, List.cons_append], ?_, ?_, hlog.trans ?_⟩
      · rw [Wizard.taken_cons_of_ok hanswer, htaken]
      · rw [Wizard.afterAll_cons, Wizard.after_of_ok hanswer]
        exact hrefused
      · show (r.calls ++ [Call.log t.logged] ++ [Call.printLine line]).filterMap Call.event? ++ _ = _
        rw [List.filterMap_append, List.filterMap_append, Wizard.trail_cons_of_ok hanswer,
          List.map_cons, List.append_cons]
        simp [Call.event?]

/-- **The log of a wizard is a walk that says where it stands.** A session that is led through its
views logs the steps of its wizard, one for each event that is taken, and asks for nothing else; the
log tells the steps, and they lead from the first view to where the wizard stands. The command
`wizard` logs the steps of the events up to the first one that is refused. -/
theorem trail_logged {views : List String} {s : Session}
    (hstart : Wizard.ofViews views = .ok s.wizard) (display : Notification → StateM σ Unit)
    (events : List ViewEvent) (base : σ) :
    (∃ answers base',
      (s.actAll (Recorded.notify display) (events.map .navigate)).run ⟨base, []⟩
        = (({ s with wizard := s.wizard.afterAll events }, answers),
          ⟨base', (s.wizard.trail events).map fun t => .log t.logged⟩)) ∧
    Wizard.Told views s.wizard events (s.wizard.trail events) (s.wizard.afterAll events) ∧
    (∀ other : List Wizard.Transition,
      other.map (·.logged) = (s.wizard.trail events).map (·.logged) →
        other = s.wizard.trail events) ∧
    ∃ before later, events = before ++ later ∧ s.wizard.taken before = before ∧
      (∀ event ∈ later.head?, ((s.wizard.afterAll before).handle event).isOk = false) ∧
      ((Program.replay s events : StateM (Recorded σ) Nat).run ⟨base, []⟩).2.calls.filterMap
        Call.event? = (s.wizard.trail before).map (·.logged) := by
  refine ⟨s.run_actAll_navigate display events ⟨base, []⟩, Wizard.told hstart events, ?_,
    s.exists_logged_replay events ⟨base, []⟩⟩
  exact fun other h => List.map_injective_iff.mpr Wizard.Transition.logged_injective h

/-! ### To the end of the booth

The booth has two views. The first of four events comes too early, and the last one too late. -/

theorem trail_logged_booth :
    ∃ session, create Attended.boothConfig = .ok session ∧
      session.wizard.trail [.previous, .next, .next, .previous]
        = [⟨.next, "configuration", "completion", .inProgress⟩,
          ⟨.next, "completion", "completion", .finished⟩] ∧
      ∃ answers base',
        (session.actAll (Recorded.notify Attended.take)
          ([.previous, .next, .next, .previous].map .navigate)).run ⟨Attended.booth, []⟩
          = (({ session with
                wizard := session.wizard.afterAll [.previous, .next, .next, .previous] }, answers),
            ⟨base', (session.wizard.trail [.previous, .next, .next, .previous]).map
              fun t => .log t.logged⟩) := by
  obtain ⟨session, hcreate⟩ := Attended.exists_session_booth
  obtain ⟨-, hstart⟩ := parts_of_create hcreate
  have hwizard : session.wizard = ⟨["configuration", "completion"], 0, .inProgress, by decide⟩ :=
    (Except.ok.inj hstart).symm
  obtain ⟨hrun, -⟩ := trail_logged hstart Attended.take
    [.previous, .next, .next, .previous] Attended.booth
  refine ⟨session, hcreate, ?_, hrun⟩
  rw [hwizard]
  rfl

end Session

end Commissioning
