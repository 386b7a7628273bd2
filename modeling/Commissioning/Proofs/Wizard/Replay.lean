import Commissioning.Proofs.Attended
import Commissioning.Proofs.Program
import Commissioning.Proofs.Setup
import Commissioning.Proofs.Wizard.Walk

set_option autoImplicit false

/-! # Walks on the command line

The command `wizard` walks through the views of a configuration, as far as the walk is legal. What
it prints and its exit code are functions of the views and of the walk
(`Program.wizard_replays`). -/

namespace Commissioning

open Walk

namespace Program

/-- The message about an event that is refused where a legal walk leads. -/
def refusalLine (views : List String) (events : List ViewEvent) (event : ViewEvent) : String :=
  event.name ++ ": " ++ (Error.wizard (refusal views events)).message

/-- What a walk through some views comes to: the exit code, and what is seen in the end. It is gone
through, or ended by the first event that it is not legal with. -/
inductive Replayed (views : List String) (events : List ViewEvent) (v : Sight) :
    Nat → Sight → Prop
  | through {v' : Sight} (hlegal : IsLegal views.length events)
      (hprinted : (v.saying (lines views events)).Logged v') : Replayed views events v 0 v'
  | halted {v' : Sight} (taken : List ViewEvent) (event : ViewEvent) (later : List ViewEvent)
      (hevents : events = taken ++ event :: later) (hlegal : IsLegal views.length taken)
      (hhalt : ¬ IsLegal views.length (taken ++ [event]))
      (hprinted : (v.saying (lines views taken)).Logged v') :
      Replayed views events v 1 (v'.complaining [refusalLine views taken event])

theorem Replayed.code_eq_zero_iff {views : List String} {events : List ViewEvent} {v v' : Sight}
    {code : Nat} (h : Replayed views events v code v') :
    code = 0 ↔ IsLegal views.length events := by
  cases h with
  | through hlegal _ => exact iff_of_true rfl hlegal
  | halted taken event later hevents _ hhalt _ =>
    refine iff_of_false Nat.one_ne_zero fun hlegal => hhalt ?_
    rw [hevents, List.append_cons] at hlegal
    exact hlegal.of_append

end Program

/-- Where a legal walk has led, the rest of it is replayed. -/
theorem Host.Visible.replay {σ : Type} [Host (StateM σ)] {see : σ → Sight} (h : Visible see)
    (events : List ViewEvent) {taken : List ViewEvent} {session : Session}
    (hfollows : session.wizard.Follows taken) {v : Sight} {s : σ}
    (hprinted : (v.saying (lines session.wizard.views taken)).Logged (see s)) :
    Program.Replayed session.wizard.views (taken ++ events) v
      ((Program.replay session events : StateM σ Nat).run s).1
      (see ((Program.replay session events : StateM σ Nat).run s).2) := by
  induction events generalizing taken session s with
  | nil =>
    rw [List.append_nil]
    exact .through hfollows.legal hprinted
  | cons event events ih =>
    have hanswered := hfollows.handle event
    generalize hanswer : session.wizard.handle event = answer at hanswered
    unfold Program.replay
    cases hanswered with
    | refused hhalt =>
      simp only [Session.navigate_of_error hanswer]
      have hsaid := h.printErrorLine
        (Program.refusalLine session.wizard.views taken event) s
      exact hsaid ▸ .halted taken event events rfl hfollows.legal hhalt hprinted
    | taken next t hviews hnext =>
      simp only [Session.navigate_of_ok hanswer, hnext.line_eq event]
      have hlogged := h.log t.logged s
      have hline := h.printLine (line next.views (taken ++ [event]) event)
        ((Host.log t.logged : StateM σ _).run s).2
      have hmore : (v.saying (lines next.views (taken ++ [event]))).Logged
          (see ((Host.printLine (line next.views (taken ++ [event]) event) : StateM σ _).run
            ((Host.log t.logged : StateM σ _).run s).2).2) := by
        rw [hline, lines_concat, ← Sight.saying_saying, hviews]
        exact (hprinted.trans hlogged).saying _
      have hthere : ({ session with wizard := next } : Session).wizard.Follows (taken ++ [event]) :=
        hnext
      have hgone := ih hthere hmore
      rw [← List.append_cons] at hgone
      exact hviews ▸ hgone

/-- What stands behind an event that is refused does not matter. -/
theorem Program.replay_append {m : Type → Type} [Monad m] [Host m] (events later : List ViewEvent)
    {taken : List ViewEvent} {session : Session} (hfollows : session.wizard.Follows taken)
    (hhalt : ¬ IsLegal session.wizard.views.length (taken ++ events)) :
    (replay session (events ++ later) : m Nat) = replay session events := by
  induction events generalizing taken session with
  | nil => exact absurd hfollows.legal (by simpa using hhalt)
  | cons event events ih =>
    have hanswered := hfollows.handle event
    generalize hanswer : session.wizard.handle event = answer at hanswered
    rw [List.cons_append]
    unfold replay
    cases hanswered with
    | refused => simp only [Session.navigate_of_error hanswer]
    | taken next t hviews hnext =>
      rw [List.append_cons, ← hviews] at hhalt
      have hthere : ({ session with wizard := next } : Session).wizard.Follows (taken ++ [event]) :=
        hnext
      have hrest := ih hthere hhalt
      simp only [Session.navigate_of_ok hanswer, hrest]

/-- **The command `wizard` replays the legal walks.** Its exit code is 0 for a legal walk and 1 for
any other, and it prints a line for each event up to the first one that the walk is not legal with.
That one is named where errors go, and nothing behind it is looked at. -/
theorem Program.wizard_replays {σ : Type} [Host (StateM σ)] {see : σ → Sight}
    (h : Host.Visible see) {env : Environment} {words : List String} {line : CommandLine}
    {events : List ViewEvent} {config : Config} {session : Session} {s : σ}
    (hread : CommandLine.read words = .ok line) (hcommand : line.command = .wizard events)
    (hconfig : configOn env (see s).files line.config = .ok config)
    (hsession : Session.create config = .ok session) :
    (∀ program ∈ [(main env words : StateM σ Nat), mainShown env words],
      ∃ code s', program.run s = (code, s') ∧
        (code = 0 ↔ IsLegal config.views.length events) ∧
        Replayed config.views events (see s) code (see s')) ∧
    ∀ taken later, ¬ IsLegal config.views.length taken →
      ∀ (m : Type → Type) [Monad m] [Host m],
        (replay session (taken ++ later) : m Nat) = replay session taken := by
  obtain ⟨-, hwizard⟩ := Session.parts_of_create hsession
  obtain ⟨hviews, hfollows⟩ := Wizard.follows_nil hwizard
  rw [← hviews]
  refine ⟨fun program hprogram => ?_, fun taken later hhalt m _ _ =>
    replay_append taken later hfollows hhalt⟩
  obtain ⟨host, started, hvisible, hstarted, hrun⟩ := h.main_cases hread hprogram s
  obtain ⟨ready, hready, hrunning⟩ := hvisible.run_eq env line started
  have hopened : sessionOn env (see started).files line = .ok session := by
    rw [hstarted.files_eq]
    refine sessionOn_of_create hconfig ?_
    rw [hcommand]
    exact hsession
  simp only [hopened, hcommand] at hrunning
  have hreplayed := hvisible.replay events hfollows (v := see s) (s := ready)
    (by simpa [lines] using hstarted.trans hready)
  exact ⟨_, _, hrun.trans hrunning, hreplayed.code_eq_zero_iff, hreplayed⟩

/-! ### A walk past the end

There are two views. The last of five events comes when the wizard has finished. -/

def strollWords : List String :=
  ["--config", "/config.json", "wizard", "next", "previous", "next", "next", "previous"]

def strollLine : CommandLine where
  config := some ⟨"/config.json"⟩
  command := .wizard [.next, .previous, .next, .next, .previous]

theorem Program.wizard_replays_stroll :
    CommandLine.read strollWords = .ok strollLine ∧
      configOn {} Attended.booth.sight.files strollLine.config = .ok Attended.boothConfig ∧
      (∃ session, Session.create Attended.boothConfig = .ok session) ∧
      ¬ IsLegal 2 [.next, .previous, .next, .next, .previous] ∧
      ∀ program ∈ [(main {} strollWords : StateM Attended Nat), mainShown {} strollWords],
        ∃ code s', program.run Attended.booth = (code, s') ∧ code ≠ 0 ∧
          Replayed ["configuration", "completion"] [.next, .previous, .next, .next, .previous]
            Attended.booth.sight code s'.sight := by
  have hread : CommandLine.read strollWords = .ok strollLine := by decide +kernel
  have hhalt : ¬ IsLegal 2 [.next, .previous, .next, .next, .previous] := by decide
  obtain ⟨session, hsession⟩ := Attended.exists_session_booth
  obtain ⟨hreplays, -⟩ :=
    wizard_replays Attended.visible hread rfl Attended.configOn_booth hsession
  refine ⟨hread, Attended.configOn_booth, ⟨session, hsession⟩, hhalt, fun program hprogram => ?_⟩
  obtain ⟨code, s', hrun, hcode, hreplayed⟩ := hreplays program hprogram
  exact ⟨code, s', hrun, fun hzero => hhalt (hcode.mp hzero), hreplayed⟩

end Commissioning
