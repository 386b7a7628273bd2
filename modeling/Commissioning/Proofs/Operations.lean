import Commissioning.Proofs.Attended
import Commissioning.Proofs.Downloader.Seen
import Commissioning.Proofs.Setup
import Commissioning.Proofs.Wizard.Run

set_option autoImplicit false

/-! # Sessions from the first operation to the last

A session is led through its views and downloads protocols, in any order. The two do not get into
each other's way: the wizard goes where the events alone would lead it, and the downloads come to
what they would come to without the events. On the way each download of a protocol sends one
request, and each one that fails tells the user so (`Session.operations_account`). -/

namespace Commissioning

namespace Session

/-! ## Operations -/

/-- Something that is done in a session. -/
inductive Operation where
  | navigate (event : ViewEvent)
  | download (installation : Installation)
  deriving DecidableEq, Repr

/-- What an operation answers. -/
inductive Answer where
  | moved (result : Except Error Wizard.Transition)
  | ended (outcome : Outcome)

namespace Operation

/-- The event of a navigation. -/
def event? : Operation → Option ViewEvent
  | navigate event => some event
  | download _ => none

/-- The protocol that is asked for. -/
def protocol? : Operation → Option Protocol.Id
  | navigate _ => none
  | download installation => installation.setupProtocolId

def isDownload : Operation → Bool
  | navigate _ => false
  | download _ => true

end Operation

namespace Answer

def result? : Answer → Option (Except Error Wizard.Transition)
  | moved result => some result
  | ended _ => none

def outcome? : Answer → Option Outcome
  | moved _ => none
  | ended outcome => some outcome

end Answer

section

variable {m : Type → Type} [Monad m] [Host m]

/-- An operation is carried out. A step of the wizard is logged. -/
def act (notify : Notification → m Unit) (s : Session) : Operation → m (Session × Answer)
  | .navigate event =>
    match s.navigate event with
    | .ok (next, t) => do
      Host.log t.logged
      pure (next, .moved (.ok t))
    | .error e => pure (s, .moved (.error e))
  | .download installation => do
    let outcome ← s.download notify installation
    pure (s, .ended outcome)

/-- Several operations are carried out. -/
def actAll (notify : Notification → m Unit) (s : Session) :
    List Operation → m (Session × List Answer)
  | [] => pure (s, [])
  | op :: ops => do
    let (s, answer) ← s.act notify op
    let (s, answers) ← s.actAll notify ops
    pure (s, answer :: answers)

end

/-! ## One operation -/

/-- What is seen of a notification: it has been shown, with whatever lines where errors go. -/
def Noted (notice : Notification) (v v' : Sight) : Prop :=
  ∃ lines, v' = (v.notified notice).complaining lines

/-- What an operation comes to, by what was seen before it and is seen in the end. -/
inductive Acted (s : Session) (v : Sight) : Operation → Session × Answer → Sight → Prop
  | moved {v' : Sight} (event : ViewEvent) (next : Wizard) (t : Wizard.Transition)
      (hanswer : s.wizard.handle event = .ok (next, t)) (hseen : v.Logged v') :
      Acted s v (.navigate event) ({ s with wizard := next }, .moved (.ok t)) v'
  | refused (event : ViewEvent) (fault : Wizard.Fault)
      (hanswer : s.wizard.handle event = .error fault) :
      Acted s v (.navigate event) (s, .moved (.error (.wizard fault))) v
  | downloaded {v' : Sight} (i : Installation) (id : Protocol.Id) (outcome : Outcome)
      (hid : i.setupProtocolId = some id) (hseen : s.Downloaded id Noted v outcome v') :
      Acted s v (.download i) (s, .ended outcome) v'
  | missing {v' v'' : Sight} (i : Installation) (hid : i.setupProtocolId = none)
      (hseen : v.Logged v') (hnoted : Noted Downloader.failureNotice v' v'') :
      Acted s v (.download i) (s, .ended .failed) v''

variable {σ κ : Type} [Host (StateM σ)] {see : σ → Sight} {notify : Notification → StateM σ Unit}
  {rest : σ → κ}

theorem download_of_some {i : Installation} {id : Protocol.Id} (s : Session)
    (h : i.setupProtocolId = some id) :
    s.download notify i = (s.downloader notify).download i.edgeId id := by
  unfold download
  rw [h]

theorem download_of_none {i : Installation} (s : Session) (h : i.setupProtocolId = none) :
    s.download notify i
      = ((s.downloader notify).reportFailure (noProtocol i) >>= fun _ => pure .failed) := by
  unfold download
  rw [h]

/-- A step of the wizard is logged, and nothing else is done for it. -/
theorem run_act_of_ok {session : Session} {event : ViewEvent} {next : Wizard}
    {t : Wizard.Transition} (h : session.wizard.handle event = .ok (next, t)) (s : σ) :
    (session.act notify (.navigate event)).run s
      = (({ session with wizard := next }, .moved (.ok t)),
        ((Host.log t.logged : StateM σ Unit).run s).2) := by
  simp only [act, navigate_of_ok h]
  rfl

/-- Nothing is done for an event that the wizard refuses. -/
theorem run_act_of_error {session : Session} {event : ViewEvent} {fault : Wizard.Fault}
    (h : session.wizard.handle event = .error fault) (s : σ) :
    (session.act notify (.navigate event)).run s
      = ((session, .moved (.error (.wizard fault))), s) := by
  simp only [act, navigate_of_error h]
  rfl

/-- An operation on a host that is watched comes to one of these. -/
theorem acted (h : Host.Visible see) (hnotify : Tells see notify Noted) (session : Session)
    (op : Operation) (s : σ) :
    ∃ result s', (session.act notify op).run s = (result, s') ∧
      session.Acted (see s) op result (see s') := by
  cases op with
  | navigate event =>
    cases hanswer : session.wizard.handle event with
    | ok step =>
      exact ⟨_, _, run_act_of_ok hanswer s, .moved event step.1 step.2 hanswer (h.log _ s)⟩
    | error fault => exact ⟨_, s, run_act_of_error hanswer s, .refused event fault hanswer⟩
  | download i =>
    unfold act
    cases hid : i.setupProtocolId with
    | some id =>
      obtain ⟨outcome, s', hrun, hseen⟩ := h.download hnotify session i.edgeId id s
      simp only [download_of_some session hid]
      exact ⟨_, s', run_bind_of_run hrun, .downloaded i id outcome hid hseen⟩
    | none =>
      have hlogged := h.log (Downloader.failure (noProtocol i)) s
      have hnoted := hnotify Downloader.failureNotice
        ((Host.log (Downloader.failure (noProtocol i)) : StateM σ Unit).run s).2
      simp only [download_of_none session hid]
      exact ⟨_, _, rfl, .missing i hid hlogged hnoted⟩

/-! ## Accounts -/

/-- Whether an answer is one to an operation: a navigation moves the wizard or is refused, and a
download ends, with a failure where there is no protocol. -/
inductive Answers : Operation → Answer → Prop
  | moved (event : ViewEvent) (result : Except Error Wizard.Transition) :
      Answers (.navigate event) (.moved result)
  | ended (i : Installation) (outcome : Outcome)
      (h : i.setupProtocolId = none → outcome = .failed) :
      Answers (.download i) (.ended outcome)

/-- What several operations in a session come to, by their answers, the session after them, and what
was seen before them and is seen in the end. -/
structure Account (s : Session) (ops : List Operation) (v : Sight) (s' : Session)
    (answers : List Answer) (v' : Sight) : Prop where
  answered : List.Forall₂ Answers ops answers
  /-- The wizard answers what it would answer to the events alone. -/
  moves : answers.filterMap (·.result?)
    = (s.wizard.answers (ops.filterMap (·.event?))).map (·.mapError Error.wizard)
  /-- It ends where the events alone would lead it, and nothing else of the session changes. -/
  session_eq : s' = { s with wizard := s.wizard.afterAll (ops.filterMap (·.event?)) }
  /-- There is one request for each protocol, in this order. -/
  requests : ∃ sent, v'.exchanges = v.exchanges ++ sent ∧
    List.Forall₂ (fun id exchange => ∃ callId, exchange.1 = s.service.request callId ⟨id⟩)
      (ops.filterMap (·.protocol?)) sent
  /-- There is one notification for each failure. -/
  notices : v'.notices = v.notices ++
    List.replicate ((answers.filterMap (·.outcome?)).count .failed) Downloader.failureNotice

theorem Account.nil (s : Session) (v : Sight) : Account s [] v s [] v where
  answered := .nil
  moves := rfl
  session_eq := rfl
  requests := ⟨[], by simp, .nil⟩
  notices := by simp

theorem Acted.account {s s' : Session} {op : Operation} {v v' : Sight} {answer : Answer}
    (h : s.Acted v op (s', answer) v') : Account s [op] v s' [answer] v' := by
  cases h with
  | moved event next t hanswer hseen =>
    have hafter := Wizard.after_of_ok hanswer
    refine ⟨.cons (.moved event _) .nil, ?_, ?_, ⟨[], ?_, .nil⟩, ?_⟩
    · simp [Answer.result?, Operation.event?, Wizard.answers, hanswer, Except.map, Except.mapError]
    · simp [Operation.event?, Wizard.afterAll, hafter]
    · simpa using hseen.exchanges_eq
    · simpa [Answer.outcome?] using hseen.notices_eq
  | refused event fault hanswer =>
    have hafter := Wizard.after_of_error hanswer
    refine ⟨.cons (.moved event _) .nil, ?_, ?_, ⟨[], by simp, .nil⟩, ?_⟩
    · simp [Answer.result?, Operation.event?, Wizard.answers, hanswer, Except.map, Except.mapError]
    · simp [Operation.event?, Wizard.afterAll, hafter]
    · simp [Answer.outcome?]
  | downloaded i id outcome hid hseen =>
    cases hseen with
    | saved callId response files fileName path size hholds hseen =>
      refine ⟨.cons (.ended i _ (by simp [hid])) .nil, rfl, rfl,
        ⟨[(s.service.request callId ⟨id⟩, response)], hseen.exchanges_eq, ?_⟩, ?_⟩
      · simpa [Operation.protocol?, hid] using ⟨callId, rfl⟩
      · exact hseen.notices_eq.trans (List.append_nil _).symm
    | failed callId response files hseen hnoted =>
      obtain ⟨lines, rfl⟩ := hnoted
      refine ⟨.cons (.ended i _ (by simp [hid])) .nil, rfl, rfl,
        ⟨[(s.service.request callId ⟨id⟩, response)], hseen.exchanges_eq, ?_⟩, ?_⟩
      · simpa [Operation.protocol?, hid] using ⟨callId, rfl⟩
      · exact congrArg (· ++ [Downloader.failureNotice]) hseen.notices_eq
  | missing i hid hseen hnoted =>
    obtain ⟨lines, rfl⟩ := hnoted
    refine ⟨.cons (.ended i _ fun _ => rfl) .nil, rfl, rfl, ⟨[], ?_, ?_⟩, ?_⟩
    · rw [List.append_nil]
      exact hseen.exchanges_eq
    · simp [Operation.protocol?, hid]
    · exact congrArg (· ++ [Downloader.failureNotice]) hseen.notices_eq

theorem Account.append {s next s' : Session} {ops ops' : List Operation} {v w v' : Sight}
    {answers answers' : List Answer} (h : Account s ops v next answers w)
    (h' : Account next ops' w s' answers' v') :
    Account s (ops ++ ops') v s' (answers ++ answers') v' := by
  obtain ⟨sent, hsent, hrequests⟩ := h.requests
  obtain ⟨sent', hsent', hrequests'⟩ := h'.requests
  have hmoves := h'.moves
  have hsession := h'.session_eq
  rw [h.session_eq] at hmoves hsession hrequests'
  refine ⟨List.rel_append h.answered h'.answered, ?_, ?_, ⟨sent ++ sent', ?_, ?_⟩, ?_⟩
  · rw [List.filterMap_append, List.filterMap_append, h.moves, hmoves, Wizard.answers_append,
      List.map_append]
  · rw [List.filterMap_append, Wizard.afterAll_append]
    exact hsession
  · rw [hsent', hsent, List.append_assoc]
  · rw [List.filterMap_append]
    exact List.rel_append hrequests hrequests'
  · rw [List.filterMap_append, List.count_append, List.replicate_add, ← List.append_assoc,
      ← h.notices]
    exact h'.notices

theorem run_actAll_cons {session next : Session} {op : Operation} {answer : Answer} {s between : σ}
    (hact : (session.act notify op).run s = ((next, answer), between)) (ops : List Operation) :
    (session.actAll notify (op :: ops)).run s
      = ((((next.actAll notify ops).run between).1.1,
          answer :: ((next.actAll notify ops).run between).1.2),
        ((next.actAll notify ops).run between).2) := by
  rw [actAll, run_bind_of_run hact]
  rfl

/-- Whatever is done in a session adds up. -/
theorem account_actAll (h : Host.Visible see) (hnotify : Tells see notify Noted)
    (session : Session) (ops : List Operation) (s : σ) :
    ∃ session' answers s', (session.actAll notify ops).run s = ((session', answers), s') ∧
      Account session ops (see s) session' answers (see s') := by
  induction ops generalizing session s with
  | nil => exact ⟨session, [], s, rfl, .nil session (see s)⟩
  | cons op ops ih =>
    obtain ⟨⟨next, answer⟩, between, hact, hacted⟩ := acted h hnotify session op s
    obtain ⟨session', answers, s', hrun, haccount⟩ := ih next between
    refine ⟨session', answer :: answers, s', ?_, hacted.account.append haccount⟩
    rw [run_actAll_cons hact, hrun]

/-! ## Downloads alone -/

/-- Whether two runs of operations have the same outcomes and leave the same behind them. -/
def SameDownloads (rest : σ → κ) (run run' : (Session × List Answer) × σ) : Prop :=
  run.1.2.filterMap Answer.outcome? = run'.1.2.filterMap Answer.outcome? ∧
    rest run.2 = rest run'.2

/-- The downloads in a session come to the same without the events between them, and with the wizard
anywhere. -/
theorem downloads_alone (h : Host.LogApart see rest)
    (hnotify : ∀ notice, Blind rest (notify notice)) (session : Session) (wizard : Wizard)
    (ops : List Operation) {s t : σ} (hsame : rest s = rest t) :
    SameDownloads rest ((session.actAll notify ops).run s)
      (({ session with wizard := wizard }.actAll notify
        (ops.filter Operation.isDownload)).run t) := by
  induction ops generalizing session s t with
  | nil => exact ⟨rfl, hsame⟩
  | cons op ops ih =>
    cases op with
    | navigate event =>
      cases hanswer : session.wizard.handle event with
      | ok step =>
        rw [run_actAll_cons (run_act_of_ok hanswer s)]
        exact ih { session with wizard := step.1 } ((h.log step.2.logged s).trans hsame)
      | error fault =>
        rw [run_actAll_cons (run_act_of_error hanswer s)]
        exact ih session hsame
    | download i =>
      obtain ⟨houtcome, hrest⟩ := h.download hnotify session i s t hsame
      obtain ⟨hsameOutcomes, hsameRest⟩ := ih session hrest
      have hact : ∀ (w : Wizard) (s : σ),
          ({ session with wizard := w }.act notify (.download i)).run s
            = (({ session with wizard := w }, .ended ((session.download notify i).run s).1),
              ((session.download notify i).run s).2) :=
        fun _ _ => rfl
      rw [run_actAll_cons (hact session.wizard s), List.filter_cons_of_pos rfl,
        run_actAll_cons (hact wizard t), ← houtcome]
      exact ⟨congrArg (_ :: ·) hsameOutcomes, hsameRest⟩

/-- **The operations in a session do not get into each other's way.** Each of them does its own part
(`Acted`), and all of them together add up (`Account`). The downloads alone have the same outcomes,
send the same requests, and leave the same files; the operations up to any of them are operations
too, so this holds of each download. -/
theorem operations_account (h : Host.Visible see) (hnotify : Tells see notify Noted)
    (hapart : Host.LogApart see rest) (hblind : ∀ notice, Blind rest (notify notice))
    {config : Config} {session : Session} (hcreate : create config = .ok session)
    (ops : List Operation) (s : σ) :
    Wizard.ofViews config.views = .ok session.wizard ∧
    (∀ (current : Session) (op : Operation) (s : σ), ∃ result s',
      (current.act notify op).run s = (result, s') ∧
        current.Acted (see s) op result (see s')) ∧
    ∃ session' answers s', (session.actAll notify ops).run s = ((session', answers), s') ∧
      Account session ops (see s) session' answers (see s') ∧
      ∃ alone, (session.actAll notify (ops.filter Operation.isDownload)).run s = alone ∧
        SameDownloads rest ((session', answers), s') alone ∧
        ∃ lines, see s' = { see alone.2 with printedErrors := lines } := by
  obtain ⟨session', answers, s', hrun, haccount⟩ := account_actAll h hnotify session ops s
  have halone := downloads_alone hapart hblind session session.wizard ops (rfl : rest s = rest s)
  rw [hrun] at halone
  have hseen := hapart.seen _ _ halone.2.symm
  exact ⟨(parts_of_create hcreate).2, acted h hnotify, session', answers, s', hrun, haccount, _, rfl,
    halone, hseen⟩

/-! ### A session in the booth

The backend has one answer: the first download is saved, the second one gets none, and the third
one asks for nothing. -/

theorem tells_take : Tells Attended.sight Attended.take Noted :=
  fun _ _ => ⟨[], (Sight.complaining_nil _).symm⟩

def boothOperations : List Operation :=
  [.navigate .previous, .navigate .next, .download ⟨"E1", some (.number 7)⟩, .navigate .next,
    .download ⟨"E2", some (.number 8)⟩, .navigate .next, .download ⟨"E3", none⟩]

theorem operations_account_booth :
    ∃ session, create Attended.boothConfig = .ok session ∧
      ∃ session' answers s',
        (session.actAll Attended.take boothOperations).run Attended.booth
          = ((session', answers), s') ∧
        Account session boothOperations Attended.booth.sight session' answers s'.sight ∧
        ∃ alone,
          (session.actAll Attended.take (boothOperations.filter Operation.isDownload)).run
            Attended.booth = alone ∧
          SameDownloads Attended.quiet ((session', answers), s') alone := by
  obtain ⟨session, hcreate⟩ := Attended.exists_session_booth
  obtain ⟨-, -, session', answers, s', hrun, haccount, alone, halone, hsame, -⟩ :=
    operations_account Attended.visible tells_take Attended.apart Attended.blind_take
      hcreate boothOperations Attended.booth
  exact ⟨session, hcreate, session', answers, s', hrun, haccount, alone, halone, hsame⟩

end Session

end Commissioning
