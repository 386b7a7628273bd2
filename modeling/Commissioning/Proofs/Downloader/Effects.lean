import Commissioning.Downloader
import Mathlib.Tactic.Common

set_option autoImplicit false

/-! # The effects of a download

A downloader works with a service, a saver, a notifier, a log and a clock, about which nothing is
known here: each of them may answer anything, from a state of its own. The downloader that writes
down what it does (`recorded`) shows what it asks of them, and nothing else changes the state
(`Leads`). A download takes one of four courses
(`Course`), and `download_effects` says what they have in common: one request, at most one saved
document, and one notification exactly when nothing was saved. -/

namespace Commissioning.Downloader

/-! ## Records -/

/-- Something that a downloader does, with the answer that it gets. -/
inductive Effect where
  | log (event : Log.Event)
  | ask (request : Protocol.Request) (answer : Except Protocol.Error String)
  | readDate (date : Date)
  | save (document : Document) (answer : Except Protocol.Error Path)
  | notify (notification : Notification)

/-- The requests among some effects, with their answers. -/
def requests (trace : List Effect) : List (Protocol.Request × Except Protocol.Error String) :=
  trace.filterMap fun
    | .ask request answer => some (request, answer)
    | _ => none

/-- The dates that were read. -/
def dates (trace : List Effect) : List Date :=
  trace.filterMap fun
    | .readDate date => some date
    | _ => none

/-- The documents that were handed to the saver, with its answers. -/
def saves (trace : List Effect) : List (Document × Except Protocol.Error Path) :=
  trace.filterMap fun
    | .save document answer => some (document, answer)
    | _ => none

/-- The notifications that were sent. -/
def notices (trace : List Effect) : List Notification :=
  trace.filterMap fun
    | .notify notification => some notification
    | _ => none

/-- The warnings and errors that were logged. -/
def warnings (trace : List Effect) : List Log.Event :=
  trace.filterMap fun
    | .log event => if event.level.rank ≤ Log.Level.warn.rank then some event else none
    | _ => none

section

variable {m : Type → Type} [Monad m]

/-- The same downloader, which writes down what it does. -/
def recorded (d : Downloader m) : Downloader (StateT (List Effect) m) where
  ask request := do
    let answer ← d.ask request
    modify (· ++ [.ask request answer])
    pure answer
  save document := do
    let answer ← d.save document
    modify (· ++ [.save document answer])
    pure answer
  notify notification := do
    d.notify notification
    modify (· ++ [.notify notification])
  log event := do
    d.log event
    modify (· ++ [.log event])
  today := do
    let date ← d.today
    modify (· ++ [.readDate date])
    pure date
  stem := d.stem

end

/-! ## Calls -/

section

variable {σ : Type} (d : Downloader (StateM σ))

/-- Whether a call has the answer that is written down, and what it makes of a state. -/
def Calls : Effect → σ → σ → Prop
  | .log event, s, s' => (d.log event).run s = ((), s')
  | .ask request answer, s, s' => (d.ask request).run s = (answer, s')
  | .readDate date, s, s' => d.today.run s = (date, s')
  | .save document answer, s, s' => (d.save document).run s = (answer, s')
  | .notify notification, s, s' => (d.notify notification).run s = ((), s')

/-- Whether the calls of a record, one after another, lead from a state to another. -/
inductive Leads : σ → List Effect → σ → Prop
  | none (s : σ) : Leads s [] s
  | more {s next last : σ} {effect : Effect} {rest : List Effect}
      (hfirst : d.Calls effect s next) (hrest : Leads next rest last) :
      Leads s (effect :: rest) last

theorem calls_log (event : Log.Event) (s : σ) :
    d.Calls (.log event) s ((d.log event).run s).2 :=
  rfl

theorem calls_ask (request : Protocol.Request) (s : σ) :
    d.Calls (.ask request ((d.ask request).run s).1) s ((d.ask request).run s).2 :=
  rfl

theorem calls_readDate (s : σ) : d.Calls (.readDate (d.today.run s).1) s (d.today.run s).2 :=
  rfl

theorem calls_notify (notification : Notification) (s : σ) :
    d.Calls (.notify notification) s ((d.notify notification).run s).2 :=
  rfl

end

theorem Leads.append {σ : Type} {d : Downloader (StateM σ)} {s next last : σ}
    {first rest : List Effect} (h : d.Leads s first next) (hrest : d.Leads next rest last) :
    d.Leads s (first ++ rest) last := by
  induction h with
  | none s => exact hrest
  | more hfirst _ ih => exact .more hfirst (ih hrest)

theorem leads_one {σ : Type} {d : Downloader (StateM σ)} {effect : Effect} {s s' : σ}
    (h : d.Calls effect s s') : d.Leads s [effect] s' :=
  .more h (.none s')

/-! ## Steps and runs -/

/-- What follows a failure: the reason is logged, and the user is told. -/
def reported (reason : Protocol.Error) : List Effect :=
  [.log (failure reason.message), .notify failureNotice]

/-- What a step may do: where it leads from a stage, and what it does on the way. -/
inductive Effects (stem : String) : Stage → Stage → List Effect → Prop
  | asked (entity : String) (id : Protocol.Id) (answer : Except Protocol.Error String) :
      Effects stem (.ready entity id) (.answered entity answer)
        [.log (starting entity id), .ask ⟨id⟩ answer]
  | unanswered (entity : String) (reason : Protocol.Error) :
      Effects stem (.answered entity (.error reason)) (.refused reason) []
  | decoded (entity payload : String) (date : Date) (bytes : List UInt8)
      (hdecode : Payload.decode payload = .ok bytes) :
      Effects stem (.answered entity (.ok payload))
        (.decoded ⟨bytes, Document.pdfMimeType, Document.protocolFileName stem entity date⟩)
        [.readDate date]
  | undecodable (entity payload : String) (date : Date) (fault : Base64.Fault)
      (hdecode : Payload.decode payload = .error fault) :
      Effects stem (.answered entity (.ok payload)) (.refused (.invalidPayload fault))
        [.readDate date]
  | saved (document : Document) (path : Path) :
      Effects stem (.decoded document) (.finished (.saved document.fileName path document.size))
        [.save document (.ok path)]
  | unsaved (document : Document) (reason : Protocol.Error) :
      Effects stem (.decoded document) (.refused reason) [.save document (.error reason)]
  | reported (reason : Protocol.Error) :
      Effects stem (.refused reason) (.finished .failed) (reported reason)
  | finished (outcome : Outcome) :
      Effects stem (.finished outcome) (.finished outcome) []

/-- What several steps may do. -/
inductive RunEffects (stem : String) : Nat → Stage → Stage → List Effect → Prop
  | none (stage : Stage) : RunEffects stem 0 stage stage []
  | more {n : Nat} {stage next last : Stage} {first rest : List Effect}
      (hstep : Effects stem stage next first) (hrest : RunEffects stem n next last rest) :
      RunEffects stem (n + 1) stage last (first ++ rest)

section

variable {σ : Type} (d : Downloader (StateM σ))

theorem append_pair (trace : List Effect) (first second : Effect) :
    trace ++ [first, second] = (trace ++ [first]) ++ [second] := by
  simp

theorem ofPayload_of_ok {payload : String} {bytes : List UInt8}
    (h : Payload.decode payload = .ok bytes) (fileName : String) :
    Document.ofPayload payload fileName = .ok ⟨bytes, Document.pdfMimeType, fileName⟩ := by
  rw [Document.ofPayload, h]
  rfl

theorem ofPayload_of_error {payload : String} {fault : Base64.Fault}
    (h : Payload.decode payload = .error fault) (fileName : String) :
    Document.ofPayload payload fileName = .error fault := by
  rw [Document.ofPayload, h]
  rfl

/-- A step does what it may do, in calls that lead where it leads, and writing it down changes
nothing else. -/
theorem effects_of_step (stage : Stage) (s : σ) :
    ∃ next effects s', (d.step stage).run s = (next, s') ∧
      (∀ trace, ((d.recorded.step stage).run trace).run s = ((next, trace ++ effects), s')) ∧
      Effects d.stem stage next effects ∧ d.Leads s effects s' := by
  cases stage with
  | ready entity id =>
    refine ⟨_, _, _, rfl, fun trace => ?_, .asked entity id _,
      .more (calls_log d (starting entity id) s) (leads_one (calls_ask d ⟨id⟩ _))⟩
    rw [append_pair]
    rfl
  | answered entity answer =>
    cases answer with
    | error reason =>
      refine ⟨_, _, _, rfl, fun trace => ?_, .unanswered entity reason, .none s⟩
      rw [List.append_nil]
      rfl
    | ok payload =>
      have hdate := leads_one (calls_readDate d s)
      cases hdecode : Payload.decode payload with
      | ok bytes =>
        have hdocument := ofPayload_of_ok hdecode
        refine ⟨_, _, (d.today.run s).2, ?_, fun trace => ?_,
          .decoded entity payload (d.today.run s).1 bytes hdecode, hdate⟩
        · simp only [step, hdocument]
          rfl
        · simp only [step, hdocument]
          rfl
      | error fault =>
        have hfault := ofPayload_of_error hdecode
        refine ⟨_, _, (d.today.run s).2, ?_, fun trace => ?_,
          .undecodable entity payload (d.today.run s).1 fault hdecode, hdate⟩
        · simp only [step, hfault]
          rfl
        · simp only [step, hfault]
          rfl
  | decoded document =>
    -- What the step does next depends on the answer of the saver
    cases hsave : (d.save document).run s with
    | mk answer s' =>
      cases answer with
      | ok path =>
        refine ⟨_, _, s', ?_, fun trace => ?_, .saved document path, leads_one hsave⟩
        · simp [step, hsave]
          rfl
        · simp [step, recorded, hsave]
          rfl
      | error reason =>
        refine ⟨_, _, s', ?_, fun trace => ?_, .unsaved document reason, leads_one hsave⟩
        · simp [step, hsave]
          rfl
        · simp [step, recorded, hsave]
          rfl
  | refused reason =>
    refine ⟨_, _, _, rfl, fun trace => ?_, .reported reason,
      .more (calls_log d (failure reason.message) s) (leads_one (calls_notify d failureNotice _))⟩
    rw [reported, append_pair]
    rfl
  | finished outcome =>
    refine ⟨_, _, _, rfl, fun trace => ?_, .finished outcome, .none s⟩
    rw [List.append_nil]
    rfl

theorem effects_of_steps (n : Nat) (stage : Stage) (s : σ) :
    ∃ last effects s', (d.steps n stage).run s = (last, s') ∧
      (∀ trace, ((d.recorded.steps n stage).run trace).run s = ((last, trace ++ effects), s')) ∧
      RunEffects d.stem n stage last effects ∧ d.Leads s effects s' := by
  induction n generalizing stage s with
  | zero =>
    refine ⟨stage, [], s, rfl, fun trace => ?_, .none stage, .none s⟩
    rw [List.append_nil]
    rfl
  | succ n ih =>
    obtain ⟨next, first, s', hstep, hstepRecorded, heffects, hfirst⟩ := effects_of_step d stage s
    -- The record goes on behind the effects of the first step.
    obtain ⟨last, rest, s'', hrest, hrestRecorded, hrun, hleads⟩ := ih next s'
    refine ⟨last, first ++ rest, s'', ?_, fun trace => ?_, .more heffects hrun,
      hfirst.append hleads⟩
    · rw [steps, StateT.run_bind, hstep]
      exact hrest
    · rw [steps, StateT.run_bind, StateT.run_bind, hstepRecorded, ← List.append_assoc]
      exact hrestRecorded (trace ++ first)

end

/-! ## The courses of a download -/

/-- The ways a whole download can go, each with its outcome and everything that is done. -/
inductive Course (stem entity : String) (id : Protocol.Id) : Outcome → List Effect → Prop
  | unanswered (reason : Protocol.Error) :
      Course stem entity id .failed
        (.log (starting entity id) :: .ask ⟨id⟩ (.error reason) :: reported reason)
  | undecodable (payload : String) (date : Date) (fault : Base64.Fault)
      (hdecode : Payload.decode payload = .error fault) :
      Course stem entity id .failed
        (.log (starting entity id) :: .ask ⟨id⟩ (.ok payload) :: .readDate date
          :: reported (.invalidPayload fault))
  | unsaved (payload : String) (date : Date) (bytes : List UInt8) (reason : Protocol.Error)
      (hdecode : Payload.decode payload = .ok bytes) :
      Course stem entity id .failed
        (.log (starting entity id) :: .ask ⟨id⟩ (.ok payload) :: .readDate date
          :: .save ⟨bytes, Document.pdfMimeType, Document.protocolFileName stem entity date⟩
            (.error reason) :: reported reason)
  | saved (payload : String) (date : Date) (bytes : List UInt8) (path : Path)
      (hdecode : Payload.decode payload = .ok bytes) :
      Course stem entity id
        (.saved (Document.protocolFileName stem entity date) path bytes.length)
        [.log (starting entity id), .ask ⟨id⟩ (.ok payload), .readDate date,
          .save ⟨bytes, Document.pdfMimeType, Document.protocolFileName stem entity date⟩
            (.ok path)]

/-- A stage that nothing follows does nothing more. -/
theorem runEffects_finished {stem : String} {n : Nat} {outcome : Outcome} {last : Stage}
    {effects : List Effect} (h : RunEffects stem n (.finished outcome) last effects) :
    last = .finished outcome ∧ effects = [] := by
  -- The stage has to be a variable for the induction.
  generalize hstage : Stage.finished outcome = stage at h
  induction h with
  | none stage => exact ⟨rfl, rfl⟩
  | more hstep hrest ih =>
    subst hstage
    cases hstep
    exact ih rfl

theorem runEffects_refused {stem : String} {n : Nat} {reason : Protocol.Error} {last : Stage}
    {effects : List Effect} (h : RunEffects stem (n + 1) (.refused reason) last effects) :
    last = .finished .failed ∧ effects = reported reason := by
  cases h with
  | more hstep hrest =>
    cases hstep
    obtain ⟨rfl, rfl⟩ := runEffects_finished hrest
    exact ⟨rfl, List.append_nil _⟩

/-- Four steps bring a download to its end, on one of the courses. -/
theorem course_of_runEffects {stem entity : String} {id : Protocol.Id} {last : Stage}
    {effects : List Effect} (h : RunEffects stem 4 (.ready entity id) last effects) :
    ∃ outcome, last = .finished outcome ∧ Course stem entity id outcome effects := by
  -- Each case of `h` takes one of the four steps off the run.
  obtain - | ⟨hasked, h⟩ := h
  cases hasked with
  | asked _ _ answer =>
    obtain - | ⟨hanswered, h⟩ := h
    cases hanswered with
    | unanswered _ reason =>
      obtain ⟨rfl, rfl⟩ := runEffects_refused h
      exact ⟨_, rfl, .unanswered reason⟩
    | undecodable _ payload date fault hdecode =>
      obtain ⟨rfl, rfl⟩ := runEffects_refused h
      exact ⟨_, rfl, .undecodable payload date fault hdecode⟩
    | decoded _ payload date bytes hdecode =>
      obtain - | ⟨hsaved, h⟩ := h
      cases hsaved with
      | unsaved document reason =>
        obtain ⟨rfl, rfl⟩ := runEffects_refused h
        exact ⟨_, rfl, .unsaved payload date bytes reason hdecode⟩
      | saved document path =>
        obtain ⟨rfl, rfl⟩ := runEffects_finished h
        exact ⟨_, rfl, .saved payload date bytes path hdecode⟩

/-- A download takes one of the courses, in calls that lead where it leads, and writing it down
changes nothing else. -/
theorem course_of_download {σ : Type} (d : Downloader (StateM σ)) (entity : String)
    (id : Protocol.Id) (s : σ) :
    ∃ outcome trace s', (d.download entity id).run s = (outcome, s') ∧
      ((d.recorded.download entity id).run []).run s = ((outcome, trace), s') ∧
      Course d.stem entity id outcome trace ∧ d.Leads s trace s' := by
  obtain ⟨last, effects, s', hrun, hrecorded, heffects, hleads⟩ :=
    effects_of_steps d 4 (.ready entity id) s
  obtain ⟨outcome, rfl, hcourse⟩ := course_of_runEffects heffects
  refine ⟨outcome, effects, s', ?_, ?_, hcourse, hleads⟩
  · rw [download, StateT.run_bind, hrun]
    rfl
  · rw [download, StateT.run_bind, StateT.run_bind, hrecorded, List.nil_append]
    rfl

/-! ## The contract -/

/-- Why a download failed, by what was done: the service gave no payload, the payload is no
document, or the saver refused it. -/
def FailsFor (id : Protocol.Id) (trace : List Effect) (reason : Protocol.Error) : Prop :=
  requests trace = [(⟨id⟩, .error reason)] ∨
  (∃ payload fault, requests trace = [(⟨id⟩, .ok payload)] ∧
    Payload.decode payload = .error fault ∧ reason = .invalidPayload fault) ∨
  ∃ document, saves trace = [(document, .error reason)]

/-- What every download keeps to, by its outcome and everything that it does. -/
structure Contract (stem entity : String) (id : Protocol.Id) (outcome : Outcome)
    (trace : List Effect) : Prop where
  /-- There is one request, and it is for the given protocol. -/
  one_request : ∃ answer, requests trace = [(⟨id⟩, answer)]
  /-- A document is saved exactly when the service answers and the payload can be decoded. -/
  saves_iff : saves trace ≠ [] ↔ ∃ payload bytes, requests trace = [(⟨id⟩, .ok payload)] ∧
    Payload.decode payload = .ok bytes
  /-- It is saved once: a PDF with the bytes of the payload, named after the entity and a date that
  is read once, after the answer. -/
  one_save : ∀ payload bytes, requests trace = [(⟨id⟩, .ok payload)] →
    Payload.decode payload = .ok bytes →
    ∃ date answer before after, trace = before ++ .ask ⟨id⟩ (.ok payload) :: after ∧
      dates before = [] ∧ dates after = [date] ∧
      saves trace
        = [(⟨bytes, "application/pdf", Document.protocolFileName stem entity date⟩, answer)]
  /-- The download has saved something exactly when the saver says so, under the name that was
  asked for, at the path that the saver gives. -/
  saved_iff : ∀ fileName path size, outcome = .saved fileName path size ↔
    ∃ document, saves trace = [(document, .ok path)] ∧ fileName = document.fileName ∧
      size = document.bytes.length
  /-- Then the user is told nothing. -/
  quiet : outcome.isSaved = true → notices trace = [] ∧ warnings trace = []
  /-- Otherwise the user is told once, and the log says why. -/
  told : outcome.isSaved = false → outcome = .failed ∧
    notices trace = [{ message := "The protocol could not be downloaded.", severity := .danger }] ∧
    ∃ reason, warnings trace = [failure reason.message] ∧ FailsFor id trace reason

theorem payload_eq {request : Protocol.Request} {p q : String}
    (h : [(request, (Except.ok p : Except Protocol.Error String))] = [(request, .ok q)]) :
    p = q := by
  simpa using h

theorem Course.contract {stem entity : String} {id : Protocol.Id} {outcome : Outcome}
    {trace : List Effect} (h : Course stem entity id outcome trace) :
    Contract stem entity id outcome trace := by
  cases h with
  | unanswered reason =>
    refine ⟨⟨_, rfl⟩, ⟨fun h => absurd rfl h, ?_⟩, ?_, ?_, by simp [Outcome.isSaved], ?_⟩
    · rintro ⟨payload, bytes, hrequests, -⟩
      exact absurd hrequests (by simp [requests, reported])
    · intro payload bytes hrequests
      exact absurd hrequests (by simp [requests, reported])
    · simp [saves, reported]
    · exact fun _ => ⟨rfl, rfl, reason, rfl, Or.inl rfl⟩
  | undecodable payload date fault hdecode =>
    refine ⟨⟨_, rfl⟩, ⟨fun h => absurd rfl h, ?_⟩, ?_, ?_, by simp [Outcome.isSaved], ?_⟩
    · rintro ⟨payload', bytes, hrequests, hbytes⟩
      obtain rfl := payload_eq hrequests
      exact absurd hbytes (by simp [hdecode])
    · intro payload' bytes hrequests hbytes
      obtain rfl := payload_eq hrequests
      exact absurd hbytes (by simp [hdecode])
    · simp [saves, reported]
    · exact fun _ => ⟨rfl, rfl, _, rfl, Or.inr (Or.inl ⟨payload, fault, rfl, hdecode, rfl⟩)⟩
  | unsaved payload date bytes reason hdecode =>
    refine ⟨⟨_, rfl⟩, ⟨fun _ => ⟨payload, bytes, rfl, hdecode⟩, fun _ => by simp [saves]⟩, ?_, ?_,
      by simp [Outcome.isSaved], ?_⟩
    · intro payload' bytes' hrequests hbytes
      obtain rfl := payload_eq hrequests
      obtain rfl : bytes = bytes' := by simpa [hdecode] using hbytes
      exact ⟨date, _, [.log (starting entity id)], _, rfl, rfl, rfl, rfl⟩
    · simp [saves, reported]
    · exact fun _ => ⟨rfl, rfl, reason, rfl, Or.inr (Or.inr ⟨_, rfl⟩)⟩
  | saved payload date bytes path hdecode =>
    refine ⟨⟨_, rfl⟩, ⟨fun _ => ⟨payload, bytes, rfl, hdecode⟩, fun _ => by simp [saves]⟩, ?_, ?_,
      fun _ => ⟨rfl, rfl⟩, by simp [Outcome.isSaved]⟩
    · intro payload' bytes' hrequests hbytes
      obtain rfl := payload_eq hrequests
      obtain rfl : bytes = bytes' := by simpa [hdecode] using hbytes
      exact ⟨date, _, [.log (starting entity id)], _, rfl, rfl, rfl, rfl⟩
    · intro fileName path' size
      simp only [saves, List.filterMap_cons, List.filterMap_nil, Outcome.saved.injEq]
      constructor
      · rintro ⟨rfl, rfl, rfl⟩
        exact ⟨_, rfl, rfl, rfl⟩
      · rintro ⟨document, hdocument, rfl, rfl⟩
        simp only [List.cons.injEq, Prod.mk.injEq, Except.ok.injEq, and_true] at hdocument
        obtain ⟨rfl, rfl⟩ := hdocument
        exact ⟨rfl, rfl, rfl⟩

/-- **The contract of a download.** Whatever the service, the saver, the notifier, the log and the
clock answer, a download keeps to its contract; what it does is what its record shows. -/
theorem download_effects {σ : Type} (d : Downloader (StateM σ)) (entity : String)
    (id : Protocol.Id) (s : σ) :
    ∃ outcome trace s', (d.download entity id).run s = (outcome, s') ∧
      ((d.recorded.download entity id).run []).run s = ((outcome, trace), s') ∧
      Contract d.stem entity id outcome trace := by
  obtain ⟨outcome, trace, s', hrun, hrecorded, hcourse, -⟩ := course_of_download d entity id s
  exact ⟨outcome, trace, s', hrun, hrecorded, hcourse.contract⟩

end Commissioning.Downloader
