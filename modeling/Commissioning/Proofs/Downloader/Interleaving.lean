import Commissioning.Proofs.Downloader.Effects
import Commissioning.Proofs.Sequence
import Mathlib.Algebra.BigOperators.Fin
import Mathlib.Data.Fintype.Basic

set_option autoImplicit false

/-! # Downloads that take turns

Any number of downloads run on one downloader, a step at a time and in any order. What each of them
does is one of the courses, whatever the others do in between (`run_turns`). Where the service looks
at nothing but the request, and the saver at nothing but the document, each download goes as it
would alone, and together they do what each of them does (`turns_independent`). -/

namespace Commissioning.Downloader

/-! ## Turns -/

/-- A download that is to be made. -/
structure Job where
  entity : String
  id : Protocol.Id

/-- The stages of downloads that have not begun. -/
def readyAll {n : Nat} (jobs : Fin n → Job) (i : Fin n) : Stage :=
  .ready (jobs i).entity (jobs i).id

section

variable {m : Type → Type} [Monad m] {n : Nat} (d : Downloader m)

/-- Downloads take turns: each turn is one step of the download whose turn it is. -/
def turns : List (Fin n) → (Fin n → Stage) → m (Fin n → Stage)
  | [], stages => pure stages
  | i :: rest, stages => do
    let next ← d.step (stages i)
    turns rest (Function.update stages i next)

/-- The same turns, written down: each effect with the download whose it is. -/
def recordedTurns :
    List (Fin n) → (Fin n → Stage) → StateT (List (Fin n × Effect)) m (Fin n → Stage)
  | [], stages => pure stages
  | i :: rest, stages => do
    let done ← StateT.lift ((d.recorded.step (stages i)).run [])
    modify (· ++ done.2.map (Prod.mk i))
    recordedTurns rest (Function.update stages i done.1)

end

/-- Two downloads at once take turns in one of the possible orders. -/
theorem downloadBoth_eq_turns {m : Type → Type} [Monad m] [LawfulMonad m] (d : Downloader m)
    (entity : String) (id : Protocol.Id) (entity' : String) (id' : Protocol.Id) :
    d.downloadBoth entity id entity' id' = (do
      let stages ← d.turns [0, 1, 0, 0, 0, 1, 1, 1] (readyAll ![⟨entity, id⟩, ⟨entity', id'⟩])
      pure ((stages 0).outcome, (stages 1).outcome)) := by
  simp [downloadBoth, turns, steps, readyAll, Function.update]

/-! ## The effects of one download -/

variable {n : Nat}

/-- The effects of one of the downloads. -/
def own (i : Fin n) (trace : List (Fin n × Effect)) : List Effect :=
  trace.filterMap fun x => if x.1 = i then some x.2 else none

theorem own_append (i : Fin n) (trace rest : List (Fin n × Effect)) :
    own i (trace ++ rest) = own i trace ++ own i rest :=
  List.filterMap_append

theorem own_map_self (i : Fin n) (effects : List Effect) :
    own i (effects.map (Prod.mk i)) = effects := by
  simp [own, List.filterMap_map]

theorem own_map_of_ne {i j : Fin n} (h : j ≠ i) (effects : List Effect) :
    own i (effects.map (Prod.mk j)) = [] := by
  simp [own, List.filterMap_map, h]

/-- What there is at most one of for each download, taken together. -/
theorem sum_toList {β : Type} (f : Fin n → Option β) :
    ∑ i, ((f i).toList : Multiset β) = Finset.univ.val.filterMap f := by
  unfold Finset.sum
  induction (Finset.univ : Finset (Fin n)).val using Multiset.induction_on with
  | empty => simp
  | cons i s ih =>
    rw [Multiset.map_cons, Multiset.sum_cons, ih]
    cases h : f i with
    | none => simp [Multiset.filterMap_cons_none i s h]
    | some b => simp [Multiset.filterMap_cons_some f i s h]

/-- Whatever is looked for in the effects of all downloads is found in those of each. -/
theorem sum_own {β : Type} (f : Effect → Option β) (trace : List (Fin n × Effect)) :
    (((trace.map Prod.snd).filterMap f : List β) : Multiset β)
      = ∑ i, (((own i trace).filterMap f : List β) : Multiset β) := by
  induction trace with
  | nil => simp [own]
  | cons x trace ih =>
    obtain ⟨j, effect⟩ := x
    have hown : ∀ i, (((own i ((j, effect) :: trace)).filterMap f : List β) : Multiset β)
        = (if j = i then ((f effect).toList : Multiset β) else 0)
          + ((own i trace).filterMap f : List β) := by
      intro i
      by_cases h : j = i
      · cases hf : f effect <;> simp [own, h, hf]
      · simp [own, h]
    have hhead : ((((j, effect) :: trace).map Prod.snd).filterMap f : List β)
        = (f effect).toList ++ (trace.map Prod.snd).filterMap f := by
      cases hf : f effect <;> simp [hf]
    rw [hhead, ← Multiset.coe_add, ih, Finset.sum_congr rfl fun i _ => hown i,
      Finset.sum_add_distrib, Finset.sum_ite_eq, if_pos (Finset.mem_univ j)]

/-- What is looked for in the effects of all downloads, when each has one or none of it. -/
theorem filterMap_of_own {β : Type} {f : Effect → Option β} {g : Fin n → Option β}
    {trace : List (Fin n × Effect)} (h : ∀ i, (own i trace).filterMap f = (g i).toList) :
    (((trace.map Prod.snd).filterMap f : List β) : Multiset β) = Finset.univ.val.filterMap g := by
  rw [sum_own, ← sum_toList]
  exact Finset.sum_congr rfl fun i _ => congrArg _ (h i)

theorem filterMap_ite {β : Type} (p : Fin n → Prop) [DecidablePred p] (b : β) :
    Finset.univ.val.filterMap (fun i => if p i then some b else none)
      = (Multiset.replicate (Finset.univ.filter p).card b : Multiset β) := by
  have heach : ∀ i, ((if p i then some b else none).toList : Multiset β)
      = if p i then {b} else 0 := by
    intro i
    split <;> rfl
  rw [← sum_toList, Finset.sum_congr rfl fun i _ => heach i, ← Finset.sum_filter,
    Finset.sum_const, Multiset.nsmul_singleton]

theorem own_sublist (i : Fin n) (trace : List (Fin n × Effect)) :
    List.Sublist (own i trace) (trace.map Prod.snd) := by
  induction trace with
  | nil => exact .slnil
  | cons x trace ih =>
    by_cases h : x.1 = i
    · simpa [own, h] using ih
    · simpa [own, h] using ih.cons x.2

/-! ## Any order of turns -/

theorem RunEffects.append {stem : String} {k l : Nat} {stage next last : Stage}
    {first rest : List Effect} (h : RunEffects stem k stage next first)
    (hrest : RunEffects stem l next last rest) :
    RunEffects stem (k + l) stage last (first ++ rest) := by
  induction h with
  | none stage => simpa using hrest
  | more hstep _ ih =>
    rw [Nat.succ_add, List.append_assoc]
    exact .more hstep (ih hrest)

theorem RunEffects.split {stem : String} {k l : Nat} {stage last : Stage}
    {effects : List Effect} (h : RunEffects stem (k + l) stage last effects) :
    ∃ next first rest, RunEffects stem k stage next first ∧ RunEffects stem l next last rest ∧
      effects = first ++ rest := by
  induction k generalizing stage effects with
  | zero => exact ⟨stage, [], effects, .none stage, by simpa using h, rfl⟩
  | succ k ih =>
    rw [Nat.succ_add] at h
    cases h with
    | @more _ _ _ _ first' _ hstep hrest =>
      obtain ⟨next, first, rest, hfirst, hlast, rfl⟩ := ih hrest
      exact ⟨next, first' ++ first, rest, .more hstep hfirst, hlast, (List.append_assoc ..).symm⟩

theorem runEffects_idle (stem : String) (k : Nat) (outcome : Outcome) :
    RunEffects stem k (.finished outcome) (.finished outcome) [] := by
  induction k with
  | zero => exact .none _
  | succ k ih => exact .more (.finished outcome) ih

/-- A download that has come to its end has taken one of the courses, and after four steps it has
come to its end. -/
theorem course_of_end {stem entity : String} {id : Protocol.Id} {k : Nat} {last : Stage}
    {effects : List Effect} (h : RunEffects stem k (.ready entity id) last effects)
    (hend : 4 ≤ k ∨ ∃ outcome, last = .finished outcome) :
    ∃ outcome, last = .finished outcome ∧ Course stem entity id outcome effects := by
  by_cases hk : 4 ≤ k
  · obtain ⟨l, rfl⟩ := Nat.exists_eq_add_of_le hk
    obtain ⟨next, first, rest, hfirst, hrest, rfl⟩ := h.split
    obtain ⟨outcome, rfl, hcourse⟩ := course_of_runEffects hfirst
    obtain ⟨rfl, rfl⟩ := runEffects_finished hrest
    rw [List.append_nil]
    exact ⟨outcome, rfl, hcourse⟩
  · -- What is missing of the four steps does nothing any more.
    obtain ⟨outcome, rfl⟩ := hend.resolve_left hk
    have hidle := h.append (runEffects_idle stem (4 - k) outcome)
    rw [List.append_nil, show k + (4 - k) = 4 by omega] at hidle
    exact ⟨outcome, rfl, (course_of_runEffects hidle).elim fun _ h => by
      obtain ⟨h, hcourse⟩ := h
      cases h
      exact hcourse⟩

/-- **Turns do not mix downloads up.** In any order of turns each download makes as many of its own
steps as it has turns, and every call is a call of one of them. -/
theorem run_turns {σ : Type} (d : Downloader (StateM σ)) (schedule : List (Fin n))
    (stages : Fin n → Stage) (s : σ) :
    ∃ last trace s', (d.turns schedule stages).run s = (last, s') ∧
      (∀ record, ((d.recordedTurns schedule stages).run record).run s
        = ((last, record ++ trace), s')) ∧
      (∀ i, RunEffects d.stem (schedule.count i) (stages i) (last i) (own i trace)) ∧
      d.Leads s (trace.map Prod.snd) s' := by
  induction schedule generalizing stages s with
  | nil =>
    refine ⟨stages, [], s, rfl, fun record => ?_, fun i => .none _, .none s⟩
    rw [List.append_nil]
    rfl
  | cons j schedule ih =>
    obtain ⟨next, effects, s', hstep, hrecorded, heffects, hfirst⟩ :=
      effects_of_step d (stages j) s
    obtain ⟨last, trace, s'', hrest, hrestRecorded, hruns, hleads⟩ :=
      ih (Function.update stages j next) s'
    refine ⟨last, effects.map (Prod.mk j) ++ trace, s'', ?_, fun record => ?_, fun i => ?_, ?_⟩
    · rw [turns, StateT.run_bind, hstep]
      exact hrest
    · have hturn : ((StateT.lift ((d.recorded.step (stages j)).run []) :
          StateT (List (Fin n × Effect)) (StateM σ) _).run record).run s
            = (((next, effects), record), s') := by
        rw [StateT.run_lift, run_bind_of_run (hrecorded []), List.nil_append]
        rfl
      rw [← List.append_assoc, ← hrestRecorded, recordedTurns, StateT.run_bind,
        run_bind_of_run hturn]
      rfl
    · have hrun := hruns i
      rw [own_append]
      by_cases h : j = i
      · subst h
        rw [Function.update_self] at hrun
        rw [own_map_self, List.count_cons_self]
        exact .more heffects hrun
      · rw [Function.update_of_ne (Ne.symm h)] at hrun
        rw [own_map_of_ne h, List.nil_append, List.count_cons_of_ne h]
        exact hrun
    · rw [List.map_append, List.map_map]
      simpa [Function.comp_def] using hfirst.append hleads

/-! ## Answers that depend on nothing else -/

/-- How a service answers that looks at nothing but the request, and a saver that looks at nothing
but the document. -/
structure Answers where
  ask : Protocol.Request → Except Protocol.Error String
  save : Document → Except Protocol.Error Path

namespace Answers

/-- Whether the service and the saver of a downloader answer like this in every state. -/
structure Of {σ : Type} (a : Answers) (d : Downloader (StateM σ)) : Prop where
  ask : ∀ request s, ((d.ask request).run s).1 = a.ask request
  save : ∀ document s, ((d.save document).run s).1 = a.save document

/-- Whether an effect has one of these answers, or the date if it reads one. -/
def Agrees (a : Answers) (date : Date) : Effect → Prop
  | .ask request answer => answer = a.ask request
  | .save document answer => answer = a.save document
  | .readDate read => read = date
  | .log _ => True
  | .notify _ => True

/-- The document that comes of a download on a date, if its answer can be decoded. -/
def document? (a : Answers) (stem : String) (job : Job) (date : Date) : Option Document :=
  match a.ask ⟨job.id⟩ with
  | .error _ => none
  | .ok payload =>
    match Payload.decode payload with
    | .error _ => none
    | .ok bytes =>
      some ⟨bytes, "application/pdf", Document.protocolFileName stem job.entity date⟩

/-- The course that a download takes on a date. -/
def course (a : Answers) (stem : String) (job : Job) (date : Date) : Outcome × List Effect :=
  let begun : List Effect := [.log (starting job.entity job.id), .ask ⟨job.id⟩ (a.ask ⟨job.id⟩)]
  match a.ask ⟨job.id⟩ with
  | .error reason => (.failed, begun ++ reported reason)
  | .ok payload =>
    match Payload.decode payload with
    | .error fault => (.failed, begun ++ .readDate date :: reported (.invalidPayload fault))
    | .ok bytes =>
      let document : Document :=
        ⟨bytes, Document.pdfMimeType, Document.protocolFileName stem job.entity date⟩
      let saved : List Effect := [.readDate date, .save document (a.save document)]
      match a.save document with
      | .error reason => (.failed, begun ++ saved ++ reported reason)
      | .ok path => (.saved document.fileName path document.size, begun ++ saved)

variable {a : Answers} {stem : String} {job : Job} {date : Date}

theorem eq_course {outcome : Outcome} {trace : List Effect}
    (h : Course stem job.entity job.id outcome trace)
    (hagrees : ∀ effect ∈ trace, a.Agrees date effect) :
    (outcome, trace) = a.course stem job date := by
  cases h with
  | unanswered reason =>
    have hask : .error reason = a.ask ⟨job.id⟩ := hagrees (.ask ⟨job.id⟩ _) (by simp)
    simp [course, ← hask]
  | undecodable payload read fault hdecode =>
    have hask : .ok payload = a.ask ⟨job.id⟩ := hagrees (.ask ⟨job.id⟩ _) (by simp)
    have hdate : read = date := hagrees (.readDate read) (by simp)
    simp [course, ← hask, hdecode, hdate]
  | unsaved payload read bytes reason hdecode =>
    have hask : .ok payload = a.ask ⟨job.id⟩ := hagrees (.ask ⟨job.id⟩ _) (by simp)
    have hdate : read = date := hagrees (.readDate read) (by simp)
    subst hdate
    have hsave : .error reason = a.save ⟨bytes, Document.pdfMimeType,
        Document.protocolFileName stem job.entity read⟩ :=
      hagrees (.save _ _) (by simp)
    simp [course, ← hask, hdecode, ← hsave]
  | saved payload read bytes path hdecode =>
    have hask : .ok payload = a.ask ⟨job.id⟩ := hagrees (.ask ⟨job.id⟩ _) (by simp)
    have hdate : read = date := hagrees (.readDate read) (by simp)
    subst hdate
    have hsave : .ok path = a.save ⟨bytes, Document.pdfMimeType,
        Document.protocolFileName stem job.entity read⟩ :=
      hagrees (.save _ _) (by simp)
    simp [course, ← hask, hdecode, ← hsave, Document.size]

/-! ### What is done on such a course -/

theorem requests_course :
    requests (a.course stem job date).2 = [(⟨job.id⟩, a.ask ⟨job.id⟩)] := by
  simp only [course]
  split
  next => rfl
  next =>
    split
    next => rfl
    next => split <;> rfl

theorem dates_course :
    dates (a.course stem job date).2 = if (a.ask ⟨job.id⟩).isOk then [date] else [] := by
  simp only [course]
  split
  next hask =>
    rw [hask]
    rfl
  next hask =>
    rw [hask]
    split
    next => rfl
    next => split <;> rfl

theorem saves_course :
    saves (a.course stem job date).2
      = ((a.document? stem job date).map fun document => (document, a.save document)).toList := by
  simp only [course, document?]
  split
  next => rfl
  next =>
    split
    next => rfl
    next => split <;> rfl

/-- The user is told of a download exactly when it has failed. -/
theorem notices_of_eq_course {outcome : Outcome} {effects : List Effect}
    (h : (outcome, effects) = a.course stem job date) :
    notices effects = if outcome = .failed then [failureNotice] else [] := by
  simp only [course] at h
  split at h
  next =>
    cases h
    rfl
  next =>
    split at h
    next =>
      cases h
      rfl
    next => split at h <;> cases h <;> rfl

end Answers

/-! ## The courses of downloads that share a downloader -/

theorem exists_date_of_course {stem entity : String} {id : Protocol.Id} {outcome : Outcome}
    {trace : List Effect} (h : Course stem entity id outcome trace) (date : Date) :
    ∃ day, ∀ read ∈ dates trace, read = day := by
  cases h with
  | unanswered reason => exact ⟨date, by simp [dates, reported]⟩
  | undecodable payload day fault hdecode => exact ⟨day, by simp [dates, reported]⟩
  | unsaved payload day bytes reason hdecode => exact ⟨day, by simp [dates, reported]⟩
  | saved payload day bytes path hdecode => exact ⟨day, by simp [dates]⟩

theorem mem_dates {trace : List Effect} {read : Date} (h : .readDate read ∈ trace) :
    read ∈ dates trace :=
  List.mem_filterMap.mpr ⟨_, h, rfl⟩

theorem Leads.calls {σ : Type} {d : Downloader (StateM σ)} {effects : List Effect} {s s' : σ}
    (h : d.Leads s effects s') : ∀ effect ∈ effects, ∃ s s', d.Calls effect s s' := by
  induction h with
  | none s => simp
  | more hfirst _ ih =>
    intro effect heffect
    rcases List.mem_cons.mp heffect with rfl | heffect
    · exact ⟨_, _, hfirst⟩
    · exact ih effect heffect

theorem Answers.agrees_of_calls {σ : Type} {a : Answers} {d : Downloader (StateM σ)} (h : a.Of d)
    {date : Date} {effect : Effect} {s s' : σ} (hcalls : d.Calls effect s s')
    (hdate : ∀ read, effect = .readDate read → read = date) : a.Agrees date effect := by
  cases effect with
  | ask request answer =>
    have hask := h.ask request s
    rwa [show (d.ask request).run s = (answer, s') from hcalls] at hask
  | save document answer =>
    have hsave := h.save document s
    rwa [show (d.save document).run s = (answer, s') from hcalls] at hsave
  | readDate read => exact hdate read rfl
  | log event => trivial
  | notify notification => trivial

/-- Whatever else has been called in between, the calls of one download go as they go on one date:
their answers are the shared ones, and the date is read once at most. -/
theorem Answers.exists_course {σ : Type} {a : Answers} {d : Downloader (StateM σ)} (h : a.Of d)
    {stem : String} {job : Job} {outcome : Outcome} {effects : List Effect}
    (hcourse : Course stem job.entity job.id outcome effects)
    (hcalls : ∀ effect ∈ effects, ∃ s s', d.Calls effect s s') (date : Date) :
    ∃ day, (outcome, effects) = a.course stem job day := by
  obtain ⟨day, hday⟩ := exists_date_of_course hcourse date
  refine ⟨day, eq_course hcourse fun effect heffect => ?_⟩
  obtain ⟨s, s', hcall⟩ := hcalls effect heffect
  exact agrees_of_calls h hcall fun read hread => hday read (mem_dates (hread ▸ heffect))

section

variable {a : Answers} {stem : String} {jobs : Fin n → Job} {day : Fin n → Date}
  {last : Fin n → Stage} {trace : List (Fin n × Effect)}

/-- Whether each download that has come to its end has taken the course of its date. -/
def Went (a : Answers) (stem : String) (jobs : Fin n → Job) (day : Fin n → Date)
    (last : Fin n → Stage) (trace : List (Fin n × Effect)) : Prop :=
  ∀ i outcome, last i = .finished outcome →
    (outcome, own i trace) = a.course stem (jobs i) (day i)

theorem Went.requests (h : Went a stem jobs day last trace)
    (hends : ∀ i, ∃ outcome, last i = .finished outcome) :
    (requests (trace.map Prod.snd) : Multiset (Protocol.Request × _))
      = Finset.univ.val.map fun i => (⟨(jobs i).id⟩, a.ask ⟨(jobs i).id⟩) := by
  have heach : ∀ i, Downloader.requests (own i trace)
      = (some (⟨(jobs i).id⟩, a.ask ⟨(jobs i).id⟩) : Option (Protocol.Request × _)).toList := by
    intro i
    obtain ⟨outcome, hlast⟩ := hends i
    have hrequests : Downloader.requests (a.course stem (jobs i) (day i)).2
        = [(⟨(jobs i).id⟩, a.ask ⟨(jobs i).id⟩)] := Answers.requests_course
    rw [← h i outcome hlast] at hrequests
    exact hrequests
  exact (filterMap_of_own heach).trans (Multiset.filterMap_eq_map _ ▸ rfl)

theorem Went.saves (h : Went a stem jobs day last trace)
    (hends : ∀ i, ∃ outcome, last i = .finished outcome) :
    (saves (trace.map Prod.snd) : Multiset (Document × _))
      = Finset.univ.val.filterMap fun i =>
        (a.document? stem (jobs i) (day i)).map fun document => (document, a.save document) := by
  have heach : ∀ i, Downloader.saves (own i trace)
      = ((a.document? stem (jobs i) (day i)).map fun document =>
          (document, a.save document)).toList := by
    intro i
    obtain ⟨outcome, hlast⟩ := hends i
    rw [← Answers.saves_course, ← h i outcome hlast]
  exact filterMap_of_own heach

theorem Went.notices (h : Went a stem jobs day last trace)
    (hends : ∀ i, ∃ outcome, last i = .finished outcome) :
    notices (trace.map Prod.snd)
      = List.replicate (Finset.univ.filter fun i => (last i).outcome = .failed).card
        failureNotice := by
  have heach : ∀ i, Downloader.notices (own i trace)
      = (if (last i).outcome = .failed then some failureNotice else none).toList := by
    intro i
    obtain ⟨outcome, hlast⟩ := hends i
    rw [Answers.notices_of_eq_course (h i outcome hlast), hlast, Stage.outcome]
    split <;> rfl
  have hall := filterMap_of_own heach
  rw [filterMap_ite, ← Multiset.coe_replicate, Multiset.coe_eq_coe, List.perm_replicate] at hall
  exact hall

end

/-! ## The independence of downloads -/

/-- A download alone on a date that does not change. -/
def alone {σ : Type} (d : Downloader (StateM σ)) (date : Date) (job : Job) (s : σ) :
    Outcome × List Effect :=
  (((({ d with today := pure date } : Downloader (StateM σ)).recorded.download job.entity
    job.id).run []).run s).1

theorem alone_eq {σ : Type} {a : Answers} {d : Downloader (StateM σ)} (h : a.Of d) (date : Date)
    (job : Job) (s : σ) : d.alone date job s = a.course d.stem job date := by
  obtain ⟨outcome, trace, s', -, hrecorded, hcourse, hleads⟩ :=
    course_of_download { d with today := pure date } job.entity job.id s
  have hof : a.Of ({ d with today := pure date } : Downloader (StateM σ)) := ⟨h.ask, h.save⟩
  unfold alone
  rw [hrecorded]
  refine Answers.eq_course hcourse fun effect heffect => ?_
  obtain ⟨t, t', hcalls⟩ := hleads.calls effect heffect
  refine Answers.agrees_of_calls hof hcalls fun read hread => ?_
  subst hread
  exact (congrArg Prod.fst hcalls).symm

/-- What downloads that take turns come to, each with the date that it has read. -/
structure Independent {σ : Type} (a : Answers) (d : Downloader (StateM σ)) (jobs : Fin n → Job)
    (schedule : List (Fin n)) (day : Fin n → Date) (last : Fin n → Stage)
    (trace : List (Fin n × Effect)) : Prop where
  /-- Nothing keeps a download from its end: four turns are enough. -/
  ends : ∀ i, 4 ≤ schedule.count i → ∃ outcome, last i = .finished outcome
  /-- A download that has come to its end has read the date once if it got an answer, and otherwise
  never. -/
  dated : ∀ i outcome, last i = .finished outcome →
    dates (own i trace) = if (a.ask ⟨(jobs i).id⟩).isOk then [day i] else []
  /-- It has gone as it goes alone on that date, in whatever state it begins. -/
  alone : ∀ i outcome, last i = .finished outcome →
    ∀ s, d.alone (day i) (jobs i) s = (outcome, own i trace)
  /-- When all have come to their end, the service has got one request for each. -/
  asked : (∀ i, ∃ outcome, last i = .finished outcome) →
    (requests (trace.map Prod.snd) : Multiset (Protocol.Request × _))
      = Finset.univ.val.map fun i => (⟨(jobs i).id⟩, a.ask ⟨(jobs i).id⟩)
  /-- The saver has got one document for each answer that can be decoded. -/
  saved : (∀ i, ∃ outcome, last i = .finished outcome) →
    (saves (trace.map Prod.snd) : Multiset (Document × _))
      = Finset.univ.val.filterMap fun i =>
        (a.document? d.stem (jobs i) (day i)).map fun document => (document, a.save document)
  /-- The user has been told of each failure, and of nothing else. -/
  told : (∀ i, ∃ outcome, last i = .finished outcome) →
    notices (trace.map Prod.snd)
      = List.replicate (Finset.univ.filter fun i => (last i).outcome = .failed).card
        { message := "The protocol could not be downloaded.", severity := .danger }

/-- **Overlapping downloads are independent**, in any order of turns. -/
theorem turns_independent {σ : Type} {a : Answers} {d : Downloader (StateM σ)} (h : a.Of d)
    (jobs : Fin n → Job) (schedule : List (Fin n)) (s : σ) :
    ∃ day last trace s', (d.turns schedule (readyAll jobs)).run s = (last, s') ∧
      ((d.recordedTurns schedule (readyAll jobs)).run []).run s = ((last, trace), s') ∧
      Independent a d jobs schedule day last trace := by
  obtain ⟨last, trace, s', hrun, hrecorded, hruns, hleads⟩ :=
    run_turns d schedule (readyAll jobs) s
  have hgoes : ∀ i, ∃ day, ∀ outcome, last i = .finished outcome →
      (outcome, own i trace) = a.course d.stem (jobs i) day := by
    intro i
    by_cases hend : ∃ outcome, last i = .finished outcome
    · obtain ⟨outcome, hlast, hcourse⟩ := course_of_end (hruns i) (Or.inr hend)
      -- What one download does is a call of the shared downloader.
      obtain ⟨day, hday⟩ := Answers.exists_course h hcourse
        (fun effect heffect => hleads.calls effect ((own_sublist i trace).subset heffect))
        (d.today.run s).1
      refine ⟨day, fun outcome' hlast' => ?_⟩
      cases hlast.symm.trans hlast'
      exact hday
    · exact ⟨(d.today.run s).1, fun outcome hlast => absurd ⟨outcome, hlast⟩ hend⟩
  choose day hgoes using hgoes
  have hwent : Went a d.stem jobs day last trace := hgoes
  refine ⟨day, last, trace, s', hrun, by simpa using hrecorded [], ?_⟩
  constructor
  case ends =>
    intro i hturns
    obtain ⟨outcome, hlast, -⟩ := course_of_end (hruns i) (Or.inl hturns)
    exact ⟨outcome, hlast⟩
  case dated =>
    intro i outcome hlast
    have hdates : dates (a.course d.stem (jobs i) (day i)).2
        = if (a.ask ⟨(jobs i).id⟩).isOk then [day i] else [] := Answers.dates_course
    rw [← hdates, ← hwent i outcome hlast]
  case alone =>
    intro i outcome hlast s
    rw [alone_eq h, hwent i outcome hlast]
  case asked => exact hwent.requests
  case saved => exact hwent.saves
  case told => exact hwent.notices

/-! ### Three downloads, one of which fails

The saver keeps a list, and the date changes when the first document has been saved: the second
download is saved on the old date, the first on the new one, and the third gets no answer. -/

/-- How the trio's service and saver answer. -/
def trioAnswers : Answers where
  ask request :=
    if request.setupProtocolId = .number 1 then .ok "Zmlyc3Q="
    else if request.setupProtocolId = .number 2 then .ok "c2Vjb25k"
    else .error (.httpStatus 404)
  save document := .ok ⟨document.fileName⟩

/-- The downloader of the trio, whose state is what has been saved. -/
def trio : Downloader (StateM (List Document)) where
  ask request := pure (trioAnswers.ask request)
  save document saved := (trioAnswers.save document, saved ++ [document])
  notify _ := pure ()
  log _ := pure ()
  today saved :=
    (if saved.isEmpty then (Date.of? 2024 3 30).get rfl else (Date.of? 2024 3 31).get rfl, saved)

theorem of_trio : trioAnswers.Of trio where
  ask _ _ := rfl
  save _ _ := rfl

def trioJobs : Fin 3 → Job :=
  ![⟨"E1", .number 1⟩, ⟨"E2", .number 2⟩, ⟨"E3", .number 3⟩]

def trioTurns : List (Fin 3) :=
  [0, 1, 2, 1, 1, 2, 0, 2, 0, 0, 1, 2]

theorem turns_independent_trio :
    trioAnswers.Of trio ∧ (∀ i, 4 ≤ trioTurns.count i) ∧
      ∃ day last trace s', (trio.turns trioTurns (readyAll trioJobs)).run [] = (last, s') ∧
        ((trio.recordedTurns trioTurns (readyAll trioJobs)).run []).run [] = ((last, trace), s') ∧
        Independent trioAnswers trio trioJobs trioTurns day last trace :=
  ⟨of_trio, by decide, turns_independent of_trio trioJobs trioTurns []⟩

example : (fun i => (((trio.turns trioTurns (readyAll trioJobs)).run []).1 i).outcome)
    = ![.saved "IBN-E1-31.03.2024.pdf" ⟨"IBN-E1-31.03.2024.pdf"⟩ 5,
        .saved "IBN-E2-30.03.2024.pdf" ⟨"IBN-E2-30.03.2024.pdf"⟩ 6, .failed] := by
  decide +kernel

end Commissioning.Downloader
