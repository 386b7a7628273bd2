import Commissioning.Proofs.Downloader.Effects
import Commissioning.Proofs.Files.Writing
import Commissioning.Proofs.Sight
import Commissioning.Session

set_option autoImplicit false

/-! # What is seen of a download

On a host that is watched, a download sends one request whatever it comes to. Where it says that it
has saved something, the payload of the answer stands in the file that it names; otherwise the user
is told (`Host.Visible.download`). -/

namespace Commissioning

/-- Whether a way to tell the user something is seen as it should be. -/
def Tells {σ : Type} (see : σ → Sight) (notify : Notification → StateM σ Unit)
    (told : Notification → Sight → Sight → Prop) : Prop :=
  ∀ notice s, told notice (see s) (see ((notify notice).run s).2)

/-- What is seen when a request has been sent and something has been done on the disk. -/
def Sight.attempted (v : Sight) (request : Http.Request) (response : Option Http.Response)
    (files : FileSystem) : Sight :=
  { v.exchanged request response with files := files }

theorem Sight.Logged.attempted {v v' : Sight} (h : v.Logged v') (request : Http.Request)
    (response : Option Http.Response) (files : FileSystem) :
    (v.attempted request response files).Logged (v'.attempted request response files) :=
  (h.exchanged request response).withFiles files

namespace Session

/-- Whether a path leads to a file with the document of a response. -/
def Holds (session : Session) (files : FileSystem) (path : Path)
    (response : Option Http.Response) : Prop :=
  ∃ payload bytes, session.service.payloadOf response = .ok payload ∧
    Payload.decode payload = .ok bytes ∧ files.read path = .ok bytes

/-- What a download comes to, by what was seen before it and is seen in the end. -/
inductive Downloaded (session : Session) (id : Protocol.Id)
    (told : Notification → Sight → Sight → Prop) (v : Sight) : Outcome → Sight → Prop
  | saved {v' : Sight} (callId : String) (response : Option Http.Response) (files : FileSystem)
      (fileName : String) (path : Path) (size : Nat) (hholds : session.Holds files path response)
      (hseen : (v.attempted (session.service.request callId ⟨id⟩) response files).Logged v') :
      Downloaded session id told v (.saved fileName path size) v'
  | failed {v' v'' : Sight} (callId : String) (response : Option Http.Response)
      (files : FileSystem)
      (hseen : (v.attempted (session.service.request callId ⟨id⟩) response files).Logged v')
      (htold : told Downloader.failureNotice v' v'') :
      Downloaded session id told v .failed v''

end Session

namespace Host.Visible

variable {σ : Type} [Host (StateM σ)] {see : σ → Sight}

/-! ## The parts of a download -/

theorem ask (h : Visible see) (service : Service) (request : Protocol.Request) (s : σ) :
    ∃ callId response s',
      (service.ask request : StateM σ _).run s = (service.payloadOf response, s') ∧
      ((see s).exchanged (service.request callId request) response).Logged (see s') := by
  have hid := h.freshId s
  generalize hgiven : (Host.freshId : StateM σ String).run s = given at hid
  obtain ⟨callId, given⟩ := given
  have hlog := h.log (service.sending callId request) given
  generalize hlogged : (Host.log (service.sending callId request) : StateM σ Unit).run given
    = logged at hlog
  obtain ⟨response, s', hexchange, hseen⟩ :=
    h.exchange (service.request callId request) logged.2
  refine ⟨callId, response, s', ?_, ?_⟩
  · unfold Service.ask
    rw [run_bind_of_run hgiven, run_bind_of_run hlogged, run_bind_of_run hexchange]
    rfl
  · rw [hseen]
    exact (hid ▸ hlog).exchanged _ _

theorem save (h : Visible see) (saver : Saver) (document : Document) (s : σ) :
    ∃ answer files s', (saver.save document : StateM σ _).run s = (answer, s') ∧
      ({ see s with files := files } : Sight).Logged (see s') ∧
      ∀ path, answer = .ok path → files.read path = .ok document.bytes := by
  obtain ⟨made, files, s', hmake, hmade⟩ := h.makeDirectories saver.dir s
  unfold Saver.save
  rw [run_bind_of_run hmake]
  cases made with
  | error e => exact ⟨_, files, s', rfl, hmade ▸ .refl _, by simp⟩
  | ok =>
    obtain ⟨answer, files', s'', hwrite, hseen, hwritten⟩ :=
      h.writeFile (saver.target document.fileName) document.bytes s'
    rw [hmade] at hseen hwritten
    simp only
    rw [run_bind_of_run hwrite]
    cases answer with
    | error e => exact ⟨_, files', s'', rfl, hseen ▸ .refl _, by simp⟩
    | ok =>
      refine ⟨_, files', _, rfl, hseen ▸ h.log _ s'', fun path hpath => ?_⟩
      obtain rfl := Except.ok.inj hpath
      exact FileSystem.read_write (hwritten rfl)

/-! ## The whole of it -/

open Downloader

variable {notify : Notification → StateM σ Unit} {session : Session} {s s' : σ}
  {rest : List Effect}

/-- A download that has begun has sent its request. -/
theorem leads_asked (h : Visible see) {entity : String} {id : Protocol.Id}
    {answer : Except Protocol.Error String}
    (hleads : (session.downloader notify).Leads s
      (.log (starting entity id) :: .ask ⟨id⟩ answer :: rest) s') :
    ∃ callId response asked, answer = session.service.payloadOf response ∧
      ((see s).exchanged (session.service.request callId ⟨id⟩) response).Logged (see asked) ∧
      (session.downloader notify).Leads asked rest s' := by
  obtain - | ⟨hlog, hleads⟩ := hleads
  obtain - | ⟨hask, hleads⟩ := hleads
  rename_i logged asked
  obtain ⟨callId, response, asked', hrun, hseen⟩ := h.ask session.service ⟨id⟩ logged
  obtain ⟨rfl, rfl⟩ := Prod.mk.inj (Eq.trans (Eq.symm hask) hrun)
  have hlogged := h.log (starting entity id) s
  rw [show (Host.log (starting entity id) : StateM σ Unit).run s = ((), logged) from hlog]
    at hlogged
  exact ⟨callId, response, asked, rfl, (hlogged.exchanged _ _).trans hseen, hleads⟩

/-- A date that is read is not seen. -/
theorem leads_dated (h : Visible see) {date : Date}
    (hleads : (session.downloader notify).Leads s (.readDate date :: rest) s') :
    ∃ dated, see dated = see s ∧ (session.downloader notify).Leads dated rest s' := by
  obtain - | ⟨hdate, hleads⟩ := hleads
  have hsame := h.today s
  rw [show (Host.today : StateM σ Date).run s = (date, _) from hdate] at hsame
  exact ⟨_, hsame, hleads⟩

theorem leads_saved (h : Visible see) {document : Document}
    {answer : Except Protocol.Error Path}
    (hleads : (session.downloader notify).Leads s (.save document answer :: rest) s') :
    ∃ files saved, ({ see s with files := files } : Sight).Logged (see saved) ∧
      (∀ path, answer = .ok path → files.read path = .ok document.bytes) ∧
      (session.downloader notify).Leads saved rest s' := by
  obtain - | ⟨hsave, hleads⟩ := hleads
  obtain ⟨answer', files, saved, hrun, hseen, hread⟩ :=
    h.save ⟨session.config.downloadDir⟩ document s
  obtain ⟨rfl, rfl⟩ := Prod.mk.inj (Eq.trans (Eq.symm hsave) hrun)
  exact ⟨files, _, hseen, hread, hleads⟩

/-- A failure is logged, and the user is told. -/
theorem leads_reported (h : Visible see) {told : Notification → Sight → Sight → Prop}
    (htells : Tells see notify told) {reason : Protocol.Error}
    (hleads : (session.downloader notify).Leads s (reported reason) s') :
    ∃ v, (see s).Logged v ∧ told failureNotice v (see s') := by
  obtain - | ⟨hlog, hleads⟩ := hleads
  obtain - | ⟨hnotify, hleads⟩ := hleads
  cases hleads
  rename_i logged
  have hlogged := h.log (failure reason.message) s
  have htold := htells failureNotice logged
  rw [show (Host.log (failure reason.message) : StateM σ Unit).run s = ((), logged) from hlog]
    at hlogged
  rw [show (notify failureNotice).run logged = ((), s') from hnotify] at htold
  exact ⟨see logged, hlogged, htold⟩

/-- **What a download says is true.** -/
theorem download (h : Visible see) {told : Notification → Sight → Sight → Prop}
    (htells : Tells see notify told) (session : Session) (entity : String) (id : Protocol.Id)
    (s : σ) :
    ∃ outcome s', ((session.downloader notify).download entity id).run s = (outcome, s') ∧
      session.Downloaded id told (see s) outcome (see s') := by
  obtain ⟨outcome, trace, s', hrun, -, hcourse, hleads⟩ :=
    course_of_download (session.downloader notify) entity id s
  refine ⟨outcome, s', hrun, ?_⟩
  cases hcourse with
  | unanswered reason =>
    obtain ⟨callId, response, asked, hanswer, hasked, hleads⟩ := h.leads_asked hleads
    obtain ⟨v, hlogged, htold⟩ := h.leads_reported htells hleads
    exact .failed callId response (see s).files (hasked.trans hlogged) htold
  | undecodable payload date fault hdecode =>
    obtain ⟨callId, response, asked, hanswer, hasked, hleads⟩ := h.leads_asked hleads
    obtain ⟨dated, hdated, hleads⟩ := h.leads_dated hleads
    obtain ⟨v, hlogged, htold⟩ := h.leads_reported htells hleads
    exact .failed callId response (see s).files (hasked.trans (hdated ▸ hlogged)) htold
  | unsaved payload date bytes reason hdecode =>
    obtain ⟨callId, response, asked, hanswer, hasked, hleads⟩ := h.leads_asked hleads
    obtain ⟨dated, hdated, hleads⟩ := h.leads_dated hleads
    obtain ⟨files, saved, hsaved, -, hleads⟩ := h.leads_saved hleads
    obtain ⟨v, hlogged, htold⟩ := h.leads_reported htells hleads
    rw [hdated] at hsaved
    exact .failed callId response files (((hasked.withFiles files).trans hsaved).trans hlogged)
      htold
  | saved payload date bytes path hdecode =>
    obtain ⟨callId, response, asked, hanswer, hasked, hleads⟩ := h.leads_asked hleads
    obtain ⟨dated, hdated, hleads⟩ := h.leads_dated hleads
    obtain ⟨files, saved, hsaved, hread, hleads⟩ := h.leads_saved hleads
    cases hleads
    rw [hdated] at hsaved
    exact .saved callId response files _ path bytes.length
      ⟨payload, bytes, hanswer.symm, hdecode, hread path rfl⟩
      ((hasked.withFiles files).trans hsaved)

end Host.Visible

end Commissioning
