import Commissioning.Proofs.Operations
import Commissioning.Proofs.Recorded

set_option autoImplicit false

/-! # The password

The password of a configuration is sent to the backend, and that is all that comes of it. On a host
that does not look at the header Authorization two sessions with different passwords go in lockstep
from the first event on (`Session.lockstep_openAndAct`). Whatever is done in them, nobody else can
tell one from the other (`Session.same_but_authorization`). -/

namespace Commissioning

variable {σ κ : Type}

/-- The request with nothing in the values of the header Authorization. -/
def Http.Request.anonymous (r : Http.Request) : Http.Request :=
  { r with authorization := r.authorization.map fun _ => "" }

theorem Http.Request.url_eq_of_anonymous {r r' : Http.Request} (h : r.anonymous = r'.anonymous) :
    r.url = r'.url := by
  show r.anonymous.url = r'.anonymous.url
  rw [h]

/-! ## Services -/

/-- Whether two services are the same but for the password, and ask for protocols in the same way
behind a mask. -/
structure Service.SameButPassword (mask : Http.Request → Http.Request) (service service' : Service) :
    Prop where
  endpoint : service.endpoint = service'.endpoint
  username : service.credentials.map Prod.fst = service'.credentials.map Prod.fst
  request : ∀ callId r, mask (service.request callId r) = mask (service'.request callId r)

namespace Service

theorem SameButPassword.refl (mask : Http.Request → Http.Request) (service : Service) :
    SameButPassword mask service service :=
  ⟨rfl, rfl, fun _ _ => rfl⟩

/-- An anonymous request does not tell with which password it has been sent. -/
theorem sameButPassword_withCredentials (service : Service) (username password password' : String) :
    SameButPassword Http.Request.anonymous (service.withCredentials username password)
      (service.withCredentials username password') where
  endpoint := rfl
  username := rfl
  request callId r := by
    simp [Http.Request.anonymous, request, authorization, withCredentials]

variable {rest : σ → κ} {mask : Http.Request → Http.Request} [Host (StateM σ)]

theorem SameButPassword.lockstep_ask {service service' : Service} (h : Host.Masked rest mask)
    (hsame : SameButPassword mask service service') (r : Protocol.Request) :
    Lockstep rest mask Eq (service.ask r : StateM (Recorded σ) _) (service'.ask r) := by
  obtain ⟨endpoint, credentials⟩ := service
  obtain ⟨_, credentials'⟩ := service'
  obtain ⟨rfl, -, hrequest⟩ := hsame
  refine .bind_same h.closed.freshId fun callId => ?_
  refine .bind_same (h.closed.log _) fun _ => ?_
  exact .bind_same (h.lockstep_exchange (hrequest callId r)) fun _ => .pure rfl

end Service

/-- Once there is an answer, nobody is asked any more. -/
theorem Downloader.step_asking {m : Type → Type} [Monad m] (d : Downloader m)
    (ask : Protocol.Request → m (Except Protocol.Error String)) {stage : Stage}
    (h : ∀ entity id, stage ≠ .ready entity id) :
    { d with ask := ask }.step stage = d.step stage := by
  cases stage with
  | ready entity id => exact absurd rfl (h entity id)
  | answered entity answer => cases answer <;> rfl
  | decoded document => rfl
  | refused reason => rfl
  | finished outcome => rfl

namespace Session

/-! ## Sessions -/

/-- Whether two sessions are the same but for the password, and ask for protocols in the same way
behind a mask. -/
structure SameButPassword (mask : Http.Request → Http.Request) (s s' : Session) : Prop where
  config : ∃ password, s'.config = { s.config with password := password }
  features : s.features = s'.features
  wizard : s.wizard = s'.wizard
  service : s.service.SameButPassword mask s'.service

variable {rest : σ → κ} {mask : Http.Request → Http.Request}

/-- The services of two configurations that differ in the password fail for the same reason, or
differ in the password. -/
theorem matched_serviceOf (config : Config) (password : Option String) (endpoint : Url) :
    Matched (Service.SameButPassword Http.Request.anonymous) (serviceOf config endpoint)
      (serviceOf { config with password := password } endpoint) := by
  unfold serviceOf
  cases Service.ofEndpoint endpoint with
  | error e => exact .error _
  | ok service =>
    cases config.username with
    | none => exact .ok (.refl _ _)
    | some username => exact .ok (service.sameButPassword_withCredentials username _ _)

/-- Without a user name there is no use for a password. -/
theorem serviceOf_of_no_username {config : Config} (h : config.username = none)
    (password : Option String) (endpoint : Url) :
    serviceOf { config with password := password } endpoint = serviceOf config endpoint := by
  simp only [serviceOf, h]

theorem matched_create {config : Config} {password : Option String}
    (h : ∀ endpoint, Matched (Service.SameButPassword mask) (serviceOf config endpoint)
      (serviceOf { config with password := password } endpoint)) :
    Matched (SameButPassword mask) (create config)
      (create { config with password := password }) := by
  unfold create
  refine .bind_same (config.validate.mapError Error.config) fun _ => ?_
  refine .bind_same (config.endpointUrl.mapError Error.config) fun endpoint => ?_
  refine (h endpoint).bind fun service service' hservice => ?_
  refine .bind_same ((Wizard.ofViews config.views).mapError Error.wizard) fun wizard => ?_
  refine .bind_same (FeatureRegistry.builtin.mapError Error.feature) fun features => ?_
  exact .ok ⟨⟨password, rfl⟩, rfl, rfl, hservice⟩

variable [Host (StateM σ)] {display : Notification → StateM σ Unit}

theorem SameButPassword.downloader_eq {m : Type → Type} [Monad m] [Host m] {s s' : Session}
    (h : SameButPassword mask s s') (notify : Notification → m Unit) :
    s'.downloader notify = { s.downloader notify with ask := s'.service.ask } := by
  obtain ⟨password, hconfig⟩ := h.config
  unfold downloader
  rw [hconfig]

theorem SameButPassword.lockstep_step {s s' : Session} (h : Host.Masked rest mask)
    (hdisplay : ∀ notice, Blind rest (display notice)) (hsame : SameButPassword mask s s')
    (stage : Downloader.Stage) :
    Lockstep rest mask Eq ((s.downloader (Recorded.notify display)).step stage)
      ((s'.downloader (Recorded.notify display)).step stage) := by
  have hother : (∀ entity id, stage ≠ .ready entity id) →
      Lockstep rest mask Eq ((s.downloader (Recorded.notify display)).step stage)
        ((s'.downloader (Recorded.notify display)).step stage) := fun hstage => by
    rw [hsame.downloader_eq, Downloader.step_asking (s.downloader _) s'.service.ask hstage]
    exact h.closed.step (Lockstep.notify hdisplay) s stage
  cases stage with
  | ready entity id =>
    refine .bind_same (h.closed.log _) fun _ => ?_
    exact .bind_same (hsame.service.lockstep_ask h ⟨id⟩) fun _ => .pure rfl
  | answered entity answer => exact hother nofun
  | decoded document => exact hother nofun
  | refused reason => exact hother nofun
  | finished outcome => exact hother nofun

theorem SameButPassword.lockstep_steps {s s' : Session} (h : Host.Masked rest mask)
    (hdisplay : ∀ notice, Blind rest (display notice)) (hsame : SameButPassword mask s s')
    (n : Nat) (stage : Downloader.Stage) :
    Lockstep rest mask Eq ((s.downloader (Recorded.notify display)).steps n stage)
      ((s'.downloader (Recorded.notify display)).steps n stage) := by
  induction n generalizing stage with
  | zero => exact .pure rfl
  | succ n ih => exact .bind_same (hsame.lockstep_step h hdisplay stage) ih

theorem SameButPassword.lockstep_download {s s' : Session} (h : Host.Masked rest mask)
    (hdisplay : ∀ notice, Blind rest (display notice)) (hsame : SameButPassword mask s s')
    (i : Installation) :
    Lockstep rest mask Eq (s.download (Recorded.notify display) i)
      (s'.download (Recorded.notify display) i) := by
  unfold download
  cases i.setupProtocolId with
  | some id =>
    exact .bind_same (hsame.lockstep_steps h hdisplay 4 (.ready i.edgeId id)) fun _ => .pure rfl
  | none =>
    have hreport := h.closed.reportFailure (Lockstep.notify hdisplay) s (noProtocol i)
    exact .bind_same hreport fun _ => .pure rfl

/-! ## Operations -/

/-- Whether two sessions with their answers are the same but for the password. -/
def SameAnswers {α : Type} (mask : Http.Request → Http.Request) (x x' : Session × α) : Prop :=
  x.1.SameButPassword mask x'.1 ∧ x.2 = x'.2

theorem SameButPassword.lockstep_act {s s' : Session} (h : Host.Masked rest mask)
    (hdisplay : ∀ notice, Blind rest (display notice)) (hsame : SameButPassword mask s s')
    (op : Operation) :
    Lockstep rest mask (SameAnswers mask) (s.act (Recorded.notify display) op)
      (s'.act (Recorded.notify display) op) := by
  cases op with
  | navigate event =>
    unfold act
    cases hanswer : s.wizard.handle event with
    | ok step =>
      have hanswer' := hsame.wizard ▸ hanswer
      simp only [navigate_of_ok hanswer, navigate_of_ok hanswer']
      exact .bind_same (h.closed.log _) fun _ =>
        .pure ⟨⟨hsame.config, hsame.features, rfl, hsame.service⟩, rfl⟩
    | error fault =>
      have hanswer' := hsame.wizard ▸ hanswer
      simp only [navigate_of_error hanswer, navigate_of_error hanswer']
      exact .pure ⟨hsame, rfl⟩
  | download i =>
    exact .bind_same (hsame.lockstep_download h hdisplay i) fun _ => .pure ⟨hsame, rfl⟩

theorem SameButPassword.lockstep_actAll {s s' : Session} (h : Host.Masked rest mask)
    (hdisplay : ∀ notice, Blind rest (display notice)) (hsame : SameButPassword mask s s')
    (ops : List Operation) :
    Lockstep rest mask (SameAnswers mask) (s.actAll (Recorded.notify display) ops)
      (s'.actAll (Recorded.notify display) ops) := by
  induction ops generalizing s s' with
  | nil => exact .pure ⟨hsame, rfl⟩
  | cons op ops ih =>
    refine .bind (hsame.lockstep_act h hdisplay op) ?_
    rintro ⟨next, answer⟩ ⟨next', answer'⟩ ⟨hnext, rfl⟩
    refine .bind (ih hnext) ?_
    rintro ⟨last, answers⟩ ⟨last', answers'⟩ ⟨hlast, rfl⟩
    exact .pure ⟨hlast, rfl⟩

/-! ## From the configuration on -/

/-- A session is set up, and operations are carried out in it. -/
def openAndAct {m : Type → Type} [Monad m] [Host m] (notify : Notification → m Unit)
    (config : Config) (ops : List Operation) : m (Except Error (Session × List Answer)) := do
  match ← openOn config with
  | .error e => pure (.error e)
  | .ok s => do
    let result ← s.actAll notify ops
    pure (.ok result)

theorem SameButPassword.opening_eq {s s' : Session} (h : SameButPassword mask s s') :
    s.opening = s'.opening := by
  obtain ⟨password, hconfig⟩ := h.config
  unfold opening
  rw [h.features, hconfig]
  rfl

theorem lockstep_openOn (h : Host.Masked rest mask) {config config' : Config}
    (hcreate : Matched (SameButPassword mask) (create config) (create config')) :
    Lockstep rest mask (Matched (SameButPassword mask))
      (openOn config : StateM (Recorded σ) (Except Error Session)) (openOn config') := by
  unfold openOn
  generalize create config = created at hcreate
  generalize create config' = created' at hcreate
  cases hcreate with
  | error e => exact .pure (.error e)
  | ok hsame =>
    dsimp only
    rw [← hsame.opening_eq]
    exact .bind_same (h.lockstep_logAll _) fun _ => .pure (.ok hsame)

theorem lockstep_openAndAct (h : Host.Masked rest mask)
    (hdisplay : ∀ notice, Blind rest (display notice)) {config config' : Config}
    (hcreate : Matched (SameButPassword mask) (create config) (create config'))
    (ops : List Operation) :
    Lockstep rest mask (Matched (SameAnswers mask))
      (openAndAct (Recorded.notify display) config ops)
      (openAndAct (Recorded.notify display) config' ops) := by
  refine .bind (lockstep_openOn h hcreate) ?_
  rintro opened opened' (hsame | e)
  · refine .bind (hsame.lockstep_actAll h hdisplay ops) ?_
    rintro acted acted' hacted
    exact .pure (.ok hacted)
  · exact .pure (.error e)

/-- **The password is in the header Authorization and nowhere else.** Two configurations that differ
in the password only, with the same operations on a host that does not look at that header: either
neither of them can be set up, for the same reason, or both sessions give the same answers and end
the same but for the password. Every call on the host is the same and has the same answer, so this
goes for the files, the events, the notifications and the ids, up to what is in the header; without
a user name it is the same there, too. A configuration does not show its password as JSON. -/
theorem same_but_authorization (h : Host.Masked rest Http.Request.anonymous)
    (hdisplay : ∀ notice, Blind rest (display notice)) (config : Config)
    (password : Option String) (ops : List Operation) {s s' : σ} (hsame : rest s = rest s') :
    ∃ result result' r r',
      (openAndAct (Recorded.notify display) config ops).run ⟨s, []⟩ = (result, r) ∧
      (openAndAct (Recorded.notify display) { config with password := password } ops).run ⟨s', []⟩
        = (result', r') ∧
      Matched (SameAnswers Http.Request.anonymous) result result' ∧
      r.calls.map (Call.masked Http.Request.anonymous)
        = r'.calls.map (Call.masked Http.Request.anonymous) ∧
      rest r.base = rest r'.base ∧
      (config.username = none → r.calls = r'.calls) ∧
      { config with password := password }.toJson = config.toJson := by
  have hlockstep := lockstep_openAndAct h hdisplay
    (matched_create (matched_serviceOf config password)) ops ⟨s, []⟩ ⟨s', []⟩ ⟨hsame, rfl⟩
  refine ⟨_, _, _, _, (Prod.eta _).symm, (Prod.eta _).symm, hlockstep.1, hlockstep.2.calls,
    hlockstep.2.base, fun husername => ?_, rfl⟩
  have hcreate : Matched (SameButPassword id) (create config)
      (create { config with password := password }) := by
    refine matched_create fun endpoint => ?_
    rw [serviceOf_of_no_username husername password endpoint]
    exact .refl (Service.SameButPassword.refl id) _
  have hcalls := (lockstep_openAndAct h.unmasked hdisplay hcreate ops
    ⟨s, []⟩ ⟨s', []⟩ ⟨hsame, rfl⟩).2.calls
  rwa [Call.masked_id, List.map_id, List.map_id] at hcalls

end Session

/-! ## Rehearsals

The server of a rehearsal looks at where a request goes, and at nothing else in it. -/

/-- A server that has got other requests. -/
def Server.asked (requests : List Http.Request) (server : Server) : Server :=
  { server with requests := requests }

theorem Server.answer_asked (server : Server) (requests : List Http.Request)
    {request request' : Http.Request} (h : request.url = request'.url) :
    (server.answer request).1 = ((server.asked requests).answer request').1 ∧
      (server.answer request).2.asked [] = ((server.asked requests).answer request').2.asked [] := by
  have hserves : (server.asked requests).serves request'.url = server.serves request.url := by
    rw [h]
    rfl
  unfold answer
  rw [hserves]
  split
  · exact ⟨rfl, rfl⟩
  · exact ⟨rfl, rfl⟩

namespace Rehearsal

/-- A rehearsal whose server has got other requests. -/
def asked (requests : List Http.Request) (r : Rehearsal) : Rehearsal :=
  { r with server := r.server.map (·.asked requests) }

theorem asked_asked (requests requests' : List Http.Request) (r : Rehearsal) :
    (r.asked requests).asked requests' = r.asked requests' := by
  simp [asked, Server.asked, Function.comp_def]

theorem exists_asked {r r' : Rehearsal} (h : r.asked [] = r'.asked []) :
    ∃ requests, r' = r.asked requests := by
  have hall : ∀ requests, r'.asked requests = r.asked requests := fun requests => by
    rw [← asked_asked [] requests r', ← h, asked_asked]
  cases hserver : r'.server with
  | none => exact ⟨[], by rw [← hall, asked, hserver, Option.map_none, ← hserver]⟩
  | some server =>
    exact ⟨server.requests, by rw [← hall, asked, hserver, Option.map_some, Server.asked, ← hserver]⟩

theorem blind_asked {α : Type} {x : StateM Rehearsal α}
    (h : ∀ requests r, x.run (r.asked requests) = ((x.run r).1, (x.run r).2.asked requests)) :
    Blind (asked []) x := by
  intro r r' hsame
  obtain ⟨requests, rfl⟩ := exists_asked hsame
  rw [h]
  exact ⟨rfl, (asked_asked _ _ _).symm⟩

theorem masked : Host.Masked (asked []) Http.Request.anonymous where
  exchange request request' hmask r r' hsame := by
    obtain ⟨requests, rfl⟩ := exists_asked hsame
    have hasked : (r.asked requests).server = r.server.map (·.asked requests) := rfl
    cases hserver : r.server with
    | none =>
      rw [hserver] at hasked
      rw [run_exchange_of_none hserver, run_exchange_of_none hasked]
      exact ⟨rfl, hsame⟩
    | some server =>
      rw [hserver] at hasked
      obtain ⟨hanswer, hafter⟩ :=
        server.answer_asked requests (Http.Request.url_eq_of_anonymous hmask)
      rw [run_exchange hserver, run_exchange hasked]
      exact ⟨hanswer, congrArg (fun server => { r with server := some server }) hafter⟩
  makeDirectories path := blind_asked fun _ _ => rfl
  writeFile path bytes := blind_asked fun requests r => by
    cases hwrite : r.files.write path bytes with
    | ok files =>
      rw [run_writeFile hwrite, run_writeFile (r := r.asked requests) hwrite]
      rfl
    | error e =>
      rw [run_writeFile_of_error hwrite, run_writeFile_of_error (r := r.asked requests) hwrite]
  today := blind_asked fun _ _ => rfl
  freshId := blind_asked fun _ _ => rfl
  log _ := blind_asked fun _ _ => rfl

theorem blind_notify (notice : Notification) :
    Blind (asked []) (Program.notify notice : StateM Rehearsal Unit) :=
  blind_asked fun _ _ => rfl

end Rehearsal

/-! ### A guest in the booth

The booth has someone to log in, with one password or another: two requests tell which one, and
nothing else does. -/

namespace Session

def guestConfig : Config :=
  { Attended.boothConfig with username := some "guest", password := some "key" }

theorem same_but_authorization_guest :
    ∃ result result' r r',
      (openAndAct (Recorded.notify Program.notify) guestConfig boothOperations).run
        ⟨Attended.booth.rehearsal, []⟩ = (result, r) ∧
      (openAndAct (Recorded.notify Program.notify)
        { guestConfig with password := some "clue" } boothOperations).run
        ⟨Attended.booth.rehearsal, []⟩ = (result', r') ∧
      Matched (SameAnswers Http.Request.anonymous) result result' ∧
      r.calls.map (Call.masked Http.Request.anonymous)
        = r'.calls.map (Call.masked Http.Request.anonymous) ∧
      r.base.asked [] = r'.base.asked [] ∧
      r.calls.flatMap Call.authorization
        = ["Basic Z3Vlc3Q6a2V5", "Basic Z3Vlc3Q6a2V5"] ∧
      r'.calls.flatMap Call.authorization
        = ["Basic Z3Vlc3Q6Y2x1ZQ==", "Basic Z3Vlc3Q6Y2x1ZQ=="] := by
  obtain ⟨result, result', r, r', hrun, hrun', hmatched, hcalls, hbase, -⟩ :=
    same_but_authorization Rehearsal.masked Rehearsal.blind_notify guestConfig (some "clue")
      boothOperations (rfl : Attended.booth.rehearsal.asked [] = _)
  have hkey : r.calls.flatMap Call.authorization
      = ["Basic Z3Vlc3Q6a2V5", "Basic Z3Vlc3Q6a2V5"] := by
    refine (congrArg (fun run => run.2.calls.flatMap Call.authorization) hrun).symm.trans ?_
    decide +kernel
  have hclue : r'.calls.flatMap Call.authorization
      = ["Basic Z3Vlc3Q6Y2x1ZQ==", "Basic Z3Vlc3Q6Y2x1ZQ=="] := by
    refine (congrArg (fun run => run.2.calls.flatMap Call.authorization) hrun').symm.trans ?_
    decide +kernel
  exact ⟨result, result', r, r', hrun, hrun', hmatched, hcalls, hbase, hkey, hclue⟩

end Session

end Commissioning
