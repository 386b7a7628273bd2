import Commissioning.Proofs.Password

set_option autoImplicit false

/-! # Credentials

A user may be named in two places: in the endpoint, and in the configuration beside it. A request
carries a value of the header Authorization for each of them (`Session.service_of_create`), so there
are two values exactly when both places name one (`Authorized.single_iff`), and only an endpoint without a
user leaves the one of the configuration alone (`Session.credentials_sent`). -/

namespace Commissioning

/-! ## The two places -/

/-- The user name of a configuration with its password, or with an empty one. -/
def Config.credentials (c : Config) : Option (String × String) :=
  c.username.map fun username => (username, c.password.getD "")

/-- The value of the header Authorization for a user name with a password. -/
def Http.basicValue (credentials : String × String) : String :=
  basicCredentials credentials.1 credentials.2

theorem Service.authorization_eq (s : Service) : s.authorization
    = ((credentialsOf s.endpoint).toList ++ s.credentials.toList).map Http.basicValue :=
  rfl

/-- An endpoint that names neither a user nor a password has no credentials. -/
theorem Service.credentialsOf_of_plain {url : Url} (husername : url.username = "")
    (hpassword : url.password? = none) : credentialsOf url = none := by
  have hdecoded : decoded "" = some "" := by decide +kernel
  simp [credentialsOf, husername, hpassword, hdecoded]

/-- What a request says of its sender, by the configuration and its endpoint. -/
structure Authorized (config : Config) (endpoint : Url) (values : List String) : Prop where
  /-- The credentials of the endpoint come first, then those of the configuration. -/
  values_eq : values = (Service.credentialsOf endpoint).toList.map Http.basicValue
    ++ config.credentials.toList.map Http.basicValue
  /-- There is one value at most exactly if one of the two has no credentials. -/
  single_iff : values.length ≤ 1 ↔ Service.credentialsOf endpoint = none ∨ config.username = none
  /-- The credentials of the configuration stand there alone exactly if the endpoint has none. -/
  alone_iff : ∀ username, config.username = some username →
    (values = [Http.basicCredentials username (config.password.getD "")] ↔
      Service.credentialsOf endpoint = none)
  /-- An endpoint without a user adds nothing. -/
  plain : endpoint.username = "" → endpoint.password? = none →
    values = config.credentials.toList.map Http.basicValue

theorem authorized (config : Config) (endpoint : Url) : Authorized config endpoint
    (((Service.credentialsOf endpoint).toList ++ config.credentials.toList).map
      Http.basicValue) where
  values_eq := List.map_append
  single_iff := by
    unfold Config.credentials
    cases Service.credentialsOf endpoint <;> cases config.username <;> simp
  alone_iff := by
    intro username husername
    rw [Config.credentials, husername]
    cases Service.credentialsOf endpoint <;> simp [Http.basicValue]
  plain := by
    intro husername hpassword
    rw [Service.credentialsOf_of_plain husername hpassword]
    rfl

theorem Config.parse_of_endpointUrl {config : Config} {endpoint : Url}
    (h : config.endpointUrl = .ok endpoint) : Url.parse config.endpoint = .ok endpoint := by
  unfold endpointUrl at h
  cases hparse : Url.parse config.endpoint with
  | error reason => simp [hparse] at h
  | ok url =>
    rw [hparse] at h
    dsimp only at h
    split at h
    · rw [Except.ok.inj h]
    · exact absurd h (by simp)

namespace Session

/-! ## What is sent -/

theorem service_of_serviceOf {config : Config} {endpoint : Url} {service : Service}
    (h : serviceOf config endpoint = .ok service) :
    service = { endpoint := endpoint, credentials := config.credentials } := by
  unfold serviceOf Service.ofEndpoint at h
  cases hhttp : endpoint.isHttp with
  | false => simp [hhttp] at h
  | true =>
    simp only [hhttp, if_true] at h
    cases husername : config.username with
    | none =>
      rw [husername] at h
      rw [Config.credentials, husername]
      exact (Except.ok.inj h).symm
    | some username =>
      rw [husername] at h
      rw [Config.credentials, husername]
      exact (Except.ok.inj h).symm

/-- The service of a session has the endpoint and the credentials of the configuration. -/
theorem service_of_create {config : Config} {s : Session} (h : create config = .ok s) :
    ∃ endpoint, Url.parse config.endpoint = .ok endpoint ∧
      s.service = { endpoint := endpoint, credentials := config.credentials } := by
  obtain ⟨endpoint, service, wizard, features, hendpoint, hservice, -, rfl⟩ :=
    exists_parts_of_create h
  refine ⟨endpoint, Config.parse_of_endpointUrl hendpoint, ?_⟩
  exact service_of_serviceOf hservice

variable {σ : Type} [Host (StateM σ)] {see : σ → Sight} {notify : Notification → StateM σ Unit}

/-- Whatever the requests of a session ask for, all of them say the same of their sender. -/
theorem authorization_of_requests {session : Session} {ids : List Protocol.Id}
    {sent : List (Http.Request × Option Http.Response)}
    (h : List.Forall₂ (fun id exchange => ∃ callId, exchange.1 = session.service.request callId ⟨id⟩)
      ids sent) :
    ∀ exchange ∈ sent, exchange.1.authorization = session.service.authorization := by
  induction h with
  | nil => exact fun _ hmem => absurd hmem List.not_mem_nil
  | cons hfirst _ ih =>
    obtain ⟨callId, hrequest⟩ := hfirst
    intro exchange hmem
    rcases List.mem_cons.mp hmem with rfl | hmem
    · rw [hrequest]
      rfl
    · exact ih exchange hmem

theorem run_openOn {config : Config} {session : Session} (hcreate : create config = .ok session)
    (s : σ) : (openOn config : StateM σ _).run s
      = (.ok session, ((session.opening.forM Host.log : StateM σ _).run s).2) := by
  unfold openOn
  rw [hcreate]
  rfl

/-- **What requests say of their sender.** Every request of a session, from its opening on, carries
the credentials of the endpoint and those of the configuration, as far as there are any. -/
theorem credentials_sent (h : Host.Visible see) (hnotify : Tells see notify Noted)
    {config : Config} {session : Session} (hcreate : create config = .ok session)
    (ops : List Operation) (s : σ) :
    ∃ endpoint, Url.parse config.endpoint = .ok endpoint ∧
      ∃ session' answers s' sent,
        (openAndAct notify config ops).run s = (.ok (session', answers), s') ∧
        (see s').exchanges = (see s).exchanges ++ sent ∧
        sent.length = (ops.filterMap (·.protocol?)).length ∧
        ∀ exchange ∈ sent, Authorized config endpoint exchange.1.authorization := by
  obtain ⟨endpoint, hendpoint, hservice⟩ := service_of_create hcreate
  have hopened := h.forM_log session.opening s
  obtain ⟨session', answers, s', hrun, haccount⟩ := account_actAll h hnotify session ops
    ((session.opening.forM Host.log : StateM σ _).run s).2
  obtain ⟨sent, hsent, hrequests⟩ := haccount.requests
  have hall : (openAndAct notify config ops).run s = (.ok (session', answers), s') := by
    rw [openAndAct, run_bind_of_run (run_openOn hcreate s)]
    exact run_bind_of_run hrun
  refine ⟨endpoint, hendpoint, session', answers, s', sent, hall, ?_, hrequests.length_eq.symm, ?_⟩
  · rw [hsent, hopened.exchanges_eq]
  · intro exchange hexchange
    rw [authorization_of_requests hrequests exchange hexchange, Service.authorization_eq, hservice]
    exact authorized config endpoint

/-! ### A clerk and a guest

The configuration names a clerk. The endpoint of the booth names nobody, and another one a guest. -/

def clerkConfig : Config :=
  { Attended.boothConfig with username := some "clerk", password := some "clue" }

theorem credentials_sent_clerk :
    (∃ session, create clerkConfig = .ok session) ∧
      ∃ session' answers s' sent,
        (openAndAct Attended.take clerkConfig boothOperations).run Attended.booth
          = (.ok (session', answers), s') ∧
        s'.sight.exchanges = Attended.booth.sight.exchanges ++ sent ∧ sent.length = 2 ∧
        ∀ exchange ∈ sent, exchange.1.authorization = ["Basic Y2xlcms6Y2x1ZQ=="] := by
  obtain ⟨session, hcreate⟩ : ∃ session, create clerkConfig = .ok session :=
    exists_of_isOk (by decide +kernel)
  obtain ⟨endpoint, hendpoint, session', answers, s', sent, hrun, hsent, hlength, hauthorized⟩ :=
    credentials_sent Attended.visible tells_take hcreate boothOperations Attended.booth
  have hnobody : Service.credentialsOf endpoint = none := by
    have hread : (Url.parse clerkConfig.endpoint).toOption.map Service.credentialsOf
        = some none := by
      decide +kernel
    rw [hendpoint] at hread
    exact Option.some.inj hread
  have hclerk : Http.basicCredentials "clerk" "clue" = "Basic Y2xlcms6Y2x1ZQ==" := by
    decide +kernel
  refine ⟨⟨session, hcreate⟩, session', answers, s', sent, hrun, hsent, hlength,
    fun exchange hexchange => ?_⟩
  rw [((hauthorized exchange hexchange).alone_iff "clerk" rfl).mpr hnobody, ← hclerk]
  rfl

/-- The clerk at an endpoint that names a guest. -/
def crowdedConfig : Config :=
  { clerkConfig with endpoint := "http://guest:key@[::1]/" }

/-- A request that is sent for two: the guest of the endpoint comes before the clerk. -/
theorem two_credentials_sent :
    (create crowdedConfig).isOk = true ∧
      ((openAndAct Attended.take crowdedConfig [.download ⟨"E1", some (.number 7)⟩]).run
        Attended.booth).2.exchanges.map (·.1.authorization)
        = [["Basic Z3Vlc3Q6a2V5", "Basic Y2xlcms6Y2x1ZQ=="]] := by
  decide +kernel

end Session

end Commissioning
