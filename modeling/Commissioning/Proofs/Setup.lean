import Commissioning.Proofs.Sequence
import Commissioning.Proofs.Text.Trim
import Commissioning.Proofs.Wizard.Views
import Commissioning.Session

set_option autoImplicit false

/-! # Setting up a session

A configuration is looked at by three parts of the tool, which check it one after another: by
itself, by the service that is made for its endpoint, and by the wizard that is made for its views.
Together they accept the well-formed configurations (`Config.WellFormed`), and the later two have
nothing left to find but a view that is repeated. -/

namespace Commissioning

namespace Config

/-! ## Well-formed configurations -/

/-- Whether the endpoint is a URL that is reached over HTTP. -/
def HasEndpoint (c : Config) : Prop :=
  ∃ url, Url.parse c.endpoint = .ok url ∧ (url.scheme = "http" ∨ url.scheme = "https")

/-- Whether the stem has a character that is not blank. -/
def HasStem (c : Config) : Prop :=
  ∃ char ∈ c.fileNameStem.toList, Text.isBlank char = false

/-- Whether a session can be set up by a configuration. -/
structure WellFormed (c : Config) : Prop where
  endpoint : c.HasEndpoint
  stem : c.HasStem
  views_ne_nil : c.views ≠ []
  views_nodup : c.views.Nodup

/-- Whether a fault says what is wrong with the endpoint: it is no URL, or one of another scheme. -/
def IsEndpointFault (c : Config) (fault : Fault) : Prop :=
  (∃ reason, Url.parse c.endpoint = .error reason ∧
    fault = .invalidEndpoint c.endpoint reason) ∨
  ∃ url, Url.parse c.endpoint = .ok url ∧ url.scheme ≠ "http" ∧ url.scheme ≠ "https" ∧
    fault = .endpointNotHttp c.endpoint

theorem isHttp_iff {url : Url} :
    url.isHttp = true ↔ url.scheme = "http" ∨ url.scheme = "https" := by
  simp [Url.isHttp]

/-! ## The endpoint -/

/-- What reading the endpoint gives: a URL over HTTP, or what is wrong with it. -/
inductive EndpointRead (c : Config) : Except Fault Url → Prop
  | read (url : Url) (hendpoint : c.HasEndpoint) (hurl : url.isHttp = true) :
      EndpointRead c (.ok url)
  | refused (fault : Fault) (hendpoint : ¬ c.HasEndpoint) (hfault : c.IsEndpointFault fault) :
      EndpointRead c (.error fault)

theorem endpointUrl_cases (c : Config) : EndpointRead c c.endpointUrl := by
  unfold endpointUrl
  cases hparse : Url.parse c.endpoint with
  | error reason =>
    refine .refused _ ?_ (Or.inl ⟨reason, hparse, rfl⟩)
    rintro ⟨url, hurl, -⟩
    exact absurd (hparse.symm.trans hurl) (by simp)
  | ok url =>
    cases hhttp : url.isHttp with
    | true =>
      simp only [hhttp, if_true]
      exact .read url ⟨url, hparse, isHttp_iff.mp hhttp⟩ hhttp
    | false =>
      have hscheme : ¬ (url.scheme = "http" ∨ url.scheme = "https") := by
        rw [← isHttp_iff, hhttp]
        exact Bool.false_ne_true
      obtain ⟨hplain, hsecure⟩ := not_or.mp hscheme
      simp only [hhttp, Bool.false_eq_true, if_false]
      refine .refused _ ?_ (Or.inr ⟨url, hparse, hplain, hsecure, rfl⟩)
      rintro ⟨other, hother, hhttp⟩
      obtain rfl : url = other := Except.ok.inj (hparse.symm.trans hother)
      exact hscheme hhttp

/-! ## Validity -/

/-- What checking a configuration by itself gives. Every check is made after those before it have
been passed. -/
inductive Validated (c : Config) : Except Fault Unit → Prop
  | valid (hendpoint : c.HasEndpoint) (hstem : c.HasStem) (hviews : c.views ≠ []) :
      Validated c (.ok ())
  | badEndpoint (fault : Fault) (hendpoint : ¬ c.HasEndpoint) (hfault : c.IsEndpointFault fault) :
      Validated c (.error fault)
  | blankStem (hendpoint : c.HasEndpoint) (hstem : ¬ c.HasStem) :
      Validated c (.error .blankStem)
  | noViews (hendpoint : c.HasEndpoint) (hstem : c.HasStem) (hviews : c.views = []) :
      Validated c (.error .noViews)

theorem validate_cases (c : Config) : Validated c c.validate := by
  have hread := c.endpointUrl_cases
  unfold validate
  generalize c.endpointUrl = outcome at hread ⊢
  cases hread with
  | refused fault hendpoint hfault => exact .badEndpoint fault hendpoint hfault
  | read url hendpoint hurl =>
    cases hstem : Text.isBlankText c.fileNameStem with
    | true =>
      refine .blankStem hendpoint fun hchar => ?_
      rw [Text.isBlankText_eq_false_iff.mpr hchar] at hstem
      exact Bool.false_ne_true hstem
    | false =>
      have hstem := Text.isBlankText_eq_false_iff.mp hstem
      cases hviews : c.views with
      | nil => exact .noViews hendpoint hstem hviews
      | cons view views => exact .valid hendpoint hstem (by simp [hviews])

end Config

theorem Config.validate_eq_ok_iff (c : Config) :
    c.validate = .ok () ↔ c.HasEndpoint ∧ c.HasStem ∧ c.views ≠ [] := by
  have hvalidated := c.validate_cases
  generalize c.validate = outcome at hvalidated
  cases hvalidated with
  | valid hendpoint hstem hviews => simp [hendpoint, hstem, hviews]
  | badEndpoint fault hendpoint hfault => simp [hendpoint]
  | blankStem hendpoint hstem => simp [hstem]
  | noViews hendpoint hstem hviews => simp [hviews]

/-- The area that comes with the tool is accepted. -/
theorem FeatureRegistry.builtin_eq : builtin = .ok { areas := [.advertisement] } := by
  decide +kernel

namespace Session

/-! ## The service -/

/-- An endpoint over HTTP has a service behind it. -/
theorem exists_serviceOf (c : Config) {url : Url} (hurl : url.isHttp = true) :
    ∃ service, serviceOf c url = .ok service := by
  unfold serviceOf Service.ofEndpoint
  simp only [hurl, if_true]
  cases c.username with
  | none => exact ⟨_, rfl⟩
  | some username => exact ⟨_, rfl⟩

/-! ## The whole of it -/

/-- The ways to set up a session: on the first view, or not at all. Every check is made after
those before it have been passed. -/
inductive SetUp (c : Config) : Except Error Session → Prop
  | badEndpoint (fault : Config.Fault) (hendpoint : ¬ c.HasEndpoint)
      (hfault : c.IsEndpointFault fault) : SetUp c (.error (.config fault))
  | blankStem (hendpoint : c.HasEndpoint) (hstem : ¬ c.HasStem) :
      SetUp c (.error (.config .blankStem))
  | noViews (hendpoint : c.HasEndpoint) (hstem : c.HasStem) (hviews : c.views = []) :
      SetUp c (.error (.config .noViews))
  | repeatedView (view : String) (hendpoint : c.HasEndpoint) (hstem : c.HasStem)
      (hview : IsFirstRepeated view c.views) :
      SetUp c (.error (.wizard (.duplicateView view)))
  | ready (s : Session) (hconfig : c.WellFormed) (hviews : s.wizard.views = c.views)
      (hposition : s.wizard.position = 0) (hstate : s.wizard.state = .inProgress) :
      SetUp c (.ok s)

theorem create_cases (c : Config) : SetUp c (create c) := by
  have hvalidated := c.validate_cases
  have hread := c.endpointUrl_cases
  have hstarted := Wizard.ofViews_cases c.views
  unfold create
  generalize c.validate = outcome at hvalidated ⊢
  cases hvalidated with
  | badEndpoint fault hendpoint hfault => exact .badEndpoint fault hendpoint hfault
  | blankStem hendpoint hstem => exact .blankStem hendpoint hstem
  | noViews hendpoint hstem hviews => exact .noViews hendpoint hstem hviews
  | valid hendpoint hstem hviews =>
    -- A valid configuration has an endpoint that the service takes and views that the wizard does
    -- not find to be missing.
    generalize c.endpointUrl = read at hread ⊢
    cases hread with
    | refused fault hnone => exact absurd hendpoint hnone
    | read url _ hurl =>
      obtain ⟨service, hservice⟩ := exists_serviceOf c hurl
      simp only [Except.mapError, ok_bind, hservice, FeatureRegistry.builtin_eq]
      generalize Wizard.ofViews c.views = wizard at hstarted ⊢
      cases hstarted with
      | empty hempty => exact absurd hempty hviews
      | repeated view hview => exact .repeatedView view hendpoint hstem hview
      | started hpos hnodup =>
        exact .ready _ ⟨hendpoint, hstem, hviews, hnodup⟩ rfl rfl rfl

/-- What setting up a session keeps to, by its configuration. -/
structure SetUpContract (c : Config) (outcome : Except Error Session) : Prop where
  /-- It succeeds exactly on the well-formed configurations. -/
  ok_iff : (∃ s, outcome = .ok s) ↔ c.WellFormed
  /-- Of several faults the one of the endpoint comes first. -/
  no_endpoint : ¬ c.HasEndpoint →
    ∃ fault, outcome = .error (.config fault) ∧ c.IsEndpointFault fault
  no_stem : c.HasEndpoint → ¬ c.HasStem → outcome = .error (.config .blankStem)
  no_views : c.HasEndpoint → c.HasStem → c.views = [] → outcome = .error (.config .noViews)
  repeated_view : c.HasEndpoint → c.HasStem → c.views ≠ [] → ¬ c.views.Nodup →
    ∃ view, outcome = .error (.wizard (.duplicateView view)) ∧ IsFirstRepeated view c.views
  /-- The check of the configuration by itself misses nothing but a repeated view. -/
  validated : c.validate = .ok () → ∀ e, outcome = .error e →
    ∃ view, e = .wizard (.duplicateView view) ∧ IsFirstRepeated view c.views
  /-- The checks of the endpoint, the views and the areas that are made again find nothing. -/
  unreachable : ∀ e, outcome = .error e →
    (∀ url, e ≠ .protocol (.invalidEndpoint url)) ∧ e ≠ .wizard .noViews ∧
      ∀ fault, e ≠ .feature fault
  /-- A session starts on its first view. -/
  first_view : ∀ s, outcome = .ok s → s.wizard.views = c.views ∧
    s.wizard.state = .inProgress ∧ c.views.head? = some s.wizard.currentView

theorem SetUp.contract {c : Config} {outcome : Except Error Session} (h : SetUp c outcome) :
    SetUpContract c outcome := by
  have hvalid := c.validate_eq_ok_iff
  cases h with
  | badEndpoint fault hendpoint hfault =>
    have hill : ¬ c.WellFormed := fun hconfig => hendpoint hconfig.endpoint
    refine ⟨by simp [hill], fun _ => ⟨fault, rfl, hfault⟩, ?_, ?_, ?_, ?_, by simp, by simp⟩
    · exact fun hhas => absurd hhas hendpoint
    · exact fun hhas => absurd hhas hendpoint
    · exact fun hhas => absurd hhas hendpoint
    · exact fun hok => absurd (hvalid.mp hok).1 hendpoint
  | blankStem hendpoint hstem =>
    have hill : ¬ c.WellFormed := fun hconfig => hstem hconfig.stem
    refine ⟨by simp [hill], fun hnone => absurd hendpoint hnone, fun _ _ => rfl, ?_, ?_, ?_,
      by simp, by simp⟩
    · exact fun _ hhas => absurd hhas hstem
    · exact fun _ hhas => absurd hhas hstem
    · exact fun hok => absurd (hvalid.mp hok).2.1 hstem
  | noViews hendpoint hstem hviews =>
    have hill : ¬ c.WellFormed := fun hconfig => hconfig.views_ne_nil hviews
    refine ⟨by simp [hill], fun hnone => absurd hendpoint hnone,
      fun _ hnone => absurd hstem hnone, fun _ _ _ => rfl, ?_, ?_, by simp, by simp⟩
    · exact fun _ _ hne => absurd hviews hne
    · exact fun hok => absurd hviews (hvalid.mp hok).2.2
  | repeatedView view hendpoint hstem hview =>
    have hill : ¬ c.WellFormed := fun hconfig => hview.not_nodup hconfig.views_nodup
    have hne : c.views ≠ [] := fun hempty => hview.ne_nil hempty
    refine ⟨by simp [hill], fun hnone => absurd hendpoint hnone,
      fun _ hnone => absurd hstem hnone, fun _ _ hempty => absurd hempty hne,
      fun _ _ _ _ => ⟨view, rfl, hview⟩, ?_, by simp, by simp⟩
    intro _ e he
    exact ⟨view, (Except.error.inj he).symm, hview⟩
  | ready s hconfig hviews hposition hstate =>
    have hfirst := Wizard.head?_views hposition
    rw [hviews] at hfirst
    refine ⟨by simp [hconfig], fun hnone => absurd hconfig.endpoint hnone,
      fun _ hnone => absurd hconfig.stem hnone,
      fun _ _ hempty => absurd hempty hconfig.views_ne_nil,
      fun _ _ _ hrepeated => absurd hconfig.views_nodup hrepeated, by simp, by simp, ?_⟩
    intro s' hs
    obtain rfl := Except.ok.inj hs
    exact ⟨hviews, hstate, hfirst⟩

/-- A session that is set up is put together from what each of its parts is set up with. -/
theorem exists_parts_of_create {config : Config} {s : Session} (h : create config = .ok s) :
    ∃ endpoint service wizard features, config.endpointUrl = .ok endpoint ∧
      serviceOf config endpoint = .ok service ∧ Wizard.ofViews config.views = .ok wizard ∧
      s = { config := config, features := features, wizard := wizard, service := service } := by
  unfold create at h
  obtain ⟨-, -, h⟩ := bind_eq_ok_iff.mp h
  obtain ⟨endpoint, hendpoint, h⟩ := bind_eq_ok_iff.mp h
  obtain ⟨service, hservice, h⟩ := bind_eq_ok_iff.mp h
  obtain ⟨wizard, hwizard, h⟩ := bind_eq_ok_iff.mp h
  obtain ⟨features, -, h⟩ := bind_eq_ok_iff.mp h
  exact ⟨endpoint, service, wizard, features, mapError_eq_ok_iff.mp hendpoint, hservice,
    mapError_eq_ok_iff.mp hwizard, (Except.ok.inj h).symm⟩

/-- A session that is set up has its configuration and a wizard over its views. -/
theorem parts_of_create {config : Config} {s : Session} (h : create config = .ok s) :
    s.config = config ∧ Wizard.ofViews config.views = .ok s.wizard := by
  obtain ⟨endpoint, service, wizard, features, -, -, hwizard, rfl⟩ := exists_parts_of_create h
  exact ⟨rfl, hwizard⟩

/-- Opening a session on a host says what its configuration gives, whatever the host logs. -/
theorem fst_run_openOn {σ : Type} [Host (StateM σ)] (c : Config) (host : σ) :
    ((openOn c : StateM σ (Except Error Session)).run host).1 = create c := by
  unfold openOn
  cases create c <;> rfl

/-- **A session is set up exactly by a well-formed configuration**, and otherwise the first of the
things that are wrong with it is named. -/
theorem openOn_outcome {σ : Type} [Host (StateM σ)] (c : Config) (host : σ) :
    SetUpContract c ((openOn c : StateM σ (Except Error Session)).run host).1 := by
  rw [fst_run_openOn]
  exact (create_cases c).contract

/-! ## Events

A session passes an event on to its wizard. -/

theorem navigate_of_ok {s : Session} {event : ViewEvent} {next : Wizard} {t : Wizard.Transition}
    (h : s.wizard.handle event = .ok (next, t)) :
    s.navigate event = .ok ({ s with wizard := next }, t) := by
  simp only [navigate, h, Except.mapError, ok_bind]

theorem navigate_of_error {s : Session} {event : ViewEvent} {fault : Wizard.Fault}
    (h : s.wizard.handle event = .error fault) :
    s.navigate event = .error (.wizard fault) := by
  simp only [navigate, h, Except.mapError]
  rfl

end Session

end Commissioning
