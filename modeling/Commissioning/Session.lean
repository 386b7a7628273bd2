import Commissioning.Config.File
import Commissioning.Downloader
import Commissioning.Feature.Registry
import Commissioning.Installation
import Commissioning.Saver
import Commissioning.Service

set_option autoImplicit false

/-! # Commissioning sessions

A session leads through the wizard and downloads setup protocols, by one configuration. -/

namespace Commissioning

/-- A commissioning session. -/
structure Session where
  config : Config
  features : FeatureRegistry
  wizard : Wizard
  service : Service

namespace Session

/-- The service that a configuration describes. -/
def serviceOf (config : Config) (endpoint : Url) : Except Error Service :=
  match Service.ofEndpoint endpoint with
  | .error e => .error (.protocol e)
  | .ok service =>
    match config.username with
    | some username => .ok (service.withCredentials username (config.password.getD ""))
    | none => .ok service

/-- The session that a configuration describes. -/
def create (config : Config) : Except Error Session := do
  config.validate.mapError Error.config
  let endpoint ← config.endpointUrl.mapError Error.config
  let service ← serviceOf config endpoint
  let wizard ← (Wizard.ofViews config.views).mapError Error.wizard
  let features ← FeatureRegistry.builtin.mapError Error.feature
  .ok { config := config, features := features, wizard := wizard, service := service }

/-- The event for a session that is set up. -/
def ready (config : Config) : Log.Event where
  level := .info
  source := "ibn_core::commissioning"
  message := "Commissioning ready"
  fields :=
    [{ name := "endpoint", value := config.endpoint },
     { name := "download_dir", value := config.downloadDir.text },
     { name := "views", value := Text.ofNat config.views.length }]

/-- The events of setting a session up. -/
def opening (s : Session) : List Log.Event :=
  s.features.areas.map FeatureRegistry.registered ++ [ready s.config]

/-! ## Navigation -/

/-- The session after a navigation event and the step of its wizard, or why the wizard refuses. -/
def navigate (s : Session) (event : ViewEvent) : Except Error (Session × Wizard.Transition) := do
  let (wizard, transition) ← (s.wizard.handle event).mapError Error.wizard
  .ok ({ s with wizard := wizard }, transition)

/-! ## Downloads -/

variable {m : Type → Type} [Monad m] [Host m]

/-- A session is set up on a host. -/
def openOn (config : Config) : m (Except Error Session) := do
  match create config with
  | .error e => pure (.error e)
  | .ok s => do
    s.opening.forM Host.log
    pure (.ok s)

/-- The downloader of a session, with someone to tell about failures. -/
def downloader (s : Session) (notify : Notification → m Unit) : Downloader m where
  ask := s.service.ask
  save := (Saver.mk s.config.downloadDir).save
  notify := notify
  log := Host.log
  today := Host.today
  stem := s.config.fileNameStem

/-- Why an installation without a protocol gets none. -/
def noProtocol (i : Installation) : String :=
  i.edgeId ++ " has no setup protocol"

/-- The setup protocol of an installation is downloaded. -/
def download (s : Session) (notify : Notification → m Unit) (i : Installation) : m Outcome :=
  match i.setupProtocolId with
  | some id => (s.downloader notify).download i.edgeId id
  | none => do
    (s.downloader notify).reportFailure (noProtocol i)
    pure .failed

end Session

end Commissioning
