import Commissioning.Environment
import Commissioning.Files.Error
import Commissioning.Files.Path
import Commissioning.Json.Record
import Commissioning.Log.Event
import Commissioning.Text.Blank
import Commissioning.Url.Parser

set_option autoImplicit false

/-! # Configuration

What the tool is told about its work: where the backend answers, where documents are saved and how
they are named, who logs in, and which views the wizard shows. A configuration file may leave out
any key; what is left out takes its default, which depends on the environment. -/

namespace Commissioning

/-- The configuration of the tool. -/
structure Config where
  /-- Where the backend answers. -/
  endpoint : String
  /-- Where documents are saved. -/
  downloadDir : Path
  /-- The first part of the name of a saved document. -/
  fileNameStem : String
  username : Option String
  password : Option String
  /-- The views of the wizard in their order. -/
  views : List String
  deriving DecidableEq, Repr

namespace Config

/-! ## Defaults -/

/-- The directory for the data of the tool. -/
def dataDir (env : Environment) : Path :=
  match env.dataHome with
  | some dir => (Path.mk dir).join "ibn"
  | none =>
    match env.home with
    | some home => ((Path.mk home).join ".local/share").join "ibn"
    | none => ⟨".ibn"⟩

/-- Where the configuration file is looked for. -/
def defaultPath (env : Environment) : Path :=
  (dataDir env).join "config.json"

/-- The directory for downloads. -/
def defaultDownloadDir (env : Environment) (data : Path) : Path :=
  match env.downloadDir with
  | some dir => ⟨dir⟩
  | none =>
    match env.home with
    | some home => (Path.mk home).join "Downloads"
    | none => data.join "Downloads"

/-- The configuration that says nothing by itself, with a directory for data. -/
def withDataDir (env : Environment) (data : Path) : Config where
  endpoint := "http://localhost:8084/jsonrpc"
  downloadDir := defaultDownloadDir env data
  fileNameStem := "IBN"
  username := none
  password := none
  views := ["pre-installation", "configuration", "completion"]

/-- The configuration without a file. -/
def default (env : Environment) : Config :=
  withDataDir env (dataDir env)

/-! ## Validity -/

/-- Why a configuration is refused. -/
inductive Fault where
  | invalidEndpoint (endpoint : String) (fault : Url.Fault)
  | endpointNotHttp (endpoint : String)
  | blankStem
  | noViews
  | unreadable (path : Path) (error : Files.Error)
  /-- A reason in the words of whoever refused. -/
  | stated (text : String)
  deriving DecidableEq, Repr

/-- The wording of a refusal. -/
def Fault.message : Fault → String
  | invalidEndpoint endpoint fault => "invalid endpoint " ++ endpoint ++ ": " ++ fault.message
  | endpointNotHttp endpoint => "endpoint must use http or https: " ++ endpoint
  | blankStem => "file name prefix is empty"
  | noViews => "no wizard views configured"
  | unreadable path error => "cannot read " ++ path.text ++ ": " ++ error.message
  | stated text => text

/-- The endpoint as a URL, which has to use HTTP. -/
def endpointUrl (c : Config) : Except Fault Url :=
  match Url.parse c.endpoint with
  | .error fault => .error (.invalidEndpoint c.endpoint fault)
  | .ok url => if url.isHttp then .ok url else .error (.endpointNotHttp c.endpoint)

/-- A configuration has an endpoint, a stem that is not blank, and a view. -/
def validate (c : Config) : Except Fault Unit :=
  match c.endpointUrl with
  | .error fault => .error fault
  | .ok _ =>
    if Text.isBlankText c.fileNameStem then .error .blankStem
    else if c.views.isEmpty then .error .noViews
    else .ok ()

/-! ## JSON -/

/-- A configuration that is being read. -/
structure Draft where
  endpoint : Option String := none
  downloadDir : Option String := none
  fileNameStem : Option String := none
  username : Option (Option String) := none
  password : Option (Option String) := none
  views : Option (List String) := none

/-- The configuration with the keys that were read in place of its own. -/
def merge (base : Config) (d : Draft) : Config where
  endpoint := d.endpoint.getD base.endpoint
  downloadDir := (d.downloadDir.map Path.mk).getD base.downloadDir
  fileNameStem := d.fileNameStem.getD base.fileNameStem
  username := d.username.getD base.username
  password := d.password.getD base.password
  views := d.views.getD base.views

/-- The keys of a configuration in JSON. -/
def fields : List (Json.Field Draft) :=
  [.ofLens "endpoint" false (·.endpoint) (fun d s => { d with endpoint := some s }) Json.text,
   .ofLens "download_dir" false (·.downloadDir) (fun d s => { d with downloadDir := some s })
     Json.path,
   .ofLens "file_name_prefix" false (·.fileNameStem)
     (fun d s => { d with fileNameStem := some s }) Json.text,
   .ofLens "username" false (·.username) (fun d s => { d with username := some s })
     (Json.optional Json.text),
   .ofLens "password" false (·.password) (fun d s => { d with password := some s })
     (Json.optional Json.text),
   .ofLens "views" false (·.views) (fun d s => { d with views := some s }) Json.texts]

/-- A configuration in JSON, with defaults for the keys it leaves out. -/
def reader (base : Config) : Json.Reader Config := do
  let d ← Json.record "struct Config" fields {}
  pure (base.merge d)

/-- A text or `null`. -/
def optionalJson : Option String → Json.Value
  | some s => .text s
  | none => .null

/-- A configuration as JSON. The password is left out. -/
def toJson (c : Config) : Json.Value :=
  .object [("endpoint", .text c.endpoint), ("download_dir", .text c.downloadDir.text),
    ("file_name_prefix", .text c.fileNameStem), ("username", optionalJson c.username),
    ("views", .ofTexts c.views)]

/-- The event for a configuration file that was read. -/
def loaded (path : Path) : Log.Event where
  level := .debug
  source := "ibn_core::config"
  message := "Loaded configuration"
  fields := [{ name := "path", value := path.text }]

end Config

end Commissioning
