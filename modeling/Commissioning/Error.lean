import Commissioning.Config
import Commissioning.Feature.Area
import Commissioning.Protocol.Error
import Commissioning.Wizard.Basic

set_option autoImplicit false

/-! # Errors of a session

Why a commissioning session could not be set up or refused an operation. -/

namespace Commissioning

/-- An error of any part of a session. -/
inductive Error where
  | protocol (error : Protocol.Error)
  | wizard (fault : Wizard.Fault)
  | file (error : Files.Error)
  | serialization (error : Json.Error)
  | config (fault : Config.Fault)
  | feature (fault : FeatureArea.Fault)
  deriving DecidableEq, Repr

namespace Error

/-- The wording of an error. -/
def message : Error → String
  | protocol error => "Protocol error: " ++ error.message
  | wizard fault => "Wizard error: " ++ fault.message
  | file error => "IO error: " ++ error.message
  | serialization error => "Serialization error: " ++ error.message
  | config fault => "Configuration error: " ++ fault.message
  | feature fault => "Feature registration error: " ++ fault.message

/-- The wording of the error that this one wraps, if it wraps one, and of those inside that one. -/
def causes : Error → List String
  | protocol error =>
    error.message ::
      (match error with
       | .network _ => []
       | .invalidPayload fault => [fault.message]
       | .serialization e => [e.message]
       | .file e => [e.message]
       | _ => [])
  | wizard fault => [fault.message]
  | file error => [error.message]
  | serialization error => [error.message]
  | config _ => []
  | feature _ => []

end Error

end Commissioning
