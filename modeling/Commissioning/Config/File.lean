import Commissioning.Error
import Commissioning.Host

set_option autoImplicit false

/-! # Configuration files

A configuration file is read, merged with the defaults and checked. A file that is not there
counts as an empty one only where the default file is looked for. -/

namespace Commissioning.Config

/-- The configuration that the bytes of a file hold. -/
def ofBytes (env : Environment) (path : Path) (content : Except Files.Error (List UInt8)) :
    Except Error Config :=
  match content with
  | .error e => .error (.config (.unreadable path e))
  | .ok bytes =>
    match Text.decodeUtf8 bytes with
    | none => .error (.config (.unreadable path .notText))
    | some text =>
      match (reader (default env)).read text with
      | .error e => .error (.serialization e)
      | .ok config =>
        match config.validate with
        | .error fault => .error (.config fault)
        | .ok () => .ok config

variable {m : Type → Type} [Monad m] [Host m]

/-- The configuration in a file. -/
def load (env : Environment) (path : Path) : m (Except Error Config) := do
  let content ← Host.readFile path
  match ofBytes env path content with
  | .error e => pure (.error e)
  | .ok config => do
    Host.log (loaded path)
    pure (.ok config)

/-- The configuration in a file, or the defaults where there is no file. -/
def loadOrDefault (env : Environment) (path : Path) : m (Except Error Config) := do
  if ← Host.pathExists path then load env path else pure (.ok (default env))

end Commissioning.Config
