import Commissioning.Document
import Commissioning.Host
import Commissioning.Protocol.Error
import Commissioning.Text.Blank

set_option autoImplicit false

/-! # Saving documents

Documents are saved into one directory. The name of a file is the last segment of the suggested
name, without the blanks around it; where that leaves nothing, the file is called `download`. -/

namespace Commissioning

/-- The directory that documents are saved into. -/
structure Saver where
  dir : Path
  deriving DecidableEq, Repr

namespace Saver

/-- The name of a file whose suggested name leaves nothing. -/
def fallbackName : String := "download"

/-- The name that a file gets for a suggested one. -/
def plainName (suggested : String) : String :=
  let name := Text.trim (((Path.mk suggested).fileName?).getD fallbackName)
  if name.isEmpty then fallbackName else name

/-- Where a document with a suggested name is saved. -/
def target (s : Saver) (suggested : String) : Path :=
  s.dir.join (plainName suggested)

/-- The event for a saved document. -/
def saved (path : Path) (document : Document) : Log.Event where
  level := .info
  source := "ibn_protocol::host"
  message := "Saved protocol document"
  fields :=
    [{ name := "path", value := path.text },
     { name := "bytes", value := Text.ofNat document.size },
     { name := "mime_type", value := document.mimeType, isQuoted := true },
     { name := "sha256", value := document.sha256 }]

/-- A document is saved, and its directory made if it is missing. -/
def save {m : Type → Type} [Monad m] [Host m] (s : Saver) (document : Document) :
    m (Except Protocol.Error Path) := do
  match ← Host.makeDirectories s.dir with
  | .error e => pure (.error (.file e))
  | .ok () =>
    let path := s.target document.fileName
    match ← Host.writeFile path document.bytes with
    | .error e => pure (.error (.file e))
    | .ok () => do
      Host.log (saved path document)
      pure (.ok path)

end Saver

end Commissioning
