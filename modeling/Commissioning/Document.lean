import Commissioning.Calendar
import Commissioning.Payload
import Commissioning.Sha256
import Commissioning.Text.Hex

set_option autoImplicit false

/-! # Documents

A setup protocol once decoded: its bytes, its media type and the name it is saved under. The name
is made of a stem, the entity the protocol belongs to and the day of the download. -/

namespace Commissioning

/-- A decoded document, ready to be saved. -/
structure Document where
  bytes : List UInt8
  mimeType : String
  fileName : String
  deriving DecidableEq, Repr

namespace Document

/-- Setup protocols are PDF files. -/
def pdfMimeType : String := "application/pdf"

/-- The name that the protocol of an entity gets on a day: `stem-entity-dd.MM.yyyy.pdf`. -/
def protocolFileName (stem entity : String) (date : Date) : String :=
  stem ++ "-" ++ entity ++ "-" ++ String.ofList date.text ++ ".pdf"

/-- The document that a payload decodes to. -/
def ofPayload (payload fileName : String) : Except Base64.Fault Document := do
  let bytes ← Payload.decode payload
  .ok { bytes := bytes, mimeType := pdfMimeType, fileName := fileName }

/-- The number of bytes. -/
def size (document : Document) : Nat :=
  document.bytes.length

/-- Whether there are no bytes. -/
def isEmpty (document : Document) : Bool :=
  document.bytes.isEmpty

/-- The SHA-256 digest of the bytes, as sixty-four hexadecimal digits. -/
def sha256 (document : Document) : String :=
  Text.hexOfBytes (Sha256.digest document.bytes)

end Document

end Commissioning
