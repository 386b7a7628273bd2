import Commissioning.Http.Redirect
import Commissioning.Text.Pieces

set_option autoImplicit false

/-! # HTTP on the wire

The bytes of a request, and the response that the bytes received for it say. A connection carries
one request and is closed behind its response. -/

namespace Commissioning.Http

/-! ## Requests -/

/-- The lines before the content of a request. -/
def Hop.head (h : Hop) (host : String) : List String :=
  [h.method ++ " " ++ h.url.target ++ " HTTP/1.1", "host: " ++ host]
    ++ h.authorization.map ("authorization: " ++ ·)
    ++ h.referer.toList.map ("referer: " ++ ·)
    ++ (match h.content with
        | some (type, body) =>
          ["content-type: " ++ type, "content-length: " ++ Text.ofNat body.utf8ByteSize]
        | none => [])
    ++ ["connection: close", "", ""]

/-- The bytes of a request. -/
def Hop.wire (h : Hop) : List UInt8 :=
  let host := match h.url.authority with
    | some a => a.hostAndPort
    | none => ""
  let body := match h.content with
    | some (_, body) => body
    | none => ""
  Text.encodeUtf8 ("\r\n".intercalate (h.head host) ++ body)

/-! ## Responses -/

/-- The first line of a text, and what follows it; `none` without the end of a line. -/
def firstLine : List UInt8 → Option (List UInt8 × List UInt8)
  | [] => none
  | 13 :: 10 :: rest => some ([], rest)
  | b :: rest => (firstLine rest).map fun (line, rest) => (b :: line, rest)

theorem length_of_firstLine {bytes line rest : List UInt8}
    (h : firstLine bytes = some (line, rest)) : rest.length < bytes.length := by
  fun_induction firstLine bytes generalizing line with
  | case1 => simp at h
  | case2 more =>
    obtain ⟨-, rfl⟩ := Prod.mk.injEq .. ▸ Option.some.inj h
    simp only [List.length_cons]
    omega
  | case3 b more _ ih =>
    obtain ⟨⟨line', rest'⟩, hmore, heq⟩ := Option.map_eq_some_iff.1 h
    obtain ⟨-, rfl⟩ := Prod.mk.injEq .. ▸ heq
    have := ih hmore
    simp only [List.length_cons]
    omega

/-- The lines up to an empty one, and what follows that one. -/
def headLines (bytes : List UInt8) : Option (List (List UInt8) × List UInt8) :=
  match _h : firstLine bytes with
  | none => none
  | some ([], rest) => some ([], rest)
  | some (line, rest) => (headLines rest).map fun (lines, rest) => (line :: lines, rest)
termination_by bytes.length
decreasing_by exact length_of_firstLine _h

/-- The characters of a line, one a byte. -/
def characters (line : List UInt8) : List Char :=
  line.map fun b => Char.ofNat b.toNat

/-- A text without the spaces around it. -/
def trimSpaces (cs : List Char) : List Char :=
  let strip := List.dropWhile fun c => c == ' ' || c == '\t'
  (strip (strip cs).reverse).reverse

/-- The value of the first field with a lower-case name. -/
def fieldValue? (name : String) (lines : List (List UInt8)) : Option (List Char) :=
  lines.findSome? fun line =>
    let cs := characters line
    let key := (cs.takeWhile (· ≠ ':')).map Char.toLower
    if key = name.toList then some (trimSpaces ((cs.dropWhile (· ≠ ':')).drop 1)) else none

/-- The status in the first line of a response. -/
def statusOf? (line : List UInt8) : Option Nat :=
  match Text.pieces ' ' (characters line) with
  | version :: status :: _ =>
    if "HTTP/1.".toList.isPrefixOf version && status.length == 3 then Text.readDecimal status
    else none
  | _ => none

/-- The number that the hexadecimal digits before any extension of a chunk write. -/
def chunkSize? (line : List UInt8) : Option Nat :=
  let digits := trimSpaces ((characters line).takeWhile (· ≠ ';'))
  if digits.isEmpty then none
  else digits.foldlM (fun n c => (Text.hexValue c).map (16 * n + ·)) 0

/-- The content of a body in chunks, and whether the last chunk has come. -/
def chunked (bytes : List UInt8) : List UInt8 × Bool :=
  match _h : firstLine bytes with
  | none => ([], false)
  | some (line, rest) =>
    match chunkSize? line with
    | none => ([], false)
    | some 0 => ([], true)
    | some size =>
      if rest.length < size then (rest, false)
      else
        let (content, isWhole) := chunked (rest.drop (size + 2))
        (rest.take size ++ content, isWhole)
termination_by bytes.length
decreasing_by
  have := length_of_firstLine _h
  simp only [List.length_drop]
  omega

/-- The response with a status, the fields of its head and the bytes behind that. -/
def Response.ofParts (status : Nat) (fields : List (List UInt8)) (rest : List UInt8) : Response :=
  if fieldValue? "transfer-encoding" fields = some "chunked".toList then
    let (content, isWhole) := chunked rest
    { status := status, body := content, isWhole := isWhole }
  else
    let announced := (fieldValue? "content-length" fields).bind Text.readDecimal
    .received status rest (announced.getD rest.length)

/-- The place that the fields of a head name, if it is a text. -/
def location? (fields : List (List UInt8)) : Option String := do
  let value ← fieldValue? "location" fields
  Text.decodeUtf8 (value.map fun c => UInt8.ofNat c.toNat)

/-- The response in the bytes of a connection, behind any interim responses. -/
def Arrival.ofWire? (bytes : List UInt8) : Option Arrival :=
  match firstLine bytes with
  | none => none
  | some (line, rest) =>
    match statusOf? line, headLines rest with
    | some status, some (fields, body) =>
      if status < 200 ∧ status ≠ 101 ∧ body.length < bytes.length then Arrival.ofWire? body
      else some { response := .ofParts status fields body, location := location? fields }
    | _, _ => none
termination_by bytes.length

end Commissioning.Http
