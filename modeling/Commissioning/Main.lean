import Commissioning.Http.Wire
import Commissioning.Program
import Std.Async.DNS
import Std.Async.TCP
import Std.Time

set_option autoImplicit false

/-! # The tool on the command line

The machine that the tool runs on when it is called from a terminal. Requests go over plain TCP and
are sent on where a response says so; a backend that only takes encrypted connections gives no
answer. -/

namespace Commissioning.Terminal

open Std.Async Std.Net

/-- The number of a system error, which may come with its sign turned. -/
def errorNumber (code : UInt32) : Nat :=
  min code.toNat (Nat.pow 2 32 - code.toNat)

/-- The error of the file system behind a failed operation. -/
def fileError : IO.Error → Files.Error
  | .noFileOrDirectory .. => .notFound
  | .alreadyExists .. => .alreadyExists
  | .inappropriateType _ code _ =>
    if errorNumber code = 20 then .notDirectory else .isDirectory
  | .invalidArgument _ code details =>
    if errorNumber code = 36 then .nameTooLong else .stated details
  | .permissionDenied _ code _ =>
    .stated ("Permission denied (os error " ++ Text.ofNat (errorNumber code) ++ ")")
  | e => .stated e.toString

/-- An operation on files, with its error as a value. -/
def tryFiles {α : Type} (action : IO α) : IO (Except Files.Error α) := do
  try
    return .ok (← action)
  catch e =>
    return .error (fileError e)

/-- The bytes of a list. -/
def ofBytes (bytes : List UInt8) : ByteArray :=
  ⟨bytes.toArray⟩

/-- The addresses of a host. -/
def addresses (host : Url.Host) : Async (List IPAddr) := do
  match host with
  | .address4 n =>
    return (IPv4Addr.ofString (String.ofList (Url.address4Text n))).toList.map .v4
  | .address6 groups =>
    return (IPv6Addr.ofString (String.ofList (Url.address6Text groups))).toList.map .v6
  | .domain name => return (← DNS.getAddrInfo name "").toList

/-- Everything that arrives on a connection. -/
partial def receiveAll (client : TCP.Socket.Client) (received : ByteArray) : Async ByteArray := do
  match ← client.recv? 65536 with
  | some bytes => receiveAll client (received ++ bytes)
  | none => return received

/-- The bytes that come back for some bytes. -/
def converse (address : IPAddr) (port : UInt16) (bytes : ByteArray) : Async ByteArray := do
  let client ← TCP.Socket.Client.mk
  client.connect (match address with
    | .v4 a => .v4 ⟨a, port⟩
    | .v6 a => .v6 ⟨a, port⟩)
  client.send bytes
  receiveAll client .empty

/-- What comes back for one request on its way. -/
def carry (hop : Http.Hop) : Async (Option Http.Arrival) := do
  match hop.url.scheme, hop.url.host? with
  | "http", some host =>
    match ← addresses host with
    | address :: _ => do
      let port := UInt16.ofNat (hop.url.portOrDefault?.getD 80)
      let bytes ← converse address port (ofBytes hop.wire)
      return Http.Arrival.ofWire? bytes.toList
    | [] => return none
  | _, _ => return none

/-- The last response to a request that is sent on so many times at most. -/
def follow (left : Nat) (hop : Http.Hop) : Async (Option Http.Response) := do
  match ← carry hop with
  | none => return none
  | some arrival =>
    match hop.next? arrival, left with
    | none, _ => return some arrival.response
    | some _, 0 => return none
    | some next, left + 1 => follow left next

/-- The response to a request, if there is one. -/
def exchange (request : Http.Request) : Async (Option Http.Response) :=
  follow Http.Hop.limit request.hop

/-- A random id of the fourth version. -/
def randomId : IO String := do
  let bytes := (← IO.getRandomBytes 16).toList
  let bytes := bytes.mapIdx fun i b =>
    if i = 6 then b &&& 0x0F ||| 0x40 else if i = 8 then b &&& 0x3F ||| 0x80 else b
  let digits := (Text.hexOfBytes bytes).toList
  let part (start size : Nat) : String := String.ofList ((digits.drop start).take size)
  return "-".intercalate [part 0 8, part 8 4, part 12 4, part 16 4, part 20 12]

/-- The current date. -/
def today : IO Date := do
  let d ← Std.Time.PlainDate.now
  let date := Date.of? d.year.toInt d.month.toNat d.day.toNat
  match date with
  | some date => return date
  | none => throw (IO.userError "the clock shows no date")

instance : Host IO where
  readFile path := tryFiles do return (← IO.FS.readBinFile path.text).toList
  pathExists path := do return ← (System.mkFilePath [path.text]).pathExists
  makeDirectories path := tryFiles (IO.FS.createDirAll path.text)
  writeFile path bytes := tryFiles (IO.FS.writeBinFile path.text (ofBytes bytes))
  exchange request := try (exchange request).block catch _ => return none
  today := today
  clock := do
    let now ← Std.Time.Timestamp.now
    let time := Std.Time.PlainDateTime.ofWallTime (.ofTimestamp now .zero)
    return time.format "uuuu-MM-dd'T'HH:mm:ss.SSSSSS'Z'"
  freshId := randomId
  log _ := return
  printLine := IO.println
  printErrorLine := IO.eprintln

/-- The variables that the tool looks at. -/
def environment : IO Environment := do
  return { home := ← IO.getEnv "HOME"
           dataHome := ← IO.getEnv "XDG_DATA_HOME"
           downloadDir := ← IO.getEnv "XDG_DOWNLOAD_DIR"
           logFilter := ← IO.getEnv "RUST_LOG" }

end Commissioning.Terminal

/-- The tool with the words of its command line. -/
def main (words : List String) : IO UInt32 := do
  let code ← Commissioning.Program.mainShown (← Commissioning.Terminal.environment) words
  return UInt32.ofNat code
