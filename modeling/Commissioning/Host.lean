import Commissioning.Calendar
import Commissioning.Files.Error
import Commissioning.Files.Path
import Commissioning.Http.Message
import Commissioning.Log.Event

set_option autoImplicit false

/-! # Hosts

What the tool needs from the machine it runs on: files, an exchange of HTTP messages, the date,
fresh ids, a log and a terminal. -/

namespace Commissioning

/-- The machine that the tool runs on. -/
class Host (m : Type → Type) where
  /-- The bytes of a file. -/
  readFile : Path → m (Except Files.Error (List UInt8))
  /-- Whether a path leads to something. -/
  pathExists : Path → m Bool
  /-- A directory is made, with all those above it that are missing. -/
  makeDirectories : Path → m (Except Files.Error Unit)
  /-- A file gets other bytes; it is made if it is not there. -/
  writeFile : Path → List UInt8 → m (Except Files.Error Unit)
  /-- The response to a request, if there is one. Where the answer to it sends elsewhere, the host
  goes there by itself: an exchange is one request of the tool with the last response to it. -/
  exchange : Http.Request → m (Option Http.Response)
  /-- The current date. -/
  today : m Date
  /-- The current time as the log shows it. -/
  clock : m String
  /-- An id that no request has had. -/
  freshId : m String
  /-- An event is logged. -/
  log : Log.Event → m Unit
  /-- A line is printed. -/
  printLine : String → m Unit
  /-- A line is printed where errors go. -/
  printErrorLine : String → m Unit

/-- A host stays one when a state of one's own is carried along. -/
instance {m : Type → Type} [Monad m] [Host m] {σ : Type} : Host (StateT σ m) where
  readFile path := StateT.lift (Host.readFile path)
  pathExists path := StateT.lift (Host.pathExists path)
  makeDirectories path := StateT.lift (Host.makeDirectories path)
  writeFile path bytes := StateT.lift (Host.writeFile path bytes)
  exchange request := StateT.lift (Host.exchange request)
  today := StateT.lift Host.today
  clock := StateT.lift Host.clock
  freshId := StateT.lift Host.freshId
  log event := StateT.lift (Host.log event)
  printLine line := StateT.lift (Host.printLine line)
  printErrorLine line := StateT.lift (Host.printErrorLine line)

end Commissioning
