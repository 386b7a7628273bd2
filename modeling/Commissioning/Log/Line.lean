import Commissioning.Host
import Commissioning.Log.Filter
import Commissioning.Text.Quoted

set_option autoImplicit false

/-! # Log lines

An event as one line of text, and a host that prints such lines instead of keeping the events. -/

namespace Commissioning.Log

/-- The controls that steer a terminal. -/
def steersTerminal (c : Char) : Bool :=
  ['\x07', '\x08', '\x0c', '\x1b', '\x7f'].contains c

/-- A character of a value. Controls that could steer a terminal are shown by their number. -/
def shownChar (c : Char) : List Char :=
  if steersTerminal c then
    ['\\', 'x', Text.hexDigit (c.toNat / 16), Text.hexDigit c.toNat]
  else if 0x80 ≤ c.toNat ∧ c.toNat ≤ 0x9F then
    '\\' :: 'u' :: '\x7b' :: Text.hexadecimal c.toNat ++ ['\x7d']
  else [c]

/-- A value of an event. -/
def shown (value : String) : String :=
  String.ofList (value.toList.flatMap shownChar)

/-- A field of an event: its name and its value, or the value alone where the name says nothing
new. -/
def Field.text (f : Field) : String :=
  let value := shown (if f.isQuoted then Text.quoted f.value else f.value)
  if f.name = "message" then value else f.name ++ "=" ++ value

/-- The name of a level, as wide as the widest one. -/
def Level.column (l : Level) : String :=
  String.ofList (List.replicate (5 - l.name.length) ' ') ++ l.name

/-- The line of an event that happened at some time. -/
def Event.line (e : Event) (time : String) : String :=
  " ".intercalate
    (time :: e.level.column :: (e.source ++ ":") :: shown e.message :: e.fields.map (·.text))

/-! ## Hosts that show their log -/

/-- What is done on a host that prints its log through a filter. -/
abbrev Shown (m : Type → Type) := ReaderT Filter m

variable {m : Type → Type} [Monad m] [Host m]

/-- An event is printed where errors go, if the filter lets it pass. -/
def print (f : Filter) (e : Event) : m Unit := do
  if f.admits e then
    let time ← Host.clock
    Host.printErrorLine (e.line time)

instance : Host (Shown m) where
  readFile path _ := Host.readFile path
  pathExists path _ := Host.pathExists path
  makeDirectories path _ := Host.makeDirectories path
  writeFile path bytes _ := Host.writeFile path bytes
  exchange request _ := Host.exchange request
  today _ := Host.today
  clock _ := Host.clock
  freshId _ := Host.freshId
  log event filter := print filter event
  printLine line _ := Host.printLine line
  printErrorLine line _ := Host.printErrorLine line

end Commissioning.Log
