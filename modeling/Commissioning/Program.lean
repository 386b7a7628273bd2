import Commissioning.CommandLine.Reader
import Commissioning.Environment
import Commissioning.Log.Line
import Commissioning.Session

set_option autoImplicit false

/-! # The program

What the tool does with a command line. It answers with an exit code: 0 when everything worked, 1
when something failed, and 2 when the command line is wrong. -/

namespace Commissioning.Program

/-! ## Failures -/

/-- An error that ends the program, and what it prevented. -/
structure Failure where
  context : String
  error : Error
  deriving DecidableEq, Repr

/-- A cause behind its number, if it has one, with its later lines below its first one. -/
def causeLines (number : Option Nat) (cause : String) : List String :=
  let first := match number with
    | some n => "    " ++ Text.ofNat n ++ ": "
    | none => "    "
  let other := String.ofList (List.replicate first.length ' ')
  match (Text.pieces '\n' cause.toList).map String.ofList with
  | [] => []
  | line :: lines => (first ++ line) :: lines.map (other ++ ·)

/-- The lines about a failure: what was prevented, then the error and what caused it. Several
causes are numbered. -/
def Failure.lines (f : Failure) : List String :=
  ["Error: " ++ f.context, "", "Caused by:"] ++
    match f.error.message :: f.error.causes with
    | [cause] => causeLines none cause
    | causes => causes.zipIdx.flatMap fun (cause, n) => causeLines (some n) cause

variable {m : Type → Type} [Monad m] [Host m]

/-- The failure is printed where errors go. -/
def fail (f : Failure) : m Nat := do
  f.lines.forM Host.printErrorLine
  pure 1

/-! ## Commands -/

/-- A notification is shown on the terminal. -/
def notify (n : Notification) : m Unit := do
  Host.log n.showing
  Host.printErrorLine n.line

/-- The configuration with the parts that a command replaces. -/
def configured (config : Config) : Command → Config
  | .download _ _ endpoint out =>
    { config with
      endpoint := endpoint.getD config.endpoint
      downloadDir := out.getD config.downloadDir }
  | _ => config

/-- The wizard of a session gets events, up to the first one that it refuses. -/
def replay (s : Session) : List ViewEvent → m Nat
  | [] => pure 0
  | event :: events =>
    match s.navigate event with
    | .error e => do
      Host.printErrorLine (event.name ++ ": " ++ e.message)
      pure 1
    | .ok (s, transition) => do
      Host.log transition.logged
      Host.printLine
        (event.name ++ " -> " ++ s.wizard.currentView ++ " (" ++ s.wizard.state.name ++ ")")
      replay s events

/-- A command is carried out in a session. -/
def perform (s : Session) : Command → m Nat
  | .download edgeId protocolId _ _ => do
    match ← s.download notify { edgeId := edgeId, setupProtocolId := some protocolId } with
    | .saved _ path _ => do
      Host.printLine path.text
      pure 0
    | .failed => pure 1
  | .features => do
    Host.printLine (Json.Value.array (s.features.areas.map (·.toJson))).pretty
    pure 0
  | .wizard events => replay s events

/-- The configuration that a command line names, or the one of the default file. -/
def loadConfig (env : Environment) : Option Path → m (Except Failure Config)
  | some path => do
    let result ← Config.load env path
    pure (result.mapError (Failure.mk ("failed to load config " ++ path.text)))
  | none => do
    let result ← Config.loadOrDefault env (Config.defaultPath env)
    pure (result.mapError (Failure.mk "failed to load default config"))

/-- A command line is carried out. -/
def run (env : Environment) (line : CommandLine) : m Nat := do
  match ← loadConfig env line.config with
  | .error failure => fail failure
  | .ok config => do
    match ← Session.openOn (configured config line.command) with
    | .error e => fail ⟨"failed to set up commissioning", e⟩
    | .ok s => perform s line.command

/-! ## From the words to the exit code -/

/-- What is told to someone whose command line is not carried out. -/
def inform : CommandLine.Halt → m Nat
  | .help scope => do
    Host.printLine scope.help
    pure 0
  | .version => do
    Host.printLine CommandLine.version
    pure 0
  | .nothing => do
    Host.printErrorLine (CommandLine.Scope.help none)
    pure 2
  | .fault f => do
    Host.printErrorLine ("error: " ++ f.message)
    pure 2

/-- The words of a command line are read and carried out in some way, once the log has its
filter. -/
def withLine (env : Environment) (words : List String)
    (body : Log.Filter → CommandLine → m Nat) : m Nat := do
  match CommandLine.read words with
  | .error halt => inform halt
  | .ok line => do
    let (filter, complaints) := Log.Filter.choose env.logFilter line.logLevel
    complaints.forM Host.printErrorLine
    body filter line

/-- The program, with the log of its host. -/
def main (env : Environment) (words : List String) : m Nat :=
  withLine env words fun _ line => run env line

/-- The program, with its log on the terminal. -/
def mainShown (env : Environment) (words : List String) : m Nat :=
  withLine env words fun filter line => (run env line : Log.Shown m Nat).run filter

end Commissioning.Program
