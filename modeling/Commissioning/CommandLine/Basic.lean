import Commissioning.Files.Path
import Commissioning.Protocol.Id
import Commissioning.Wizard.Event

set_option autoImplicit false

/-! # Command lines

What the tool can be told on its command line, and the words in which that is written. -/

namespace Commissioning

/-- What the tool is to do. -/
inductive Command where
  /-- The setup protocol of a device is downloaded; parts of the configuration may be replaced. -/
  | download (edgeId : String) (protocolId : Protocol.Id) (endpoint : Option String)
      (out : Option Path)
  /-- The registered areas are shown. -/
  | features
  /-- The wizard gets events. -/
  | wizard (events : List ViewEvent)
  deriving DecidableEq, Repr

/-- A command with the settings that hold for every command. -/
structure CommandLine where
  config : Option Path := none
  logLevel : String := "info"
  command : Command
  deriving DecidableEq, Repr

namespace CommandLine

/-! ## Words -/

/-- The words that name a command. -/
inductive Verb where
  | download
  | features
  | wizard
  | help
  deriving DecidableEq, Repr

/-- The word of a command. -/
def Verb.name : Verb → String
  | download => "download"
  | features => "features"
  | wizard => "wizard"
  | help => "help"

/-- The command that a word names. -/
def Verb.ofName? (word : String) : Option Verb :=
  [Verb.download, .features, .wizard, .help].find? (·.name == word)

/-- The options that take a value. -/
inductive Setting where
  | config
  | logLevel
  | edgeId
  | protocolId
  | endpoint
  | out
  deriving DecidableEq, Repr

namespace Setting

/-- The long name of an option. -/
def name : Setting → String
  | config => "config"
  | logLevel => "log-level"
  | edgeId => "edge-id"
  | protocolId => "protocol-id"
  | endpoint => "endpoint"
  | out => "out"

/-- The letter of an option, if it has one. -/
def letter? : Setting → Option Char
  | config => some 'c'
  | out => some 'o'
  | _ => none

/-- What stands for the value of an option. -/
def placeholder : Setting → String
  | config => "CONFIG"
  | logLevel => "LOG_LEVEL"
  | edgeId => "EDGE_ID"
  | protocolId => "PROTOCOL_ID"
  | endpoint => "ENDPOINT"
  | out => "OUT"

/-- An option as it is written with a value. -/
def usage (s : Setting) : String :=
  "--" ++ s.name ++ " <" ++ s.placeholder ++ ">"

end Setting

/-- The part of a command line before a command, or the part that belongs to one. -/
abbrev Scope := Option Verb

/-- The options that a part of a command line may hold. -/
def Scope.settings : Scope → List Setting
  | none => [.config, .logLevel]
  | some .download => [.edgeId, .protocolId, .endpoint, .out]
  | some _ => []

/-! ## Faults -/

/-- Why a command line is refused. -/
inductive Fault where
  | unexpectedArgument (argument : String)
  | unexpectedValue (value flag : String)
  | unknownCommand (word : String)
  | noCommand
  | missingValue (setting : Setting)
  | repeated (setting : Setting)
  | invalidValue (value usage reason : String)
  | missingArguments
  deriving DecidableEq, Repr

/-- The wording of a fault. -/
def Fault.message : Fault → String
  | unexpectedArgument argument => "unexpected argument '" ++ argument ++ "' found"
  | unexpectedValue value flag =>
    "unexpected value '" ++ value ++ "' for '" ++ flag ++ "' found; no more were expected"
  | unknownCommand word => "unrecognized subcommand '" ++ word ++ "'"
  | noCommand => "'ibn' requires a subcommand but one was not provided"
  | missingValue setting =>
    "a value is required for '" ++ setting.usage ++ "' but none was supplied"
  | repeated setting => "the argument '" ++ setting.usage ++ "' cannot be used multiple times"
  | invalidValue value usage reason =>
    "invalid value '" ++ value ++ "' for '" ++ usage ++ "': " ++ reason
  | missingArguments => "the following required arguments were not provided:"

end CommandLine

end Commissioning
