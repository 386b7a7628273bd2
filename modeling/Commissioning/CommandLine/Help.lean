import Commissioning.CommandLine.Basic

set_option autoImplicit false

/-! # Help

What the tool tells about itself and its commands. -/

namespace Commissioning.CommandLine

/-- The name and the version of the tool. -/
def version : String := "ibn 0.1.0"

/-- What the tool is for. -/
def purpose : String := "IBN - Commissioning tool: setup protocol download"

/-- What a command is for. -/
def Verb.purpose : Verb → String
  | download => "Download the setup protocol of an installation"
  | features => "Print the registered feature areas as JSON"
  | wizard => "Replay navigation events through the wizard"
  | help => "Print this message or the help of the given subcommand(s)"

/-- What the value of an option means. -/
def Setting.meaning : Setting → String
  | config => "Path to the JSON configuration file"
  | logLevel => "Log level (trace, debug, info, warn, error) [default: info]"
  | edgeId => "Device the protocol belongs to"
  | protocolId => "Token returned when the protocol was generated"
  | endpoint => "Override the configured JSON-RPC endpoint"
  | out => "Override the configured download directory"

/-- How the rest of a command line is written behind the name of the tool. -/
def Scope.usage : Scope → String
  | none => "[OPTIONS] <COMMAND>"
  | some .download =>
    "download [OPTIONS] " ++ Setting.edgeId.usage ++ " " ++ Setting.protocolId.usage
  | some .features => "features"
  | some .wizard => "wizard <EVENTS>..."
  | some .help => "help [COMMAND]..."

/-- A list of terms, each with its meaning in a column of its own. -/
def glossary (title : String) (rows : List (String × String)) : List String :=
  let width := rows.foldl (fun width row => max width row.1.length) 0
  let line (row : String × String) : String :=
    "  " ++ row.1 ++ String.ofList (List.replicate (width - row.1.length) ' ') ++ "  " ++ row.2
  if rows.isEmpty then [] else "" :: (title ++ ":") :: rows.map line

/-- The commands, where one may follow. -/
def Scope.commandRows : Scope → List (String × String)
  | none => [Verb.download, .features, .wizard, .help].map fun v => (v.name, v.purpose)
  | some _ => []

/-- The arguments without a name. -/
def Scope.argumentRows : Scope → List (String × String)
  | some .wizard => [("<EVENTS>...", "Events in order: previous | next")]
  | some .help => [("[COMMAND]...", "Print help for the subcommand(s)")]
  | _ => []

/-- An option with its letter, or with a gap instead of one. -/
def Setting.row (s : Setting) : String × String :=
  ((match s.letter? with
    | some c => String.ofList ['-', c, ',', ' ']
    | none => "    ") ++ s.usage, s.meaning)

/-- The options. -/
def Scope.optionRows (scope : Scope) : List (String × String) :=
  let help := ("-h, --help", "Print help")
  match scope with
  | none => scope.settings.map Setting.row ++ [help, ("-V, --version", "Print version")]
  | some .help => []
  | some _ => scope.settings.map Setting.row ++ [help]

/-- The help on a part of a command line. -/
def Scope.help (scope : Scope) : String :=
  let about := match scope with
    | none => purpose
    | some verb => verb.purpose
  "\n".intercalate
    ([about, "", "Usage: ibn " ++ scope.usage] ++ glossary "Commands" scope.commandRows
      ++ glossary "Arguments" scope.argumentRows ++ glossary "Options" scope.optionRows)

end Commissioning.CommandLine
