import Commissioning.CommandLine.Help

set_option autoImplicit false

/-! # Reading command lines

The words of a command line are read from left to right. An option is settled, that is its value
is checked, only when the next one comes or the line ends, so that a word which fits nowhere is
reported before a value that is wrong. What follows a command is settled before what precedes it.
-/

namespace Commissioning.CommandLine

/-- What has been told so far. -/
structure Draft where
  config : Option Path := none
  logLevel : Option String := none
  edgeId : Option String := none
  protocolId : Option Protocol.Id := none
  endpoint : Option String := none
  out : Option Path := none
  events : List ViewEvent := []

/-- Why reading stops before a command line is complete. -/
inductive Halt where
  | fault (fault : Fault)
  /-- Someone asks for help. -/
  | help (scope : Scope)
  | version
  /-- Nothing was told at all. -/
  | nothing
  deriving DecidableEq, Repr

/-! ## Values -/

namespace Draft

/-- Whether an option already has a value. -/
def has (d : Draft) : Setting → Bool
  | .config => d.config.isSome
  | .logLevel => d.logLevel.isSome
  | .edgeId => d.edgeId.isSome
  | .protocolId => d.protocolId.isSome
  | .endpoint => d.endpoint.isSome
  | .out => d.out.isSome

/-- A path, which is never empty. -/
def pathOf (s : Setting) (value : String) : Except Fault Path :=
  if value.isEmpty then .error (.missingValue s) else .ok ⟨value⟩

/-- An option gets its value, which it has once at most. -/
def give (d : Draft) (s : Setting) (value : String) : Except Fault Draft :=
  if d.has s then .error (.repeated s)
  else
    match s with
    | .config => (pathOf s value).map fun p => { d with config := some p }
    | .logLevel => .ok { d with logLevel := some value }
    | .edgeId => .ok { d with edgeId := some value }
    | .protocolId =>
      match Protocol.Id.parse? value with
      | some id => .ok { d with protocolId := some id }
      | none => .error (.invalidValue value s.usage Protocol.Id.blankMessage)
    | .endpoint => .ok { d with endpoint := some value }
    | .out => (pathOf s value).map fun p => { d with out := some p }

/-- One more event for the wizard. -/
def addEvent (d : Draft) (word : String) : Except Fault Draft :=
  match ViewEvent.parse? word with
  | some event => .ok { d with events := d.events ++ [event] }
  | none => .error (.invalidValue word "<EVENTS>..." (ViewEvent.unknownMessage word))

end Draft

/-! ## Words -/

/-- What is read and not settled yet. -/
inductive Pending where
  | nothing
  /-- An option whose value has to come. -/
  | setting (setting : Setting)
  /-- An option with its value. -/
  | value (setting : Setting) (value : String)
  /-- The words that are to be events. -/
  | words (words : List String)
  deriving DecidableEq, Repr

/-- What is pending gets settled. -/
def settle (d : Draft) : Pending → Except Fault Draft
  | .nothing => .ok d
  | .setting s => .error (.missingValue s)
  | .value s value => d.give s value
  | .words words => words.foldlM Draft.addEvent d

/-- How a word looks. -/
inductive Word where
  /-- The word behind which nothing is an option. -/
  | dashes
  | long (name : String) (value : Option String)
  | short (letter : Char) (rest : List Char)
  | plain
  deriving DecidableEq, Repr

/-- The look of a word. -/
def Word.of (word : String) : Word :=
  match word.toList with
  | ['-', '-'] => .dashes
  | '-' :: '-' :: cs =>
    .long (String.ofList (cs.takeWhile (· ≠ '=')))
      (match cs.dropWhile (· ≠ '=') with
       | _ :: value => some (String.ofList value)
       | [] => none)
  | '-' :: c :: rest => .short c rest
  | _ => .plain

/-- What an option does. -/
inductive Role where
  | setting (setting : Setting)
  | help
  | version

/-- The option with a long name. -/
def Scope.long? (scope : Scope) (name : String) : Option Role :=
  match scope.settings.find? (·.name == name) with
  | some s => some (.setting s)
  | none =>
    if name = "help" then some .help
    else if name = "version" ∧ scope = none then some .version
    else none

/-- The option with a letter. -/
def Scope.short? (scope : Scope) (letter : Char) : Option Role :=
  match scope.settings.find? (·.letter? == some letter) with
  | some s => some (.setting s)
  | none =>
    if letter = 'h' then some .help
    else if letter = 'V' ∧ scope = none then some .version
    else none

/-- The value that follows the letter of an option in the same word, maybe behind an equals
sign. -/
def attached : List Char → Option String
  | [] => none
  | '=' :: value => some (String.ofList value)
  | value => some (String.ofList value)

/-- An option is read, with the value that belongs to its word if there is one. -/
def readOption (scope : Scope) (d : Draft) (pending : Pending) (role : Role)
    (value : Option String) : Except Halt (Draft × Pending) := do
  let d ← (settle d pending).mapError Halt.fault
  match role, value with
  | .setting s, none => .ok (d, .setting s)
  | .setting s, some value => do
    let d ← (d.give s value).mapError Halt.fault
    .ok (d, .nothing)
  | .help, _ => .error (.help scope)
  | .version, _ => .error .version

/-- A word that is no option and no command. -/
def readPlain (scope : Scope) (isPlain : Bool) (pending : Pending) (word : String) :
    Except Fault Pending :=
  match pending, isPlain with
  | .setting s, false => .ok (.value s word)
  | pending, _ =>
    match scope with
    | some .wizard =>
      match pending with
      | .words words => .ok (.words (words ++ [word]))
      | _ => .ok (.words [word])
    | some _ => .error (.unexpectedArgument word)
    | none =>
      if isPlain ∧ (Verb.ofName? word).isSome then .error (.unexpectedArgument word)
      else .error (.unknownCommand word)

/-- The command that a word starts: behind the two dashes no word does, nor does one that an
option waits for. -/
def startsCommand (scope : Scope) (isPlain : Bool) (pending : Pending) (word : String) :
    Option Verb :=
  match scope, isPlain, pending with
  | none, false, .setting _ => none
  | none, false, _ => Verb.ofName? word
  | _, _, _ => none

/-- The words of one part of a command line are read, up to its end or up to a command; the words
behind the command are left. Behind two dashes all words are plain. -/
def readWords (scope : Scope) (isPlain : Bool) (d : Draft) (pending : Pending) :
    List String → Except Halt (Draft × Pending × Option (Verb × List String))
  | [] => .ok (d, pending, none)
  | word :: rest =>
    match startsCommand scope isPlain pending word with
    | some verb => .ok (d, pending, some (verb, rest))
    | none =>
      match if isPlain then Word.plain else Word.of word with
      | .dashes => readWords scope true d pending rest
      | .long name value =>
        match scope.long? name, value with
        | some (.setting s), value => do
          let (d, pending) ← readOption scope d pending (.setting s) value
          readWords scope isPlain d pending rest
        | some _, some value => .error (.fault (.unexpectedValue value ("--" ++ name)))
        | some role, none => do
          let (d, pending) ← readOption scope d pending role none
          readWords scope isPlain d pending rest
        | none, _ => .error (.fault (.unexpectedArgument ("--" ++ name)))
      | .short letter more =>
        match scope.short? letter with
        | some role => do
          let (d, pending) ← readOption scope d pending role (attached more)
          readWords scope isPlain d pending rest
        | none => .error (.fault (.unexpectedArgument (String.ofList ['-', letter])))
      | .plain => do
        let pending ← (readPlain scope isPlain pending word).mapError Halt.fault
        readWords scope isPlain d pending rest

/-! ## Commands -/

/-- What help is asked on: the words name a command and nothing inside it. -/
def readHelp : List String → Halt
  | [] => .help none
  | word :: rest =>
    match Verb.ofName? word, rest with
    | some verb, [] => .help (some verb)
    | some _, inner :: _ => .fault (.unknownCommand inner)
    | none, _ => .fault (.unknownCommand word)

/-- The command of a part that has been read to its end. -/
def commandOf (verb : Verb) (d : Draft) : Except Halt Command :=
  match verb with
  | .download =>
    match d.edgeId, d.protocolId with
    | some edgeId, some protocolId => .ok (.download edgeId protocolId d.endpoint d.out)
    | _, _ => .error (.fault .missingArguments)
  | .features => .ok .features
  | .wizard =>
    if d.events.isEmpty then .error (.fault .missingArguments) else .ok (.wizard d.events)
  | .help => .error (.help none)

/-- The words behind a command are read. -/
def readCommand (verb : Verb) (words : List String) : Except Halt Command :=
  match verb with
  | .help => .error (readHelp words)
  | verb => do
    let (d, pending, _) ← readWords (some verb) false {} .nothing words
    let d ← (settle d pending).mapError Halt.fault
    commandOf verb d

/-- A command line is read. -/
def read (words : List String) : Except Halt CommandLine := do
  let (d, pending, command) ← readWords none false {} .nothing words
  match command with
  | some (verb, rest) => do
    let command ← readCommand verb rest
    let d ← (settle d pending).mapError Halt.fault
    .ok { config := d.config, logLevel := d.logLevel.getD "info", command := command }
  | none => do
    let d ← (settle d pending).mapError Halt.fault
    if d.config.isNone && d.logLevel.isNone then .error .nothing
    else .error (.fault .noCommand)

end Commissioning.CommandLine
