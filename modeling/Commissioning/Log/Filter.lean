import Commissioning.Log.Event
import Commissioning.Text.Alphanumeric
import Commissioning.Text.Blank
import Commissioning.Text.Decimal
import Commissioning.Text.Pieces

set_option autoImplicit false

/-! # Log filters

A filter says which events are shown. It is a list of directives such as `warn`, `ibn_core=debug`
or `[{views}]=trace`, each of which lets events pass down to some level; among those that concern
an event the most specific one decides. -/

namespace Commissioning.Log

/-! ## Thresholds -/

/-- How far down events are shown; `none` shows nothing. -/
abbrev Threshold := Option Level

/-- Whether an event of a level is shown. -/
def Threshold.admits (threshold : Threshold) (level : Level) : Bool :=
  match threshold with
  | some lowest => level.rank ≤ lowest.rank
  | none => false

/-- The names of the thresholds; the place of each is its number. -/
def Threshold.named : List (String × Threshold) :=
  [("off", none), ("error", some .error), ("warn", some .warn), ("info", some .info),
   ("debug", some .debug), ("trace", some .trace)]

/-- The digits of a numeral, which may start with a plus sign. -/
def unsigned : List Char → List Char
  | '+' :: digits => digits
  | digits => digits

/-- The threshold with a number or with a name in any case. -/
def Threshold.parse? (text : List Char) : Option Threshold :=
  match (Text.readDecimal (unsigned text)).bind (named[·]?) with
  | some (_, threshold) => some threshold
  | none => named.lookup (String.ofList (text.map Char.toLower))

/-! ## Directives -/

/-- What a directive is about and how far down it shows events. -/
structure Directive where
  /-- How the sources it is about start. -/
  source : Option String := none
  /-- The activity inside which an event has to happen. -/
  activity : Option String := none
  /-- A field that an event has to have. -/
  field : Option String := none
  /-- Whether the field has to have some value. -/
  asksForValue : Bool := false
  threshold : Threshold := some .trace
  deriving DecidableEq, Repr

namespace Directive

/-- Why a text is no directive. -/
inductive Fault where
  | malformed
  | unknownThreshold
  deriving DecidableEq, Repr

/-- The wording of a fault. -/
def Fault.message : Fault → String
  | malformed => "invalid filter directive"
  | unknownThreshold =>
    "error parsing level filter: expected one of \"off\", \"error\", \"warn\", \"info\", "
      ++ "\"debug\", \"trace\", or a number 0-5"

/-- The part of a directive that is being read, with the place where it started. -/
inductive Stage where
  | start
  | sourceOrThreshold
  | activity (start : Nat)
  | field (start : Nat)
  | afterField
  | afterBracket
  | threshold (start : Nat)

/-- The characters from one place up to another. -/
def cut (text : List Char) (start stop : Nat) : List Char :=
  (text.drop start).take (stop - start)

/-- The field of a directive, by its name and maybe its value. -/
def withField (d : Directive) (text : List Char) : Directive :=
  { d with
    field := some (String.ofList (text.takeWhile (· ≠ '=')))
    asksForValue := text.contains '=' }

/-- The next stage after a character at some place. The parts are cut from the text as it stands,
while the places are counted without the blanks at its start. -/
def next (text : List Char) (stage : Stage) (d : Directive) (place : Nat) (c : Char) :
    Except Fault (Stage × Directive) :=
  match stage, c with
  | .start, '[' => .ok (.activity (place + 1), d)
  | .start, c =>
    if c ∈ ['-', ':', '_'] ∨ Text.isAlphanumeric c then .ok (.sourceOrThreshold, d)
    else .error .malformed
  | .sourceOrThreshold, '=' =>
    .ok (.threshold (place + 1), { d with source := some (String.ofList (cut text 0 place)) })
  | .sourceOrThreshold, '[' =>
    .ok (.activity (place + 1), { d with source := some (String.ofList (cut text 0 place)) })
  | .activity start, ']' =>
    .ok (.afterBracket, { d with activity := some (String.ofList (cut text start place)) })
  | .activity start, '\x7b' =>
    let name := cut text start place
    .ok (.field (place + 1),
      { d with activity := if name.isEmpty then none else some (String.ofList name) })
  | .field start, '\x7d' =>
    let field := cut text start place
    if field.isEmpty then .error .malformed else .ok (.afterField, d.withField field)
  | .afterField, ']' => .ok (.afterBracket, d)
  | .afterField, _ => .error .malformed
  | .afterBracket, '=' => .ok (.threshold (place + 1), d)
  | .afterBracket, _ => .error .malformed
  | stage, _ => .ok (stage, d)

/-- The stage at the end of the remaining characters. -/
def run (text : List Char) (stage : Stage) (d : Directive) (place : Nat) :
    List Char → Except Fault (Stage × Directive)
  | [] => .ok (stage, d)
  | c :: rest => do
    let (stage, d) ← next text stage d place c
    run text stage d (place + 1) rest

/-- The directive that a text writes. A text alone is a threshold if it can be one, and otherwise
a source that is shown completely. -/
def parse (text : List Char) : Except Fault Directive := do
  let (stage, d) ← run text .start {} 0 (Text.trimBlanks text)
  match stage with
  | .sourceOrThreshold =>
    match Threshold.parse? text with
    | some threshold => .ok { d with threshold := threshold }
    | none => .ok { d with source := some (String.ofList text) }
  | .threshold start =>
    let name := text.drop start
    if name.isEmpty then .ok d
    else
      match Threshold.parse? name with
      | some threshold => .ok { d with threshold := threshold }
      | none => .error .unknownThreshold
  | .afterBracket => .ok d
  | _ => .error .malformed

/-! ## What a directive is about -/

/-- Whether a directive says anything about an event. Events happen inside no activity, and the
values of their fields are not compared. -/
def concerns (d : Directive) (e : Event) : Bool :=
  d.activity.isNone && !d.asksForValue
    && d.source.all (fun s => s.toList.isPrefixOf e.source.toList)
    && d.field.all (fun name => name == "message" || e.fields.any (·.name == name))

/-- The length of the source of a directive, counted so that every source is longer than none. -/
def reach (d : Directive) : Nat :=
  match d.source with
  | some s => s.utf8ByteSize + 1
  | none => 0

/-- Whether a directive is more specific than another one: by its source, then by its field. -/
def outranks (a b : Directive) : Bool :=
  b.reach < a.reach || (a.reach == b.reach &&
    match a.field, b.field with
    | some x, some y => decide (y < x)
    | some _, none => true
    | none, _ => false)

end Directive

/-! ## Filters -/

/-- Which events are shown. -/
structure Filter where
  directives : List Directive := []
  deriving DecidableEq, Repr

namespace Filter

/-- The most specific directive that concerns an event, the last one of several such. -/
def decisive? (f : Filter) (e : Event) : Option Directive :=
  (f.directives.filter (·.concerns e)).foldl
    (fun best d =>
      match best with
      | some b => if b.outranks d then best else some d
      | none => some d) none

/-- Whether an event is shown; one that no directive concerns is not. -/
def admits (f : Filter) (e : Event) : Bool :=
  match f.decisive? e with
  | some d => d.threshold.admits e.level
  | none => false

/-- The texts of the directives, one before and after each comma. -/
def texts (text : String) : List (List Char) :=
  (Text.pieces ',' text.toList).filter fun piece => !piece.isEmpty

/-- The filter that a text writes, if all of its directives are right. -/
def parse? (text : String) : Option Filter :=
  ((texts text).mapM Directive.parse).toOption.map Filter.mk

/-- What is said about a directive that is left out. -/
def complaint (text : List Char) (fault : Directive.Fault) : String :=
  "ignoring `" ++ String.ofList text ++ "`: " ++ fault.message

/-- The filter of the directives that are right, and a complaint about each other one. Without a
directive errors are shown. -/
def parseLeniently (text : String) : Filter × List String :=
  let read := (texts text).map fun piece => (piece, Directive.parse piece)
  let directives := read.filterMap (·.2.toOption)
  let complaints := read.filterMap fun (piece, result) =>
    match result with
    | .ok _ => none
    | .error fault => some (complaint piece fault)
  (⟨if directives.isEmpty then [{ threshold := some .error }] else directives⟩, complaints)

/-- The filter to work with: that of the environment if there is a right one, and otherwise that
of a level, with complaints about what is wrong in it. -/
def choose (setting : Option String) (level : String) : Filter × List String :=
  match setting.bind parse? with
  | some filter => (filter, [])
  | none => parseLeniently level

end Filter

end Commissioning.Log
