import Commissioning.Url.Basic
import Commissioning.Url.Domain
import Commissioning.Url.Percent

set_option autoImplicit false

/-! # Hosts

Hosts as they are read from a URL: an address in brackets, a domain name, a numeric address that
looks like a name, or, where the scheme says nothing about hosts, any text without separators. -/

namespace Commissioning.Url

/-- Why a text is no URL. -/
inductive Fault where
  | emptyHost
  | invalidName
  | invalidPort
  | invalidAddress4
  | invalidAddress6
  | invalidCharacter
  | relative
  deriving DecidableEq, Repr

/-- The wording of a fault. -/
def Fault.message : Fault → String
  | emptyHost => "empty host"
  | invalidName => "invalid international domain name"
  | invalidPort => "invalid port number"
  | invalidAddress4 => "invalid IPv4 address"
  | invalidAddress6 => "invalid IPv6 address"
  | invalidCharacter => "invalid domain character"
  | relative => "relative URL without a base"

/-- An address of version 6 in brackets, from behind the opening one. -/
def bracketed (text : List Char) : Except Fault Host :=
  match text.reverse with
  | ']' :: inside =>
    match Url.address6 inside.reverse with
    | some groups => .ok (.address6 groups)
    | none => .error .invalidAddress6
  | _ => .error .invalidAddress6

/-- The host of a scheme that knows about hosts. -/
def specialHost (text : List Char) : Except Fault Host :=
  match text with
  | '[' :: rest => bracketed rest
  | _ =>
    match domainToAscii (percentDecode (Text.encodeChars text)) with
    | none => .error .invalidName
    | some name =>
      if name.isEmpty then .error .emptyHost
      else if endsInNumber name then
        match Url.address4 name with
        | some n => .ok (.address4 n)
        | none => .error .invalidAddress4
      else .ok (.domain (String.ofList name))

/-- The characters that no host has. -/
def isForbiddenInHost (c : Char) : Bool :=
  ['\x00', '\t', '\n', '\r', ' ', '#', '/', ':', '<', '>', '?', '@', '[', '\\', ']', '^', '|']
    |>.contains c

/-- The host of a scheme that says nothing about hosts; it may be empty. -/
def opaqueHost (text : List Char) : Except Fault (Option Host) :=
  match text with
  | '[' :: rest => (bracketed rest).map some
  | [] => .ok none
  | _ =>
    if text.any isForbiddenInHost then .error .invalidCharacter
    else .ok (some (.domain (String.ofList (percentEncode isControl text))))

end Commissioning.Url
