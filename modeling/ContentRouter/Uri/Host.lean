import ContentRouter.Text.Characters
import ContentRouter.Text.Pieces
import ContentRouter.Uri.Domain

/-!
# Hosts

What may stand as the host of a URI, and the reasons for refusing a URI, each with the wording that
messages use. Brackets always hold an IPv6 address: eight groups of up to four hexadecimal digits,
of which one run may be left out as `::` and the last two may be written as a dotted IPv4 address.

Beyond that an ordinary scheme takes any text without forbidden characters, while the host of a
special scheme is a domain name or, when its last label is a number, an IPv4 address: up to four
numbers in decimal, octal (leading `0`) or hexadecimal (leading `0x`), the last of which fills all
remaining bytes.
-/

namespace ContentRouter

/-- Why a text is refused as an absolute URI. -/
inductive UriFault
  /-- There is no scheme, and nothing that a relative reference could be resolved against. -/
  | relativeWithoutBase
  | emptyHost
  | invalidPort
  | invalidIpv4
  | invalidIpv6
  /-- The host of a special scheme does not become an ASCII domain name. -/
  | internationalDomain
  /-- The host of an ordinary scheme contains a character that no host may contain. -/
  | domainCharacter
  deriving DecidableEq, Repr

/-- The wording of a reason in a message. -/
def UriFault.message : UriFault → String
  | .relativeWithoutBase => "relative URL without a base"
  | .emptyHost => "empty host"
  | .invalidPort => "invalid port number"
  | .invalidIpv4 => "invalid IPv4 address"
  | .invalidIpv6 => "invalid IPv6 address"
  | .internationalDomain => "invalid international domain name"
  | .domainCharacter => "invalid domain character"

namespace Ipv4

/-- The number that one label denotes; `none` where the label is no number. -/
def number? (label : List Char) : Option Nat :=
  match label with
  | [] => none
  | '0' :: 'x' :: digits | '0' :: 'X' :: digits => Text.numberIn? 16 digits
  | '0' :: d :: digits => Text.numberIn? 8 (d :: digits)
  | digits => Text.numberIn? 10 digits

/-- The labels of a host, an empty label at the end left out. -/
def labels (host : List Char) : List (List Char) :=
  let all := Text.splitChars '.' host
  if all.getLast? = some [] then all.dropLast else all

/-- Whether the last label of a host makes it a numeric host: it consists of digits, or it reads as
a number in one of the three bases. -/
def endsInNumber (host : List Char) : Bool :=
  match (labels host).getLast? with
  | some label => (!label.isEmpty && label.all Text.isDigit) || (number? label).isSome
  | none => false

/-- Whether a numeric host is an address: at most four numbers, all but the last below 256, the
last one within the bytes that are left. -/
def isAddress (host : List Char) : Bool :=
  let parts := (labels host).map number?
  parts.length ≤ 4 &&
    match parts.reverse with
    | some last :: others =>
        others.all (fun part => part.any (· < 256)) && last < Nat.pow 256 (4 - others.length)
    | _ => false

end Ipv4

namespace Ipv6

/-- One number of a dotted tail: decimal, at most 255, no leading zero. -/
def isOctet (digits : List Char) : Bool :=
  !digits.isEmpty && digits.all Text.isDigit && (digits.length == 1 || digits.head? != some '0') &&
    (Text.numberIn? 10 digits).any (· ≤ 255)

/-- A dotted tail has exactly four numbers. -/
def isDottedTail (chars : List Char) : Bool :=
  let parts := Text.splitChars '.' chars
  parts.length == 4 && parts.all isOctet

/-- Whether `rest` completes an address of which `count` groups have been read. `shortened` says
whether the run written `::` has been met. -/
def completes (count : Nat) (shortened : Bool) (rest : List Char) : Bool :=
  if _room : count < 8 then
    match rest with
    | [] => shortened
    | ':' :: more => !shortened && completes (count + 1) true more
    | _ =>
        let group := (rest.take 4).takeWhile Text.isHexDigit
        match rest.drop group.length with
        | [] => completes (count + 1) shortened []
        | '.' :: _ =>
            !group.isEmpty && count ≤ 6 && (shortened || count == 6) && isDottedTail rest
        | ':' :: [] => false
        | ':' :: more => completes (count + 1) shortened more
        | _ => false
  else rest.isEmpty
termination_by 8 - count

/-- Whether a text is an IPv6 address. -/
def isAddress (chars : List Char) : Bool :=
  match chars with
  | ':' :: ':' :: rest => completes 1 true rest
  | ':' :: _ => false
  | [] | [_] => false
  | _ => completes 0 false chars

end Ipv6

namespace Host

/-- The characters that the host of an ordinary scheme may not contain. -/
def forbidden : List Char :=
  ['\x00', '\t', '\n', '\r', ' ', '#', '/', ':', '<', '>', '?', '@', '[', '\\', ']', '^', '|']

/-- A host in brackets. -/
def checkBracketed (inside : List Char) : Except UriFault Unit :=
  if inside.getLast? = some ']' && Ipv6.isAddress inside.dropLast then pure ()
  else throw .invalidIpv6

/-- The host of an ordinary scheme. -/
def checkOpaque (host : List Char) : Except UriFault Unit :=
  match host with
  | '[' :: inside => checkBracketed inside
  | _ => if host.any forbidden.contains then throw .domainCharacter else pure ()

/-- The host of a special scheme. -/
def checkSpecial (host : List Char) : Except UriFault Unit :=
  match host with
  | '[' :: inside => checkBracketed inside
  | _ =>
      match Domain.ofHost? host with
      | none => throw .internationalDomain
      | some [] => throw .emptyHost
      | some name =>
          if Ipv4.endsInNumber name && !Ipv4.isAddress name then throw .invalidIpv4 else pure ()

end Host

end ContentRouter
