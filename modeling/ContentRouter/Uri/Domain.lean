import ContentRouter.Text.Characters
import ContentRouter.Text.Composition
import ContentRouter.Uri.Mapping
import ContentRouter.Uri.Trait

/-!
# Domain names

The hosts of special schemes are domain names. A host is percent-decoded and must be well-formed
UTF-8. Its characters are brought into the form in which they would be looked up; then no character
may be left that no domain name may contain, and every label has to keep the rules for labels.

A label is what stands between two dots of a domain name. It may not begin with a mark, and the two
joiners that nobody sees may stand only where they make a difference. A label in Punycode (`xn--`)
is written in ASCII: first the characters that are ASCII already, then, as numbers of variable
length, where the others have to be inserted. It has to encode a label with a character outside
ASCII that is already in the form in which it would be looked up.

If anything in a domain name is written from right to left, every label of the name has to keep one
direction, so that it cannot be misread.
-/

namespace ContentRouter

namespace Punycode

/-- The bias of the next delta, after `count` code points have been placed. -/
def adapt (delta count : Nat) (first : Bool) : Nat :=
  let scaled := if first then delta / 700 else delta / 2
  let start := scaled + scaled / count
  let rec shrink (fuel d k : Nat) : Nat :=
    match fuel with
    | 0 => k
    | fuel + 1 => if 455 < d then shrink fuel (d / 35) (k + 36) else k + 36 * d / (d + 38)
  shrink start.log2.succ start 0

/-- The value of a digit of base 36: letters first, then the decimal digits. -/
def digit? (c : Char) : Option Nat :=
  if 'a' ≤ c && c ≤ 'z' then some (c.toNat - 'a'.toNat)
  else if Text.isDigit c then some (c.toNat - '0'.toNat + 26)
  else none

/-- The least number that is too large to be held. -/
def limit : Nat := Nat.pow 2 32

/-- One number of variable length: its value with the digits that follow it. -/
def delta? (bias weight k value : Nat) : List Char → Option (Nat × List Char)
  | [] => none
  | c :: rest =>
      match digit? c with
      | none => none
      | some d =>
          let threshold := if k ≤ bias then 1 else if bias + 26 ≤ k then 26 else k - bias
          let value := value + d * weight
          let next := weight * (36 - threshold)
          if limit ≤ value then none
          else if d < threshold then some (value, rest)
          else if limit ≤ next then none
          else delta? bias next (k + 36) value rest

/-- Places the code points that the remaining digits describe into `placed`. Every round reads at
least one digit, so `fuel` is their number. -/
def insertions? (fuel point index bias : Nat) (placed : List Nat) (digits : List Char) :
    Option (List Nat) :=
  match fuel, digits with
  | _, [] => some placed
  | 0, _ => none
  | fuel + 1, digits =>
      match delta? bias 1 36 0 digits with
      | none => none
      | some (delta, rest) =>
          let count := placed.length + 1
          let total := index + delta
          let point := point + total / count
          let place := total % count
          if 0x10FFFF < point || (0xD800 ≤ point && point ≤ 0xDFFF) then none
          else
            insertions? fuel point (place + 1) (adapt delta count (placed.all (· < 128)))
              (placed.take place ++ point :: placed.drop place) rest

/-- The characters that a Punycode text encodes. The part before the last hyphen stands for itself
and has to be ASCII; a hyphen at the very beginning is no digit. -/
def decode? (text : List Char) : Option (List Char) :=
  let digits := (text.reverse.takeWhile (· != '-')).reverse
  let basic := text.take (text.length - digits.length - 1)
  let digits := if basic.isEmpty then text else digits
  if basic.all (·.toNat < 0x80) then
    (insertions? digits.length 128 0 72 (basic.map Char.toNat) digits).map (·.map Char.ofNat)
  else none

end Punycode

namespace Domain

/-- A character that no domain name may contain. -/
def isForbidden (c : Char) : Bool :=
  c.toNat ≤ 0x20 || c.toNat == 0x7F ||
    ['%', '#', '/', ':', '<', '>', '?', '@', '[', '\\', ']', '^', '|'].contains c

/-- Whether a character belongs to ASCII. -/
def isAscii (c : Char) : Bool := c.toNat < 0x80

/-- The joiner that keeps two letters apart. -/
def nonJoiner : Char := '\u200c'

/-- The joiner that puts two letters together. -/
def joiner : Char := '\u200d'

/-- How the first character that takes part in joining is joined. -/
def firstJoining (chars : List Char) : Joining :=
  ((chars.map fun c => (traitOf c).joining).find? (· ≠ .transparent)).getD .none

/-- Whether a joiner makes a difference between the characters before it, the nearest one first, and
those behind it. -/
def joinerFits (c : Char) (before rest : List Char) : Bool :=
  before.head?.any Text.isVirama ||
    (c == nonJoiner && [.left, .dual].contains (firstJoining before) &&
      [.right, .dual].contains (firstJoining rest))

/-- Whether every joiner makes a difference. `before` are the characters already passed, the nearest
one first. -/
def joinersFit (before : List Char) : List Char → Bool
  | [] => true
  | c :: rest =>
      (!(c == nonJoiner || c == joiner) || joinerFits c before rest) &&
        joinersFit (c :: before) rest

/-- How many characters a label may have if one of them is outside ASCII. -/
def greatestLength : Nat := 1000

/-- Whether a label that is not in Punycode may stand in a domain name. -/
def isPlainLabel (label : List Char) : Bool :=
  !label.head?.any (fun c => (traitOf c).isMark) && joinersFit [] label &&
    (label.all isAscii || label.length ≤ greatestLength)

/-- The label that Punycode behind `xn--` stands for, if it stands for one. -/
def decoded? (encoded : List Char) : Option (List Char) := do
  if encoded.getLast? == some '-' || 2 * greatestLength < encoded.length then none
  else
    let label ← Punycode.decode? encoded
    if label.all isAscii || !label.all (fun c => isKept c && !isForbidden c) ||
        Text.composed label != label then none
    else return label

/-- The label that a label stands for: itself, or what it encodes. -/
def label? (label : List Char) : Option (List Char) := do
  let shown ←
    match label with
    | 'x' :: 'n' :: '-' :: '-' :: encoded => decoded? encoded
    | label => some label
  if isPlainLabel shown then return shown else none

/-- Whether a character is written from right to left. -/
def isRightToLeft (c : Char) : Bool :=
  [.rightToLeft, .arabicLetter, .arabicNumber].contains (traitOf c).direction

/-- What may stand in a label of either direction. -/
def neutral : List Direction :=
  [.europeanNumber, .europeanSeparator, .europeanTerminator, .commonSeparator, .nonspacingMark,
    .boundaryNeutral, .otherNeutral]

/-- Whether a label keeps one direction, which its first letter shows. Marks at its end do not
count. -/
def keepsDirection (label : List Char) : Bool :=
  match label.map fun c => (traitOf c).direction with
  | [] => true
  | first :: rest =>
      let rest := (rest.reverse.dropWhile (· == .nonspacingMark)).reverse
      let last := rest.getLast?.getD first
      match first with
      | .leftToRight =>
          [.leftToRight, .europeanNumber].contains last &&
            rest.all (.leftToRight :: neutral).contains
      | .rightToLeft | .arabicLetter =>
          [.rightToLeft, .arabicLetter, .europeanNumber, .arabicNumber].contains last &&
            rest.all (.rightToLeft :: .arabicLetter :: .arabicNumber :: neutral).contains &&
            !(rest.contains .europeanNumber && rest.contains .arabicNumber)
      | _ => false


/-- The byte that two hexadecimal digits name. -/
def hexByte? (high low : UInt8) : Option UInt8 :=
  match Text.digitValue? (Char.ofNat high.toNat), Text.digitValue? (Char.ofNat low.toNat) with
  | some h, some l => some (UInt8.ofNat (16 * h + l))
  | _, _ => none

/-- The bytes of a text with every `%` that is followed by two hexadecimal digits replaced by the
byte they name. -/
def percentDecoded : List UInt8 → List UInt8
  | byte :: high :: low :: rest =>
      match hexByte? high low with
      | some decoded =>
          if byte == 0x25 then decoded :: percentDecoded rest
          else byte :: percentDecoded (high :: low :: rest)
      | none => byte :: percentDecoded (high :: low :: rest)
  | byte :: rest => byte :: percentDecoded rest
  | [] => []

/-- The form in which the characters of a name are looked up. -/
def lookupForm? (name : List Char) : Option (List Char) := do
  let mapped ← name.mapM mapped?
  return Text.composed mapped.flatten

/-- The domain that a host names, if it names one. -/
def ofHost? (host : List Char) : Option (List Char) := do
  let bytes := percentDecoded (String.ofList host).toUTF8.toList
  let name ← lookupForm? (← String.fromUTF8? ⟨bytes.toArray⟩).toList
  let labels ← (Text.splitChars '.' name).mapM label?
  if name.any isForbidden || (labels.any (·.any isRightToLeft) && !labels.all keepsDirection) then
    none
  else return name

end Domain

end ContentRouter
