/-!
# Characters and digits

White space and control characters as Unicode defines them, and the ASCII classes that several of
the textual formats share. Each class is a decidable test on one character.

Of numbers that are never computed with, only the digits are looked at: whether a text is made of
digits, and whether the number that it stands for can be held in the binary floating-point format of
64 bits.
-/

namespace ContentRouter

namespace Text

/-- The twenty-five characters with Unicode's `White_Space` property. -/
def isBlank (c : Char) : Bool :=
  let code := c.toNat
  (0x09 ≤ code && code ≤ 0x0D) || code == 0x20 || code == 0x85 || code == 0xA0 ||
    code == 0x1680 || (0x2000 ≤ code && code ≤ 0x200A) || code == 0x2028 || code == 0x2029 ||
    code == 0x202F || code == 0x205F || code == 0x3000

/-- The control characters: those of Unicode's general category `Cc`. -/
def isControl (c : Char) : Bool :=
  c.toNat < 0x20 || (0x7F ≤ c.toNat && c.toNat ≤ 0x9F)

/-- A decimal digit of ASCII. -/
def isDigit (c : Char) : Bool :=
  '0' ≤ c && c ≤ '9'

/-- A letter of ASCII. -/
def isLetter (c : Char) : Bool :=
  ('a' ≤ c && c ≤ 'z') || ('A' ≤ c && c ≤ 'Z')

/-- The value of a digit in bases up to sixteen, both cases of letter allowed. -/
def digitValue? (c : Char) : Option Nat :=
  if isDigit c then some (c.toNat - '0'.toNat)
  else if 'a' ≤ c && c ≤ 'f' then some (c.toNat - 'a'.toNat + 10)
  else if 'A' ≤ c && c ≤ 'F' then some (c.toNat - 'A'.toNat + 10)
  else none

/-- A hexadecimal digit. -/
def isHexDigit (c : Char) : Bool :=
  (digitValue? c).isSome

/-- The number that a list of digits denotes in a base, or `none` where a character is not a digit
of that base. No digits denote zero. -/
def numberIn? (base : Nat) (digits : List Char) : Option Nat :=
  digits.foldl
    (fun value c =>
      match value, digitValue? c with
      | some v, some d => if d < base then some (v * base + d) else none
      | _, _ => none)
    (some 0)

/-- The hexadecimal digits of a number, in lower case and without leading zeros. -/
def hexDigits (n : Nat) : String :=
  String.ofList (Nat.toDigits 16 n)

/-- The lower-case form of an ASCII letter; every other character stays as it is. -/
def lower (c : Char) : Char :=
  if 'A' ≤ c && c ≤ 'Z' then Char.ofNat (c.toNat + 32) else c

/-- Every ASCII letter of a text in lower case. -/
def lowered (text : String) : String :=
  String.ofList (text.toList.map lower)


/-- Whether a text is a list of digits, with at least one of them. -/
def areDigits (chars : List Char) : Bool :=
  !chars.isEmpty && chars.all Text.isDigit

/-- The rest of a text behind one sign of the given kind, or the text itself. -/
def dropSign (signs : List Char) : List Char → List Char
  | [] => []
  | c :: rest => if signs.contains c then rest else c :: rest

/-- The least magnitude that rounds to infinity in the binary format of 64 bits. -/
def infinityBound : Nat := Nat.pow 2 1024 - Nat.pow 2 970

/-- Whether `digits * 10 ^ (exponent - fraction)` stays below the magnitudes that round to infinity.
Only numbers close to the bound are compared with it digit by digit. -/
def isFinite (digits : List Char) (exponent : Int) (fraction : Nat) : Bool :=
  let significant := digits.dropWhile (· == '0')
  let shift := exponent - fraction
  let magnitude := shift + significant.length
  if significant.isEmpty || magnitude < 300 then true
  else if 320 < magnitude then false
  else
    match Text.numberIn? 10 significant with
    | none => false
    | some number =>
        if 0 ≤ shift then number * Nat.pow 10 shift.toNat < infinityBound
        else number < infinityBound * Nat.pow 10 (-shift).toNat

end Text

end ContentRouter
