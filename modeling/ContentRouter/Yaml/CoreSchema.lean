import ContentRouter.Text.Characters

/-!
# What plain scalars denote

A plain scalar without a tag denotes null, a truth value, an integer or a floating-point number if
it has the form of one, and a text otherwise. Digits behind a leading zero are a text, and so is
what would be a number too large to be held.
-/

namespace ContentRouter

namespace Yaml

open Text (areDigits dropSign isFinite)

/-- The forms of null, besides nothing at all. -/
def isNull (text : String) : Bool :=
  ["null", "Null", "NULL", "~"].contains text

/-- The forms of the truth values. -/
def isTruthValue (text : String) : Bool :=
  ["true", "True", "TRUE", "false", "False", "FALSE"].contains text

/-- Digits behind a leading zero, with or without a sign. -/
def isPaddedNumber (chars : List Char) : Bool :=
  match dropSign ['+', '-'] chars with
  | '0' :: rest => areDigits rest
  | _ => false

/-- The base that a letter behind a zero stands for. -/
def base? : Char → Option Nat
  | 'x' => some 16
  | 'o' => some 8
  | 'b' => some 2
  | _ => none

/-- Whether a text is a zero, the letter of a base, and digits of a number below a limit. -/
def isBasedNumber (limit : Nat) : List Char → Bool
  | '0' :: letter :: digits =>
      match base? letter with
      | some base => !digits.isEmpty && (Text.numberIn? base digits).any (· < limit)
      | none => false
  | _ => false

/-- Whether a text is an integer in another base than ten, of at most 128 bits. -/
def isBasedInteger (chars : List Char) : Bool :=
  match chars with
  | '-' :: rest => isBasedNumber (Nat.pow 2 127 + 1) rest
  | _ => isBasedNumber (Nat.pow 2 128) (dropSign ['+'] chars)

/-- The exponent that a text states, zero if it is empty. -/
def exponent? : List Char → Option Int
  | [] => some 0
  | e :: rest =>
      if e == 'e' || e == 'E' then
        let digits := dropSign ['+', '-'] rest
        if areDigits digits then
          (Text.numberIn? 10 digits).map fun (n : Nat) =>
            if rest.head? == some '-' then -(n : Int) else (n : Int)
        else none
      else none

/-- Whether a text is a decimal number that can be held: digits, of which some may stand behind a
point, and possibly an exponent. -/
def isDecimal (chars : List Char) : Bool :=
  let whole := chars.takeWhile Text.isDigit
  let rest := chars.drop whole.length
  let fraction :=
    match rest with
    | '.' :: rest => rest.takeWhile Text.isDigit
    | _ => []
  let rest :=
    match rest with
    | '.' :: rest => rest.drop fraction.length
    | rest => rest
  let digits := whole ++ fraction
  !digits.isEmpty && (exponent? rest).any fun exponent => isFinite digits exponent fraction.length

/-- Whether a text is the form of an infinity or of what is no number. -/
def isSpecialFloat (chars : List Char) : Bool :=
  let text := String.ofList chars
  [".nan", ".NaN", ".NAN"].contains text ||
    [".inf", ".Inf", ".INF"].contains (String.ofList (dropSign ['+', '-'] chars))

/-- Whether a text is a number, written with at most one sign. -/
def isNumber (text : String) : Bool :=
  let chars := text.toList
  isBasedInteger chars || isSpecialFloat chars ||
    (!isPaddedNumber chars && isDecimal (dropSign ['+', '-'] chars))

/-- **Whether a plain scalar denotes a text.** -/
def denotesText (text : String) : Bool :=
  !(text.isEmpty || isNull text || isTruthValue text || isNumber text)

end Yaml

end ContentRouter
