import ContentRouter.Text.Characters

/-!
# TOML values without quotes

Truth values, numbers, dates and times. No setting is anything but a text, so these are only told
apart and checked: a number has to have one of the forms of a number and be small enough to be held,
and a date has to be in the calendar.
-/

namespace ContentRouter

namespace Toml

open Text (isDigit areDigits dropSign isFinite)

/-- The digits of a number without underscores. An underscore has to stand between two digits. -/
def plainDigits? (isDigit : Char → Bool) : List Char → Option (List Char)
  | [] => none
  | [c] => if isDigit c then some [c] else none
  | c :: '_' :: next :: rest =>
      if isDigit c then (plainDigits? isDigit (next :: rest)).map (c :: ·) else none
  | c :: rest => if isDigit c then (plainDigits? isDigit rest).map (c :: ·) else none

/-- The digits of a decimal number before a point or an exponent: no padding with zeros. -/
def wholeDigits? (chars : List Char) : Option (List Char) := do
  let digits ← plainDigits? isDigit chars
  match digits with
  | '0' :: _ :: _ => none
  | digits => return digits

/-- Whether a text is an integer in another base than ten, of at most 128 bits. -/
def isBasedInteger (chars : List Char) : Bool :=
  let inBase (base : Nat) (digits : List Char) : Bool :=
    ((plainDigits? Text.isHexDigit digits).bind (Text.numberIn? base)).any (· < Nat.pow 2 128)
  match chars with
  | '0' :: 'x' :: digits => inBase 16 digits
  | '0' :: 'o' :: digits => inBase 8 digits
  | '0' :: 'b' :: digits => inBase 2 digits
  | _ => false

/-- Whether a text is a decimal integer of at most 128 bits. -/
def isInteger (chars : List Char) : Bool :=
  let limit := if chars.head? == some '-' then Nat.pow 2 127 + 1 else Nat.pow 2 128
  ((wholeDigits? (dropSign ['+', '-'] chars)).bind (Text.numberIn? 10)).any (· < limit)

/-- The part of a number before its exponent, and the exponent. -/
def splitExponent? (chars : List Char) : Option (List Char × Option Int) :=
  let mantissa := chars.takeWhile fun c => c != 'e' && c != 'E'
  match chars.drop mantissa.length with
  | [] => some (mantissa, none)
  | _ :: exponent => do
      let digits ← plainDigits? isDigit (dropSign ['+', '-'] exponent)
      let size ← Text.numberIn? 10 digits
      let value : Int := if exponent.head? == some '-' then -(size : Int) else size
      return (mantissa, some value)

/-- Whether a text is a floating-point number: with a fraction, an exponent, or both. -/
def isFloat (chars : List Char) : Bool :=
  let unsigned := dropSign ['+', '-'] chars
  if ["inf", "nan"].contains (String.ofList unsigned) then true
  else
    match splitExponent? unsigned with
    | none => false
    | some (mantissa, exponent) =>
        let whole := mantissa.takeWhile (· != '.')
        match wholeDigits? whole, mantissa.drop whole.length with
        | some digits, [] => exponent.any fun exponent => isFinite digits exponent 0
        | some digits, _ :: fraction =>
            (plainDigits? isDigit fraction).any fun fraction =>
              isFinite (digits ++ fraction) (exponent.getD 0) fraction.length
        | none, _ => false

/-- The number of days in a month. -/
def daysIn (year month : Nat) : Nat :=
  if month == 2 then
    if year % 4 == 0 && (year % 100 != 0 || year % 400 == 0) then 29 else 28
  else if [4, 6, 9, 11].contains month then 30
  else 31

/-- The number that some digits stand for, if there are as many as stated. -/
def fixedNumber? (width : Nat) (digits : List Char) : Option Nat :=
  if digits.length = width && digits.all isDigit then Text.numberIn? 10 digits else none

/-- Whether a text is a day of the calendar. -/
def isDate (chars : List Char) : Bool :=
  match chars with
  | a :: b :: c :: d :: '-' :: e :: f :: '-' :: day =>
      match fixedNumber? 4 [a, b, c, d], fixedNumber? 2 [e, f], fixedNumber? 2 day with
      | some year, some month, some day =>
          1 ≤ month && month ≤ 12 && 1 ≤ day && day ≤ daysIn year month
      | _, _, _ => false
  | _ => false

/-- Whether a text is an hour and a minute. -/
def isHourMinute (chars : List Char) : Bool :=
  match chars with
  | a :: b :: ':' :: minute =>
      (fixedNumber? 2 [a, b]).any (· ≤ 23) && (fixedNumber? 2 minute).any (· ≤ 59)
  | _ => false

/-- Whether a text is a second, which may have a fraction. -/
def isSecond (chars : List Char) : Bool :=
  (fixedNumber? 2 (chars.take 2)).any (· ≤ 60) &&
    match chars.drop 2 with
    | [] => true
    | '.' :: fraction => areDigits fraction
    | _ => false

/-- Whether a text is a time of day. The seconds may be left out. -/
def isTime (chars : List Char) : Bool :=
  isHourMinute (chars.take 5) &&
    match chars.drop 5 with
    | [] => true
    | ':' :: second => isSecond second
    | _ => false

/-- Whether a text is the distance from universal time. -/
def isOffset (chars : List Char) : Bool :=
  match chars with
  | ['Z'] | ['z'] => true
  | sign :: distance => (sign == '+' || sign == '-') && isHourMinute distance
  | [] => false

/-- Whether a text is a day, a time, or both, possibly with an offset. -/
def isDateTime (chars : List Char) : Bool :=
  isDate chars || isTime chars ||
    match chars.drop 10 with
    | separator :: clock =>
        let time := clock.takeWhile fun c => isDigit c || c == ':' || c == '.'
        let offset := clock.drop time.length
        isDate (chars.take 10) && ['T', 't', ' '].contains separator && isTime time &&
          (offset.isEmpty || isOffset offset)
    | [] => false

/-- Whether a text is a truth value or a number. -/
def isBoolOrNumber (chars : List Char) : Bool :=
  ["true", "false"].contains (String.ofList chars) || isBasedInteger chars || isInteger chars ||
    isFloat chars

end Toml

end ContentRouter
