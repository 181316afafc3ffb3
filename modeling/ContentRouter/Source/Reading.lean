import ContentRouter.Text.Characters

/-!
# Reading sources

How a generated source is read before anything is made of it. Every character is first taken for a
symbol that denotes code units. A backslash with an even number of backslashes right before it and a
`u` behind it begins an escape: after any number of further `u` come four hexadecimal digits, and
the escape denotes the code unit with this number. Every other character denotes itself. Only then
are literals and comments looked for among the symbols, so that an escape can denote a line break or
a quote like any other symbol.

A string literal stands between two quotes and has no line break inside. A backslash begins an
escape of its own there, with a letter, a quote, a backslash or up to three octal digits. Literals
of several lines, between three quotes, are of another kind and are not read here.
-/

namespace ContentRouter

namespace Source

/-- A code unit of UTF-16. -/
abbrev CodeUnit := UInt16

/-- The code units of a character: one, or two for a character beyond the first 65536. -/
def codeUnits (c : Char) : List CodeUnit :=
  if c.toNat < 0x10000 then [UInt16.ofNat c.toNat]
  else
    let beyond := c.toNat - 0x10000
    [UInt16.ofNat (0xD800 + beyond / 0x400), UInt16.ofNat (0xDC00 + beyond % 0x400)]

/-- The code units of a text. -/
def textUnits (text : String) : List CodeUnit := text.toList.flatMap codeUnits

/-- A symbol of a source: the characters that are written and the code units that they denote. An
escape without its four digits denotes nothing, and makes the source unreadable. -/
structure Symbol where
  written : List Char
  units : Option (List CodeUnit)
  deriving DecidableEq, Repr

/-- A character that denotes itself. -/
def plainSymbol (c : Char) : Symbol := ⟨[c], some (codeUnits c)⟩

/-- What an escape has behind its first `u`, as far as its last digit. -/
def escapeTail (rest : List Char) : List Char :=
  rest.takeWhile (· == 'u') ++ (rest.dropWhile (· == 'u')).take 4

/-- The code unit that an escape denotes, by what stands behind its first `u`. -/
def escapedUnit? (rest : List Char) : Option CodeUnit :=
  let digits := (rest.dropWhile (· == 'u')).take 4
  if digits.length = 4 ∧ digits.all Text.isHexDigit then
    (Text.numberIn? 16 digits).map UInt16.ofNat
  else none

/-- The symbol of an escape, by what stands behind its first `u`. -/
def escapeSymbol (rest : List Char) : Symbol :=
  match escapedUnit? rest with
  | some unit => ⟨'\\' :: 'u' :: escapeTail rest, some [unit]⟩
  | none => ⟨['\\'], none⟩

/-- The first symbol of a source, behind a number of backslashes. -/
def firstSymbol (slashes : Nat) (c : Char) (rest : List Char) : Symbol :=
  match rest with
  | 'u' :: behind =>
      if c = '\\' ∧ slashes % 2 = 0 then escapeSymbol behind else plainSymbol c
  | _ => plainSymbol c

/-- The number of backslashes right before what follows a character. -/
def slashesAfter (slashes : Nat) (c : Char) : Nat :=
  if c = '\\' then slashes + 1 else 0

/-- The symbols of a source behind a number of backslashes, whose first characters, as many as
`skip`, belong to a symbol already. -/
def symbolsFrom : (slashes skip : Nat) → List Char → List Symbol
  | _, _, [] => []
  | slashes, skip + 1, c :: rest => symbolsFrom (slashesAfter slashes c) skip rest
  | slashes, 0, c :: rest =>
      let symbol := firstSymbol slashes c rest
      symbol :: symbolsFrom (slashesAfter slashes c) (symbol.written.length - 1) rest

/-- **The symbols of a source.** -/
def symbols (text : String) : List Symbol := symbolsFrom 0 0 text.toList

/-- The code units of a source, if it has no malformed escape. -/
def translation? (text : String) : Option (List CodeUnit) :=
  if (symbols text).all (·.units.isSome) then
    some ((symbols text).flatMap fun symbol => symbol.units.getD [])
  else none

/-- The code units that end a line: line feed and carriage return. -/
def lineBreaks : List CodeUnit := [0x0A, 0x0D]

/-- Whether a text behind the mark of a line comment is comment as a whole: it can be read, and
nothing in it ends the line. -/
def StaysComment (text : String) : Prop :=
  ∃ units, translation? text = some units ∧ ∀ unit ∈ units, unit ∉ lineBreaks

/-- Where the reader of a string literal stands. -/
inductive LiteralPlace
  | plain
  /-- Behind the backslash of an escape. -/
  | escape
  /-- Behind octal digits with this value, where so many more can follow. -/
  | octal (value more : Nat)
  deriving DecidableEq, Repr

/-- What a symbol inside a literal means: what it adds to the value, and where the reader stands
behind it, which is nowhere if the literal ends. -/
structure LiteralMove where
  value : List CodeUnit
  next? : Option LiteralPlace
  deriving DecidableEq, Repr

/-- The letters and signs of escapes inside literals, each with the character that is meant. -/
def literalEscapes : List (Char × Char) :=
  [('b', '\x08'), ('s', ' '), ('t', '\t'), ('n', '\n'), ('f', '\x0c'), ('r', '\r'), ('"', '"'),
    ('\'', '\''), ('\\', '\\')]

/-- The value of an octal digit. -/
def octalValue? (units : List CodeUnit) : Option Nat :=
  (['0', '1', '2', '3', '4', '5', '6', '7'].find? (codeUnits · = units)).map
    fun digit => digit.toNat - '0'.toNat

namespace LiteralPlace

/-- What a symbol means outside escapes. -/
def plainMove? (units : List CodeUnit) : Option LiteralMove :=
  if units = codeUnits '"' then some ⟨[], none⟩
  else if units = codeUnits '\\' then some ⟨[], some .escape⟩
  else if units.any lineBreaks.contains then none
  else some ⟨units, some .plain⟩

/-- What a symbol means behind the backslash of an escape. -/
def escapeMove? (units : List CodeUnit) : Option LiteralMove :=
  match literalEscapes.find? (codeUnits ·.1 = units) with
  | some (_, meant) => some ⟨codeUnits meant, some .plain⟩
  | none => (octalValue? units).map fun digit =>
      ⟨[], some (.octal digit (if digit ≤ 3 then 2 else 1))⟩

/-- **What a symbol means at a place inside a literal.** Octal digits end where no more can follow,
and what stands behind them has its usual meaning. -/
def move? : LiteralPlace → List CodeUnit → Option LiteralMove
  | .plain, units => plainMove? units
  | .escape, units => escapeMove? units
  | .octal value more, units =>
      match if more = 0 then none else octalValue? units with
      | some digit => some ⟨[], some (.octal (8 * value + digit) (more - 1))⟩
      | none => (plainMove? units).map fun move =>
          { move with value := UInt16.ofNat value :: move.value }

end LiteralPlace

/-- Reads symbols to the end of a literal: its value from here on, and the symbols behind it. -/
def readLiteralFrom : LiteralPlace → List Symbol → Option (List CodeUnit × List Symbol)
  | _, [] => none
  | place, symbol :: rest =>
      match symbol.units.bind place.move? with
      | none => none
      | some ⟨value, none⟩ => some (value, rest)
      | some ⟨value, some next⟩ =>
          (readLiteralFrom next rest).map fun (others, behind) => (value ++ others, behind)

/-- **Reads the string literal at the head of a source**: its value, and the text behind it. -/
def readLiteral? (text : String) : Option (List CodeUnit × String) :=
  match symbols text with
  | [] => none
  | opening :: rest =>
      if opening.units = some (codeUnits '"') then
        (readLiteralFrom .plain rest).map fun (value, behind) =>
          (value, String.ofList (behind.flatMap (·.written)))
      else none

end Source

end ContentRouter
