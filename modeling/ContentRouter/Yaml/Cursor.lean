import ContentRouter.Text.Characters

/-!
# Cursors in YAML texts

A cursor stands at a place of a text and knows the line and the column of that place, because the
structure of a YAML text is carried by its indentation. A line may end with any of five breaks; the
pair of carriage return and line feed counts as one.
-/

namespace ContentRouter

namespace Yaml

/-- The characters that end a line. -/
def isBreak (c : Char) : Bool :=
  c == '\r' || c == '\n' || c == '\u0085' || c == '\u2028' || c == '\u2029'

/-- The characters that separate words within a line. -/
def isGap (c : Char) : Bool := c == ' ' || c == '\t'

/-- The characters of names: letters, digits, `_` and `-`. -/
def isWord (c : Char) : Bool :=
  Text.isLetter c || Text.isDigit c || c == '_' || c == '-'

/-- Whether a text ends here, or goes on with a gap or a break. -/
def endsWord : List Char → Bool
  | [] => true
  | c :: _ => isGap c || isBreak c

/-- Whether a line ends here. -/
def endsLine : List Char → Bool
  | [] => true
  | c :: _ => isBreak c

/-- The characters that may occur in a YAML text. -/
def isAllowed (c : Char) : Bool :=
  let code := c.toNat
  code == 0x09 || code == 0x0A || code == 0x0D || (0x20 ≤ code && code ≤ 0x7E) || code == 0x85 ||
    (0xA0 ≤ code && code ≤ 0xD7FF) || (0xE000 ≤ code && code ≤ 0xFFFD) || 0x10000 ≤ code

/-- A place in a text. -/
structure Cursor where
  /-- What follows the place. -/
  rest : List Char
  /-- The number of bytes before the place. -/
  index : Nat := 0
  line : Nat := 0
  column : Nat := 0
  deriving DecidableEq, Repr

namespace Cursor

/-- The character at a cursor. -/
def head? (cursor : Cursor) : Option Char := cursor.rest.head?

/-- Whether a character stands at a cursor. -/
def sees (cursor : Cursor) (c : Char) : Bool := cursor.head? == some c

/-- The number of bytes that some characters take. -/
def bytesOf (chars : List Char) : Nat := chars.foldl (fun size c => size + c.utf8Size) 0

/-- The cursor behind some characters of the same line. -/
def advance (cursor : Cursor) (count : Nat) : Cursor where
  rest := cursor.rest.drop count
  index := cursor.index + bytesOf (cursor.rest.take count)
  line := cursor.line
  column := cursor.column + count

/-- The characters of a class from a cursor on, and the cursor behind them. The class holds no
breaks. -/
def takeWhile (cursor : Cursor) (p : Char → Bool) : List Char × Cursor :=
  let taken := cursor.rest.takeWhile p
  (taken, cursor.advance taken.length)

/-- The cursor behind the characters of a class. -/
def dropWhile (cursor : Cursor) (p : Char → Bool) : Cursor :=
  (cursor.takeWhile p).2

/-- The cursor at the beginning of the next line. -/
def nextLine (cursor : Cursor) (count : Nat) : Cursor where
  rest := cursor.rest.drop count
  index := cursor.index + bytesOf (cursor.rest.take count)
  line := cursor.line + 1
  column := 0

/-- Reads a line break: what it contributes to a text, and the cursor behind it. Where there is no
break, nothing is read. -/
def readBreak (cursor : Cursor) : String × Cursor :=
  match cursor.rest with
  | '\r' :: '\n' :: _ => ("\n", cursor.nextLine 2)
  | c :: _ =>
      if c == '\u2028' || c == '\u2029' then (c.toString, cursor.nextLine 1)
      else if isBreak c then ("\n", cursor.nextLine 1)
      else ("", cursor)
  | [] => ("", cursor)

/-- The cursor behind the rest of its line, if that holds nothing but a comment. -/
def endLine? (cursor : Cursor) : Option Cursor :=
  let cursor := cursor.dropWhile isGap
  let cursor := if cursor.sees '#' then cursor.dropWhile (!isBreak ·) else cursor
  if endsLine cursor.rest then some cursor.readBreak.2 else none

/-- Whether a document begins or ends here: a line that begins with three hyphens or three dots. -/
def atDocumentMark (cursor : Cursor) (mark : Char) : Bool :=
  cursor.column == 0 && cursor.rest.take 3 == [mark, mark, mark] && endsWord (cursor.rest.drop 3)

/-- Whether a mark between documents stands here. -/
def betweenDocuments (cursor : Cursor) : Bool :=
  cursor.atDocumentMark '-' || cursor.atDocumentMark '.'

end Cursor

end Yaml

end ContentRouter
