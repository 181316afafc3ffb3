import ContentRouter.Yaml.Cursor

/-!
# Anchors, tags and directives

The parts of a YAML text that say something about a node or about a whole document. A tag is a
handle and a suffix; the handle stands for a beginning that a directive may declare.
-/

namespace ContentRouter

namespace Yaml

/-- The characters of tags besides those of words. Commas and brackets count where no list can end
the tag. -/
def isUriChar (withIndicators : Bool) (c : Char) : Bool :=
  isWord c ||
    [';', '/', '?', ':', '@', '&', '=', '+', '$', '.', '%', '!', '~', '*', '\'', '(', ')'].contains
      c ||
    (withIndicators && [',', '[', ']'].contains c)

/-- The text of a tag, in bytes. A percent sign may write a byte that belongs to no text. -/
abbrev TagText := List UInt8

/-- The text of a tag that is written as it stands. -/
def TagText.ofString (text : String) : TagText := text.toUTF8.toList

/-- The number of bytes in the encoding of a character, by the first of them. -/
def encodedLength? (byte : Nat) : Option Nat :=
  if byte < 0x80 then some 1
  else if 0xC0 ≤ byte && byte < 0xE0 then some 2
  else if 0xE0 ≤ byte && byte < 0xF0 then some 3
  else if 0xF0 ≤ byte && byte < 0xF8 then some 4
  else none

/-- Reads bytes that are each written as a percent sign and two hexadecimal digits. -/
def percentBytes? : Nat → List Char → Option (List Nat × List Char)
  | 0, rest => some ([], rest)
  | count + 1, '%' :: a :: b :: rest => do
      let byte ← Text.numberIn? 16 [a, b]
      let (bytes, rest) ← percentBytes? count rest
      return (byte :: bytes, rest)
  | _, _ => none

/-- The bytes of the encoding that begins at a percent sign, and what follows it. Only the form of
the bytes matters, not which character they encode. -/
def percentEncoding? (chars : List Char) : Option (TagText × List Char) := do
  let (first, _) ← percentBytes? 1 chars
  let length ← encodedLength? (first.headD 0)
  let (bytes, rest) ← percentBytes? length chars
  if (bytes.drop 1).all fun byte => 0x80 ≤ byte && byte < 0xC0 then
    return (bytes.map (·.toUInt8), rest)
  else none

/-- Reads the characters of a tag: its text, and how many characters it takes. -/
def tagChars? (withIndicators : Bool) : Nat → List Char → Option (TagText × Nat)
  | 0, _ => some ([], 0)
  | fuel + 1, chars =>
      match chars with
      | [] => some ([], 0)
      | c :: rest =>
          if !isUriChar withIndicators c then some ([], 0)
          else if c == '%' then do
            let (bytes, others) ← percentEncoding? chars
            let (text, length) ← tagChars? withIndicators fuel others
            return (bytes ++ text, length + (chars.length - others.length))
          else do
            let (text, length) ← tagChars? withIndicators fuel rest
            return (c.toNat.toUInt8 :: text, length + 1)

/-- Reads the text of a tag. A zero among its bytes ends the text, whatever follows. -/
def tagText? (withIndicators : Bool) (cursor : Cursor) : Option (TagText × Cursor) :=
  (tagChars? withIndicators cursor.rest.length cursor.rest).map fun (text, length) =>
    (text.takeWhile (· != 0), cursor.advance length)

/-- Reads the text of a tag where there has to be one. -/
def someTagText? (withIndicators : Bool) (cursor : Cursor) : Option (TagText × Cursor) :=
  (tagText? withIndicators cursor).filter fun (_, next) => next.index != cursor.index

/-- Reads a handle: an exclamation mark, and possibly a word and another exclamation mark. -/
def tagHandle? (cursor : Cursor) : Option (String × Cursor) :=
  if cursor.sees '!' then
    let (word, cursor) := (cursor.advance 1).takeWhile isWord
    let text := "!" ++ String.ofList word
    if cursor.sees '!' then some (text ++ "!", cursor.advance 1) else some (text, cursor)
  else none

/-- The handle and the suffix of a tag. -/
structure Tag where
  handle : String
  suffix : TagText
  deriving DecidableEq, Repr

/-- Reads a tag that gives its whole text between angle brackets. -/
def verbatimTag? (cursor : Cursor) : Option (Tag × Cursor) := do
  let (text, cursor) ← someTagText? true (cursor.advance 2)
  if cursor.sees '>' then return (⟨"", text⟩, cursor.advance 1) else none

/-- Reads a tag that begins with a handle. A word behind a lone exclamation mark belongs to the
suffix, and an exclamation mark without any suffix is a tag of its own. -/
def shorthandTag? (cursor : Cursor) : Option (Tag × Cursor) := do
  let (handle, cursor) ← tagHandle? cursor
  if 1 < handle.length && handle.endsWith "!" then
    let (text, cursor) ← someTagText? false cursor
    return (⟨handle, text⟩, cursor)
  else
    let (text, cursor) ← tagText? false cursor
    let suffix := TagText.ofString (handle.drop 1).toString ++ text
    return (if suffix.isEmpty then ⟨"", .ofString "!"⟩ else ⟨"!", suffix⟩, cursor)

/-- Reads a tag, which has to be followed by a gap, or inside brackets by a comma. -/
def tag? (inFlow : Bool) (cursor : Cursor) : Option (Tag × Cursor) := do
  let (tag, cursor) ←
    if cursor.rest.drop 1 |>.head? |>.any (· == '<') then verbatimTag? cursor
    else shorthandTag? cursor
  if endsWord cursor.rest || (inFlow && cursor.sees ',') then return (tag, cursor) else none

/-- Reads the name of an anchor or an alias from behind its indicator. -/
def anchorName? (cursor : Cursor) : Option (String × Cursor) :=
  let (name, cursor) := cursor.takeWhile isWord
  let ends :=
    endsWord cursor.rest ||
      cursor.head?.any fun c => ['?', ':', ',', ']', '}', '%', '@', '\x60'].contains c
  if name.isEmpty || !ends then none else some (String.ofList name, cursor)

/-- What a line that begins with a percent sign declares. -/
inductive Directive
  | version (major minor : Nat)
  | tag (handle : String) (beginning : TagText)
  deriving DecidableEq, Repr

/-- Reads a part of a version number: one to nine digits. -/
def versionPart? (cursor : Cursor) : Option (Nat × Cursor) :=
  let (digits, cursor) := cursor.takeWhile Text.isDigit
  if digits.isEmpty || 9 < digits.length then none
  else (Text.numberIn? 10 digits).map fun part => (part, cursor)

/-- Reads the value of a version directive. -/
def versionDirective? (cursor : Cursor) : Option (Directive × Cursor) := do
  let (major, cursor) ← versionPart? (cursor.dropWhile isGap)
  if cursor.sees '.' then
    let (minor, cursor) ← versionPart? (cursor.advance 1)
    return (.version major minor, cursor)
  else none

/-- Reads the value of a tag directive: a handle, a gap, and what the handle stands for. -/
def tagDirective? (cursor : Cursor) : Option (Directive × Cursor) := do
  let (handle, cursor) ← tagHandle? (cursor.dropWhile isGap)
  let isHandle := handle == "!" || (1 < handle.length && handle.endsWith "!")
  if isHandle && cursor.head?.any isGap then
    let (text, cursor) ← someTagText? true (cursor.dropWhile isGap)
    if endsWord cursor.rest then return (.tag handle text, cursor) else none
  else none

/-- **Reads a directive** from its percent sign to the end of its line. -/
def directive? (cursor : Cursor) : Option (Directive × Cursor) := do
  let (name, cursor) := (cursor.advance 1).takeWhile isWord
  if !endsWord cursor.rest then none
  else
    let (directive, cursor) ←
      match String.ofList name with
      | "YAML" => versionDirective? cursor
      | "TAG" => tagDirective? cursor
      | _ => none
    return (directive, ← cursor.endLine?)

end Yaml

end ContentRouter
