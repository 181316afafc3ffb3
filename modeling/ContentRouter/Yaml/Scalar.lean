import ContentRouter.Yaml.Cursor

/-!
# YAML scalars

Within a scalar that is spread over lines, a single line break counts as a blank, and of several
breaks in a row the first one is dropped. Blanks around breaks do not count. A stretch of blanks and
breaks between two words is read as a `Gap`.

A plain scalar has no quotes. It ends before a colon that ends a word, before a comment, at a line
that is not indented deeply enough, and inside brackets also before a comma or a bracket. Between
apostrophes an apostrophe is written twice, and between double quotes a backslash opens an escape.

A block scalar is set off by indentation. A literal block keeps its line breaks and a folded block
folds those between two lines that begin with a word. The header says what becomes of the breaks at
the end, and may state the indentation; otherwise the first line that is not empty shows it.
-/

namespace ContentRouter

namespace Yaml

/-- The text of a break and the breaks that follow it. -/
def foldBreaks (first more : String) : String :=
  if first.startsWith "\n" then (if more.isEmpty then " " else more) else first ++ more

/-- A stretch of blanks and breaks. -/
structure Gap where
  /-- The blanks before the first break. -/
  blanks : String := ""
  firstBreak : String := ""
  moreBreaks : String := ""
  /-- Whether there is a break among it. -/
  isBroken : Bool := false
  deriving DecidableEq, Repr

namespace Gap

/-- The text that a gap stands for. -/
def text (gap : Gap) : String :=
  if gap.isBroken then foldBreaks gap.firstBreak gap.moreBreaks else gap.blanks

/-- Takes in a blank. -/
def addBlank (gap : Gap) (c : Char) : Gap :=
  if gap.isBroken then gap else { gap with blanks := gap.blanks.push c }

/-- Takes in a break. -/
def addBreak (gap : Gap) (lineBreak : String) : Gap :=
  if gap.isBroken then { gap with moreBreaks := gap.moreBreaks ++ lineBreak }
  else { firstBreak := lineBreak, isBroken := true }

/-- Reads blanks and breaks. Behind a break, a tab may not stand in a column before `indent`. -/
def readFrom (indent : Nat) : Nat → Gap → Cursor → Option (Gap × Cursor)
  | 0, gap, cursor => some (gap, cursor)
  | fuel + 1, gap, cursor =>
      match cursor.head? with
      | none => some (gap, cursor)
      | some c =>
          if isGap c then
            if gap.isBroken && cursor.column < indent && c == '\t' then none
            else readFrom indent fuel (gap.addBlank c) (cursor.advance 1)
          else if isBreak c then
            let (lineBreak, cursor) := cursor.readBreak
            readFrom indent fuel (gap.addBreak lineBreak) cursor
          else some (gap, cursor)

/-- Reads the blanks and breaks from a cursor on. -/
def read? (indent : Nat) (gap : Gap) (cursor : Cursor) : Option (Gap × Cursor) :=
  readFrom indent cursor.rest.length gap cursor

end Gap


/-- The indicators that end a plain scalar inside brackets. -/
def isFlowEnd (c : Char) : Bool :=
  [',', '[', ']', '{', '}'].contains c

/-- Reads on to a blank, a break, or an indicator. Inside brackets a colon may not stand right
before an indicator. -/
def plainRun (inFlow : Bool) : List Char → Option (List Char)
  | [] => some []
  | c :: rest =>
      if isGap c || isBreak c then some []
      else if inFlow && c == ':' && rest.head?.any (fun next => isFlowEnd next || next == '?') then
        none
      else if (c == ':' && endsWord rest) || (inFlow && isFlowEnd c) then some []
      else (plainRun inFlow rest).map (c :: ·)

/-- A plain scalar and where it ends. -/
structure PlainScalar where
  text : String
  cursor : Cursor
  /-- Whether it ends behind a line break. -/
  endsBroken : Bool

/-- Reads stretches and the gaps between them. `gap` is what lies between the text so far and the
cursor. -/
def plainFrom (inFlow : Bool) (indent : Nat) :
    Nat → String → Gap → Cursor → Option PlainScalar
  | 0, text, gap, cursor => some { text, cursor, endsBroken := gap.isBroken }
  | fuel + 1, text, gap, cursor =>
      if cursor.betweenDocuments || cursor.sees '#' then
        some { text, cursor, endsBroken := gap.isBroken }
      else
        match plainRun inFlow cursor.rest with
        | none => none
        | some [] => some { text, cursor, endsBroken := gap.isBroken }
        | some run =>
            let text := text ++ gap.text ++ String.ofList run
            let cursor := cursor.advance run.length
            match Gap.read? indent {} cursor with
            | none => none
            | some (gap, next) =>
                if next.index = cursor.index || (!inFlow && next.column < indent) then
                  some { text, cursor := next, endsBroken := gap.isBroken }
                else plainFrom inFlow indent fuel text gap next

/-- **Reads a plain scalar.** Outside of brackets, its lines have to be indented by `indent`. -/
def plainScalar? (inFlow : Bool) (indent : Nat) (cursor : Cursor) : Option PlainScalar :=
  plainFrom inFlow indent (cursor.rest.length + 1) "" {} cursor


/-- The two kinds of quotes. -/
inductive Quote
  | single
  | double
  deriving DecidableEq, Repr

/-- The character of a quote. -/
def Quote.char : Quote → Char
  | .single => '\''
  | .double => '"'

/-- The character that a letter behind a backslash stands for. -/
def namedEscape? : Char → Option Char
  | '0' => some '\x00'
  | 'a' => some '\x07'
  | 'b' => some '\x08'
  | 't' => some '\t'
  | '\t' => some '\t'
  | 'n' => some '\n'
  | 'v' => some '\x0b'
  | 'f' => some '\x0c'
  | 'r' => some '\r'
  | 'e' => some '\x1b'
  | ' ' => some ' '
  | '"' => some '"'
  | '/' => some '/'
  | '\\' => some '\\'
  | 'N' => some '\u0085'
  | '_' => some '\u00a0'
  | 'L' => some '\u2028'
  | 'P' => some '\u2029'
  | _ => none

/-- How many hexadecimal digits follow a letter behind a backslash. -/
def escapeWidth? : Char → Option Nat
  | 'x' => some 2
  | 'u' => some 4
  | 'U' => some 8
  | _ => none

/-- The character of a number, if it is a character. -/
def charOfCode? (code : Nat) : Option Char :=
  if code < 0xD800 || (0xE000 ≤ code && code < 0x110000) then some (Char.ofNat code) else none

/-- Reads an escape from behind its backslash: the character, and how many characters it takes. -/
def escape? : List Char → Option (Char × Nat)
  | [] => none
  | letter :: rest =>
      match escapeWidth? letter with
      | some width =>
          let digits := rest.take width
          if digits.length = width then
            ((Text.numberIn? 16 digits).bind charOfCode?).map fun c => (c, width + 1)
          else none
      | none => (namedEscape? letter).map fun c => (c, 1)

/-- A stretch of a quoted scalar without blanks and breaks. -/
structure QuotedRun where
  text : String
  cursor : Cursor
  /-- Whether the stretch ends with an escaped line break. -/
  brokeLine : Bool := false

/-- Reads on to a blank, a break, or the closing quote. -/
def quotedRun (quote : Quote) : Nat → String → Cursor → Option QuotedRun
  | 0, text, cursor => some { text, cursor }
  | fuel + 1, text, cursor =>
      match cursor.rest with
      | [] => some { text, cursor }
      | c :: rest =>
          if isGap c || isBreak c then some { text, cursor }
          else if c == quote.char then
            if quote = .single && rest.head? == some '\'' then
              quotedRun quote fuel (text.push '\'') (cursor.advance 2)
            else some { text, cursor }
          else if quote = .double && c == '\\' then
            if !rest.isEmpty && endsLine rest then
              some { text, cursor := (cursor.advance 1).readBreak.2, brokeLine := true }
            else
              match escape? rest with
              | some (escaped, width) =>
                  quotedRun quote fuel (text.push escaped) (cursor.advance (width + 1))
              | none => none
          else quotedRun quote fuel (text.push c) (cursor.advance 1)

/-- Reads stretches and the gaps between them up to the closing quote. -/
def quotedFrom (quote : Quote) : Nat → String → Cursor → Option (String × Cursor)
  | 0, _, _ => none
  | fuel + 1, text, cursor =>
      if cursor.betweenDocuments || cursor.rest.isEmpty then none
      else
        match quotedRun quote cursor.rest.length text cursor with
        | none => none
        | some run =>
            if run.cursor.sees quote.char then some (run.text, run.cursor.advance 1)
            else
              match Gap.read? 0 { isBroken := run.brokeLine } run.cursor with
              | none => none
              | some (gap, cursor) => quotedFrom quote fuel (run.text ++ gap.text) cursor

/-- **Reads a quoted scalar** from its opening quote on. -/
def quotedScalar? (quote : Quote) (cursor : Cursor) : Option (String × Cursor) :=
  quotedFrom quote (cursor.rest.length + 1) "" (cursor.advance 1)


/-- What becomes of the line breaks at the end of a block. -/
inductive Chomping
  | strip
  | clip
  | keep
  deriving DecidableEq, Repr

/-- The header of a block. -/
structure BlockHeader where
  isLiteral : Bool
  chomping : Chomping := .clip
  /-- The stated indentation, or zero. -/
  increment : Nat := 0
  deriving DecidableEq, Repr

/-- The chomping that a character stands for. -/
def chomping? : Char → Option Chomping
  | '+' => some .keep
  | '-' => some .strip
  | _ => none

/-- The increment that a digit stands for. Zero is none. -/
def increment? (c : Char) : Option Nat :=
  if '1' ≤ c && c ≤ '9' then some (c.toNat - '0'.toNat) else none

/-- Reads the two indicators of a header, which may come in either order. -/
def blockHeader (isLiteral : Bool) (cursor : Cursor) : BlockHeader × Cursor :=
  match cursor.head?.bind chomping? with
  | some chomping =>
      let cursor := cursor.advance 1
      match cursor.head?.bind increment? with
      | some increment => ({ isLiteral, chomping, increment }, cursor.advance 1)
      | none => ({ isLiteral, chomping }, cursor)
  | none =>
      match cursor.head?.bind increment? with
      | some increment =>
          let cursor := cursor.advance 1
          match cursor.head?.bind chomping? with
          | some chomping => ({ isLiteral, chomping, increment }, cursor.advance 1)
          | none => ({ isLiteral, increment }, cursor)
      | none => ({ isLiteral }, cursor)

/-- The cursor behind the blanks before column `indent`. Zero stands for an unknown column. -/
def dropIndent (indent : Nat) (cursor : Cursor) : Cursor :=
  let blanks := (cursor.rest.takeWhile (· == ' ')).length
  cursor.advance (if indent = 0 then blanks else min blanks (indent - cursor.column))

/-- Reads empty lines: the deepest column seen, the breaks, and the cursor behind them. Tabs may not
stand for indentation. -/
def blockBreaks (indent : Nat) : Nat → Nat → String → Cursor → Option (Nat × String × Cursor)
  | 0, deepest, breaks, cursor => some (deepest, breaks, cursor)
  | fuel + 1, deepest, breaks, cursor =>
      let cursor := dropIndent indent cursor
      let deepest := max deepest cursor.column
      if (indent = 0 || cursor.column < indent) && cursor.sees '\t' then none
      else if cursor.head?.any isBreak then
        let (lineBreak, cursor) := cursor.readBreak
        blockBreaks indent fuel deepest (breaks ++ lineBreak) cursor
      else some (deepest, breaks, cursor)

/-- Reads the lines of a block. `lineBreak` is the break behind the last line and `breaks` are those
of the empty lines behind it; `afterGap` says whether the last line begins with a blank. -/
def blockLines (isLiteral : Bool) (indent : Nat) :
    Nat → String → String → String → Bool → Cursor → Option (String × String × String × Cursor)
  | 0, text, lineBreak, breaks, _, cursor => some (text, lineBreak, breaks, cursor)
  | fuel + 1, text, lineBreak, breaks, afterGap, cursor =>
      if cursor.column ≠ indent || cursor.rest.isEmpty then some (text, lineBreak, breaks, cursor)
      else
        let beginsGap := cursor.head?.any isGap
        let joint :=
          if !isLiteral && lineBreak.startsWith "\n" && !afterGap && !beginsGap then
            if breaks.isEmpty then " " else breaks
          else lineBreak ++ breaks
        let (line, cursor) := cursor.takeWhile (!isBreak ·)
        let (lineBreak, cursor) := cursor.readBreak
        match blockBreaks indent (cursor.rest.length + 1) 0 "" cursor with
        | none => none
        | some (_, breaks, cursor) =>
            blockLines isLiteral indent fuel (text ++ joint ++ String.ofList line) lineBreak breaks
              beginsGap cursor

/-- **Reads a block scalar** from its indicator on. `least` is the first column that is deeper than
the surrounding block. -/
def blockScalar? (least : Nat) (cursor : Cursor) : Option (String × Cursor) := do
  let (header, cursor) := blockHeader (cursor.sees '|') (cursor.advance 1)
  let cursor ← cursor.endLine?
  let stated := if header.increment = 0 then 0 else least - 1 + header.increment
  let (deepest, breaks, cursor) ← blockBreaks stated (cursor.rest.length + 1) 0 "" cursor
  let indent := if stated = 0 then max deepest (max least 1) else stated
  let (text, lineBreak, breaks, cursor) ←
    blockLines header.isLiteral indent (cursor.rest.length + 1) "" "" breaks false cursor
  let ending :=
    match header.chomping with
    | .strip => ""
    | .clip => lineBreak
    | .keep => lineBreak ++ breaks
  return (text ++ ending, cursor)

end Yaml

end ContentRouter
