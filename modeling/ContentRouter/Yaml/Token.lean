import ContentRouter.Yaml.Property
import ContentRouter.Yaml.Scalar

/-!
# YAML tokens

A YAML text as a list of tokens in which indentation is spelled out: a block begins and ends with a
token, and every key is announced by one. Whether a node is a key shows only at the colon behind it,
which has to stand on the same line and not too far away; the tokens that announce the key are put
before the node then. A node that could be a key and stands at the indentation of a block of entries
has to be one.
-/

namespace ContentRouter

namespace Yaml

/-- The tokens of a YAML text. -/
inductive Token
  | directive (directive : Directive)
  | documentStart
  | documentEnd
  | blockItemsStart
  | blockEntriesStart
  | blockEnd
  | flowItemsStart
  | flowItemsEnd
  | flowEntriesStart
  | flowEntriesEnd
  | blockItem
  | flowComma
  | key
  | value
  | alias (name : String)
  | anchor (name : String)
  | tag (tag : Tag)
  | scalar (text : String) (isPlain : Bool)
  deriving DecidableEq, Repr

/-- A node that may turn out to be a key. -/
structure KeyCandidate where
  /-- Whether it has to be a key. -/
  isRequired : Bool
  /-- The number of tokens before it. -/
  position : Nat
  index : Nat
  line : Nat
  column : Nat
  deriving DecidableEq, Repr

/-- How many bytes may lie between a candidate and the colon that makes it a key. -/
def keyReach : Nat := 1024

/-- How far a text has been taken apart. -/
structure Lexing where
  cursor : Cursor
  tokens : Array Token := #[]
  /-- The columns of the open blocks, the innermost first. -/
  indents : List Nat := []
  /-- Whether a key may begin here. -/
  keyAllowed : Bool := true
  /-- The candidate inside the innermost brackets. -/
  candidate : Option KeyCandidate := none
  /-- The candidates around each open bracket, the innermost first. -/
  outer : List (Option KeyCandidate) := []

namespace Lexing

/-- Whether the text is inside brackets. -/
def inFlow (state : Lexing) : Bool := !state.outer.isEmpty

/-- The first column that is deeper than the innermost block. -/
def deeper (state : Lexing) : Nat :=
  match state.indents with
  | [] => 0
  | indent :: _ => indent + 1

/-- Puts a token at the end. -/
def push (state : Lexing) (token : Token) : Lexing :=
  { state with tokens := state.tokens.push token }

/-- Puts a token behind the given number of tokens. -/
def insertAt (state : Lexing) (position : Nat) (token : Token) : Lexing :=
  { state with tokens := state.tokens.insertIdxIfInBounds position token }

/-- Puts a token of some characters at the end. -/
def pushIndicator (state : Lexing) (token : Token) (length : Nat) : Lexing :=
  { state.push token with cursor := state.cursor.advance length }

/-- Opens a block at a column if none is open there. -/
def openBlock (state : Lexing) (column position : Nat) (token : Token) : Lexing :=
  if state.inFlow || column < state.deeper then state
  else { state.insertAt position token with indents := column :: state.indents }

/-- Ends blocks, as many as are open and deeper than a column. -/
def endBlocks (column : Nat) : List Nat → Array Token → List Nat × Array Token
  | [], tokens => ([], tokens)
  | indent :: others, tokens =>
      if column < indent then endBlocks column others (tokens.push .blockEnd)
      else (indent :: others, tokens)

/-- Ends the blocks that are deeper than a column. -/
def closeBlocks (state : Lexing) (column : Nat) : Lexing :=
  if state.inFlow then state
  else
    let (indents, tokens) := endBlocks column state.indents state.tokens
    { state with indents, tokens }

/-- Ends all blocks. -/
def closeAllBlocks (state : Lexing) : Lexing :=
  if state.inFlow then state
  else
    { state with
      indents := []
      tokens := state.tokens ++ (state.indents.map fun _ => Token.blockEnd).toArray }

/-- Gives up the candidate. One that has to be a key cannot be given up. -/
def dropCandidate? (state : Lexing) : Option Lexing :=
  if state.candidate.any (·.isRequired) then none else some { state with candidate := none }

/-- A candidate, unless it is out of reach. -/
def reachable? (cursor : Cursor) (candidate : Option KeyCandidate) :
    Option (Option KeyCandidate) :=
  match candidate with
  | none => some none
  | some key =>
      if key.line < cursor.line || key.index + keyReach < cursor.index then
        if key.isRequired then none else some none
      else some (some key)

/-- Gives up the candidates that are out of reach. -/
def dropUnreachable? (state : Lexing) : Option Lexing := do
  let candidate ← reachable? state.cursor state.candidate
  let outer ← state.outer.mapM (reachable? state.cursor)
  return { state with candidate, outer }

/-- Notes that a key may begin here, if keys are allowed. -/
def noteCandidate? (state : Lexing) : Option Lexing :=
  if state.keyAllowed then do
    let state ← state.dropCandidate?
    let column := state.cursor.column
    return { state with
      candidate := some {
        isRequired := !state.inFlow && state.indents.head? == some column
        position := state.tokens.size
        index := state.cursor.index
        line := state.cursor.line
        column } }
  else some state

/-- Goes on to the next token, over blanks, comments and breaks. A byte order mark may begin a
line. -/
def skipGapsFrom (inFlow : Bool) : Nat → Bool → Cursor → Bool × Cursor
  | 0, keyAllowed, cursor => (keyAllowed, cursor)
  | fuel + 1, keyAllowed, cursor =>
      let cursor := if cursor.column == 0 && cursor.sees '\ufeff' then cursor.advance 1 else cursor
      let cursor := cursor.dropWhile fun c => c == ' ' || ((inFlow || !keyAllowed) && c == '\t')
      let cursor := if cursor.sees '#' then cursor.dropWhile (!isBreak ·) else cursor
      if cursor.head?.any isBreak then
        skipGapsFrom inFlow fuel (keyAllowed || !inFlow) cursor.readBreak.2
      else (keyAllowed, cursor)

/-- Goes on to the next token. -/
def skipGaps (state : Lexing) : Lexing :=
  let (keyAllowed, cursor) :=
    skipGapsFrom state.inFlow (state.cursor.rest.length + 1) state.keyAllowed state.cursor
  { state with keyAllowed, cursor }

/-- Takes in a directive. -/
def takeDirective? (state : Lexing) : Option Lexing := do
  let state ← state.closeAllBlocks.dropCandidate?
  let (directive, cursor) ← directive? state.cursor
  return { state.push (.directive directive) with cursor, keyAllowed := false }

/-- Takes in a mark between documents. -/
def takeDocumentMark? (state : Lexing) (token : Token) : Option Lexing := do
  let state ← state.closeAllBlocks.dropCandidate?
  return { state.pushIndicator token 3 with keyAllowed := false }

/-- Takes in an opening bracket. -/
def takeOpening? (state : Lexing) (token : Token) : Option Lexing := do
  let state ← state.noteCandidate?
  return { state.pushIndicator token 1 with
    keyAllowed := true, candidate := none, outer := state.candidate :: state.outer }

/-- Takes in a closing bracket. -/
def takeClosing? (state : Lexing) (token : Token) : Option Lexing := do
  let state ← state.dropCandidate?
  let closed := { state.pushIndicator token 1 with keyAllowed := false }
  match state.outer with
  | [] => return closed
  | candidate :: outer => return { closed with candidate, outer }

/-- Takes in a comma inside brackets. -/
def takeComma? (state : Lexing) : Option Lexing := do
  let state ← state.dropCandidate?
  return { state.pushIndicator .flowComma 1 with keyAllowed := true }

/-- Opens a block for an indicator at the cursor, where a key may begin. -/
def openBlockHere? (state : Lexing) (token : Token) : Option Lexing :=
  if state.inFlow then some state
  else if state.keyAllowed then
    some (state.openBlock state.cursor.column state.tokens.size token)
  else none

/-- Takes in the indicator of an item. -/
def takeItem? (state : Lexing) : Option Lexing := do
  let state ← state.openBlockHere? .blockItemsStart
  let state ← state.dropCandidate?
  return { state.pushIndicator .blockItem 1 with keyAllowed := true }

/-- Takes in the indicator of a key. -/
def takeKey? (state : Lexing) : Option Lexing := do
  let state ← state.openBlockHere? .blockEntriesStart
  let state ← state.dropCandidate?
  return { state.pushIndicator .key 1 with keyAllowed := !state.inFlow }

/-- Takes in the colon before a value. A candidate is a key now. -/
def takeValue? (state : Lexing) : Option Lexing :=
  match state.candidate with
  | some key =>
      let state := state.insertAt key.position .key
      let state := state.openBlock key.column key.position .blockEntriesStart
      some { state.pushIndicator .value 1 with candidate := none, keyAllowed := false }
  | none => do
      let state ← state.openBlockHere? .blockEntriesStart
      return { state.pushIndicator .value 1 with keyAllowed := !state.inFlow }

/-- Takes in something that may be a key or the beginning of one. -/
def takeNode? (state : Lexing) (read : Cursor → Option (Token × Cursor)) : Option Lexing := do
  let state ← state.noteCandidate?
  let (token, cursor) ← read state.cursor
  return { state.push token with cursor, keyAllowed := false }

/-- Takes in a block scalar. -/
def takeBlockScalar? (state : Lexing) : Option Lexing := do
  let state ← state.dropCandidate?
  let (text, cursor) ← blockScalar? state.deeper state.cursor
  return { state.push (.scalar text false) with cursor, keyAllowed := true }

/-- Takes in a quoted scalar. -/
def takeQuoted? (state : Lexing) (quote : Quote) : Option Lexing :=
  state.takeNode? fun cursor =>
    (quotedScalar? quote cursor).map fun (text, cursor) => (.scalar text false, cursor)

/-- Takes in a plain scalar. -/
def takePlain? (state : Lexing) : Option Lexing := do
  let state ← state.noteCandidate?
  let scalar ← plainScalar? state.inFlow state.deeper state.cursor
  return { state.push (.scalar scalar.text true) with
    cursor := scalar.cursor, keyAllowed := scalar.endsBroken }

/-- The characters that begin no plain scalar, or begin one only in some places. -/
def isIndicator (c : Char) : Bool :=
  ['-', '?', ':', ',', '[', ']', '{', '}', '#', '&', '*', '!', '|', '>', '\'', '"', '%', '@',
    '\x60'].contains c

/-- Whether a plain scalar begins at a character. -/
def beginsPlain (inFlow : Bool) (c : Char) (rest : List Char) : Bool :=
  !(isGap c || isBreak c || isIndicator c) || (c == '-' && !rest.head?.any isGap) ||
    (!inFlow && (c == '?' || c == ':') && !endsWord rest)

/-- Takes in the token that begins with a character. -/
def takeToken? (state : Lexing) (c : Char) (rest : List Char) : Option Lexing :=
  let cursor := state.cursor
  if cursor.column == 0 && c == '%' then state.takeDirective?
  else if cursor.atDocumentMark '-' then state.takeDocumentMark? .documentStart
  else if cursor.atDocumentMark '.' then state.takeDocumentMark? .documentEnd
  else if c == '[' then state.takeOpening? .flowItemsStart
  else if c == '{' then state.takeOpening? .flowEntriesStart
  else if c == ']' then state.takeClosing? .flowItemsEnd
  else if c == '}' then state.takeClosing? .flowEntriesEnd
  else if c == ',' then state.takeComma?
  else if c == '-' && endsWord rest then state.takeItem?
  else if c == '?' && (state.inFlow || endsWord rest) then state.takeKey?
  else if c == ':' && (state.inFlow || endsWord rest) then state.takeValue?
  else if c == '*' then
    state.takeNode? fun cursor =>
      (anchorName? (cursor.advance 1)).map fun (name, cursor) => (.alias name, cursor)
  else if c == '&' then
    state.takeNode? fun cursor =>
      (anchorName? (cursor.advance 1)).map fun (name, cursor) => (.anchor name, cursor)
  else if c == '!' then
    state.takeNode? fun cursor =>
      (tag? state.inFlow cursor).map fun (tag, cursor) => (.tag tag, cursor)
  else if (c == '|' || c == '>') && !state.inFlow then state.takeBlockScalar?
  else if c == '\'' then state.takeQuoted? .single
  else if c == '"' then state.takeQuoted? .double
  else if beginsPlain state.inFlow c rest then state.takePlain?
  else none

/-- Takes in the rest of a text, token by token. -/
def takeAll? : Nat → Lexing → Option (List Token)
  | 0, _ => none
  | fuel + 1, state => do
      let state ← state.skipGaps.dropUnreachable?
      let state := state.closeBlocks state.cursor.column
      match state.cursor.rest with
      | [] =>
          let state ← state.closeAllBlocks.dropCandidate?
          return state.tokens.toList
      | c :: rest => takeAll? fuel (← state.takeToken? c rest)

end Lexing

/-- **Takes a text apart into tokens.** -/
def tokens? (chars : List Char) : Option (List Token) :=
  if chars.all isAllowed then
    Lexing.takeAll? (chars.length + 2) { cursor := { rest := chars } }
  else none

end Yaml

end ContentRouter
