import ContentRouter.Document.Basic
import ContentRouter.Toml.Scalar
import ContentRouter.Toml.Table
import ContentRouter.Toml.Text

/-!
# Reading TOML

A TOML text as a document. The text is a list of statements, one per line: headers, and keys with
their values. Values in brackets and braces may go on over several lines. Neither keys nor values
may go too deep. Strings are the only values that a field takes for a text; a date is a record whose
fields nobody knows.
-/

namespace ContentRouter

namespace Toml

/-- What follows the blanks. -/
def dropGaps (chars : List Char) : List Char := chars.dropWhile isGap

/-- What follows a comment, if one begins here and is made of characters that it may hold. -/
def afterComment? (chars : List Char) : Option (List Char) :=
  match chars with
  | '#' :: rest =>
      let rest := rest.dropWhile isVisible
      if rest.isEmpty || (afterBreak? rest).isSome then some rest else none
  | chars => some chars

/-- What follows the end of a statement: blanks, a comment, and a break or the end of the text. -/
def afterStatement? (chars : List Char) : Option (List Char) := do
  let rest ← afterComment? (dropGaps chars)
  if rest.isEmpty then return rest else afterBreak? rest

/-- What follows blanks, breaks and comments. -/
def afterSpace? : Nat → List Char → Option (List Char)
  | 0, chars => some chars
  | fuel + 1, chars => do
      let rest ← afterComment? (dropGaps chars)
      match afterBreak? rest with
      | some rest => afterSpace? fuel rest
      | none => return rest

/-- The characters of keys without quotes. -/
def isBareKey (c : Char) : Bool :=
  Text.isLetter c || Text.isDigit c || c == '_' || c == '-'

/-- Reads one part of a key. -/
def keyPart? (chars : List Char) : Option (String × List Char) :=
  match chars with
  | '"' :: _ => lineString? chars
  | '\'' :: _ => lineString? chars
  | _ =>
      let key := chars.takeWhile isBareKey
      if key.isEmpty then none else some (String.ofList key, chars.drop key.length)

/-- How many parts a key may have, and how many brackets and braces may be open around a value. -/
def greatestDepth : Nat := 80

/-- Reads a key: one or more parts with dots between them, at most as many as stated. -/
def keyParts? : Nat → List Char → Option (List String × List Char)
  | 0, _ => none
  | most + 1, chars => do
      let (part, rest) ← keyPart? (dropGaps chars)
      match dropGaps rest with
      | '.' :: rest =>
          let (parts, rest) ← keyParts? most rest
          return (part :: parts, rest)
      | rest => return ([part], rest)

/-- Reads a key. -/
def key? (chars : List Char) : Option (List String × List Char) :=
  keyParts? greatestDepth chars

/-- The characters of values without quotes. -/
def isBareValue (c : Char) : Bool :=
  isBareKey c || c == '+' || c == '.' || c == ':'

/-- Reads a value without quotes. A blank may stand between a day and a time. -/
def bareValue? (chars : List Char) : Option (Value × List Char) :=
  let word := chars.takeWhile isBareValue
  let rest := chars.drop word.length
  if isBoolOrNumber word then some (.other, rest)
  else
    match rest with
    | ' ' :: c :: others =>
        if isDate word && Text.isDigit c then
          let time := (c :: others).takeWhile isBareValue
          if isDateTime (word ++ ' ' :: time) then some (.date, (c :: others).drop time.length)
          else none
        else if isDateTime word then some (.date, rest)
        else none
    | _ => if isDateTime word then some (.date, rest) else none

mutual

/-- Reads a value, with as many more brackets and braces inside each other as stated. -/
def value? : Nat → Nat → List Char → Option (Value × List Char)
  | 0, _, _ => none
  | _ + 1, _, [] => none
  | fuel + 1, depth, c :: rest =>
      if c == '"' || c == '\'' then
        (string? (c :: rest)).map fun (text, rest) => (.text text, rest)
      else if c == '[' || c == '{' then
        match depth with
        | 0 => none
        | depth + 1 => do
            let rest ← afterSpace? rest.length rest
            if c == '[' then
              let (items, rest) ← items? fuel depth rest
              return (.items items, rest)
            else
              let (entries, rest) ← inlineEntries? fuel depth [] rest
              return (.table .braces entries, rest)
      else bareValue? (c :: rest)

/-- Reads the items of a list and its closing bracket. A comma may follow the last item. -/
def items? : Nat → Nat → List Char → Option (List Value × List Char)
  | 0, _, _ => none
  | _ + 1, _, ']' :: rest => some ([], rest)
  | fuel + 1, depth, chars => do
      let (item, rest) ← value? fuel depth chars
      match ← afterSpace? rest.length rest with
      | ',' :: rest =>
          let (items, rest) ← items? fuel depth (← afterSpace? rest.length rest)
          return (item :: items, rest)
      | ']' :: rest => return ([item], rest)
      | _ => none

/-- Reads entries into an inline table, and its closing brace. A comma may follow the last entry,
and an entry may be spread over lines around its equals sign. -/
def inlineEntries? : Nat → Nat → Entries → List Char → Option (Entries × List Char)
  | 0, _, _, _ => none
  | _ + 1, _, entries, '}' :: rest => some (entries, rest)
  | fuel + 1, depth, entries, chars => do
      let (key, rest) ← key? chars
      match ← afterSpace? rest.length rest with
      | '=' :: rest =>
          let (value, rest) ← value? fuel depth (← afterSpace? rest.length rest)
          let entries ← entries.assign? value true key
          match ← afterSpace? rest.length rest with
          | ',' :: rest => inlineEntries? fuel depth entries (← afterSpace? rest.length rest)
          | '}' :: rest => return (entries, rest)
          | _ => none
      | _ => none

end

/-- Reads a key and its value, which begins on the same line. -/
def assignment? (chars : List Char) : Option (List String × Value × List Char) := do
  let (key, rest) ← key? chars
  match rest with
  | '=' :: rest =>
      let (value, rest) ← value? (2 * rest.length + 2) greatestDepth (dropGaps rest)
      return (key, value, rest)
  | _ => none

/-- What the statements so far have built. -/
structure Building where
  entries : Entries := []
  /-- The path of the last header. -/
  header : List String := []

/-- Takes in a header. -/
def Building.open? (building : Building) (isList : Bool) (key : List String) : Option Building := do
  let last ← key.getLast?
  let change := if isList then Entries.openNext? last else Entries.openTable? last
  let entries ← building.entries.changeAt? change key.dropLast
  return { entries, header := key }

/-- Takes in a key with its value. -/
def Building.assign? (building : Building) (key : List String) (value : Value) :
    Option Building := do
  let entries ← building.entries.changeAt? (Entries.assign? value true key) building.header
  return { building with entries }

/-- Reads one statement, of which the first character is no blank and no break. -/
def statement? (building : Building) (chars : List Char) : Option (Building × List Char) :=
  match chars with
  | '#' :: _ => some (building, chars)
  | '[' :: '[' :: rest => do
      let (key, rest) ← key? rest
      match rest with
      | ']' :: ']' :: rest => return (← building.open? true key, rest)
      | _ => none
  | '[' :: rest => do
      let (key, rest) ← key? rest
      match rest with
      | ']' :: rest => return (← building.open? false key, rest)
      | _ => none
  | _ => do
      let (key, value, rest) ← assignment? chars
      return (← building.assign? key value, rest)

/-- Reads all statements. -/
def statements? : Nat → Building → List Char → Option Entries
  | 0, _, _ => none
  | fuel + 1, building, chars =>
      let chars := dropGaps chars
      match chars with
      | [] => some building.entries
      | _ =>
          match afterBreak? chars with
          | some rest => statements? fuel building rest
          | none => do
              let (building, rest) ← statement? building chars
              statements? fuel building (← afterStatement? rest)

mutual

/-- A value as a node of a document. -/
def Value.node : Value → Node
  | .text text => .leaf { text? := some text }
  | .other => .unreadable
  | .date => .entries [] false none
  | .items items => .items (nodesOf items) true
  | .tables tables => .items (nodesOfTables tables).reverse true
  | .table _ entries => .entries (nodesOfEntries entries) false none

/-- Items as nodes. -/
def nodesOf : List Value → List Node
  | [] => []
  | item :: rest => item.node :: nodesOf rest

/-- Tables as nodes. -/
def nodesOfTables : List (List (String × Value)) → List Node
  | [] => []
  | entries :: rest => .entries (nodesOfEntries entries) false none :: nodesOfTables rest

/-- Entries as nodes. -/
def nodesOfEntries : List (String × Value) → List (Node × Node)
  | [] => []
  | (key, value) :: rest => (.leaf { text? := some key }, value.node) :: nodesOfEntries rest

end

/-- **Reads a TOML text.** A byte order mark at its beginning does not count. -/
def document? (text : String) : Option Document := do
  let chars :=
    match text.toList with
    | '\ufeff' :: rest => rest
    | chars => chars
  let entries ← statements? (chars.length + 1) {} chars
  return { node := .entries (nodesOfEntries entries) false none }

end Toml

end ContentRouter
