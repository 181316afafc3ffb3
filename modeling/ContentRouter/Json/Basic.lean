import ContentRouter.Text.Characters
import ContentRouter.Text.Pieces

/-!
# JSON values and their text

The values that the program writes as JSON, and the one text that each of them has: two blanks per
level, one item or entry per line, a blank behind the colon, and nothing between the brackets of an
empty list or object.
-/

namespace ContentRouter

/-- A JSON value. The entries of an object keep their order. -/
inductive Json
  | null
  | bool (value : Bool)
  | number (value : Nat)
  | text (text : String)
  | array (items : List Json)
  | object (entries : List (String × Json))

namespace Json

/-- A character inside a quoted text. Quotes, backslashes and the controls below the blank are
escaped; every other character stands for itself. -/
def escaped (c : Char) : String :=
  if c == '"' then "\\\""
  else if c == '\\' then "\\\\"
  else if c == '\x08' then "\\b"
  else if c == '\x0c' then "\\f"
  else if c == '\n' then "\\n"
  else if c == '\r' then "\\r"
  else if c == '\t' then "\\t"
  else if c.toNat < 0x20 then
    "\\u00" ++ (if c.toNat < 0x10 then "0" else "") ++ Text.hexDigits c.toNat
  else c.toString

/-- A text in quotes. -/
def quoted (text : String) : String :=
  "\"" ++ String.join (text.toList.map escaped) ++ "\""

/-- The line break before something at a level. -/
def newline (level : Nat) : String :=
  "\n" ++ String.ofList (List.replicate (2 * level) ' ')

/-- Brackets around the texts of items that stand one level deeper, or right beside each other if
there are no items. -/
def bracketed (opening closing : String) (level : Nat) (items : List String) : String :=
  if items.isEmpty then opening ++ closing
  else
    opening ++ newline (level + 1) ++ Text.joinWith ("," ++ newline (level + 1)) items ++
      newline level ++ closing

mutual

/-- The text of a value that stands at a level. -/
def pretty (level : Nat) : Json → String
  | .null => "null"
  | .bool value => if value then "true" else "false"
  | .number value => toString value
  | .text string => quoted string
  | .array items => bracketed "[" "]" level (prettyItems (level + 1) items)
  | .object entries => bracketed "\x7b" "\x7d" level (prettyEntries (level + 1) entries)

/-- The texts of items that stand at a level. -/
def prettyItems (level : Nat) : List Json → List String
  | [] => []
  | item :: rest => pretty level item :: prettyItems level rest

/-- The texts of entries that stand at a level. -/
def prettyEntries (level : Nat) : List (String × Json) → List String
  | [] => []
  | (key, value) :: rest =>
      (quoted key ++ ": " ++ pretty level value) :: prettyEntries level rest

end

/-- The text of a whole value. -/
def render (value : Json) : String := pretty 0 value

end Json

end ContentRouter
