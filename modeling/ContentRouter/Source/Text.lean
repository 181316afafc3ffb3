import ContentRouter.Template.Basic
import ContentRouter.Text.Characters
import ContentRouter.Text.Pieces

/-!
# Texts and guards inside generated sources

How a text is written as a string literal and how it is written in a line comment. In a literal,
quotes and backslashes are escaped, and so is every control character; all else stands for itself.
In a comment a control character becomes a blank, so that the comment cannot end before its line
does.

The guard of a route tells whether the query of a request has what the route's template asks for: a
literal has to be equal, and a placeholder has to be there. The guard of a template without query
pairs asks for nothing and always holds.
-/

namespace ContentRouter

namespace Source

/-- The escape of a character by four hexadecimal digits. -/
def unicodeEscape (c : Char) : String :=
  let digits := Text.hexDigits c.toNat
  "\\u" ++ String.ofList (List.replicate (4 - digits.length) '0') ++ digits

/-- A character inside a string literal. -/
def escaped (c : Char) : String :=
  if c == '"' then "\\\""
  else if c == '\\' then "\\\\"
  else if c == '\n' then "\\n"
  else if c == '\r' then "\\r"
  else if c == '\t' then "\\t"
  else if Text.isControl c then unicodeEscape c
  else c.toString

/-- A text as a string literal. -/
def literal (text : String) : String :=
  "\"" ++ String.join (text.toList.map escaped) ++ "\""

/-- A character inside a line comment. -/
def commentChar (c : Char) : Char :=
  if Text.isControl c then ' ' else c

/-- A text as the content of a line comment. -/
def comment (text : String) : String :=
  String.ofList (text.toList.map commentChar)

end Source

/-- What a route asks of the query of a request. -/
inductive Condition
  /-- The parameter of a key has exactly this value. -/
  | equals (key value : String)
  /-- There is a parameter of a key. -/
  | present (key : String)
  deriving DecidableEq, Repr

/-- Everything that a route asks of a query. -/
abbrev Guard := List Condition

/-- The call that looks up the parameter of a key in a request. -/
def Condition.lookup (key : String) : String :=
  "uri.getQueryParameter(" ++ Source.literal key ++ ")"

namespace Condition

/-- What a query pair of a template asks for. -/
def ofPair (pair : QueryPair) : Condition :=
  match pair.value with
  | .literal value => .equals pair.key value
  | .placeholder _ => .present pair.key

/-- A condition as an expression. -/
def text : Condition → String
  | .equals key value => Source.literal value ++ ".equals(" ++ lookup key ++ ")"
  | .present key => lookup key ++ " != null"

/-- Whether a query, by the value of each of its keys, meets a condition. -/
def holds (query : String → Option String) : Condition → Bool
  | .equals key value => query key == some value
  | .present key => (query key).isSome

end Condition

namespace Guard

/-- What the query pairs of a template ask for, in their order. -/
def ofPairs (pairs : List QueryPair) : Guard :=
  pairs.map Condition.ofPair

/-- A guard as an expression, empty if the guard always holds. -/
def text (guard : Guard) : String :=
  Text.joinWith " && " (guard.map Condition.text)

/-- Whether a query meets every condition of a guard. -/
def holds (query : String → Option String) (guard : Guard) : Bool :=
  guard.all (·.holds query)

end Guard

end ContentRouter
