import ContentRouter.Text.Characters

/-!
# Placeholders

A placeholder is a named hole of a template. It stands either for a whole segment of the path or
for the value of a query parameter, and its slot records which.
-/

namespace ContentRouter

/-- The two places a placeholder can be declared for. -/
inductive PlaceholderKind
  | path
  | query
  deriving DecidableEq, Repr

/-- The name of a kind in models and messages. -/
def PlaceholderKind.name : PlaceholderKind → String
  | .path => "path"
  | .query => "query"

/-- Where a placeholder stands. -/
inductive Slot
  /-- The path segment with this index, counted from zero behind the leading slash. -/
  | segment (index : Nat)
  /-- The value of the query parameter with this key. -/
  | parameter (key : String)
  deriving DecidableEq, Repr

namespace Slot

/-- The kind of the placeholders that stand in a slot. -/
def kind : Slot → PlaceholderKind
  | .segment _ => .path
  | .parameter _ => .query

/-- The segment index as text, or the query key. -/
def key : Slot → String
  | .segment index => toString index
  | .parameter key => key

/-- The segment index, if the slot is in the path. -/
def position : Slot → Option Nat
  | .segment index => some index
  | .parameter _ => none

/-- The slot in the words of a message. -/
def description : Slot → String
  | .segment index => s!"path segment {index}"
  | .parameter key => s!"query parameter '{key}'"

/-- Reads a segment index back from its text: decimal digits after at most one plus sign, denoting
a number of at most 64 bits. -/
def segmentOfKey? (key : String) : Option Nat :=
  let digits :=
    match key.toList with
    | '+' :: digits => digits
    | digits => digits
  if digits.isEmpty || !digits.all Text.isDigit then none
  else (Text.numberIn? 10 digits).filter (· < Nat.pow 2 64)

end Slot

/-- A named hole of a template. -/
structure Placeholder where
  name : String
  slot : Slot
  deriving DecidableEq, Repr

end ContentRouter
