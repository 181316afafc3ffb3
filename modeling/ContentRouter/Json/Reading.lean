import ContentRouter.Document.Basic
import ContentRouter.Json.Token

/-!
# Reading JSON

A JSON text as a document. The tokens are taken in one after the other, with the lists and objects
that are still open on a stack. A string is its text in every position; numbers, truth values and
`null` denote no text at all. An object whose only entry is `null` chooses the name of its key.
-/

namespace ContentRouter

namespace Json

/-- A list or an object that is still open, with what it holds so far. -/
inductive Frame
  | list (items : List Node)
  /-- `choice` is the key of the only entry, if that entry is `null`. -/
  | object (entries : List (Node × Node)) (choice : Option String) (key : Leaf)

/-- What may come next. -/
inductive Expectation
  | value
  | valueOrClose
  | key
  | keyOrClose
  | colon
  | commaOrClose
  /-- Nothing, because the whole value is there. -/
  | nothing (whole : Node)

/-- How far the reading has come. -/
structure ReadingState where
  expected : Expectation := .value
  /-- The innermost open list or object comes first. -/
  frames : List Frame := []

namespace ReadingState

/-- Takes in a whole value. -/
def complete (frames : List Frame) (value : Node) (isNull : Bool) : ReadingState :=
  match frames with
  | [] => { expected := .nothing value }
  | .list items :: rest =>
      { expected := .commaOrClose, frames := .list (items ++ [value]) :: rest }
  | .object entries _ key :: rest =>
      let choice := if isNull && entries.isEmpty then key.text? else none
      { expected := .commaOrClose
        frames := .object (entries ++ [(.leaf key, value)]) choice key :: rest }

/-- The value of a string token. -/
def leafOf (content : Option String) : Leaf :=
  match content with
  | some text => Leaf.ofText text
  | none => {}

/-- Takes in a token where a value may come. -/
def takeValue? (frames : List Frame) : Token → Option ReadingState
  | .openList => some { expected := .valueOrClose, frames := .list [] :: frames }
  | .openObject => some { expected := .keyOrClose, frames := .object [] none {} :: frames }
  | .null => some (complete frames .unreadable true)
  | .bool | .number => some (complete frames .unreadable false)
  | .text content => some (complete frames (.leaf (leafOf content)) false)
  | _ => none

/-- Takes in a token where the innermost list or object may end. -/
def takeClose? : List Frame → Token → Option ReadingState
  | .list items :: rest, .closeList => some (complete rest (.items items true) false)
  | .object entries choice _ :: rest, .closeObject =>
      some (complete rest (.entries entries true choice) false)
  | _, _ => none

/-- Takes in a token where a key has to come. -/
def takeKey? : List Frame → Token → Option ReadingState
  | .object entries choice _ :: rest, .text content =>
      some { expected := .colon, frames := .object entries choice (leafOf content) :: rest }
  | _, _ => none

/-- What has to come behind a comma. -/
def takeComma? : List Frame → Option ReadingState
  | .list items :: rest => some { expected := .value, frames := .list items :: rest }
  | .object entries choice key :: rest =>
      some { expected := .key, frames := .object entries choice key :: rest }
  | [] => none

/-- Takes in a token. -/
def take? (state : ReadingState) (token : Token) : Option ReadingState :=
  match state.expected with
  | .value => takeValue? state.frames token
  | .valueOrClose => takeValue? state.frames token <|> takeClose? state.frames token
  | .key => takeKey? state.frames token
  | .keyOrClose => takeKey? state.frames token <|> takeClose? state.frames token
  | .colon => if token = .colon then some { state with expected := .value } else none
  | .commaOrClose =>
      if token = .comma then takeComma? state.frames else takeClose? state.frames token
  | .nothing _ => none

end ReadingState

/-- **Reads a JSON text.** -/
def document? (text : String) : Option Document := do
  let tokens ← tokens? text.toList
  let state ← tokens.foldlM ReadingState.take? {}
  match state.expected with
  | .nothing whole => some { node := whole }
  | _ => none

end Json

end ContentRouter
