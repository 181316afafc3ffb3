import ContentRouter.Fault

/-!
# Templates

A template addresses a handler: a path of segments and, behind a question mark, query pairs.

```text
template := path [ "?" query ]
path     := segment ( "/" segment )*
segment  := "{" name "}" | literal
query    := pair ( "&" pair )*
pair     := key "=" ( "{" name "}" | literal )
```

`Template.parse` reads a template and reports every offence, the path first. Placeholder names
share one namespace across path and query, and a repeated name keeps its first slot.
`Template.pathText` and `Template.queryText` write the two parts back.
-/

namespace ContentRouter

/-- One segment of a path. -/
inductive Segment
  | literal (text : String)
  | placeholder (name : String)
  deriving DecidableEq, Repr

/-- The value of a query pair. -/
inductive QueryValue
  /-- The request must carry exactly this value. -/
  | literal (text : String)
  /-- The request may carry any value. -/
  | placeholder (name : String)
  deriving DecidableEq, Repr

/-- One `key=value` pair of a query. -/
structure QueryPair where
  key : String
  value : QueryValue
  deriving DecidableEq, Repr

/-- A template in parts: its segments, its query pairs, and the placeholders that they declare, in
the order of the text. -/
structure Template where
  segments : List Segment
  query : List QueryPair
  placeholders : List Placeholder
  deriving DecidableEq, Repr

/-- The name of a text that is a placeholder as a whole: an opening brace, at least one character
other than a closing brace, and a closing brace at the end. -/
def placeholderName? (text : String) : Option String :=
  match text.toList with
  | '{' :: rest =>
      let name := rest.takeWhile (· != '}')
      if !name.isEmpty && rest.drop name.length == ['}'] then some (String.ofList name) else none
  | _ => none

namespace Segment

/-- The segment that a piece of a path denotes. Anything but a placeholder is a literal, unbalanced
braces included. -/
def ofText (text : String) : Segment :=
  match placeholderName? text with
  | some name => .placeholder name
  | none => .literal text

/-- The segment as a template writes it. -/
def text : Segment → String
  | .literal text => text
  | .placeholder name => Fault.braced name

/-- Whether the segment is a literal without text, as between two slashes. -/
def isEmpty : Segment → Bool
  | .literal text => text.isEmpty
  | .placeholder _ => false

end Segment

namespace QueryValue

/-- The value that the text behind an equals sign denotes. -/
def ofText (text : String) : QueryValue :=
  match placeholderName? text with
  | some name => .placeholder name
  | none => .literal text

/-- The value as a template writes it. -/
def text : QueryValue → String
  | .literal text => text
  | .placeholder name => Fault.braced name

/-- Whether two values ask the same of a request: the same literal, or any value at all. -/
def agrees : QueryValue → QueryValue → Bool
  | .literal text, .literal other => text == other
  | .placeholder _, .placeholder _ => true
  | _, _ => false

end QueryValue

namespace QueryPair

/-- The pair that a query element denotes: exactly one equals sign, with text on both sides. -/
def ofText? (element : String) : Option QueryPair :=
  match Text.pieces '=' element with
  | [key, value] =>
      if key.isEmpty || value.isEmpty then none else some ⟨key, QueryValue.ofText value⟩
  | _ => none

/-- The pair as a template writes it. -/
def text (pair : QueryPair) : String :=
  pair.key ++ "=" ++ pair.value.text

end QueryPair

namespace Template

/-- What reading a template has found so far. -/
structure Findings where
  pairs : List QueryPair := []
  placeholders : List Placeholder := []
  faults : List Fault := []

namespace Findings

/-- Records a fault of the template. -/
def report (found : Findings) (fault : Fault) : Findings :=
  { found with faults := found.faults ++ [fault] }

/-- Declares a placeholder. A name that is taken is a fault, and its first slot stands. -/
def declare (template : String) (found : Findings) (placeholder : Placeholder) : Findings :=
  match found.placeholders.find? (·.name == placeholder.name) with
  | some earlier =>
      found.report (.duplicatePlaceholder template placeholder.name (.at earlier.slot)
        (.at placeholder.slot))
  | none => { found with placeholders := found.placeholders ++ [placeholder] }

/-- Takes in the next segments, of which the first has the given index. -/
def takeSegments (template : String) : Findings → Nat → List Segment → Findings
  | found, _, [] => found
  | found, index, .literal _ :: rest => takeSegments template found (index + 1) rest
  | found, index, .placeholder name :: rest =>
      takeSegments template (found.declare template ⟨name, .segment index⟩) (index + 1) rest

/-- Takes in a query pair whose key is new. -/
def takePair (template : String) (found : Findings) (pair : QueryPair) : Findings :=
  let declared :=
    match pair.value with
    | .literal _ => found
    | .placeholder name => found.declare template ⟨name, .parameter pair.key⟩
  { declared with pairs := declared.pairs ++ [pair] }

/-- Takes in the next query element. The value of a repeated key declares nothing. -/
def takeElement (template : String) (found : Findings) (element : String) : Findings :=
  match QueryPair.ofText? element with
  | none => found.report (.illegalTemplate template (.malformedPair element))
  | some pair =>
      if found.pairs.any (·.key == pair.key) then
        found.report (.illegalTemplate template (.repeatedKey pair.key))
      else found.takePair template pair

end Findings

/-- The segments of the path part of a template. One leading slash is optional. -/
def segmentsOf (path : String) : List Segment :=
  let path :=
    match path.toList with
    | '/' :: rest => String.ofList rest
    | _ => path
  (Text.pieces '/' path).map Segment.ofText

/-- The elements of the query part of a template. Empty elements do not count. -/
def elementsOf (query : String) : List String :=
  (Text.pieces '&' query).filter (!·.isEmpty)

/-- Reads the two parts of a template. -/
def ofParts (template path query : String) : Except (List Fault) Template :=
  let segments := segmentsOf path
  let inPath := Findings.takeSegments template {} 0 segments
  let found := (elementsOf query).foldl (Findings.takeElement template) inPath
  if found.faults.isEmpty then .ok ⟨segments, found.pairs, found.placeholders⟩
  else .error found.faults

/-- **Reads a template.** The faults are all those of the text, in its order. A second question mark
stops the reading, because it leaves open where the query begins. -/
def parse (template : String) : Except (List Fault) Template :=
  match Text.pieces '?' template with
  | [path] => ofParts template path ""
  | [path, query] => ofParts template path query
  | _ => .error [.illegalTemplate template .secondQuestionMark]

/-- The path of a template without its leading slash. -/
def pathText (template : Template) : String :=
  Text.joinWith "/" (template.segments.map Segment.text)

/-- The query of a template, with an ampersand between each two pairs. -/
def queryText (template : Template) : String :=
  Text.joinWith "&" (template.query.map QueryPair.text)

/-- The placeholder of a name. -/
def placeholder? (template : Template) (name : String) : Option Placeholder :=
  template.placeholders.find? (·.name == name)

end Template

end ContentRouter
