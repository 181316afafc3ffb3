import ContentRouter.Template.Basic
import ContentRouter.Uri.Check

/-!
# Models of templates

A model is a template under an authority. Its normalized path has the wildcard in place of every
placeholder, and forms a URI together with the scheme and the authority. The authority itself is
checked once per provider class, so that an unusable authority is reported on the class and not on
each of its handlers.

Two models are *structurally equal* when authority and normalized path agree; they then share a
matcher id. They are *fully equal* when their query pairs agree as well, whatever the order of the
pairs and the names of the placeholders.
-/

namespace ContentRouter

/-- The number that the routes of one authority and one normalized path share. The ids are counted
in 32 bits: those of a registry stay below `2 ^ 32` as long as fewer addresses are registered
(`Run.MatcherIdLaw.bounded`). -/
abbrev MatcherId := Nat

/-- A template under an authority. -/
structure Model where
  /-- The template as it was declared. -/
  text : String
  authority : String
  normalizedPath : String
  template : Template
  /-- The matcher id, once a registry has given one. -/
  matcherId : Option MatcherId := none
  deriving DecidableEq, Repr

namespace Model

/-- The marker that stands for a placeholder segment unless another one is chosen. -/
def defaultWildcard : String := "*"

/-- The scheme that a model is checked under unless another one is chosen. -/
def defaultScheme : String := "content"

/-- Whether a character may not occur in a normalized path. Braces may, because an unbalanced brace
is part of a literal. -/
def isForbiddenInPath (c : Char) : Bool :=
  Text.isBlank c || Text.isControl c ||
    ['#', '"', '<', '>', '\\', '^', '\x60', '|'].contains c

/-- The path with the wildcard in place of every placeholder. -/
def normalizedPathOf (wildcard : String) (segments : List Segment) : String :=
  "/" ++ Text.joinWith "/"
    (segments.map fun
      | .literal text => text
      | .placeholder _ => wildcard)

/-- The URI that a normalized path forms under a scheme and an authority. -/
def candidateUri (scheme authority path : String) : String :=
  scheme ++ "://" ++ authority ++ path

/-- Checks that a normalized path forms a URI. -/
def checkPath (scheme authority path template : String) : Except Fault Unit :=
  match path.toList.find? isForbiddenInPath with
  | some character => .error (.illegalTemplate template (.pathCharacter character))
  | none =>
      let candidate := candidateUri scheme authority path
      match Uri.check candidate with
      | .ok () => .ok ()
      | .error reason => .error (.illegalTemplate template (.unacceptableUri candidate reason))

/-- **Builds the model of a template under an authority.** Faults of the text come alone; the path
is checked only when there are none. -/
def build (scheme wildcard authority text : String) : Except (List Fault) Model :=
  match Template.parse text with
  | .error faults => .error faults
  | .ok template =>
      let path := normalizedPathOf wildcard template.segments
      match checkPath scheme authority path text with
      | .error fault => .error [fault]
      | .ok () => .ok { text, authority, normalizedPath := path, template }

/-- The query pairs in the order of the text. -/
def query (model : Model) : List QueryPair := model.template.query

/-- The number of query pairs: what a request must carry for the model to serve it. -/
def queryCount (model : Model) : Nat := model.query.length

/-- The placeholder of a name. -/
def placeholder? (model : Model) (name : String) : Option Placeholder :=
  model.template.placeholder? name

/-- Gives the model a matcher id. The first id stands. -/
def withMatcherId (model : Model) (id : MatcherId) : Model :=
  { model with matcherId := model.matcherId <|> some id }

/-- A model without an id takes the one that it is given. -/
theorem matcherId_withMatcherId_of_none {model : Model} (unmarked : model.matcherId = none)
    (id : MatcherId) : (model.withMatcherId id).matcherId = some id := by
  simp [withMatcherId, unmarked]

/-- A model keeps the id that it has. -/
theorem matcherId_withMatcherId_of_some {model : Model} {first : MatcherId}
    (marked : model.matcherId = some first) (id : MatcherId) :
    (model.withMatcherId id).matcherId = some first := by
  simp [withMatcherId, marked]

/-- Same authority and same normalized path. -/
def structurallyEquals (model other : Model) : Bool :=
  model.authority == other.authority && model.normalizedPath == other.normalizedPath

/-- Structurally equal, with as many query pairs, and every pair of the one asks the same as some
pair of the other with its key. -/
def fullyEquals (model other : Model) : Bool :=
  model.structurallyEquals other && model.queryCount == other.queryCount &&
    model.query.all fun pair =>
      other.query.any fun candidate =>
        candidate.key == pair.key && candidate.value.agrees pair.value

/-- Whether the path has an empty segment beside others. The root path is a single empty segment
and has none to lose. -/
def hasEmptySegment (model : Model) : Bool :=
  1 < model.template.segments.length && model.template.segments.any Segment.isEmpty

end Model

namespace Authority

/-- Whether a character may not occur in an authority: white space, controls, the characters that
would end the authority of a URI or split it, and braces. -/
def isForbidden (c : Char) : Bool :=
  Text.isBlank c || Text.isControl c || ['/', '?', '#', '{', '}', '@'].contains c

/-- **Checks that an authority can stand in a URI** under a scheme. -/
def check (scheme authority : String) : Except Fault Unit :=
  if authority.isEmpty then .error (.illegalTemplate authority .emptyAuthority)
  else
    match authority.toList.find? isForbidden with
    | some character => .error (.illegalTemplate authority (.authorityCharacter character))
    | none =>
        let candidate := Model.candidateUri scheme authority "/"
        match Uri.check candidate with
        | .ok () => .ok ()
        | .error reason => .error (.illegalTemplate authority (.unacceptableUri candidate reason))

end Authority

end ContentRouter
