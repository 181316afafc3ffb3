import ContentRouter.Document.Basic
import ContentRouter.Yaml.CoreSchema
import ContentRouter.Yaml.Tree

/-!
# Reading YAML

A YAML text as a document. Where a field asks for text, every scalar is one, whatever it denotes;
an annotation takes only scalars that denote a text. A tag that begins with an exclamation mark is a
name of its own: it chooses among several names if nothing follows it, and keeps what it stands on
from being an annotation.

An alias refers to a shared part. The parts of a document are numbered as their anchors come: an
anchor takes the number of different names that were known before it. A name that is used again
leads to the later part from then on; and since its number is then free to be taken once more, two
names may come to lead to one part. For every node of the text, the aliases and both ends of the
composite nodes counted in, a hundred references may be followed.
-/

namespace ContentRouter

namespace Yaml

/-- Whether a tag begins with an exclamation mark. -/
def isLocal (tag : TagText) : Bool := tag.head? == some '!'.toNat.toUInt8

/-- The name that a tag is, if it begins with an exclamation mark and is well-formed behind it. -/
def localName? (tag : Option TagText) : Option String :=
  (tag.filter isLocal).bind fun tag => String.fromUTF8? ⟨(tag.drop 1).toArray⟩

/-- The tags of scalars that denote no text. -/
def valueTags : List TagText :=
  ["bool", "int", "float", "null"].map fun name => .ofString ("tag:yaml.org,2002:" ++ name)

/-- Whether a scalar denotes something by its form: it is plain, and no tag says what it is. -/
def hasForm (tag : Option TagText) (isPlain : Bool) : Bool :=
  isPlain && tag.all isLocal

/-- The text of a scalar where an annotation asks for one. -/
def labelOf? (tag : Option TagText) (text : String) (isPlain : Bool) : Option String :=
  if (localName? tag).isSome || tag.any valueTags.contains ||
      (hasForm tag isPlain && !denotesText text) then none
  else some text

/-- The name that a scalar chooses. -/
def choiceOf? (tag : Option TagText) (text : String) (isPlain : Bool) : Option String :=
  match localName? tag with
  | some name => if isPlain && (text.isEmpty || isNull text) then some name else none
  | none => some text

/-- The value of a scalar. -/
def leafOf (tag : Option TagText) (text : String) (isPlain : Bool) : Leaf where
  text? := some text
  label? := labelOf? tag text isPlain
  choice? := choiceOf? tag text isPlain
  isVoid := isPlain && text.isEmpty

/-- The anchors seen so far: the number that each name leads to, the names in no particular
order. -/
abbrev Anchors := List (String × Nat)

/-- Takes in an anchor: the number it gets, and the anchors with it. -/
def Anchors.add (anchors : Anchors) (name : String) : Nat × Anchors :=
  (anchors.length, (name, anchors.length) :: anchors.filter (·.1 != name))

/-- What reading some nodes yields: the nodes, the shared parts among them in the order of their
anchors, and the anchors seen by then. -/
structure Resolved (α : Type) where
  value : α
  parts : List (Nat × Node) := []
  anchors : Anchors

/-- A node that may have an anchor, with its parts behind itself. -/
def Resolved.anchored {α : Type} (resolved : Resolved α) (number : Option Nat) (make : α → Node) :
    Resolved Node where
  value := make resolved.value
  parts := (number.map fun number => (number, make resolved.value)).toList ++ resolved.parts
  anchors := resolved.anchors

/-- Takes in the anchor of a node, if it has one. -/
def addAnchor (anchors : Anchors) (anchor : Option String) : Option Nat × Anchors :=
  match anchor with
  | some name =>
      let (number, anchors) := anchors.add name
      (some number, anchors)
  | none => (none, anchors)

mutual

/-- Reads a node. An alias whose anchor has not been seen is refused. -/
def resolve? (anchors : Anchors) : Tree → Option (Resolved Node)
  | .alias name =>
      (anchors.lookup name).map fun number => { value := .reference number, anchors }
  | .scalar anchor tag text isPlain =>
      let (number, anchors) := addAnchor anchors anchor
      let scalar : Resolved Leaf := { value := leafOf tag text isPlain, anchors }
      some (scalar.anchored number .leaf)
  | .items anchor _ items => do
      let (number, anchors) := addAnchor anchors anchor
      let items ← resolveItems? anchors items
      return items.anchored number (.items · false)
  | .entries anchor tag entries => do
      let (number, anchors) := addAnchor anchors anchor
      let entries ← resolveEntries? anchors entries
      return entries.anchored number fun entries =>
        .entries entries (localName? tag).isNone none

/-- Reads items, one after the other. -/
def resolveItems? (anchors : Anchors) : List Tree → Option (Resolved (List Node))
  | [] => some { value := [], anchors }
  | item :: rest => do
      let item ← resolve? anchors item
      let rest ← resolveItems? item.anchors rest
      return { value := item.value :: rest.value, parts := item.parts ++ rest.parts,
               anchors := rest.anchors }

/-- Reads entries, one after the other. -/
def resolveEntries? (anchors : Anchors) : List (Tree × Tree) →
    Option (Resolved (List (Node × Node)))
  | [] => some { value := [], anchors }
  | (key, value) :: rest => do
      let key ← resolve? anchors key
      let value ← resolve? key.anchors value
      let rest ← resolveEntries? value.anchors rest
      return { value := (key.value, value.value) :: rest.value,
               parts := key.parts ++ value.parts ++ rest.parts, anchors := rest.anchors }

end

mutual

/-- The number of marks that make up a node: one for a scalar or an alias, and two around the nodes
in a composite one. -/
def Tree.size : Tree → Nat
  | .alias _ | .scalar _ _ _ _ => 1
  | .items _ _ items => 2 + sizeOfItems items
  | .entries _ _ entries => 2 + sizeOfEntries entries

/-- The number of marks in items. -/
def sizeOfItems : List Tree → Nat
  | [] => 0
  | item :: rest => item.size + sizeOfItems rest

/-- The number of marks in entries. -/
def sizeOfEntries : List (Tree × Tree) → Nat
  | [] => 0
  | (key, value) :: rest => key.size + value.size + sizeOfEntries rest

end

/-- How many references may be followed for every mark of a text. -/
def referencesPerMark : Nat := 100

/-- **Reads a YAML text.** Of several parts with one number the last one counts. -/
def document? (text : String) : Option Document := do
  let tree ← tree? (← tokens? text.toList)
  let resolved ← resolve? [] tree
  return {
    node := resolved.value
    parts := resolved.parts.reverse
    allowance := referencesPerMark * tree.size }

end Yaml

end ContentRouter
