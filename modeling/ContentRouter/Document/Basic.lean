/-!
# Documents

What a structured text holds once its notation is left behind: single values, lists of items, and
entries under keys. The notations differ in what they let a single value stand for, so a value
records the text that it has in each position in which it can be asked for. Some notations let a
part stand in several places; such places refer to the part by a number. Since parts may refer to
parts, a short document can stand for a very long one; so a document says how many references may be
followed while it is read.

Manifests and settings are read from documents, in the same way for every notation.
-/

namespace ContentRouter

/-- A single value, by the text that it has where one is asked for. -/
structure Leaf where
  /-- The text, where a field asks for text. -/
  text? : Option String := none
  /-- The text, where an annotation asks for a name or a value. -/
  label? : Option String := none
  /-- The name, where a field asks for one of several names. -/
  choice? : Option String := none
  /-- Whether the value can stand for a list without items or a record without fields. -/
  isVoid : Bool := false
  deriving DecidableEq, Repr

/-- The value that is the same text in every position. -/
def Leaf.ofText (text : String) : Leaf :=
  { text? := some text, label? := some text, choice? := some text }

/-- The content of a structured text. -/
inductive Node
  | leaf (leaf : Leaf)
  /-- The items of a list. `isRecord` says whether they can also be read as a record, in the order
  of its fields. -/
  | items (items : List Node) (isRecord : Bool)
  /-- Entries under keys. `isLabelled` says whether they can be read as an annotation, and `choice?`
  is the name that they choose as a whole, where one of several names is asked for. -/
  | entries (entries : List (Node × Node)) (isLabelled : Bool) (choice? : Option String)
  /-- The shared part of a number. -/
  | reference (number : Nat)

/-- What cannot be read as anything, but may stand where nobody looks. -/
def Node.unreadable : Node := .leaf {}

/-- A node with the shared parts that it may refer to. -/
structure Document where
  node : Node
  /-- The shared parts by their numbers. The first one of a number counts. -/
  parts : List (Nat × Node) := []
  /-- How many references may be followed while the document is read. -/
  allowance : Nat := 0

/-- Reading something from a document, which may fail. The state is the number of references that
may still be followed. -/
abbrev Reading := StateT Nat Option

namespace Reading

/-- What is read if it is there. -/
def ofOption {α : Type} : Option α → Reading α
  | some value => pure value
  | none => failure

/-- Follows a reference, if that is still allowed. -/
def follow : Reading Unit := do
  match ← get with
  | 0 => failure
  | left + 1 => set left

end Reading

namespace Document

/-- The node itself, or the shared part that it refers to. -/
def content (document : Document) : Reading Node :=
  match document.node with
  | .reference number => do
      Reading.follow
      return (document.parts.lookup number).getD .unreadable
  | node => pure node

/-- Another node with the same shared parts. -/
def within (document : Document) (node : Node) : Document := { document with node }

/-- The entries of a node as documents. -/
def entriesOf (document : Document) (entries : List (Node × Node)) : List (Document × Document) :=
  entries.map fun (key, value) => (document.within key, document.within value)

/-- The text of a document, where a field asks for text. -/
def text (document : Document) : Reading String := do
  match ← document.content with
  | .leaf value => Reading.ofOption value.text?
  | _ => failure

/-- The text of a document, where an annotation asks for a name or a value. -/
def label (document : Document) : Reading String := do
  match ← document.content with
  | .leaf value => Reading.ofOption value.label?
  | _ => failure

/-- The name in a document, where a field asks for one of several names. -/
def choice (document : Document) : Reading String := do
  match ← document.content with
  | .leaf value => Reading.ofOption value.choice?
  | .entries _ _ choice => Reading.ofOption choice
  | _ => failure

/-- The items of a list. -/
def items (document : Document) : Reading (List Document) := do
  match ← document.content with
  | .items items _ => return items.map document.within
  | .leaf value => if value.isVoid then return [] else failure
  | _ => failure

/-- Reads keyed entries as a record. Every key has to be a text, no field may be given twice, and
entries that are no field do not matter. -/
def fieldsOfEntries (names : List String) (entries : List (Document × Document)) :
    Reading (List (Option Document)) := do
  let keyed ← entries.mapM fun (key, value) => return (← key.text, value)
  if names.all fun name => (keyed.filter (·.1 == name)).length ≤ 1 then
    return names.map fun name => keyed.lookup name
  else failure

/-- Reads items as a record, in the order of its fields; fields at the end may be left out. -/
def fieldsOfItems (names : List String) (items : List Document) : List (Option Document) :=
  names.zipIdx.map fun (_, index) => items[index]?

/-- **The fields of a record**, in the order of the names, each with its value if it has one. In
some notations a record can also be written as a list of its values. `spare` says whether such a
list may go on behind the last field. -/
def fields (names : List String) (spare : Bool) (document : Document) :
    Reading (List (Option Document)) := do
  match ← document.content with
  | .entries entries _ _ => fieldsOfEntries names (document.entriesOf entries)
  | .items items isRecord =>
      if isRecord && (spare || items.length ≤ names.length) then
        return fieldsOfItems names (items.map document.within)
      else failure
  | .leaf value => if value.isVoid then return names.map fun _ => none else failure
  | .reference _ => failure

/-- The value of a field that has to be there. -/
def required {α : Type} (read : Document → Reading α) : Option Document → Reading α
  | some document => read document
  | none => failure

/-- The value of a field that has a default. -/
def optional {α : Type} (default : α) (read : Document → Reading α) :
    Option Document → Reading α
  | some document => read document
  | none => return default

/-- Reads every item of a list. -/
def listOf {α : Type} (read : Document → Reading α) (document : Document) : Reading (List α) := do
  (← document.items).mapM read

/-- **Reads a whole document.** -/
def read? {α : Type} (read : Document → Reading α) (document : Document) : Option α :=
  (read document).run' document.allowance

end Document

end ContentRouter
