import ContentRouter.Yaml.Token

/-!
# YAML trees

The nodes of a YAML document, read from its tokens. A node may have a tag and an anchor before its
content; where nothing but these is given, or nothing at all, the content is an empty scalar. A text
holds at most one document.
-/

namespace ContentRouter

namespace Yaml

/-- A node of a document. -/
inductive Tree
  | alias (name : String)
  | scalar (anchor : Option String) (tag : Option TagText) (text : String) (isPlain : Bool)
  | items (anchor : Option String) (tag : Option TagText) (items : List Tree)
  | entries (anchor : Option String) (tag : Option TagText) (entries : List (Tree × Tree))

/-- The scalar that stands where nothing is given. -/
def Tree.missing : Tree := .scalar none none "" true

/-- What the handles of a document stand for. -/
abbrev Handles := List (String × TagText)

/-- The handles that need no directive. -/
def standardHandles : Handles :=
  [("!", .ofString "!"), ("!!", .ofString "tag:yaml.org,2002:")]

/-- The text of a tag, unless its handle is unknown. -/
def Tag.text? (handles : Handles) (tag : Tag) : Option TagText :=
  if tag.handle.isEmpty then some tag.suffix
  else (handles.lookup tag.handle).map (· ++ tag.suffix)

/-- What is given before the content of a node. -/
structure Properties where
  anchor : Option String := none
  tag : Option TagText := none

/-- Whether anything is given before the content. -/
def Properties.isEmpty (properties : Properties) : Bool :=
  properties.anchor.isNone && properties.tag.isNone

/-- Reads an anchor and a tag, in either order. -/
def properties? (handles : Handles) : List Token → Option (Properties × List Token)
  | .anchor name :: .tag tag :: rest => do
      return ({ anchor := name, tag := ← tag.text? handles }, rest)
  | .tag tag :: .anchor name :: rest => do
      return ({ anchor := name, tag := ← tag.text? handles }, rest)
  | .anchor name :: rest => some ({ anchor := name }, rest)
  | .tag tag :: rest => do return ({ tag := ← tag.text? handles }, rest)
  | rest => some ({}, rest)

/-- Whether the next token is one of those given. -/
def nextIs (tokens : List Token) (expected : List Token) : Bool :=
  tokens.head?.any expected.contains

mutual

/-- Reads a node. `inBlock` says whether it may be a block, and `besideKey` whether it may be a
block of items that is not indented. -/
def node? (handles : Handles) :
    Nat → Bool → Bool → List Token → Option (Tree × List Token)
  | 0, _, _, _ => none
  | _ + 1, _, _, .alias name :: rest => some (.alias name, rest)
  | fuel + 1, inBlock, besideKey, tokens => do
      let (properties, tokens) ← properties? handles tokens
      match tokens with
      | .scalar text isPlain :: rest =>
          some (.scalar properties.anchor properties.tag text isPlain, rest)
      | .flowItemsStart :: rest => do
          let (items, rest) ← flowItems? handles fuel true rest
          return (.items properties.anchor properties.tag items, rest)
      | .flowEntriesStart :: rest => do
          let (entries, rest) ← flowEntries? handles fuel true rest
          return (.entries properties.anchor properties.tag entries, rest)
      | .blockItemsStart :: rest =>
          if inBlock then do
            let (items, rest) ← blockItems? handles fuel rest
            return (.items properties.anchor properties.tag items, rest)
          else emptyNode? properties tokens
      | .blockEntriesStart :: rest =>
          if inBlock then do
            let (entries, rest) ← blockEntries? handles fuel rest
            return (.entries properties.anchor properties.tag entries, rest)
          else emptyNode? properties tokens
      | .blockItem :: _ =>
          if besideKey then do
            let (items, rest) ← besideItems? handles fuel tokens
            return (.items properties.anchor properties.tag items, rest)
          else emptyNode? properties tokens
      | _ => emptyNode? properties tokens

/-- The node without content, which has to have properties. -/
def emptyNode? (properties : Properties) (tokens : List Token) : Option (Tree × List Token) :=
  if properties.isEmpty then none
  else some (.scalar properties.anchor properties.tag "" true, tokens)

/-- Reads a node, or nothing before one of the given tokens. -/
def nodeBefore? (handles : Handles) (fuel : Nat) (inBlock besideKey : Bool) (ends : List Token)
    (tokens : List Token) : Option (Tree × List Token) :=
  match fuel with
  | 0 => none
  | fuel + 1 =>
      if nextIs tokens ends then some (.missing, tokens)
      else node? handles fuel inBlock besideKey tokens

/-- Reads the items of a block and its end. -/
def blockItems? (handles : Handles) : Nat → List Token → Option (List Tree × List Token)
  | fuel + 1, .blockItem :: rest => do
      let (item, rest) ← nodeBefore? handles fuel true false [.blockItem, .blockEnd] rest
      let (items, rest) ← blockItems? handles fuel rest
      return (item :: items, rest)
  | _ + 1, .blockEnd :: rest => some ([], rest)
  | _, _ => none

/-- Reads the items of a block that is not indented, which has no end of its own. -/
def besideItems? (handles : Handles) : Nat → List Token → Option (List Tree × List Token)
  | 0, _ => none
  | fuel + 1, .blockItem :: rest => do
      let (item, rest) ←
        nodeBefore? handles fuel true false [.blockItem, .key, .value, .blockEnd] rest
      let (items, rest) ← besideItems? handles fuel rest
      return (item :: items, rest)
  | _ + 1, rest => some ([], rest)

/-- Reads the entries of a block and its end. -/
def blockEntries? (handles : Handles) : Nat → List Token → Option (List (Tree × Tree) × List Token)
  | fuel + 1, .key :: rest => do
      let (key, rest) ← nodeBefore? handles fuel true true [.key, .value, .blockEnd] rest
      let (value, rest) ←
        match rest with
        | .value :: rest => nodeBefore? handles fuel true true [.key, .value, .blockEnd] rest
        | rest => some (.missing, rest)
      let (entries, rest) ← blockEntries? handles fuel rest
      return ((key, value) :: entries, rest)
  | _ + 1, .blockEnd :: rest => some ([], rest)
  | _, _ => none

/-- Reads the items between brackets and the closing bracket. An item may be a lone entry. -/
def flowItems? (handles : Handles) : Nat → Bool → List Token → Option (List Tree × List Token)
  | 0, _, _ => none
  | _ + 1, _, .flowItemsEnd :: rest => some ([], rest)
  | fuel + 1, isFirst, tokens => do
      let tokens ←
        match isFirst, tokens with
        | true, tokens => some tokens
        | false, .flowComma :: rest => some rest
        | false, _ => none
      match tokens with
      | .flowItemsEnd :: rest => some ([], rest)
      | .key :: rest => do
          let (entry, rest) ← loneEntry? handles fuel rest
          let (items, rest) ← flowItems? handles fuel false rest
          return (.entries none none [entry] :: items, rest)
      | _ => do
          let (item, rest) ← node? handles fuel false false tokens
          let (items, rest) ← flowItems? handles fuel false rest
          return (item :: items, rest)

/-- Reads an entry that is an item between brackets, from behind the indicator of its key. A missing
key takes the token in its place away. -/
def loneEntry? (handles : Handles) : Nat → List Token → Option ((Tree × Tree) × List Token)
  | 0, _ => none
  | fuel + 1, tokens => do
      let (key, rest) ←
        if nextIs tokens [.value, .flowComma, .flowItemsEnd] then some (.missing, tokens.drop 1)
        else node? handles fuel false false tokens
      let (value, rest) ←
        match rest with
        | .value :: rest => nodeBefore? handles fuel false false [.flowComma, .flowItemsEnd] rest
        | rest => some (.missing, rest)
      return ((key, value), rest)

/-- Reads the entries between braces and the closing brace. An entry may lack its value. -/
def flowEntries? (handles : Handles) :
    Nat → Bool → List Token → Option (List (Tree × Tree) × List Token)
  | 0, _, _ => none
  | _ + 1, _, .flowEntriesEnd :: rest => some ([], rest)
  | fuel + 1, isFirst, tokens => do
      let tokens ←
        match isFirst, tokens with
        | true, tokens => some tokens
        | false, .flowComma :: rest => some rest
        | false, _ => none
      match tokens with
      | .flowEntriesEnd :: rest => some ([], rest)
      | .key :: rest => do
          let (key, rest) ←
            nodeBefore? handles fuel false false [.value, .flowComma, .flowEntriesEnd] rest
          let (value, rest) ←
            match rest with
            | .value :: rest =>
                nodeBefore? handles fuel false false [.flowComma, .flowEntriesEnd] rest
            | rest => some (.missing, rest)
          let (entries, rest) ← flowEntries? handles fuel false rest
          return ((key, value) :: entries, rest)
      | _ => do
          let (key, rest) ← node? handles fuel false false tokens
          let (entries, rest) ← flowEntries? handles fuel false rest
          return ((key, .missing) :: entries, rest)

end

/-- Takes in the directives before a document. No directive may be repeated. -/
def directives? : Bool → Handles → List Token → Option (Handles × List Token)
  | hasVersion, handles, .directive (.version major minor) :: rest =>
      if hasVersion || major ≠ 1 || (minor ≠ 1 && minor ≠ 2) then none
      else directives? true handles rest
  | hasVersion, handles, .directive (.tag handle beginning) :: rest =>
      if (handles.lookup handle).isSome then none
      else directives? hasVersion (handles ++ [(handle, beginning)]) rest
  | _, handles, rest => some (handles ++ standardHandles, rest)

/-- Whether a document may begin without a mark. -/
def beginsBare : List Token → Bool
  | [] | .directive _ :: _ | .documentStart :: _ => false
  | _ => true

/-- Reads the content of a document behind its mark. -/
def marked? (handles : Handles) (tokens : List Token) : Option (Tree × List Token) :=
  match tokens with
  | [] | .directive _ :: _ | .documentStart :: _ | .documentEnd :: _ => some (.missing, tokens)
  | _ => node? handles (4 * tokens.length + 4) true false tokens

/-- **Reads the document of a text.** A text without tokens counts as a document without content. -/
def tree? (tokens : List Token) : Option Tree := do
  let (tree, rest) ←
    if tokens.isEmpty then some (.missing, [])
    else if beginsBare tokens then
      node? standardHandles (4 * tokens.length + 4) true false tokens
    else
      let (handles, rest) ← directives? false [] tokens
      match rest with
      | .documentStart :: rest => marked? handles rest
      | _ => none
  if rest.all (· == .documentEnd) then some tree else none

end Yaml

end ContentRouter
