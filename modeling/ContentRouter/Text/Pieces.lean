import ContentRouter.Text.Characters

/-!
# Cutting texts at a separator

`pieces` cuts a text at every occurrence of a separator and `joinWith` puts texts together again.
Cutting at `n` separators gives `n + 1` pieces, none of which contains the separator, and joining
them with that separator restores the text (`joinChars_splitChars`).

What holds of every code point is kept in a table: as runs of neighbours of which the same holds. A
table is written as words with blanks between them, one word for a run, so that a long table stays
short.
-/

namespace ContentRouter

namespace Text

/-- The stretches of characters between the occurrences of `sep`, in order. -/
def splitChars (sep : Char) : List Char → List (List Char)
  | [] => [[]]
  | c :: rest =>
      if c = sep then [] :: splitChars sep rest
      else
        match splitChars sep rest with
        | [] => [[c]]
        | piece :: others => (c :: piece) :: others

/-- Stretches of characters with `sep` between each two neighbours. -/
def joinChars (sep : Char) : List (List Char) → List Char
  | [] => []
  | [piece] => piece
  | piece :: next :: others => piece ++ sep :: joinChars sep (next :: others)

/-- The pieces of a text between the occurrences of `sep`, in order. -/
def pieces (sep : Char) (text : String) : List String :=
  (splitChars sep text.toList).map String.ofList

/-- Texts with `sep` between each two neighbours. -/
def joinWith (sep : String) : List String → String
  | [] => ""
  | [piece] => piece
  | piece :: next :: others => piece ++ sep ++ joinWith sep (next :: others)

/-- The text before and after the last occurrence of `sep`, if there is one. -/
def splitAtLast? (sep : Char) (text : String) : Option (String × String) :=
  match splitChars sep text.toList.reverse with
  | last :: before :: others =>
      some (String.ofList (joinChars sep (before :: others)).reverse, String.ofList last.reverse)
  | _ => none

/-- There is at least one stretch. -/
theorem splitChars_ne_nil (sep : Char) (chars : List Char) : splitChars sep chars ≠ [] := by
  cases chars with
  | nil => simp [splitChars]
  | cons c rest =>
      unfold splitChars
      split
      · simp
      · split <;> simp

/-- Joining the pieces of a text with the separator they were cut at restores it. -/
theorem joinChars_splitChars (sep : Char) (chars : List Char) :
    joinChars sep (splitChars sep chars) = chars := by
  induction chars with
  | nil => simp [splitChars, joinChars]
  | cons c rest ih =>
      have nonempty := splitChars_ne_nil sep rest
      unfold splitChars
      cases cut : splitChars sep rest with
      | nil => exact absurd cut nonempty
      | cons piece others =>
          rw [cut] at ih
          by_cases same : c = sep
          · simp [same, joinChars, ih]
          · cases others with
            | nil => simpa [same, joinChars] using ih
            | cons next more => simpa [same, joinChars] using ih


/-- The runs from code point zero on: how many code points each one has, and what holds of them. -/
abbrev Runs (α : Type) := List (Nat × α)

/-- The words of a text, with blanks and line breaks between them. -/
def words (text : String) : List (List Char) :=
  (splitChars ' ' (text.toList.map fun c => if c == '\n' then ' ' else c)).filter (!·.isEmpty)

namespace Runs

variable {α : Type}

/-- Reads a table, word by word. -/
def ofText (run? : List Char → Option (Nat × α)) (text : String) : Runs α :=
  (words text).filterMap run?

/-- What holds of a code point, and its place within its run. Nothing is known behind the last
run. -/
def find? : Runs α → Nat → Option (Nat × α)
  | [], _ => none
  | (count, value) :: rest, point =>
      if point < count then some (point, value) else find? rest (point - count)

/-- What holds of a character, or `other` behind the last run. -/
def valueOf (runs : Runs α) (other : α) (c : Char) : α :=
  ((runs.find? c.toNat).map (·.2)).getD other

end Runs

end Text

end ContentRouter
