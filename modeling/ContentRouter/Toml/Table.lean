/-!
# TOML tables

Tables are built statement by statement. A header opens a table and may open those around it; a
dotted key opens tables too. How a table came about decides what may be added to it later: a table
with a header of its own cannot be opened again, only dotted keys add to what dotted keys opened,
and nothing adds to an inline table.
-/

namespace ContentRouter

namespace Toml

/-- How a table came about. -/
inductive Origin
  /-- By a header of its own. -/
  | header
  /-- On the way to the table of a header. -/
  | passage
  /-- On the way to the value of a dotted key. -/
  | dotted
  /-- In braces. -/
  | braces
  deriving DecidableEq, Repr

/-- A value. -/
inductive Value
  | text (text : String)
  /-- A truth value or a number. -/
  | other
  /-- A date or a time. -/
  | date
  | items (items : List Value)
  /-- The tables of a list that headers build, the last one first. -/
  | tables (tables : List (List (String × Value)))
  | table (origin : Origin) (entries : List (String × Value))

/-- The entries of a table. -/
abbrev Entries := List (String × Value)

namespace Entries

/-- Gives a key a value, in place of the one it has, if any. -/
def put (key : String) (value : Value) : Entries → Entries
  | [] => [(key, value)]
  | (other, kept) :: rest =>
      if other = key then (key, value) :: rest else (other, kept) :: put key value rest

/-- Changes the table that the path of a header leads to. Of a list of tables the last one counts,
and tables that are missing are opened. -/
def changeAt? (change : Entries → Option Entries) : List String → Entries → Option Entries
  | [], entries => change entries
  | key :: path, entries => do
      match entries.lookup key with
      | none => return entries.put key (.table .passage (← changeAt? change path []))
      | some (.tables (last :: earlier)) =>
          return entries.put key (.tables ((← changeAt? change path last) :: earlier))
      | some (.table .braces _) => none
      | some (.table origin inner) =>
          return entries.put key (.table origin (← changeAt? change path inner))
      | some _ => none

/-- Opens the table of a header in the table around it. -/
def openTable? (key : String) (entries : Entries) : Option Entries :=
  match entries.lookup key with
  | none => some (entries.put key (.table .header []))
  | some (.table .passage inner) => some (entries.put key (.table .header inner))
  | some _ => none

/-- Opens a new table in the list of a header. -/
def openNext? (key : String) (entries : Entries) : Option Entries :=
  match entries.lookup key with
  | none => some (entries.put key (.tables [[]]))
  | some (.tables tables) => some (entries.put key (.tables ([] :: tables)))
  | some _ => none

/-- Gives a dotted key its value. `isOpen` says whether the table may take a value directly. -/
def assign? (value : Value) : Bool → List String → Entries → Option Entries
  | _, [], _ => none
  | isOpen, [key], entries =>
      if isOpen && (entries.lookup key).isNone then some (entries.put key value) else none
  | _, key :: next :: path, entries => do
      match entries.lookup key with
      | none => return entries.put key (.table .dotted (← assign? value true (next :: path) []))
      | some (.table .dotted inner) | some (.table .passage inner) =>
          return entries.put key (.table .dotted (← assign? value true (next :: path) inner))
      | some (.tables (last :: earlier)) =>
          return entries.put key
            (.tables ((← assign? value false (next :: path) last) :: earlier))
      | some _ => none

end Entries

end Toml

end ContentRouter
