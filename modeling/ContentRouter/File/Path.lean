import ContentRouter.Text.Pieces

/-!
# Paths

Paths of files as texts. A path is absolute if it begins with a slash. Repeated slashes and the
component `.` do not count, except that a relative path may begin with `.`; nothing is looked up and
`..` is a component like any other.
-/

namespace ContentRouter

/-- The path of a file or a directory. -/
structure Path where
  text : String
  deriving DecidableEq, Repr

namespace Path

/-- Whether a path begins at the root. -/
def isAbsolute (path : Path) : Bool :=
  path.text.toList.head? == some '/'

/-- A path behind another one. An absolute path replaces what it is put behind. -/
def push (path part : Path) : Path :=
  if part.isAbsolute then part
  else if path.text.isEmpty || path.text.toList.getLast? == some '/' then
    ⟨path.text ++ part.text⟩
  else ⟨path.text ++ "/" ++ part.text⟩

/-- What stands between the slashes of a path, in order. -/
def pieces (path : Path) : List String :=
  Text.pieces '/' path.text

/-- Whether the piece with an index counts as a component of a path. -/
def isComponent (path : Path) (index : Nat) (piece : String) : Bool :=
  if piece == "." then index == 0 && !path.isAbsolute else !piece.isEmpty

/-- The components of a path, each with its index among the pieces between slashes. -/
def components (path : Path) : List (Nat × String) :=
  (path.pieces.zipIdx.map fun (piece, index) => (index, piece)).filter
    fun (index, piece) => path.isComponent index piece

/-- The path as far as the piece with an index, and including it. -/
def upTo (path : Path) (index : Nat) : Path :=
  ⟨Text.joinWith "/" (path.pieces.take (index + 1))⟩

/-- The path without its last component, if it has components. -/
def parent? (path : Path) : Option Path :=
  match path.components.reverse with
  | [] => none
  | [_] => some (if path.isAbsolute then ⟨"/"⟩ else ⟨""⟩)
  | _ :: (index, _) :: _ => some (path.upTo index)

/-- The last component, unless it is `.` or `..`. -/
def fileName? (path : Path) : Option String :=
  (path.components.getLast?.map (·.2)).filter fun name => name != "." && name != ".."

/-- What follows the last dot of the last component. A dot at its beginning does not count. -/
def extension? (path : Path) : Option String :=
  match path.fileName?.bind (Text.splitAtLast? '.') with
  | some (stem, extension) => if stem.isEmpty then none else some extension
  | none => none

/-- An absolute path replaces the one that it is pushed to. -/
theorem push_of_isAbsolute {path part : Path} (absolute : part.isAbsolute = true) :
    path.push part = part := by
  simp [push, absolute]

end Path

end ContentRouter
