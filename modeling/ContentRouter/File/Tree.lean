import ContentRouter.File.Path

/-!
# File trees

The files and directories that a run can reach, with the directory in which it works. A path is
followed piece by piece from the root or from the working directory: `.` and an empty piece stay,
`..` goes up, a name goes down, and each of them needs a directory to start from. Putting an entry
at a place changes what stands there and nothing else (`entryAt?_put_of_ne`).
-/

namespace ContentRouter

/-- A place in a file tree: the names that lead to it from the root. -/
abbrev Place := List String

/-- What stands at a place. -/
inductive FileTree.Entry where
  | directory
  | file (content : String)
  deriving DecidableEq, Repr

/-- The entries of a file tree below its root, which is a directory itself, and the directory where
relative paths begin. -/
structure FileTree where
  workingDirectory : Place := []
  entries : List (Place × FileTree.Entry) := []
  deriving DecidableEq, Repr

namespace FileTree

/-- What stands at a place, if anything does. -/
def entryAt? (tree : FileTree) (place : Place) : Option Entry :=
  if place.isEmpty then some .directory else tree.entries.lookup place

/-- The tree with an entry put at a place, instead of what stood there. -/
def put (tree : FileTree) (place : Place) (entry : Entry) : FileTree :=
  { tree with entries := (place, entry) :: tree.entries.filter (·.1 != place) }

/-- Whether a directory stands at a place. -/
def isDirectory (tree : FileTree) (place : Place) : Bool :=
  tree.entryAt? place == some .directory

/-- The content of the file at a place, if a file stands there. -/
def content? (tree : FileTree) (place : Place) : Option String :=
  match tree.entryAt? place with
  | some (.file content) => some content
  | _ => none

/-! ## Following paths -/

/-- The place where a path begins. -/
def start (tree : FileTree) (path : Path) : Place :=
  if path.isAbsolute then [] else tree.workingDirectory

/-- The place to which one piece of a path leads from a directory. -/
def stepTo (place : Place) (piece : String) : Place :=
  if piece == "" || piece == "." then place
  else if piece == ".." then place.dropLast
  else place ++ [piece]

/-- The place to which a path leads, whatever stands on the way. -/
def place (tree : FileTree) (path : Path) : Place :=
  path.pieces.foldl stepTo (tree.start path)

/-- The place to which the pieces of a path lead, if all they pass are directories and something
stands at the end. -/
def follow? (tree : FileTree) (place : Place) : List String → Option Place
  | [] => some place
  | piece :: rest =>
      let next := stepTo place piece
      if tree.isDirectory place && (tree.entryAt? next).isSome then tree.follow? next rest else none

/-- The longest name of an entry, in bytes. -/
def longestName : Nat := 255

/-- The longest path, in bytes. -/
def longestPath : Nat := 4095

/-- Whether a path can be followed at all: it is not empty, not too long and free of NUL. -/
def isFollowable (path : Path) : Bool :=
  !path.text.isEmpty && path.text.utf8ByteSize ≤ longestPath && !path.text.toList.contains '\x00'

/-- The place that a path names, if something stands there. -/
def locate? (tree : FileTree) (path : Path) : Option Place :=
  if isFollowable path then tree.follow? (tree.start path) path.pieces else none

/-- Whether a path names something. -/
def contains (tree : FileTree) (path : Path) : Bool :=
  (tree.locate? path).isSome

/-- **The content of the file that a path names.** There is none where the path names nothing or a
directory. -/
def read? (tree : FileTree) (path : Path) : Option String :=
  (tree.locate? path).bind tree.content?

/-! ## Writing -/

/-- Whether a piece of a path can name a new entry. -/
def isName (piece : String) : Bool :=
  piece != "" && piece != "." && piece != ".." && piece.utf8ByteSize ≤ longestName

/-- The tree after making the directories on the way along pieces of a path that do not exist yet,
and the directory reached. Where a file stands in the way, or a piece can name no entry, the walk
ends there, and what was made until then stays. -/
def makeAlong (tree : FileTree) (place : Place) : List String → FileTree × Option Place
  | [] => (tree, if tree.isDirectory place then some place else none)
  | piece :: rest =>
      let next := stepTo place piece
      if !tree.isDirectory place then (tree, none)
      else if (tree.entryAt? next).isSome then tree.makeAlong next rest
      else if isName piece then (tree.put next .directory).makeAlong next rest
      else (tree, none)

/-- **Makes a directory with all directories on the way to it,** and tells whether it stands now.
The empty path asks for nothing. -/
def makeDirectories (tree : FileTree) (path : Path) : FileTree × Bool :=
  if path.text.isEmpty then (tree, true)
  else if isFollowable path then
    let (made, reached) := tree.makeAlong (tree.start path) path.pieces
    (made, reached.isSome)
  else (tree, false)

/-- The place of a file that a path names, whether or not the file exists: its directory exists,
and no directory stands there. -/
def filePlace? (tree : FileTree) (path : Path) : Option Place :=
  if isFollowable path then
    match path.pieces.reverse with
    | [] => none
    | name :: before => do
        let directory ← tree.follow? (tree.start path) before.reverse
        let place := directory ++ [name]
        if isName name && tree.isDirectory directory && !tree.isDirectory place then some place
        else none
  else none

/-- **Writes a file,** in place of one that stands there. There is no tree where its directory does
not exist, or where a directory has the file's name. -/
def write? (tree : FileTree) (path : Path) (content : String) : Option FileTree :=
  (tree.filePlace? path).map fun place => tree.put place (.file content)

/-! ## Building and listing -/

/-- The tree with a file at a place and directories on the way to it. -/
def withFile (tree : FileTree) (place : Place) (content : String) : FileTree :=
  (tree.makeAlong [] place.dropLast).1.put place (.file content)

/-- A tree of files below a working directory, each given by its path from there. -/
def ofFiles (workingDirectory : Place) (files : List (String × String)) : FileTree :=
  let empty : FileTree := { workingDirectory }
  files.foldl
    (fun tree file => tree.withFile (workingDirectory ++ Text.pieces '/' file.1) file.2)
    (empty.makeAlong [] workingDirectory).1

/-- The files below the working directory, each with its path from there. -/
def files (tree : FileTree) : List (String × String) :=
  tree.entries.filterMap fun (place, entry) =>
    match entry with
    | .file content =>
        if tree.workingDirectory.isPrefixOf place then
          some (Text.joinWith "/" (place.drop tree.workingDirectory.length), content)
        else none
    | .directory => none

/-! ## What stands where after a change -/

/-- An entry stands where it was put. -/
theorem entryAt?_put_self (tree : FileTree) (place : Place) (entry : Entry) (below : place ≠ []) :
    (tree.put place entry).entryAt? place = some entry := by
  simp [entryAt?, put, below]

/-- Taking the entries of one place away does not matter for the others. -/
theorem lookup_filter_ne (entries : List (Place × Entry)) {place other : Place}
    (different : other ≠ place) :
    (entries.filter (·.1 != place)).lookup other = entries.lookup other := by
  induction entries with
  | nil => rfl
  | cons first rest ih =>
      obtain ⟨standing, entry⟩ := first
      by_cases same : standing = place
      · have unseen : (other == standing) = false := beq_eq_false_iff_ne.mpr (same ▸ different)
        rw [List.filter_cons_of_neg (by simp [same]), List.lookup_cons, unseen]
        exact ih
      · rw [List.filter_cons_of_pos (by simpa using same), List.lookup_cons, List.lookup_cons, ih]

/-- Putting an entry at one place leaves every other place as it was. -/
theorem entryAt?_put_of_ne (tree : FileTree) (place : Place) (entry : Entry) (other : Place)
    (different : other ≠ place) : (tree.put place entry).entryAt? other = tree.entryAt? other := by
  have unseen : (other == place) = false := beq_eq_false_iff_ne.mpr different
  simp only [entryAt?, put, List.lookup_cons, unseen, lookup_filter_ne tree.entries different]

end FileTree

end ContentRouter
