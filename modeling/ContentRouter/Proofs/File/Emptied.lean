import ContentRouter.File.Tree

/-!
# File trees without contents

A tree with all its files emptied still tells where paths lead, which of them name something, and
where files and directories can be made. So making directories and writing a file succeed or fail
alike in two trees that differ in the contents of files only, and leave such trees again.
-/

namespace ContentRouter

namespace FileTree

/-- The entry with nothing in it, if it is a file. -/
def Entry.emptied : Entry → Entry
  | .directory => .directory
  | .file _ => .file ""

/-- The tree with all its files emptied. -/
def emptied (tree : FileTree) : FileTree :=
  { tree with entries := tree.entries.map fun (place, entry) => (place, entry.emptied) }

variable (tree : FileTree) (place : Place)

private theorem entryAt?_emptied :
    tree.emptied.entryAt? place = (tree.entryAt? place).map Entry.emptied := by
  have found (entries : List (Place × Entry)) :
      (entries.map fun (place, entry) => (place, entry.emptied)).lookup place =
        (entries.lookup place).map Entry.emptied := by
    induction entries with
    | nil => rfl
    | cons first rest ih =>
        obtain ⟨standing, entry⟩ := first
        rw [List.map_cons, List.lookup_cons, List.lookup_cons, ih]
        split <;> rfl
  unfold entryAt?
  split
  · rfl
  · exact found tree.entries

/-- Emptying files keeps what stands where. -/
@[simp]
theorem isSome_entryAt?_emptied :
    (tree.emptied.entryAt? place).isSome = (tree.entryAt? place).isSome := by
  rw [entryAt?_emptied, Option.isSome_map]

/-- Emptying files keeps the directories. -/
@[simp]
theorem isDirectory_emptied : tree.emptied.isDirectory place = tree.isDirectory place := by
  rw [isDirectory, isDirectory, entryAt?_emptied]
  cases tree.entryAt? place with
  | none => rfl
  | some entry => cases entry <;> rfl

private theorem emptied_put (entry : Entry) :
    (tree.put place entry).emptied = tree.emptied.put place entry.emptied := by
  simp only [emptied, put, List.map_cons, List.filter_map]
  rfl

section Following

variable (path : Path)

/-- Emptying files keeps where a path starts. -/
@[simp]
theorem start_emptied : tree.emptied.start path = tree.start path := rfl

/-- Emptying files keeps where names lead. -/
@[simp]
theorem follow?_emptied (pieces : List String) :
    tree.emptied.follow? place pieces = tree.follow? place pieces := by
  induction pieces generalizing place with
  | nil => rfl
  | cons piece rest ih => simp only [follow?, isDirectory_emptied, isSome_entryAt?_emptied, ih]

/-- What a path names does not depend on the contents of files. -/
@[simp]
theorem contains_emptied : tree.emptied.contains path = tree.contains path := by
  simp only [contains, locate?, start_emptied, follow?_emptied]

private theorem makeAlong_emptied (pieces : List String) :
    tree.emptied.makeAlong place pieces =
      ((tree.makeAlong place pieces).1.emptied, (tree.makeAlong place pieces).2) := by
  induction pieces generalizing tree place with
  | nil => simp only [makeAlong, isDirectory_emptied]
  | cons piece rest ih =>
      have made : tree.emptied.put (stepTo place piece) .directory =
          (tree.put (stepTo place piece) .directory).emptied :=
        (emptied_put tree (stepTo place piece) .directory).symm
      simp only [makeAlong, isDirectory_emptied, isSome_entryAt?_emptied, made, ih]
      split
      · rfl
      · split
        · rfl
        · split <;> rfl

/-- Directories are made alike in the emptied tree. -/
theorem makeDirectories_emptied :
    tree.emptied.makeDirectories path =
      ((tree.makeDirectories path).1.emptied, (tree.makeDirectories path).2) := by
  simp only [makeDirectories, start_emptied, makeAlong_emptied]
  split
  · rfl
  · split <;> rfl

private theorem filePlace?_emptied : tree.emptied.filePlace? path = tree.filePlace? path := by
  simp only [filePlace?, start_emptied, follow?_emptied, isDirectory_emptied]

/-- Where a file can be written does not depend on the contents of files. -/
theorem write?_emptied (content : String) :
    tree.emptied.write? path "" = (tree.write? path content).map emptied := by
  rw [write?, write?, filePlace?_emptied, Option.map_map]
  refine Option.map_congr fun place _ => ?_
  exact (emptied_put tree place (.file content)).symm

end Following

end FileTree

end ContentRouter
