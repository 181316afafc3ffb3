import ContentRouter.Proofs.File.Names

/-!
# How file trees change

Making directories and writing files only adds to a tree: what stands goes on standing, and
directories stay directories (`FileTree.Grows`). So a path that can be followed can be followed ever
after, to the same place. Contents change at the place of the file that is written, and nowhere
else.

What is added lies on the way to a place, but for paths that go up from a directory which is only
made: these leave it behind. In a path that is *clear* no `..` stands behind such a directory.
-/

namespace ContentRouter

namespace FileTree

/-- Whether a tree has all that another one has, and the same working directory. -/
structure Grows (tree after : FileTree) : Prop where
  workingDirectory : after.workingDirectory = tree.workingDirectory
  stands : ∀ place, (tree.entryAt? place).isSome = true → (after.entryAt? place).isSome = true
  directory : ∀ place, tree.isDirectory place = true → after.isDirectory place = true

section Following

variable {tree after : FileTree} {here reached : Place}

/-- A tree has grown from itself. -/
theorem Grows.refl (tree : FileTree) : tree.Grows tree := ⟨rfl, fun _ => id, fun _ => id⟩

/-- Growing twice is growing. -/
theorem Grows.trans {last : FileTree} (first : tree.Grows after) (second : after.Grows last) :
    tree.Grows last where
  workingDirectory := second.workingDirectory.trans first.workingDirectory
  stands place stands := second.stands place (first.stands place stands)
  directory place directory := second.directory place (first.directory place directory)

private theorem follow?_append (tree : FileTree) (here : Place) (first second : List String) :
    tree.follow? here (first ++ second) =
      (tree.follow? here first).bind (tree.follow? · second) := by
  induction first generalizing here with
  | nil => rfl
  | cons piece rest ih =>
      rw [List.cons_append, follow?, follow?]
      split
      · exact ih _
      · rfl

/-- A step is taken from a directory to where something stands. -/
theorem follow?_cons_eq_some_iff {piece : String} {rest : List String} :
    tree.follow? here (piece :: rest) = some reached ↔
      tree.isDirectory here = true ∧ (tree.entryAt? (stepTo here piece)).isSome = true ∧
        tree.follow? (stepTo here piece) rest = some reached := by
  rw [follow?]
  rw [Option.ite_none_right_eq_some, Bool.and_eq_true, and_assoc]

private theorem eq_of_follow? {pieces : List String}
    (found : tree.follow? here pieces = some reached) :
    reached = pieces.foldl stepTo here := by
  induction pieces generalizing here with
  | nil => exact (Option.some.inj found).symm
  | cons piece rest ih => exact ih (follow?_cons_eq_some_iff.mp found).2.2

private theorem stands_of_follow? {pieces : List String} (moves : pieces ≠ [])
    (found : tree.follow? here pieces = some reached) : (tree.entryAt? reached).isSome = true := by
  induction pieces generalizing here with
  | nil => exact absurd rfl moves
  | cons piece rest ih =>
      obtain ⟨_, stands, rest_found⟩ := follow?_cons_eq_some_iff.mp found
      cases rest with
      | nil =>
          obtain rfl := Option.some.inj rest_found
          exact stands
      | cons next others => exact ih (List.cons_ne_nil _ _) rest_found

/-- **What can be followed can be followed in a tree that has grown.** -/
theorem Grows.follow? (grows : tree.Grows after) {pieces : List String}
    (found : tree.follow? here pieces = some reached) :
    after.follow? here pieces = some reached := by
  induction pieces generalizing here with
  | nil => exact found
  | cons piece rest ih =>
      obtain ⟨directory, stands, more⟩ := follow?_cons_eq_some_iff.mp found
      exact follow?_cons_eq_some_iff.mpr
        ⟨grows.directory _ directory, grows.stands _ stands, ih more⟩

/-- In a tree that has grown, a path starts where it did. -/
theorem Grows.start (grows : tree.Grows after) (path : Path) :
    after.start path = tree.start path := by
  rw [FileTree.start, FileTree.start, grows.workingDirectory]

/-- In a tree that has grown, a path names the place that it did. -/
theorem Grows.place (grows : tree.Grows after) (path : Path) :
    after.place path = tree.place path := by
  rw [FileTree.place, FileTree.place, grows.start]

private theorem Grows.locate? (grows : tree.Grows after) {path : Path}
    (found : tree.locate? path = some reached) : after.locate? path = some reached := by
  obtain ⟨followable, found⟩ := Option.ite_none_right_eq_some.mp found
  refine Option.ite_none_right_eq_some.mpr ⟨followable, ?_⟩
  rw [grows.start]
  exact grows.follow? found

/-- What a path leads to is the place that it names, and something is there. -/
theorem place_of_locate? {path : Path} (found : tree.locate? path = some reached) :
    reached = tree.place path ∧ (tree.entryAt? reached).isSome = true := by
  have found := (Option.ite_none_right_eq_some.mp found).2
  exact ⟨eq_of_follow? found, stands_of_follow? (Text.pieces_ne_nil '/' path.text) found⟩

/-- What a tree contains it still contains when it has grown. -/
theorem Grows.contains (grows : tree.Grows after) {path : Path}
    (found : tree.contains path = true) : after.contains path = true := by
  obtain ⟨reached, located⟩ := Option.isSome_iff_exists.mp found
  exact Option.isSome_iff_exists.mpr ⟨reached, grows.locate? located⟩

/-- Only a path that can be followed leads to something. -/
theorem isFollowable_of_contains {path : Path} (found : tree.contains path = true) :
    isFollowable path = true := by
  obtain ⟨reached, located⟩ := Option.isSome_iff_exists.mp found
  exact (Option.ite_none_right_eq_some.mp located).1

/-- A path that names something is read at its place. -/
theorem read?_of_contains {path : Path} (found : tree.contains path = true) :
    tree.read? path = tree.content? (tree.place path) := by
  obtain ⟨reached, located⟩ := Option.isSome_iff_exists.mp found
  rw [FileTree.read?, located, Option.bind_some, (place_of_locate? located).1]

/-- What is read stands at the place that the path names. -/
theorem content?_of_read? {path : Path} {content : String}
    (found : tree.read? path = some content) :
    tree.contains path = true ∧ tree.content? (tree.place path) = some content := by
  obtain ⟨reached, located, standing⟩ := Option.bind_eq_some_iff.mp found
  obtain ⟨rfl, _⟩ := place_of_locate? located
  exact ⟨Option.isSome_iff_exists.mpr ⟨_, located⟩, standing⟩

/-- Where there is content, something stands. -/
theorem stands_of_content? {content : String} (found : tree.content? here = some content) :
    (tree.entryAt? here).isSome = true := by
  cases entry : tree.entryAt? here with
  | some _ => rfl
  | none =>
      rw [content?, entry] at found
      cases found

/-- What a path names stays, if the content of its place does. -/
theorem Grows.read? (grows : tree.Grows after) {path : Path} {content : String}
    (same : after.content? (tree.place path) = tree.content? (tree.place path))
    (found : tree.read? path = some content) : after.read? path = some content := by
  obtain ⟨named, standing⟩ := content?_of_read? found
  rw [read?_of_contains (grows.contains named), grows.place, same, standing]

end Following

section Putting

variable {tree : FileTree} {place : Place}

private theorem isDirectory_put_of_ne {other : Place} (different : other ≠ place) (entry : Entry) :
    (tree.put place entry).isDirectory other = tree.isDirectory other := by
  rw [isDirectory, isDirectory, entryAt?_put_of_ne tree place entry other different]

private theorem content?_put_of_ne {other : Place} (different : other ≠ place) (entry : Entry) :
    (tree.put place entry).content? other = tree.content? other := by
  rw [content?, content?, entryAt?_put_of_ne tree place entry other different]

private theorem ne_nil_of_not_isDirectory (other : tree.isDirectory place = false) :
    place ≠ [] := by
  rintro rfl
  cases other

private theorem grows_put (other : tree.isDirectory place = false) (entry : Entry) :
    tree.Grows (tree.put place entry) where
  workingDirectory := rfl
  stands := by
    intro elsewhere stands
    by_cases same : elsewhere = place
    · rw [same, entryAt?_put_self tree place entry (ne_nil_of_not_isDirectory other)]
      rfl
    · rwa [entryAt?_put_of_ne tree place entry elsewhere same]
  directory := by
    intro elsewhere directory
    have apart : elsewhere ≠ place := by
      rintro rfl
      rw [other] at directory
      cases directory
    rwa [isDirectory_put_of_ne apart]

private theorem not_isDirectory_of_none (nothing : tree.entryAt? place = none) :
    tree.isDirectory place = false := by
  rw [isDirectory, nothing]
  rfl

private theorem content?_put_directory (nothing : tree.entryAt? place = none) (other : Place) :
    (tree.put place .directory).content? other = tree.content? other := by
  by_cases same : other = place
  · have below := ne_nil_of_not_isDirectory (not_isDirectory_of_none nothing)
    rw [same, content?, content?, entryAt?_put_self tree place _ below, nothing]
  · exact content?_put_of_ne same _

end Putting

section Making

variable {tree : FileTree}

/-- Directories are made one by one, where nothing stands. -/
theorem makeAlong_induction {P : FileTree → Prop} (start : P tree)
    (step : ∀ made place, made.entryAt? place = none → P made → P (made.put place .directory))
    (place : Place) (pieces : List String) : P (tree.makeAlong place pieces).1 := by
  induction pieces generalizing tree place with
  | nil => exact start
  | cons piece rest ih =>
      rw [makeAlong]
      split
      · exact start
      · split
        · exact ih start _
        · rename_i nothing
          split
          · exact ih (step tree _ (by simpa using nothing) start) _
          · exact start

/-- **Making directories** adds to a tree and changes no content. -/
theorem grows_makeAlong (place : Place) (pieces : List String) :
    tree.Grows (tree.makeAlong place pieces).1 ∧
      ∀ other, (tree.makeAlong place pieces).1.content? other = tree.content? other := by
  refine makeAlong_induction
    (P := fun made => tree.Grows made ∧ ∀ other, made.content? other = tree.content? other)
    ⟨Grows.refl tree, fun _ => rfl⟩ ?_ place pieces
  rintro made place nothing ⟨grows, same⟩
  refine ⟨grows.trans (grows_put (not_isDirectory_of_none nothing) _), fun other => ?_⟩
  rw [content?_put_directory nothing, same]

/-- Making the directories on the way of a path only adds directories. -/
theorem grows_makeDirectories (path : Path) :
    tree.Grows (tree.makeDirectories path).1 ∧
      ∀ other, (tree.makeDirectories path).1.content? other = tree.content? other := by
  unfold makeDirectories
  split
  · exact ⟨Grows.refl tree, fun _ => rfl⟩
  · split
    · exact grows_makeAlong _ _
    · exact ⟨Grows.refl tree, fun _ => rfl⟩

end Making

section Writing

variable {tree : FileTree} {path : Path}

/-- Where a file can be written: in a directory that the path leads to, under its last name. -/
theorem filePlace?_eq_some {place : Place} (found : tree.filePlace? path = some place) :
    place = tree.place path ∧ tree.isDirectory place = false ∧ isFollowable path = true ∧
      ∃ before name directory, path.pieces = before ++ [name] ∧ isName name = true ∧
        tree.follow? (tree.start path) before = some directory ∧
        tree.isDirectory directory = true ∧ stepTo directory name = place := by
  obtain ⟨followable, found⟩ := Option.ite_none_right_eq_some.mp found
  split at found
  · cases found
  · rename_i name reversed cut
    obtain ⟨directory, followed, found⟩ := Option.bind_eq_some_iff.mp found
    obtain ⟨checks, same⟩ := Option.ite_none_right_eq_some.mp found
    obtain rfl := Option.some.inj same
    simp only [Bool.and_eq_true, Bool.not_eq_true'] at checks
    obtain ⟨⟨named, standing⟩, free⟩ := checks
    have pieces : path.pieces = reversed.reverse ++ [name] := by
      rw [← List.reverse_reverse path.pieces, cut, List.reverse_cons]
    have step : stepTo directory name = directory ++ [name] := by
      simp_all [isName, stepTo]
    refine ⟨?_, free, followable, _, name, directory, pieces, named, followed, standing, step⟩
    rw [place, pieces, List.foldl_append, ← eq_of_follow? followed]
    exact step.symm

/-- **Writing a file** adds to a tree, leaves the content of every other place, and the path then
names the file. -/
theorem write?_eq_some {content : String} {after : FileTree}
    (written : tree.write? path content = some after) :
    tree.Grows after ∧ after.read? path = some content ∧
      (∀ place, (after.entryAt? place).isSome = true → (tree.entryAt? place).isSome = true ∨
        place = tree.place path) ∧
      ∀ other, other ≠ tree.place path → after.content? other = tree.content? other := by
  obtain ⟨place, found, rfl⟩ := Option.map_eq_some_iff.mp written
  obtain ⟨same, free, followable, before, name, directory, cut, named, followed, standing, step⟩ :=
    filePlace?_eq_some found
  have grows := grows_put free (.file content)
  have placed := entryAt?_put_self tree place (.file content) (ne_nil_of_not_isDirectory free)
  refine ⟨grows, ?_, fun elsewhere stands => ?_, fun other apart => ?_⟩
  · have located : (tree.put place (.file content)).locate? path = some place := by
      refine Option.ite_none_right_eq_some.mpr ⟨followable, ?_⟩
      rw [grows.start, cut, follow?_append, grows.follow? followed, Option.bind_some,
        follow?_cons_eq_some_iff, step, placed]
      exact ⟨grows.directory _ standing, rfl, rfl⟩
    rw [read?, located, Option.bind_some, content?, placed]
  · by_cases own : elsewhere = place
    · exact .inr (own.trans same)
    · rw [entryAt?_put_of_ne tree place _ elsewhere own] at stands
      exact .inl stands
  · exact content?_put_of_ne (same ▸ apart) _

end Writing

section Clear

/-- Whether pieces go up only from directories that stand already. -/
def Clear (tree : FileTree) (place : Place) (pieces : List String) : Prop :=
  ∀ before after, pieces = before ++ ".." :: after →
    (tree.follow? place (before ++ [".."])).isSome = true

variable {tree after : FileTree} {place : Place} {piece : String} {rest pieces : List String}

/-- What is clear stays clear as a tree grows. -/
theorem Grows.clear (grows : tree.Grows after) (clear : tree.Clear place pieces) :
    after.Clear place pieces := by
  intro before rest cut
  obtain ⟨reached, found⟩ := Option.isSome_iff_exists.mp (clear before rest cut)
  exact Option.isSome_iff_exists.mpr ⟨reached, grows.follow? found⟩

/-- Pieces that never go up are clear. -/
theorem clear_of_not_mem (down : ".." ∉ pieces) : tree.Clear place pieces := by
  rintro before rest rfl
  exact absurd (List.mem_append_right _ List.mem_cons_self) down

private theorem Clear.tail (clear : tree.Clear place (piece :: rest)) :
    tree.Clear (stepTo place piece) rest := by
  rintro before after rfl
  have found := clear (piece :: before) after rfl
  rw [List.cons_append, Option.isSome_iff_exists] at found
  obtain ⟨reached, found⟩ := found
  exact Option.isSome_iff_exists.mpr ⟨reached, (follow?_cons_eq_some_iff.mp found).2.2⟩

/-- Behind a place that is clear, what goes up starts from a directory. -/
theorem Clear.isDirectory (clear : tree.Clear place (piece :: rest)) (up : ".." ∈ rest) :
    tree.isDirectory (stepTo place piece) = true := by
  obtain ⟨before, after, rfl⟩ := List.append_of_mem up
  have found := clear (piece :: before) after rfl
  rw [List.cons_append, Option.isSome_iff_exists] at found
  obtain ⟨reached, found⟩ := found
  have behind := (follow?_cons_eq_some_iff.mp found).2.2
  cases before with
  | nil => exact (follow?_cons_eq_some_iff.mp behind).1
  | cons next others => exact (follow?_cons_eq_some_iff.mp behind).1

/-- A way that never goes up stays below the place where it starts. -/
theorem prefix_foldl_stepTo (down : ".." ∉ pieces) (place : Place) :
    place <+: pieces.foldl stepTo place := by
  have kept : ".." ∉ pieces.filter Path.leads := fun member => down (List.mem_of_mem_filter member)
  rw [← foldl_stepTo_filter,
    foldl_stepTo_of_names (fun name member => List.of_mem_filter member) kept]
  exact List.prefix_append _ _

/-- **What is made along a clear path** lies on the way to where it leads. -/
theorem Clear.prefix_of_makeAlong (clear : tree.Clear place pieces) {made : Place}
    (stands : ((tree.makeAlong place pieces).1.entryAt? made).isSome = true) :
    (tree.entryAt? made).isSome = true ∨ made <+: pieces.foldl stepTo place := by
  induction pieces generalizing tree place with
  | nil => exact .inl stands
  | cons piece rest ih =>
      rw [makeAlong] at stands
      split at stands
      · exact .inl stands
      · split at stands
        · exact ih clear.tail stands
        · rename_i nothing
          have nothing : tree.entryAt? (stepTo place piece) = none := by simpa using nothing
          have free := not_isDirectory_of_none nothing
          split at stands
          · -- The directory is new, so that nothing behind it goes up from it.
            have down : ".." ∉ rest := by
              intro up
              rw [clear.isDirectory up] at free
              cases free
            rcases ih ((grows_put free .directory).clear clear.tail) stands with earlier | along
            · by_cases new : made = stepTo place piece
              · exact .inr (new ▸ prefix_foldl_stepTo down _)
              · rw [entryAt?_put_of_ne _ _ _ _ new] at earlier
                exact .inl earlier
            · exact .inr along
          · exact .inl stands

end Clear

section Rooted

/-- A tree in which every entry stands in a directory, and the working directory is one. -/
structure WellFormed (tree : FileTree) : Prop where
  workingDirectory : tree.isDirectory tree.workingDirectory = true
  parent : ∀ place, place ≠ [] → (tree.entryAt? place).isSome = true →
    tree.isDirectory place.dropLast = true

/-- A tree is well formed if its listed entries stand in directories. -/
theorem wellFormed_iff (tree : FileTree) :
    tree.WellFormed ↔ tree.isDirectory tree.workingDirectory = true ∧
      ∀ entry ∈ tree.entries, tree.isDirectory entry.1.dropLast = true := by
  have stands_iff {place : Place} (below : place ≠ []) :
      (tree.entryAt? place).isSome = true ↔ ∃ entry ∈ tree.entries, place == entry.1 := by
    rw [entryAt?, if_neg (mt List.isEmpty_iff.mp below), List.lookup_isSome_iff]
  constructor
  · intro formed
    refine ⟨formed.workingDirectory, fun entry listed => ?_⟩
    by_cases root : entry.1 = []
    · rw [root]
      rfl
    · exact formed.parent entry.1 root ((stands_iff root).mpr ⟨entry, listed, beq_self_eq_true _⟩)
  · rintro ⟨workingDirectory, parent⟩
    refine ⟨workingDirectory, fun place below stands => ?_⟩
    obtain ⟨entry, listed, same⟩ := (stands_iff below).mp stands
    rw [beq_iff_eq.mp same]
    exact parent entry listed

instance (tree : FileTree) : Decidable tree.WellFormed :=
  decidable_of_iff _ tree.wellFormed_iff.symm

variable {tree : FileTree} (formed : tree.WellFormed)
include formed

private theorem WellFormed.isDirectory {above : Place} {name : String} {below : List String}
    (stands : (tree.entryAt? (above ++ name :: below)).isSome = true) :
    tree.isDirectory above = true := by
  induction below using List.reverseRecOn with
  | nil => simpa using formed.parent _ (by simp) stands
  | append_singleton below last ih =>
      apply ih
      have parent := formed.parent _ (by simp) stands
      rw [← List.cons_append, ← List.append_assoc, List.dropLast_concat] at parent
      rw [beq_iff_eq.mp parent]
      rfl

/-- **What stands can be reached**: a clear path to where something stands can be followed. -/
theorem WellFormed.follow?_isSome {before : List String} {name : String}
    (leads : Path.leads name = true) {place : Place} (clear : tree.Clear place (before ++ [name]))
    (directory : tree.isDirectory place = true)
    (stands : (tree.entryAt? ((before ++ [name]).foldl stepTo place)).isSome = true) :
    (tree.follow? place (before ++ [name])).isSome = true := by
  induction before generalizing place with
  | nil =>
      exact Option.isSome_iff_exists.mpr
        ⟨_, follow?_cons_eq_some_iff.mpr ⟨directory, stands, rfl⟩⟩
  | cons piece rest ih =>
      have next : tree.isDirectory (stepTo place piece) = true := by
        -- What is left either goes up from here, or leads to a place below.
        by_cases up : ".." ∈ rest ++ [name]
        · exact clear.isDirectory up
        · have kept : ".." ∉ (rest ++ [name]).filter Path.leads :=
            fun member => up (List.mem_of_mem_filter member)
          rw [List.cons_append, List.foldl_cons, ← foldl_stepTo_filter,
            foldl_stepTo_of_names (fun name member => List.of_mem_filter member) kept,
            List.filter_append, List.filter_singleton, leads] at stands
          obtain ⟨first, others, some⟩ :=
            List.exists_cons_of_ne_nil (List.append_ne_nil_of_right_ne_nil
              (rest.filter Path.leads) (List.cons_ne_nil name []))
          exact formed.isDirectory (some ▸ stands)
      obtain ⟨reached, found⟩ := Option.isSome_iff_exists.mp (ih clear.tail next stands)
      refine Option.isSome_iff_exists.mpr
        ⟨reached, follow?_cons_eq_some_iff.mpr ⟨directory, ?_, found⟩⟩
      rw [beq_iff_eq.mp next]
      rfl

/-- A clear path to where something stands names it. -/
theorem WellFormed.contains {path : Path} {before : List String} {name : String}
    (cut : path.pieces = before ++ [name]) (leads : Path.leads name = true)
    (followable : isFollowable path = true) (clear : tree.Clear (tree.start path) path.pieces)
    (stands : (tree.entryAt? (tree.place path)).isSome = true) : tree.contains path = true := by
  have start : tree.isDirectory (tree.start path) = true := by
    unfold FileTree.start
    split
    · rfl
    · exact formed.workingDirectory
  rw [place, cut] at stands
  rw [cut] at clear
  obtain ⟨reached, followed⟩ :=
    Option.isSome_iff_exists.mp (formed.follow?_isSome leads clear start stands)
  rw [← cut] at followed
  exact Option.isSome_iff_exists.mpr
    ⟨reached, Option.ite_none_right_eq_some.mpr ⟨followable, followed⟩⟩

end Rooted

end FileTree

end ContentRouter
