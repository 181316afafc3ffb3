import ContentRouter.Proofs.Command.Ending
import ContentRouter.Proofs.File.Change

/-!
# What writing routers does to files

Storing a file makes the directories on the way to it and then writes it. Each of the two only adds
to the tree, so that a run is a chain of trees that grow (`Writing.grows_writeRouters`). The content
of a place changes only if the path of a router leads there (`Writing.content?_writeRouters`).

A router is passed over if its file exists and replacing was not asked for. Of the others, a dry run
shows each (`Writing.written_of_dryRun`), and any other run stores them until it fails. So there are
five ways in which one router more can go (`Writing.Step`), and what is true of a run is shown by
looking at them.
-/

namespace ContentRouter

open FileTree

namespace Writing

section Storing

/-- The tree with the directories on the way to a file. -/
def withDirectories (tree : FileTree) (path : Path) : FileTree :=
  match path.parent? with
  | some directory => (tree.makeDirectories directory).1
  | none => tree

private theorem grows_withDirectories (tree : FileTree) (path : Path) :
    tree.Grows (withDirectories tree path) ∧
      ∀ place, (withDirectories tree path).content? place = tree.content? place := by
  unfold withDirectories
  split
  · exact grows_makeDirectories _
  · exact ⟨Grows.refl tree, fun _ => rfl⟩

/-- **The directories made for a file** lie on the way to it, if its path is clear and ends with a
name. -/
theorem prefix_of_withDirectories {tree : FileTree} {path : Path} {before : List String}
    {name : String} (cut : path.pieces = before ++ [name]) (leads : Path.leads name = true)
    (down : name ≠ "..") (clear : tree.Clear (tree.start path) path.pieces) {made : Place}
    (stands : ((withDirectories tree path).entryAt? made).isSome = true) :
    (tree.entryAt? made).isSome = true ∨ made <+: tree.place path := by
  obtain ⟨parent, found, root, names, up⟩ := Path.exists_parent cut leads
  have start : tree.start parent = tree.start path := by
    rw [FileTree.start, FileTree.start, root]
  have above : tree.place parent <+: tree.place path := by
    have same : parent.pieces.filter Path.leads = before.filter Path.leads := names
    rw [place, place, cut, List.foldl_append, start, ← foldl_stepTo_filter _ parent.pieces,
      ← foldl_stepTo_filter _ before, same]
    exact prefix_foldl_stepTo (by simpa using down.symm) _
  have clearParent : tree.Clear (tree.start parent) parent.pieces := by
    intro front back same
    obtain ⟨rest, rfl⟩ := up front back same
    rw [start]
    refine clear front (rest ++ [name]) ?_
    rw [cut, List.append_assoc, List.cons_append]
  rw [withDirectories, found] at stands
  dsimp only at stands
  unfold makeDirectories at stands
  split at stands
  · exact .inl stands
  · split at stands
    · exact (clearParent.prefix_of_makeAlong stands).imp_right (·.trans above)
    · exact .inl stands

variable (writing : Writing) (path : Path) (content : String)

/-- **Storing a file** makes its directories and writes it, or fails with directories alone. -/
theorem store_cases :
    (∃ files, (withDirectories writing.files path).write? path content = some files ∧
      writing.store path content = { writing with files }) ∨
    writing.store path content =
      { writing with files := withDirectories writing.files path, failed := true } := by
  unfold store withDirectories
  cases path.parent? with
  | none =>
      dsimp only
      rw [if_pos rfl]
      cases written : writing.files.write? path content with
      | some files => exact .inl ⟨files, rfl, rfl⟩
      | none => exact .inr rfl
  | some directory =>
      dsimp only
      cases (writing.files.makeDirectories directory).2 with
      | false => exact .inr rfl
      | true =>
          rw [if_pos rfl]
          cases written : (writing.files.makeDirectories directory).1.write? path content with
          | some files => exact .inl ⟨files, rfl, rfl⟩
          | none => exact .inr rfl

private theorem grows_store : writing.files.Grows (writing.store path content).files := by
  have made := (grows_withDirectories writing.files path).1
  rcases store_cases writing path content with ⟨files, written, stored⟩ | stored
  · rw [stored]
    exact made.trans (write?_eq_some written).1
  · rw [stored]
    exact made

/-- Only the place of the file gets another content. -/
theorem content?_store {place : Place} (apart : place ≠ writing.files.place path) :
    (writing.store path content).files.content? place = writing.files.content? place := by
  obtain ⟨made, same⟩ := grows_withDirectories writing.files path
  rcases store_cases writing path content with ⟨files, written, stored⟩ | stored
  · rw [stored]
    exact ((write?_eq_some written).2.2.2 place (made.place path ▸ apart)).trans (same place)
  · rw [stored]
    exact same place

/-- Storing a file does not list it. -/
theorem written_store : (writing.store path content).written = writing.written := by
  rcases store_cases writing path content with ⟨files, written, stored⟩ | stored
  · rw [stored]
  · rw [stored]

variable {writing path content}

/-- Where storing fails, no content has changed. -/
theorem content?_store_of_failed (going : writing.failed = false)
    (failed : (writing.store path content).failed = true) (place : Place) :
    (writing.store path content).files.content? place = writing.files.content? place := by
  rcases store_cases writing path content with ⟨files, written, stored⟩ | stored
  · rw [stored, going] at failed
    cases failed
  · rw [stored]
    exact (grows_withDirectories writing.files path).2 place

/-- A file that was stored has its content. -/
theorem read?_store (done : (writing.store path content).failed = false) :
    (writing.store path content).files.read? path = some content := by
  rcases store_cases writing path content with ⟨files, written, stored⟩ | stored
  · rw [stored]
    exact (write?_eq_some written).2.1
  · rw [stored] at done
    cases done

/-- What storing adds lies on the way to the file. -/
theorem prefix_of_store {before : List String} {name : String}
    (cut : path.pieces = before ++ [name]) (leads : Path.leads name = true) (down : name ≠ "..")
    (clear : writing.files.Clear (writing.files.start path) path.pieces) {made : Place}
    (stands : ((writing.store path content).files.entryAt? made).isSome = true) :
    (writing.files.entryAt? made).isSome = true ∨ made <+: writing.files.place path := by
  have along (standing : ((withDirectories writing.files path).entryAt? made).isSome = true) :=
    prefix_of_withDirectories cut leads down clear standing
  rcases store_cases writing path content with ⟨files, written, stored⟩ | stored
  · rw [stored] at stands
    rcases (write?_eq_some written).2.2.1 made stands with earlier | own
    · exact along earlier
    · rw [own, (grows_withDirectories writing.files path).1.place]
      exact .inr (List.prefix_refl _)
  · rw [stored] at stands
    exact along stands

end Storing

section Lines

variable (writing : Writing) (line : String) (path : Path)

/-- Showing a line touches no file. -/
@[simp]
theorem files_say : (writing.say line).files = writing.files := rfl

/-- Showing a line does not fail. -/
@[simp]
theorem failed_say : (writing.say line).failed = writing.failed := rfl

/-- Showing a line lists no path. -/
@[simp]
theorem written_say : (writing.say line).written = writing.written := rfl

/-- Listing a path touches no file. -/
@[simp]
theorem files_count : (writing.count path).files = writing.files := rfl

/-- A path is listed behind all earlier ones. -/
@[simp]
theorem written_count : (writing.count path).written = writing.written ++ [path] := rfl

end Lines

section Steps

/-- Whether a router is passed over because its file exists. -/
def passesOver (generation : Generation) (files : FileTree) (router : Router) : Bool :=
  files.contains (router.sourcePath generation.output) && !generation.force

/-- **The ways in which one router more can go.** -/
inductive Step (generation : Generation) (types : TypeNames) (router : Router)
    (writing : Writing) : Writing → Prop
  /-- Nothing happens once writing has failed. -/
  | ended (failed : writing.failed = true) : Step generation types router writing writing
  /-- A router whose file exists is passed over. -/
  | passed (line : String) (going : writing.failed = false)
      (passed : passesOver generation writing.files router = true) :
      Step generation types router writing (writing.say line)
  /-- A dry run shows a router that is due. -/
  | shown (line : String) (going : writing.failed = false)
      (due : passesOver generation writing.files router = false)
      (dry : generation.dryRun = true) :
      Step generation types router writing
        ((writing.say line).count (router.sourcePath generation.output))
  /-- Any other run stores a router that is due. -/
  | stored (line : String) {stored : Writing} (going : writing.failed = false)
      (due : passesOver generation writing.files router = false)
      (real : generation.dryRun = false)
      (outcome : stored =
        writing.store (router.sourcePath generation.output) (Source.render types router))
      (standing : stored.failed = false) :
      Step generation types router writing
        ((stored.say line).count (router.sourcePath generation.output))
  /-- Where storing fails, its path is not counted and no line is shown. -/
  | broken {stored : Writing} (going : writing.failed = false)
      (due : passesOver generation writing.files router = false)
      (real : generation.dryRun = false)
      (outcome : stored =
        writing.store (router.sourcePath generation.output) (Source.render types router))
      (failed : stored.failed = true) : Step generation types router writing stored

/-- **Writing a router is one of the steps**, and nothing else. -/
theorem step_writeRouter (generation : Generation) (types : TypeNames) (router : Router)
    (writing : Writing) :
    Step generation types router writing (writing.writeRouter generation types router) := by
  obtain ⟨stored, outcome⟩ : ∃ stored, stored =
      writing.store (router.sourcePath generation.output) (Source.render types router) := ⟨_, rfl⟩
  unfold writeRouter
  cases going : writing.failed with
  | true => exact .ended going
  | false =>
      rw [if_neg Bool.false_ne_true]
      cases due : passesOver generation writing.files router with
      | true =>
          rw [passesOver] at due
          simp only [due, ↓reduceIte]
          exact .passed _ going due
      | false =>
          rw [passesOver] at due
          simp only [due, Bool.false_eq_true, ↓reduceIte, storeAndSay, ← outcome]
          cases real : generation.dryRun with
          | true => exact .shown _ going due real
          | false =>
              cases failed : stored.failed with
              | true =>
                  simp only [failed, Bool.false_eq_true, ↓reduceIte]
                  exact .broken going due real outcome failed
              | false =>
                  simp only [failed, failed_say, Bool.false_eq_true, ↓reduceIte]
                  exact .stored _ going due real outcome failed

variable {generation : Generation} {types : TypeNames} {router : Router} {writing after : Writing}
  (step : Step generation types router writing after)
include step

/-- Files change only where a router is stored. -/
theorem Step.files : after.files = writing.files ∨
    after.files =
      (writing.store (router.sourcePath generation.output) (Source.render types router)).files := by
  cases step with
  | ended => exact .inl rfl
  | passed => exact .inl rfl
  | shown => exact .inl rfl
  | stored _ _ _ _ outcome => exact .inr (by rw [files_count, files_say, outcome])
  | broken _ _ _ outcome => exact .inr (congrArg Writing.files outcome)

/-- A step only adds to a tree. -/
theorem Step.grows : writing.files.Grows after.files := by
  rcases step.files with same | stored
  · rw [same]
    exact Grows.refl _
  · rw [stored]
    exact grows_store _ _ _

/-- A step leaves all contents alone but that of the router's own file. -/
theorem Step.content? {place : Place}
    (apart : place ≠ writing.files.place (router.sourcePath generation.output)) :
    after.files.content? place = writing.files.content? place := by
  rcases step.files with same | stored
  · rw [same]
  · rw [stored]
    exact content?_store _ _ _ apart

/-- A run that has failed has failed for good. -/
theorem Step.going (going : after.failed = false) : writing.failed = false := by
  cases step with
  | ended => exact going
  | passed _ before => exact before
  | shown _ before => exact before
  | stored _ before => exact before
  | broken before => exact before

end Steps

section Runs

variable (generation : Generation) (types : TypeNames) (routers : List Router)

/-- The writing of routers behind which another one comes. -/
theorem writeRouters_append_singleton (last : Router) (writing : Writing) :
    writing.writeRouters generation types ⟨routers ++ [last]⟩ =
      (writing.writeRouters generation types ⟨routers⟩).writeRouter generation types last :=
  List.foldl_append

/-- **A run only adds to the files.** -/
theorem grows_writeRouters (writing : Writing) :
    writing.files.Grows (writing.writeRouters generation types ⟨routers⟩).files := by
  induction routers using List.reverseRecOn with
  | nil => exact Grows.refl _
  | append_singleton routers last ih =>
      rw [writeRouters_append_singleton]
      exact ih.trans (step_writeRouter generation types last _).grows

/-- **A run changes the contents of the places to which its routers' paths lead**, and no others. -/
theorem content?_writeRouters {writing : Writing} {place : Place}
    (apart : ∀ router ∈ routers,
      place ≠ writing.files.place (router.sourcePath generation.output)) :
    (writing.writeRouters generation types ⟨routers⟩).files.content? place =
      writing.files.content? place := by
  induction routers using List.reverseRecOn with
  | nil => rfl
  | append_singleton routers last ih =>
      rw [List.forall_mem_append, List.forall_mem_singleton] at apart
      have grows := grows_writeRouters generation types routers writing
      rw [writeRouters_append_singleton, (step_writeRouter generation types last _).content?,
        ih apart.1]
      rw [grows.place]
      exact apart.2

/-- The routers that are not passed over. -/
def due (files : FileTree) : List Path :=
  (routers.filter (!passesOver generation files ·)).map (·.sourcePath generation.output)

/-- **A dry run** shows the routers that are due. -/
theorem written_of_dryRun (dry : generation.dryRun = true) {writing : Writing}
    (going : writing.failed = false) :
    (writing.writeRouters generation types ⟨routers⟩).written =
      writing.written ++ due generation routers writing.files := by
  induction routers using List.reverseRecOn with
  | nil => exact (List.append_nil _).symm
  | append_singleton routers last ih =>
      obtain ⟨files, failed⟩ := writing.writeRouters_of_dryRun dry types ⟨routers⟩
      have step := step_writeRouter generation types last
        (writing.writeRouters generation types ⟨routers⟩)
      rw [writeRouters_append_singleton, due, List.filter_append, List.map_append,
        ← List.append_assoc, ← due, ← ih, List.filter_singleton, ← files]
      -- From here on only the way of the step matters.
      generalize Writing.writeRouter generation types _ last = after at step ⊢
      cases step with
      | ended stopped =>
          rw [failed, going] at stopped
          cases stopped
      | passed _ _ passed =>
          rw [passed, written_say]
          exact (List.append_nil _).symm
      | shown _ _ due =>
          rw [due]
          rfl
      | stored _ _ _ real =>
          rw [dry] at real
          cases real
      | broken _ _ real =>
          rw [dry] at real
          cases real

end Runs

end Writing

end ContentRouter
