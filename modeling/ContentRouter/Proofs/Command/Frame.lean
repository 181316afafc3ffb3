import ContentRouter.Proofs.Command.Storing
import ContentRouter.Proofs.Source.Placement

/-!
# Which files a run changes

A run lists the paths of the routers that it writes, as it comes to them. Contents change only where
a listed path leads, and what stands there then is the source of a router that lies there
(`Writing.Frame`). This is so all along a run, and hence also of one that ends early because a file
cannot be written.

Without replacing files, a run lists no path that named something in the beginning. Such a path can
lead to a file nevertheless: it goes up from a directory that is missing when the run looks for the
file, and that is made before the file is written. A file that stood in the beginning is changed
through paths of this kind only (`Writing.FrameLaw.kept`).
-/

namespace ContentRouter

open FileTree

namespace Writing

section Runs

variable {generation : Generation} {types : TypeNames} {tree : FileTree}

/-- What is true of a run that started from a tree and has come past some routers. -/
structure Frame (generation : Generation) (types : TypeNames) (tree : FileTree)
    (done : List Router) (writing : Writing) : Prop where
  grows : tree.Grows writing.files
  sublist : writing.written.Sublist (done.map (·.sourcePath generation.output))
  /-- Where no listed path leads, contents are what they were. -/
  outside : ∀ place, (∀ path ∈ writing.written, tree.place path ≠ place) →
    writing.files.content? place = tree.content? place
  /-- A listed path names the source of a router that lies in its place. -/
  source : generation.dryRun = false → ∀ path ∈ writing.written, ∃ router ∈ done,
    tree.place (router.sourcePath generation.output) = tree.place path ∧
      writing.files.read? path = some (Source.render types router)
  /-- Without replacing files, a listed path named nothing in the beginning. -/
  unnamed : generation.force = false → ∀ path ∈ writing.written, tree.contains path = false
  /-- With replacing files, all paths are listed unless the run has failed. -/
  all : generation.force = true → writing.failed = false →
    writing.written = done.map (·.sourcePath generation.output)

variable {done : List Router} {router : Router} {writing after : Writing}

/-- A step that changes no content and lists no path keeps the frame. -/
theorem Frame.idle (frame : Frame generation types tree done writing)
    (grows : writing.files.Grows after.files) (written : after.written = writing.written)
    (contents : ∀ place, after.files.content? place = writing.files.content? place)
    (ending : generation.force = true → after.failed = true) :
    Frame generation types tree (done ++ [router]) after where
  grows := frame.grows.trans grows
  sublist := by
    rw [written, List.map_append]
    exact frame.sublist.trans (List.sublist_append_left _ _)
  outside place apart := by
    rw [written] at apart
    rw [contents, frame.outside place apart]
  source real path listed := by
    rw [written] at listed
    obtain ⟨other, known, same, standing⟩ := frame.source real path listed
    exact ⟨other, List.mem_append_left _ known, same, grows.read? (contents _) standing⟩
  unnamed unforced := by
    rw [written]
    exact frame.unnamed unforced
  all forced going := by
    rw [ending forced] at going
    cases going

/-- **A step that lists the path of a router** keeps the frame, if it changes no other content, and
the path then names the router's source. The same place may have held the source of another router
before. -/
theorem Frame.add (frame : Frame generation types tree done writing)
    (grows : writing.files.Grows after.files)
    (written : after.written = writing.written ++ [router.sourcePath generation.output])
    (going : writing.failed = false) (due : passesOver generation writing.files router = false)
    (contents : ∀ place, place ≠ tree.place (router.sourcePath generation.output) →
      after.files.content? place = writing.files.content? place)
    (standing : generation.dryRun = false →
      after.files.read? (router.sourcePath generation.output) =
        some (Source.render types router)) :
    Frame generation types tree (done ++ [router]) after where
  grows := frame.grows.trans grows
  sublist := by
    rw [written, List.map_append]
    exact frame.sublist.append (List.Sublist.refl _)
  outside place apart := by
    rw [written, List.forall_mem_append, List.forall_mem_singleton] at apart
    rw [contents place apart.2.symm, frame.outside place apart.1]
  source real path listed := by
    rw [written, List.mem_append, List.mem_singleton] at listed
    rcases listed with earlier | rfl
    -- Two routers may lie in one place: then the source that was written last is found there.
    · by_cases own : tree.place (router.sourcePath generation.output) = tree.place path
      · obtain ⟨_, _, _, found⟩ := frame.source real path earlier
        have content := (content?_of_read? (standing real)).2
        have here := (frame.grows.trans grows).place
        rw [here, own] at content
        refine ⟨router, List.mem_append_right _ List.mem_cons_self, own, ?_⟩
        rw [read?_of_contains (grows.contains (content?_of_read? found).1), here, content]
      · obtain ⟨other, known, same, found⟩ := frame.source real path earlier
        refine ⟨other, List.mem_append_left _ known, same, grows.read? ?_ found⟩
        rw [frame.grows.place, contents _ (Ne.symm own)]
    · exact ⟨router, List.mem_append_right _ List.mem_cons_self, rfl, standing real⟩
  unnamed unforced := by
    rw [written, List.forall_mem_append, List.forall_mem_singleton]
    refine ⟨frame.unnamed unforced, ?_⟩
    rw [passesOver, unforced, Bool.not_false, Bool.and_true] at due
    exact Bool.eq_false_iff.mpr fun found => Bool.eq_false_iff.mp due (frame.grows.contains found)
  all forced _ := by
    rw [written, frame.all forced going, List.map_append]
    rfl

/-- **One router more** keeps the frame. -/
theorem Frame.step (frame : Frame generation types tree done writing)
    (step : Step generation types router writing after) :
    Frame generation types tree (done ++ [router]) after := by
  have grows := step.grows
  have contents (place : Place)
      (apart : place ≠ tree.place (router.sourcePath generation.output)) :
      after.files.content? place = writing.files.content? place := by
    rw [← frame.grows.place] at apart
    exact step.content? apart
  cases step with
  | ended failed => exact frame.idle grows rfl (fun _ => rfl) fun _ => failed
  | passed _ _ passed =>
      refine frame.idle grows rfl (fun _ => rfl) fun forced => ?_
      rw [passesOver, forced, Bool.not_true, Bool.and_false] at passed
      cases passed
  | shown _ going due dry =>
      refine frame.add grows rfl going due contents fun real => ?_
      rw [dry] at real
      cases real
  | stored _ going due _ outcome standing =>
      refine frame.add grows ?_ going due contents fun _ => ?_
      · rw [written_count, written_say, outcome, written_store]
      · rw [outcome] at standing
        rw [files_count, files_say, outcome, read?_store standing]
  | broken going _ _ outcome failed =>
      refine frame.idle grows ?_ (fun place => ?_) fun _ => failed
      · rw [outcome, written_store]
      · rw [outcome] at failed
        rw [outcome, content?_store_of_failed going failed]

private theorem Frame.exists_router (frame : Frame generation types tree done writing) {path : Path}
    (listed : path ∈ writing.written) :
    ∃ router ∈ done, router.sourcePath generation.output = path :=
  List.mem_map.mp (frame.sublist.subset listed)

/-- **What is overwritten without being asked for**: a file that stood in the beginning is changed
through a path that is not clear. -/
theorem Frame.exists_unclear (frame : Frame generation types tree done writing)
    (real : generation.dryRun = false) (unforced : generation.force = false) {place : Place}
    {content : String} (standing : tree.content? place = some content)
    (changed : writing.files.content? place ≠ some content) :
    ∃ path ∈ writing.written, tree.place path = place ∧ tree.contains path = false ∧
      (tree.WellFormed → ¬ tree.Clear (tree.start path) path.pieces) := by
  have led : ∃ path ∈ writing.written, tree.place path = place := by
    by_contra none
    push Not at none
    exact changed ((frame.outside place none).trans standing)
  obtain ⟨path, listed, rfl⟩ := led
  have unnamed := frame.unnamed unforced path listed
  refine ⟨path, listed, rfl, unnamed, fun formed clear => ?_⟩
  -- Otherwise the path would have named the file.
  obtain ⟨_, _, _, written⟩ := frame.source real path listed
  obtain ⟨router, _, rfl⟩ := frame.exists_router listed
  obtain ⟨before, name, cut, leads, _⟩ := router.pieces_sourcePath generation.output
  have named := formed.contains cut leads
    (isFollowable_of_contains (content?_of_read? written).1) clear (stands_of_content? standing)
  rw [unnamed] at named
  cases named

variable (generation types tree)

/-- **A run keeps its frame** from the beginning to wherever it comes. -/
theorem frame_writeRouters (routers : List Router) :
    Frame generation types tree routers
      (writeRouters generation types ⟨routers⟩ { files := tree }) := by
  induction routers using List.reverseRecOn with
  | nil =>
      exact ⟨Grows.refl tree, List.Sublist.refl _, fun _ _ => rfl, fun _ => nofun, fun _ => nofun,
        fun _ _ => rfl⟩
  | append_singleton routers last ih =>
      rw [writeRouters_append_singleton]
      exact ih.step (step_writeRouter generation types last _)

end Runs

section Law

variable (generation : Generation) (types : TypeNames) (model : RouterModel) (tree : FileTree)

/-- **The law of the frame** for a run that started from a tree, in the state after it. -/
structure FrameLaw (after : Writing) : Prop where
  /-- A dry run leaves the files as they are, and does not fail. -/
  dryRun : generation.dryRun = true → after.files = tree ∧ after.failed = false
  /-- The list has paths of routers, in the order of the model. -/
  listed : after.written.Sublist (model.routers.map (·.sourcePath generation.output))
  /-- With replacing files, a run that does not fail lists the path of every router. -/
  all : generation.force = true → after.failed = false →
    after.written = model.routers.map (·.sourcePath generation.output)
  /-- A file changes only if a listed path leads to it. -/
  outside : ∀ place, (∀ path ∈ after.written, tree.place path ≠ place) →
    after.files.content? place = tree.content? place
  /-- Every listed path holds the source of a router whose path leads to the same file. -/
  holds : generation.dryRun = false → ∀ path ∈ after.written, ∃ router ∈ model.routers,
    tree.place (router.sourcePath generation.output) = tree.place path ∧
      after.files.read? path = some (Source.render types router)
  /-- Paths of routers that lead to the same file have the same names if the routers are contained,
  and are the same path if the routers have no slashes. -/
  same : ∀ router ∈ model.routers, ∀ other ∈ model.routers,
    tree.place (router.sourcePath generation.output) =
        tree.place (other.sourcePath generation.output) →
      (router.IsContained → other.IsContained →
        (router.sourcePath generation.output).names = (other.sourcePath generation.output).names) ∧
      (router.IsSlashless → other.IsSlashless →
        router.sourcePath generation.output = other.sourcePath generation.output)
  /-- Without replacing files, one that stood in the beginning is changed only through a path that
  named nothing then, because it goes up from a directory that was missing. -/
  kept : generation.force = false → ∀ place content, tree.content? place = some content →
    after.files.content? place ≠ some content → ∃ path ∈ after.written,
      tree.place path = place ∧ tree.contains path = false ∧
        (tree.WellFormed → ¬ tree.Clear (tree.start path) path.pieces)
  /-- None is changed if the output directory goes up from directories that stand, and the routers
  are contained. -/
  intact : generation.force = false → tree.WellFormed →
    tree.Clear (tree.start generation.output) generation.output.pieces →
      (∀ router ∈ model.routers, router.IsContained) → ∀ place content,
        tree.content? place = some content → after.files.content? place = some content

/-- **A run changes the files that it lists**, and no others. -/
theorem frame_law :
    FrameLaw generation types model tree
      (writeRouters generation types model { files := tree }) := by
  have frame := frame_writeRouters generation types tree model.routers
  have start : ({ files := tree } : Writing).failed = false := rfl
  have dry (dryRun : generation.dryRun = true) :=
    ({ files := tree } : Writing).writeRouters_of_dryRun dryRun types model
  -- A file that stood and was not to be replaced is changed only through a path that did not lead
  -- to it yet when it was looked for.
  have kept (unforced : generation.force = false) (place : Place) (content : String)
      (standing : tree.content? place = some content)
      (changed : (writeRouters generation types model { files := tree }).files.content? place ≠
        some content) :
      ∃ path ∈ (writeRouters generation types model { files := tree }).written,
        tree.place path = place ∧ tree.contains path = false ∧
          (tree.WellFormed → ¬ tree.Clear (tree.start path) path.pieces) := by
    cases real : generation.dryRun with
    | true =>
        rw [(dry real).1] at changed
        exact absurd standing changed
    | false => exact frame.exists_unclear real unforced standing changed
  refine ⟨?_, frame.sublist, frame.all, frame.outside, frame.source, ?_, kept, ?_⟩
  · exact fun dryRun => ⟨(dry dryRun).1, (dry dryRun).2.trans start⟩
  · intro router _ other _ same
    have names (contained : router.IsContained) (otherContained : other.IsContained) :
        router.names = other.names := by
      rw [Router.place_sourcePath contained, Router.place_sourcePath otherContained] at same
      exact List.append_cancel_left same
    refine ⟨fun contained otherContained => ?_, fun slashless otherSlashless => ?_⟩
    · rw [(Router.names_sourcePath contained _).2, (Router.names_sourcePath otherContained _).2,
        names contained otherContained]
    · exact slashless.sourcePath_eq otherSlashless
        (names slashless.isContained otherSlashless.isContained) _
  · intro unforced formed clear contained place content standing
    by_contra changed
    obtain ⟨path, listed, _, _, unclear⟩ := kept unforced place content standing changed
    obtain ⟨router, known, rfl⟩ := frame.exists_router listed
    exact unclear formed (Router.clear_sourcePath (contained router known) clear)

end Law

/-- A run that comes to a file it cannot write leaves the files that stood as they are, and those
that it has written with their sources. -/
theorem frame_law_of_failing :
    let router (package simpleName : String) : Router :=
      { qualifiedName := package ++ "." ++ simpleName, simpleName, package,
        routerClass := simpleName ++ "Router", authority := "a", groups := [] }
    let model : RouterModel := ⟨[router "o" "A", router "p" "B", router "q" "C"]⟩
    let generation : Generation := { manifest := ⟨"m.json"⟩, output := ⟨"g"⟩ }
    let tree : FileTree :=
      { entries := [(["g"], .directory), (["g", "o"], .directory),
          (["g", "o", "ARouter.java"], .file "kept"), (["g", "q"], .file "in the way")] }
    let after := writeRouters generation {} model { files := tree }
    after.failed = true ∧ after.written = [⟨"g/p/BRouter.java"⟩] ∧
      (∀ place content, tree.content? place = some content →
        after.files.content? place = some content) ∧
      ∀ path ∈ after.written, ∃ router ∈ model.routers,
        after.files.read? path = some (Source.render {} router) := by
  intro router model generation tree after
  have law := frame_law generation {} model tree
  refine ⟨by decide +kernel, by decide +kernel, ?_, fun path listed => ?_⟩
  · exact law.intact rfl (by decide +kernel) (clear_of_not_mem (by decide +kernel))
      (by decide +kernel)
  · obtain ⟨router, known, _, written⟩ := law.holds rfl path listed
    exact ⟨router, known, written⟩

/-- **A file that is overwritten without being asked for**: nothing is found at `n/../g` as long as
there is no `n`, which is made on the way to the file. -/
theorem exists_file_overwritten :
    let provider : Provider :=
      ⟨"P", "a", [{ name := "m", operation := .query, template := "/x" }]⟩
    let generation : Generation := { manifest := ⟨"m.json"⟩, output := ⟨"n/../g"⟩ }
    let model := (processManifest {} ⟨[provider]⟩).2
    let tree : FileTree :=
      { entries := [(["g"], .directory), (["g", "PRouter.java"], .file "kept")] }
    let after := writeRouters generation {} model { files := tree }
    tree.WellFormed ∧ generation.force = false ∧ after.failed = false ∧
      after.written = [⟨"n/../g/PRouter.java"⟩] ∧
      tree.content? ["g", "PRouter.java"] = some "kept" ∧
      after.files.content? ["g", "PRouter.java"] ≠ some "kept" := by
  decide +kernel

end Writing

end ContentRouter
