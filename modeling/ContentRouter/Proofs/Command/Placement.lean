import Mathlib.Data.List.Pairwise
import ContentRouter.Proofs.Command.Frame
import ContentRouter.Proofs.Round.Image

/-!
# No router hides another one

A run looks for the file of a router in a tree that it is changing itself. If no source lies on the
way to another one, what it finds there is nevertheless what stood there in the beginning, and what
it has stored stays as it is.

Two classes have their sources in the same place if they differ in parts of the package without
text, which leave no directory behind.
-/

namespace ContentRouter

open FileTree

namespace Writing

section Real

variable {generation : Generation} {types : TypeNames} {routers : List Router} {tree : FileTree}

/-- How far a real run has come that started from a tree. -/
structure Progress (generation : Generation) (tree : FileTree) (done : List Router)
    (writing : Writing) : Prop where
  grows : tree.Grows writing.files
  written : writing.written = due generation done tree
  /-- What has been added lies on the way to a source. -/
  added : ∀ place, (writing.files.entryAt? place).isSome = true →
    (tree.entryAt? place).isSome = true ∨
      ∃ router ∈ done, place <+: tree.place (router.sourcePath generation.output)

section Formed

variable (formed : tree.WellFormed)
  (clear : tree.Clear (tree.start generation.output) generation.output.pieces)
include formed clear

/-- **A run finds a file** where one stood in the beginning, and nowhere else as long as it has not
come to the router. -/
theorem Progress.contains_iff {done : List Router} {writing : Writing}
    (progress : Progress generation tree done writing)
    (contained : ∀ router ∈ done, router.IsContained) {router : Router}
    (own : router.IsContained) (apart : ∀ other ∈ done, other.IsApart router) :
    writing.files.contains (router.sourcePath generation.output) =
      tree.contains (router.sourcePath generation.output) := by
  rw [Bool.eq_iff_iff]
  refine ⟨fun found => ?_, progress.grows.contains⟩
  obtain ⟨reached, located⟩ := Option.isSome_iff_exists.mp found
  obtain ⟨same, stands⟩ := place_of_locate? located
  rw [same, progress.grows.place] at stands
  rcases progress.added _ stands with earlier | ⟨other, listed, along⟩
  · obtain ⟨before, name, cut, leads, _⟩ := router.pieces_sourcePath generation.output
    exact formed.contains cut leads (isFollowable_of_contains found)
      (Router.clear_sourcePath own clear) earlier
  · rw [Router.place_sourcePath own, Router.place_sourcePath (contained other listed),
      List.prefix_append_right_inj] at along
    exact absurd along (apart other listed).2

/-- **One router more**: it is stored if it was due in the beginning. -/
theorem Progress.step {done : List Router} {writing after : Writing}
    (progress : Progress generation tree done writing)
    (contained : ∀ router ∈ done, router.IsContained) {router : Router}
    (own : router.IsContained) (apart : ∀ other ∈ done, other.IsApart router)
    (step : Step generation types router writing after) (real : generation.dryRun = false)
    (going : after.failed = false) : Progress generation tree (done ++ [router]) after := by
  have found := progress.contains_iff formed clear contained own apart
  -- What was stored before lies apart, so the router is due now if it was due in the beginning.
  have same : passesOver generation writing.files router = passesOver generation tree router := by
    rw [passesOver, passesOver, found]
  have earlier (place : Place) (stands : (writing.files.entryAt? place).isSome = true) :
      (tree.entryAt? place).isSome = true ∨ ∃ other ∈ done ++ [router],
        place <+: tree.place (other.sourcePath generation.output) := by
    rcases progress.added place stands with standing | ⟨other, listed, along⟩
    · exact .inl standing
    · exact .inr ⟨other, List.mem_append_left _ listed, along⟩
  have grows := progress.grows.trans step.grows
  cases step with
  | ended failed =>
      rw [failed] at going
      cases going
  | passed _ _ passed =>
      refine ⟨grows, ?_, earlier⟩
      rw [written_say, progress.written, due, due, List.filter_append, List.filter_singleton,
        ← same, passed]
      simp
  | shown _ _ _ dry =>
      rw [dry] at real
      cases real
  | stored _ _ isDue _ outcome =>
      refine ⟨grows, ?_, fun place stands => ?_⟩
      · rw [written_count, written_say, outcome, written_store, progress.written, due, due,
          List.filter_append, List.filter_singleton, ← same, isDue, List.map_append]
        rfl
      · obtain ⟨front, name, cut, leads, down⟩ := router.pieces_sourcePath generation.output
        have clearPath := progress.grows.clear (Router.clear_sourcePath own clear)
        rw [← progress.grows.start] at clearPath
        rw [files_count, files_say, outcome] at stands
        rcases prefix_of_store cut leads down clearPath stands with standing | along
        · exact earlier place standing
        · rw [progress.grows.place] at along
          exact .inr ⟨router, List.mem_append_right _ List.mem_cons_self, along⟩
  | broken _ _ _ _ failed =>
      rw [failed] at going
      cases going

/-- **A real run that does not fail** writes the routers that were due in the beginning. -/
theorem progress_writeRouters (real : generation.dryRun = false)
    (contained : ∀ router ∈ routers, router.IsContained)
    (apart : routers.Pairwise Router.IsApart)
    (going : (writeRouters generation types ⟨routers⟩ { files := tree }).failed = false) :
    Progress generation tree routers
      (writeRouters generation types ⟨routers⟩ { files := tree }) := by
  induction routers using List.reverseRecOn with
  | nil => exact ⟨Grows.refl tree, rfl, fun _ => .inl⟩
  | append_singleton routers last ih =>
      rw [List.forall_mem_append, List.forall_mem_singleton] at contained
      rw [List.pairwise_append] at apart
      rw [writeRouters_append_singleton] at going ⊢
      have step := step_writeRouter generation types last
        (writeRouters generation types ⟨routers⟩ { files := tree })
      exact (ih contained.1 apart.1 (step.going going)).step formed clear contained.1 contained.2
        (fun other listed => apart.2.2 other listed last List.mem_cons_self) step real going

end Formed

/-- **A forced run that does not fail** leaves every router its own source. -/
theorem read?_writeRouters (forced : generation.force = true) (real : generation.dryRun = false)
    (contained : ∀ router ∈ routers, router.IsContained)
    (apart : routers.Pairwise Router.IsApart)
    (going : (writeRouters generation types ⟨routers⟩ { files := tree }).failed = false) :
    ∀ router ∈ routers,
      (writeRouters generation types ⟨routers⟩ { files := tree }).files.read?
        (router.sourcePath generation.output) = some (Source.render types router) := by
  intro router listed
  have frame := frame_writeRouters generation types tree routers
  have written := List.mem_map_of_mem (f := (·.sourcePath generation.output)) listed
  rw [← frame.all forced going] at written
  obtain ⟨other, known, same, standing⟩ := frame.source real _ written
  rw [Router.place_sourcePath (contained router listed),
    Router.place_sourcePath (contained other known), List.append_right_inj] at same
  -- Routers that are apart do not lie in the same place.
  have own : other = router := by
    by_contra different
    exact (apart.forall known listed different).2 (same ▸ List.prefix_refl _)
  rw [standing, own]

end Real

end Writing

namespace Round

variable (settings : Settings) (manifest : Manifest)

/-- **The law of placement** for the routers of a manifest. -/
structure PlacementLaw : Prop where
  /-- Two contained routers have the same path, and lead to the same place, exactly if they have the
  same names. -/
  same_iff : ∀ router ∈ (processManifest settings manifest).2.routers,
    ∀ other ∈ (processManifest settings manifest).2.routers,
      router.IsContained → other.IsContained → ∀ output,
        ((router.sourcePath output).names = (other.sourcePath output).names ↔
          router.names = other.names) ∧
        ∀ tree : FileTree, tree.place (router.sourcePath output) =
          tree.place (other.sourcePath output) ↔ router.names = other.names
  /-- Without slashes they have the same names exactly if the classes differ in nothing but parts of
  the package without text, and none is then on the way to another one. -/
  collision_iff : '/' ∉ settings.output.routerSuffix.toList →
    ∀ router ∈ (processManifest settings manifest).2.routers,
    ∀ other ∈ (processManifest settings manifest).2.routers,
      '/' ∉ router.qualifiedName.toList → '/' ∉ other.qualifiedName.toList →
        (router.names = other.names ↔
          filledParts router.qualifiedName = filledParts other.qualifiedName) ∧
        (router.names ≠ other.names → router.IsApart other)
  /-- Plain class names keep all routers contained and apart, if the suffix has no slash. -/
  plain : '/' ∉ settings.output.routerSuffix.toList →
    (∀ router ∈ (processManifest settings manifest).2.routers, IsPlain router.qualifiedName) →
      (∀ router ∈ (processManifest settings manifest).2.routers, router.IsContained) ∧
        (processManifest settings manifest).2.routers.Pairwise Router.IsApart
  /-- Routers that are contained and apart have different paths. -/
  distinct : (∀ router ∈ (processManifest settings manifest).2.routers, router.IsContained) →
    (processManifest settings manifest).2.routers.Pairwise Router.IsApart → ∀ output,
      (processManifest settings manifest).2.routers.Pairwise fun router other =>
        (router.sourcePath output).names ≠ (other.sourcePath output).names
  /-- A dry run then lists what a real run writes that does not fail. -/
  dryRun : (∀ router ∈ (processManifest settings manifest).2.routers, router.IsContained) →
    (processManifest settings manifest).2.routers.Pairwise Router.IsApart →
      ∀ (generation : Generation) (types : TypeNames) (tree : FileTree), tree.WellFormed →
        tree.Clear (tree.start generation.output) generation.output.pieces →
          let run (dryRun : Bool) := Writing.writeRouters { generation with dryRun } types
            (processManifest settings manifest).2 { files := tree }
          (run false).failed = false → (run false).written = (run true).written
  /-- After a forced run that does not fail, the file of every router holds its own source. -/
  forced : (∀ router ∈ (processManifest settings manifest).2.routers, router.IsContained) →
    (processManifest settings manifest).2.routers.Pairwise Router.IsApart →
      ∀ (generation : Generation) (types : TypeNames) (tree : FileTree),
        generation.force = true → generation.dryRun = false →
          let after := Writing.writeRouters generation types
            (processManifest settings manifest).2 { files := tree }
          after.failed = false → ∀ router ∈ (processManifest settings manifest).2.routers,
            after.files.read? (router.sourcePath generation.output) =
              some (Source.render types router)

variable {settings manifest}

private theorem isApart_of_names_ne (suffix : '/' ∉ settings.output.routerSuffix.toList)
    {router other : Router} (listed : router ∈ (processManifest settings manifest).2.routers)
    (clean : '/' ∉ router.qualifiedName.toList)
    (otherListed : other ∈ (processManifest settings manifest).2.routers)
    (otherClean : '/' ∉ other.qualifiedName.toList) (different : router.names ≠ other.names) :
    router.IsApart other :=
  ⟨fun along => different
      (names_eq_of_along suffix listed clean otherListed otherClean along),
    fun along => different
      (names_eq_of_along suffix otherListed otherClean listed clean along).symm⟩

variable (settings manifest)

/-- **Routers have places of their own** exactly as far as their classes have names of their own. -/
theorem placement_law : PlacementLaw settings manifest where
  same_iff := by
    intro router _ other _ contained otherContained output
    rw [(Router.names_sourcePath contained output).2,
      (Router.names_sourcePath otherContained output).2, List.append_right_inj]
    refine ⟨Iff.rfl, fun tree => ?_⟩
    rw [Router.place_sourcePath contained, Router.place_sourcePath otherContained,
      List.append_right_inj]
  collision_iff suffix router listed other otherListed clean otherClean :=
    ⟨names_eq_iff suffix listed clean otherListed otherClean,
      isApart_of_names_ne suffix listed clean otherListed otherClean⟩
  plain := by
    intro suffix plain
    refine ⟨fun router listed => isContained_of_slashless listed (plain router listed).1 suffix, ?_⟩
    have names := map_qualifiedName_routers_nodup settings manifest
    refine (List.pairwise_map.mp names).imp_of_mem
      fun {router other} listed otherListed different => ?_
    apply isApart_of_names_ne suffix listed (plain router listed).1 otherListed
      (plain other otherListed).1
    rw [ne_eq, names_eq_iff suffix listed (plain router listed).1 otherListed
      (plain other otherListed).1, filledParts_inj (plain router listed) (plain other otherListed)]
    exact different
  distinct := by
    intro contained apart output
    refine apart.imp_of_mem fun {router other} listed otherListed apart => ?_
    rw [(Router.names_sourcePath (contained router listed) output).2,
      (Router.names_sourcePath (contained other otherListed) output).2, ne_eq,
      List.append_right_inj]
    exact fun same => apart.1 (same ▸ List.prefix_refl _)
  dryRun := by
    intro contained apart generation types tree formed clear run going
    have real : Writing.Progress { generation with dryRun := false } tree _ (run false) :=
      Writing.progress_writeRouters formed clear rfl contained apart going
    have start : ({ files := tree } : Writing).failed = false := rfl
    have dry : (run true).written = _ :=
      Writing.written_of_dryRun { generation with dryRun := true } types _ rfl start
    exact real.written.trans dry.symm
  forced := by
    intro contained apart generation types tree forced real after going
    exact Writing.read?_writeRouters forced real contained apart going

/-- Two plain classes of one package are written to two files. -/
theorem placement_law_of_two :
    let method : Method := { name := "m", operation := .query, template := "/x" }
    let manifest : Manifest := ⟨[⟨"p.A", "a", [method]⟩, ⟨"p.q.B", "b", [method]⟩]⟩
    let model := (processManifest {} manifest).2
    let run (dryRun force : Bool) := Writing.writeRouters
      { manifest := ⟨"m.json"⟩, output := ⟨"g"⟩, dryRun, force } {} model { files := {} }
    model.routers.map (·.sourcePath ⟨"g"⟩) = [⟨"g/p/ARouter.java"⟩, ⟨"g/p/q/BRouter.java"⟩] ∧
      (run false false).written = (run true false).written ∧
      ∀ router ∈ model.routers,
        (run false true).files.read? (router.sourcePath ⟨"g"⟩) =
          some (Source.render {} router) := by
  intro method manifest model run
  have law := placement_law {} manifest
  have formed : ({} : FileTree).WellFormed :=
    ⟨rfl, fun place below stands => by simp [FileTree.entryAt?, below] at stands⟩
  have suffix : '/' ∉ ({} : Settings).output.routerSuffix.toList := by decide
  have plain : ∀ router ∈ (processManifest {} manifest).2.routers,
      IsPlain router.qualifiedName := by decide +kernel
  obtain ⟨contained, apart⟩ := law.plain suffix plain
  refine ⟨by decide +kernel, ?_, ?_⟩
  · exact law.dryRun contained apart { manifest := ⟨"m.json"⟩, output := ⟨"g"⟩ } {} {} formed
      (FileTree.clear_of_not_mem (by decide)) (by decide +kernel)
  · exact law.forced contained apart
      { manifest := ⟨"m.json"⟩, output := ⟨"g"⟩, force := true } {} {} rfl rfl (by decide +kernel)

/-- **Two routers in one place**: a doubled dot leaves no directory behind. The dry run promises two
files where one is written, and a forced run overwrites the source of the first router. -/
theorem exists_source_overwritten :
    let method : Method := { name := "m", operation := .query, template := "/x" }
    let manifest : Manifest := ⟨[⟨"a.B", "a", [method]⟩, ⟨"a..B", "b", [method]⟩]⟩
    let model := (processManifest {} manifest).2
    let run (dryRun force : Bool) := Writing.writeRouters
      { manifest := ⟨"m.json"⟩, output := ⟨"g"⟩, dryRun, force } {} model { files := {} }
    let path : Path := ⟨"g/a/BRouter.java"⟩
    model.routers.map (fun router => (router.qualifiedName, router.sourcePath ⟨"g"⟩)) =
        [("a.B", path), ("a..B", path)] ∧
      (run true false).written = [path, path] ∧
      (run false false).failed = false ∧ (run false false).written = [path] ∧
      (run false true).failed = false ∧
      ∃ router ∈ model.routers, (run false true).files.read? (router.sourcePath ⟨"g"⟩) ≠
        some (Source.render {} router) := by
  decide +kernel

end Round

end ContentRouter
