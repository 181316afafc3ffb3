import ContentRouter.Proofs.Command.Storing
import ContentRouter.Proofs.Source.Placement

/-!
# Routers are written below the output directory

The path of a router continues that of the output directory unless one of its parts is absolute,
which replaces all before it, or one of its names is `..`, which leads up again. The parts come from
the class name and the suffix as they stand, so that it takes a slash in one of them.

Where every router is contained, a run changes no file outside the output directory.
-/

namespace ContentRouter

namespace Round

/-- **The law of containment** for the routers of a manifest. -/
structure ContainmentLaw (settings : Settings) (manifest : Manifest) : Prop where
  /-- The source of a contained router, and of no other one, lies below every output directory. -/
  below_iff : ∀ router ∈ (processManifest settings manifest).2.routers,
    router.IsContained ↔ ∀ output, (router.sourcePath output).IsBelow output
  /-- A router with relative parts has its own names behind those of the output directory. -/
  continued : ∀ router ∈ (processManifest settings manifest).2.routers,
    (∀ part ∈ router.parts, part.isAbsolute = false) → ∀ output,
      (router.sourcePath output).isAbsolute = output.isAbsolute ∧
        (router.sourcePath output).names = output.names ++ router.names
  /-- A router with an absolute part lies in one place whatever the output directory is. -/
  replaced : ∀ router ∈ (processManifest settings manifest).2.routers,
    (∃ part ∈ router.parts, part.isAbsolute = true) → ∀ output other,
      router.sourcePath output = router.sourcePath other ∧
        (router.sourcePath output).isAbsolute = true
  /-- It takes a slash in the class name or in the suffix for a router not to be contained. -/
  slashless : ∀ router ∈ (processManifest settings manifest).2.routers,
    '/' ∉ router.qualifiedName.toList → '/' ∉ settings.output.routerSuffix.toList →
      router.IsContained
  /-- A file that a run creates or overwrites is the one that the path of a router names. -/
  changed : ∀ (generation : Generation) (types : TypeNames) (writing : Writing) (place : Place),
    (writing.writeRouters generation types (processManifest settings manifest).2).files.content?
        place ≠ writing.files.content? place →
      ∃ router ∈ (processManifest settings manifest).2.routers,
        place = writing.files.place (router.sourcePath generation.output)
  /-- It lies below the output directory if the routers are contained. -/
  inside : (∀ router ∈ (processManifest settings manifest).2.routers, router.IsContained) →
    ∀ (generation : Generation) (types : TypeNames) (writing : Writing) (place : Place),
      (writing.writeRouters generation types (processManifest settings manifest).2).files.content?
          place ≠ writing.files.content? place →
        ∃ names, names ≠ [] ∧ place = writing.files.place generation.output ++ names

/-- **Sources lie below the output directory** exactly as far as the routers are contained. -/
theorem containment_law (settings : Settings) (manifest : Manifest) :
    ContainmentLaw settings manifest := by
  have changed (generation : Generation) (types : TypeNames) (writing : Writing) (place : Place)
      (other : (writing.writeRouters generation types
        (processManifest settings manifest).2).files.content? place ≠
          writing.files.content? place) :
      ∃ router ∈ (processManifest settings manifest).2.routers,
        place = writing.files.place (router.sourcePath generation.output) := by
    by_contra none
    push Not at none
    exact other (Writing.content?_writeRouters generation types _ none)
  refine ⟨fun router _ => router.isContained_iff, ?_, ?_, ?_, changed, ?_⟩
  · intro router _ relative output
    rw [Router.sourcePath_eq]
    exact ⟨Path.isAbsolute_foldl_push relative output, Path.names_foldl_push relative output⟩
  · rintro router _ ⟨part, member, absolute⟩ output other
    obtain ⟨before, after, parts⟩ := List.append_of_mem member
    rw [Router.sourcePath_eq, Router.sourcePath_eq, parts,
      Path.foldl_push_of_isAbsolute absolute, Path.foldl_push_of_isAbsolute absolute]
    exact ⟨rfl, Path.isAbsolute_foldl_push_of_isAbsolute absolute after⟩
  · exact fun router listed clean suffix => isContained_of_slashless listed clean suffix
  · intro contained generation types writing place other
    obtain ⟨router, listed, same⟩ := changed generation types writing place other
    refine ⟨router.names, router.names_ne_nil, ?_⟩
    rw [same, Router.place_sourcePath (contained router listed)]

/-- **A source outside of the output directory**: the class name `/tmp/P` is an absolute path, and a
file in `/tmp` is overwritten although the sources are to go to `g`. -/
theorem exists_source_outside :
    let provider : Provider :=
      ⟨"/tmp/P", "a", [{ name := "m", operation := .query, template := "/x" }]⟩
    let generation : Generation := { manifest := ⟨"m.json"⟩, output := ⟨"g"⟩, force := true }
    let model := (processManifest {} ⟨[provider]⟩).2
    let tree : FileTree :=
      { workingDirectory := ["w"]
        entries := [(["w"], .directory), (["tmp"], .directory),
          (["tmp", "PRouter.java"], .file "kept")] }
    let after := ({ files := tree } : Writing).writeRouters generation {} model
    model.routers.map (·.sourcePath generation.output) = [⟨"/tmp/PRouter.java"⟩] ∧
      tree.place generation.output = ["w", "g"] ∧ after.failed = false ∧
      tree.content? ["tmp", "PRouter.java"] = some "kept" ∧
      after.files.content? ["tmp", "PRouter.java"] ≠ some "kept" := by
  decide +kernel

end Round

end ContentRouter
