import ContentRouter.Proofs.File.Change
import ContentRouter.Round.Basic
import ContentRouter.Source.Rendering

/-!
# Where the sources of routers lie

The source of a router lies below the output directory if its parts are relative and none of its
names is `..` (`Router.isContained_iff`). Its place is then told by the names alone: the sources of
two routers lie in the same place exactly if they have the same names.

Without slashes a router is contained, and its names are the parts of its package and its file
(`Router.IsSlashless.names_eq`). Two such routers of a manifest lie in the same place exactly if
their classes differ in nothing but parts of the package without text (`Round.names_eq_iff`).
-/

namespace ContentRouter

/-- The name of a class is the last of its parts, and those before it that have text make up the
package. -/
theorem Provider.pieces_className (provider : Provider) :
    ∃ front, Text.pieces '.' provider.className = front ++ [provider.simpleName] ∧
      (Text.pieces '.' provider.package).filter (!·.isEmpty) = front.filter (!·.isEmpty) := by
  unfold simpleName package
  cases cut : Text.splitAtLast? '.' provider.className with
  | none => exact ⟨[], Text.pieces_of_not_mem (Text.splitAtLast?_eq_none cut), rfl⟩
  | some parts =>
      obtain ⟨before, after⟩ := parts
      obtain ⟨written, last⟩ := Text.splitAtLast?_eq_some cut
      refine ⟨Text.pieces '.' before, ?_, rfl⟩
      rw [written, Text.pieces_append_append, Text.pieces_of_not_mem last]

/-- The package and the name of a class have no characters of their own. -/
theorem Provider.mem_className (provider : Provider) :
    (∀ char ∈ provider.package.toList, char ∈ provider.className.toList) ∧
      ∀ char ∈ provider.simpleName.toList, char ∈ provider.className.toList := by
  unfold simpleName package
  cases cut : Text.splitAtLast? '.' provider.className with
  | none => exact ⟨nofun, fun _ => id⟩
  | some parts =>
      obtain ⟨before, after⟩ := parts
      rw [(Text.splitAtLast?_eq_some cut).1, String.toList_append, String.toList_append]
      exact ⟨fun char member => List.mem_append_left _ (List.mem_append_left _ member),
        fun char => List.mem_append_right _⟩

namespace Router

variable (router : Router)

/-- The relative paths that lead from an output directory to the source of a router. -/
def parts : List Path := (router.packageParts ++ [router.fileName]).map Path.mk

/-- The names that lead from an output directory to the source of a router. -/
def names : List String := router.parts.flatMap Path.names

/-- Whether the source of a router lies below every output directory. -/
def IsContained : Prop :=
  (∀ part ∈ router.parts, part.isAbsolute = false) ∧ ".." ∉ router.names

instance : Decidable router.IsContained := inferInstanceAs (Decidable (_ ∧ _))

/-- The path of a source is the output directory with the router's parts pushed to it. -/
theorem sourcePath_eq (output : Path) :
    router.sourcePath output = router.parts.foldl Path.push output := by
  rw [sourcePath, parts, List.foldl_map]

variable {router}

private theorem pieces_fileName (router : Router) :
    ∃ front last, Text.pieces '/' router.fileName = front ++ [last ++ ".java"] := by
  obtain ⟨front, last, _, cut⟩ := Text.pieces_append_of_not_mem router.routerClass
    (show '/' ∉ ".java".toList by decide)
  exact ⟨front, last, cut⟩

/-- A name that ends in `.java` leads somewhere, and not up. -/
theorem leads_java (text : String) :
    Path.leads (text ++ ".java") = true ∧ text ++ ".java" ≠ ".." := by
  have long : 5 ≤ (text ++ ".java").toList.length := by
    rw [String.toList_append, List.length_append]
    exact Nat.le_add_left _ _
  have other {short : String} (few : short.toList.length < 5) : text ++ ".java" ≠ short := by
    intro same
    rw [same] at long
    exact absurd long (Nat.not_le.mpr few)
  rw [Path.leads, Bool.and_eq_true, bne_iff_ne, bne_iff_ne]
  exact ⟨⟨other (by decide), other (by decide)⟩, other (by decide)⟩

/-- The last piece of a router's path is a name. -/
theorem pieces_sourcePath (router : Router) (output : Path) :
    ∃ before name, (router.sourcePath output).pieces = before ++ [name] ∧
      Path.leads name = true ∧ name ≠ ".." := by
  obtain ⟨front, last, cut⟩ := router.pieces_fileName
  rw [sourcePath, List.foldl_append, List.foldl_cons, List.foldl_nil]
  generalize router.packageParts.foldl (fun path part => path.push ⟨part⟩) output = directory
  cases root : Path.isAbsolute ⟨router.fileName⟩ with
  | true =>
      rw [Path.push_of_isAbsolute root]
      exact ⟨front, last ++ ".java", cut, leads_java last⟩
  | false =>
      obtain ⟨kept, _, pushed⟩ := Path.pieces_push root directory
      refine ⟨kept ++ front, last ++ ".java", ?_, leads_java last⟩
      rw [pushed, Path.pieces, cut, List.append_assoc]

/-- A source has a name. -/
theorem names_ne_nil (router : Router) : router.names ≠ [] := by
  obtain ⟨front, last, cut⟩ := router.pieces_fileName
  have listed : last ++ ".java" ∈ router.names := by
    refine List.mem_flatMap.mpr ⟨⟨router.fileName⟩, ?_, ?_⟩
    · exact List.mem_map_of_mem (List.mem_append_right _ List.mem_cons_self)
    · rw [Path.names, Path.pieces, cut]
      exact List.mem_filter.mpr
        ⟨List.mem_append_right _ List.mem_cons_self, (leads_java last).1⟩
  exact List.ne_nil_of_mem listed

private theorem leads_of_mem_names : ∀ name ∈ router.names, Path.leads name = true :=
  FileTree.leads_of_mem_flatMap_names

section Contained

variable (contained : router.IsContained)
include contained

/-- **The path of a contained router** has the names of the output directory and its own. -/
theorem names_sourcePath (output : Path) :
    (router.sourcePath output).isAbsolute = output.isAbsolute ∧
      (router.sourcePath output).names = output.names ++ router.names := by
  rw [sourcePath_eq]
  exact ⟨Path.isAbsolute_foldl_push contained.1 output, Path.names_foldl_push contained.1 output⟩

/-- **The place of a contained router** lies below that of the output directory. -/
theorem place_sourcePath (tree : FileTree) (output : Path) :
    tree.place (router.sourcePath output) = tree.place output ++ router.names := by
  rw [sourcePath_eq, FileTree.place_foldl_push contained.1]
  exact FileTree.foldl_stepTo_of_names leads_of_mem_names contained.2 _

/-- The path of a contained router goes up only where that of the output directory does. -/
theorem clear_sourcePath {tree : FileTree} {output : Path}
    (clear : tree.Clear (tree.start output) output.pieces) :
    tree.Clear (tree.start (router.sourcePath output)) (router.sourcePath output).pieces := by
  have start : tree.start (router.sourcePath output) = tree.start output := by
    rw [FileTree.start, FileTree.start, (names_sourcePath contained output).1]
  rw [start, sourcePath_eq]
  obtain ⟨kept, added, own, cut, found⟩ := Path.pieces_foldl_push contained.1 output
  have down : ".." ∉ added := by
    intro up
    refine contained.2 ?_
    rw [names, ← found]
    exact List.mem_filter.mpr ⟨up, rfl⟩
  intro before after same
  rw [cut] at same
  rcases List.append_eq_append_iff.mp same with ⟨more, rfl, behind⟩ | ⟨more, rfl, behind⟩
  · exact absurd (behind ▸ List.mem_append_right _ List.mem_cons_self) down
  · cases more with
    | nil =>
        rw [List.nil_append] at behind
        exact absurd (behind ▸ List.mem_cons_self) down
    | cons next others =>
        obtain ⟨rfl, _⟩ := List.cons.inj behind
        rcases own with own | own
        · exact clear before others own
        · exact clear before (others ++ [""]) (own.trans (List.append_assoc _ _ _))

end Contained

/-- **A router is contained** exactly if its source lies below every output directory. -/
theorem isContained_iff :
    router.IsContained ↔ ∀ output, (router.sourcePath output).IsBelow output := by
  constructor
  · intro contained output
    obtain ⟨root, names⟩ := names_sourcePath contained output
    exact ⟨root, router.names, router.names_ne_nil, contained.2, names⟩
  · intro below
    have relative : ∀ part ∈ router.parts, part.isAbsolute = false := by
      intro part member
      rw [← Bool.not_eq_true]
      intro absolute
      obtain ⟨before, after, parts⟩ := List.append_of_mem member
      have root := (below ⟨""⟩).1
      rw [sourcePath_eq, parts, Path.foldl_push_of_isAbsolute absolute,
        Path.isAbsolute_foldl_push_of_isAbsolute absolute] at root
      cases root
    refine ⟨relative, ?_⟩
    obtain ⟨found, _, down, same⟩ := (below ⟨""⟩).2
    rw [sourcePath_eq, Path.names_foldl_push relative] at same
    rw [names, List.append_cancel_left same]
    exact down

section Slashless

/-- Whether neither the package nor the class of a router has a slash. -/
def IsSlashless (router : Router) : Prop :=
  '/' ∉ router.package.toList ∧ '/' ∉ router.routerClass.toList

instance (router : Router) : Decidable router.IsSlashless := inferInstanceAs (Decidable (_ ∧ _))

/-- A text without slashes is a single piece of a path. -/
theorem pieces_of_slashless {text : String} (clean : '/' ∉ text.toList) :
    Path.isAbsolute ⟨text⟩ = false ∧ Path.pieces ⟨text⟩ = [text] := by
  refine ⟨?_, Text.pieces_of_not_mem clean⟩
  rw [← Bool.not_eq_true]
  intro absolute
  exact clean (List.mem_of_mem_head? (beq_iff_eq.mp absolute))

private theorem leads_of_dotless {text : String} (some : text ≠ "") (dotless : '.' ∉ text.toList) :
    Path.leads text = true := by
  rw [Path.leads, Bool.and_eq_true, bne_iff_ne, bne_iff_ne]
  refine ⟨some, ?_⟩
  rintro rfl
  exact dotless (by decide)

variable {other : Router} (slashless : router.IsSlashless)
include slashless

/-- Without slashes, every part of a router's path is a single name. Those of the package have no
dot, and the file has one. -/
theorem IsSlashless.parts :
    (∀ part ∈ router.packageParts, '/' ∉ part.toList ∧ '.' ∉ part.toList ∧
        Path.leads part = true) ∧
      '/' ∉ router.fileName.toList ∧ '.' ∈ router.fileName.toList ∧
        Path.leads router.fileName = true ∧ router.fileName ≠ ".." := by
  refine ⟨fun part member => ?_, ?_, ?_, leads_java _⟩
  · have own := List.mem_of_mem_filter member
    have dotless := Text.not_mem_of_mem_pieces '.' own
    have some : part ≠ "" := by
      rintro rfl
      cases List.of_mem_filter member
    exact ⟨fun slash => slashless.1 (Text.mem_of_mem_pieces '.' own slash), dotless,
      leads_of_dotless some dotless⟩
  · rw [fileName, String.toList_append, List.mem_append]
    exact not_or.mpr ⟨slashless.2, by decide⟩
  · rw [fileName, String.toList_append]
    exact List.mem_append_right _ (by decide)

private theorem IsSlashless.names_eq :
    (∀ part ∈ router.parts, part.isAbsolute = false) ∧
      router.names = router.packageParts ++ [router.fileName] := by
  obtain ⟨package, clean, _, leads, _⟩ := slashless.parts
  have single : ∀ part ∈ router.packageParts ++ [router.fileName],
      '/' ∉ part.toList ∧ Path.leads part = true := by
    refine List.forall_mem_append.mpr ⟨fun part member => ?_, ?_⟩
    · exact ⟨(package part member).1, (package part member).2.2⟩
    · exact List.forall_mem_singleton.mpr ⟨clean, leads⟩
  constructor
  · exact List.forall_mem_map.mpr fun part member => (pieces_of_slashless (single part member).1).1
  rw [Router.names, Router.parts, List.flatMap_map]
  have own : ∀ part ∈ router.packageParts ++ [router.fileName], Path.names ⟨part⟩ = [part] := by
    intro part member
    obtain ⟨clean, leads⟩ := single part member
    rw [Path.names, (pieces_of_slashless clean).2, List.filter_singleton, leads]
    rfl
  rw [List.flatMap_congr own, List.flatMap_singleton']

/-- Without slashes a router is contained in its output directory. -/
theorem IsSlashless.isContained : router.IsContained := by
  obtain ⟨package, _, _, _, other⟩ := slashless.parts
  obtain ⟨relative, names⟩ := slashless.names_eq
  refine ⟨relative, ?_⟩
  rw [names, List.mem_append, List.mem_singleton]
  rintro (member | same)
  · exact (package ".." member).2.1 (by decide)
  · exact other same.symm

/-- Without slashes, a router's path is told by its names. -/
theorem IsSlashless.sourcePath_eq (otherSlashless : other.IsSlashless)
    (same : router.names = other.names) (output : Path) :
    router.sourcePath output = other.sourcePath output := by
  rw [slashless.names_eq.2, otherSlashless.names_eq.2] at same
  rw [sourcePath, sourcePath, same]

end Slashless

/-- Whether neither of two routers has a source on the way to that of the other one. -/
def IsApart (router other : Router) : Prop :=
  ¬ router.names <+: other.names ∧ ¬ other.names <+: router.names

instance (router other : Router) : Decidable (router.IsApart other) :=
  inferInstanceAs (Decidable (_ ∧ _))

instance : Std.Symm IsApart := ⟨fun _ _ apart => ⟨apart.2, apart.1⟩⟩

end Router

namespace Round

variable {settings : Settings} {manifest : Manifest} {router other : Router}

/-- The parts of a class name are the package and the file of its router. -/
theorem exists_pieces_of_listed (listed : router ∈ (processManifest settings manifest).2.routers) :
    ∃ front simple, Text.pieces '.' router.qualifiedName = front ++ [simple] ∧
      router.packageParts = front.filter (!·.isEmpty) ∧
      router.fileName = simple ++ (settings.output.routerSuffix ++ ".java") := by
  obtain ⟨accepted, _, rfl⟩ := List.mem_map.mp listed
  obtain ⟨front, cut, package⟩ := accepted.provider.pieces_className
  exact ⟨front, accepted.provider.simpleName, cut, package, String.append_assoc⟩

section Slashless

variable (listed : router ∈ (processManifest settings manifest).2.routers)
  (clean : '/' ∉ router.qualifiedName.toList)
  (suffix : '/' ∉ settings.output.routerSuffix.toList)
include listed clean suffix

private theorem isSlashless_of_listed : router.IsSlashless := by
  obtain ⟨accepted, _, rfl⟩ := List.mem_map.mp listed
  obtain ⟨package, simple⟩ := accepted.provider.mem_className
  refine ⟨fun slash => clean (package _ slash), fun slash => ?_⟩
  rcases List.mem_append.mp (String.toList_append ▸ slash) with slash | slash
  · exact clean (simple _ slash)
  · exact suffix slash

/-- **Without slashes a router is contained.** -/
theorem isContained_of_slashless : router.IsContained :=
  (isSlashless_of_listed listed clean suffix).isContained

end Slashless

section Plain

/-- The parts of a class name that have text, and the last one in any case. -/
def filledParts (className : String) : List String :=
  let parts := Text.pieces '.' className
  parts.dropLast.filter (!·.isEmpty) ++ parts.getLast?.toList

/-- Whether a class name has neither a slash nor a part of its package without text. -/
def IsPlain (className : String) : Prop :=
  '/' ∉ className.toList ∧ "" ∉ (Text.pieces '.' className).dropLast

instance (className : String) : Decidable (IsPlain className) :=
  inferInstanceAs (Decidable (_ ∧ _))

/-- Plain class names are told by their parts. -/
theorem filledParts_of_isPlain {className : String} (plain : IsPlain className) :
    filledParts className = Text.pieces '.' className := by
  have all : (Text.pieces '.' className).dropLast.filter (!·.isEmpty) =
      (Text.pieces '.' className).dropLast := by
    refine List.filter_eq_self.mpr fun part member => ?_
    have named : part ≠ "" := fun empty => plain.2 (empty ▸ member)
    simpa using named
  rw [filledParts, all, List.getLast?_eq_getLast_of_ne_nil (Text.pieces_ne_nil '.' className)]
  exact List.dropLast_append_getLast _

/-- Class names without empty parts have the same parts only if they are the same. -/
theorem filledParts_inj {className other : String} (plain : IsPlain className)
    (otherPlain : IsPlain other) :
    filledParts className = filledParts other ↔ className = other := by
  refine ⟨fun same => ?_, fun same => same ▸ rfl⟩
  rw [filledParts_of_isPlain plain, filledParts_of_isPlain otherPlain] at same
  rw [← Text.joinWith_pieces '.' className, same, Text.joinWith_pieces]

variable (suffix : '/' ∉ settings.output.routerSuffix.toList)
  (listed : router ∈ (processManifest settings manifest).2.routers)
  (clean : '/' ∉ router.qualifiedName.toList)
  (otherListed : other ∈ (processManifest settings manifest).2.routers)
  (otherClean : '/' ∉ other.qualifiedName.toList)
include suffix listed clean otherListed otherClean

/-- **Sources lie in the same place** exactly if the classes differ in nothing but parts of the
package without text. -/
theorem names_eq_iff :
    router.names = other.names ↔
      filledParts router.qualifiedName = filledParts other.qualifiedName := by
  obtain ⟨front, simple, cut, package, file⟩ := exists_pieces_of_listed listed
  obtain ⟨otherFront, otherSimple, otherCut, otherPackage, otherFile⟩ :=
    exists_pieces_of_listed otherListed
  rw [(isSlashless_of_listed listed clean suffix).names_eq.2,
    (isSlashless_of_listed otherListed otherClean suffix).names_eq.2, filledParts, filledParts, cut,
    otherCut, package, otherPackage, file, otherFile]
  simp only [List.dropLast_concat, List.getLast?_concat, Option.toList_some]
  constructor
  · intro same
    obtain ⟨packages, files⟩ := List.append_inj' same rfl
    rw [packages, String.append_left_inj _ |>.mp (List.cons.inj files).1]
  · intro same
    obtain ⟨packages, simples⟩ := List.append_inj' same rfl
    rw [packages, (List.cons.inj simples).1]

/-- Without slashes, no source lies on the way to another one. -/
theorem names_eq_of_along (along : router.names <+: other.names) : router.names = other.names := by
  have slashless := isSlashless_of_listed listed clean suffix
  have otherSlashless := isSlashless_of_listed otherListed otherClean suffix
  rw [slashless.names_eq.2, otherSlashless.names_eq.2] at along ⊢
  obtain ⟨more, same⟩ := along
  rcases List.eq_nil_or_concat more with rfl | ⟨between, last, rfl⟩
  · rwa [List.append_nil] at same
  · -- The file of the one has a dot, and so it is no part of the package of the other one.
    rw [List.concat_eq_append, ← List.append_assoc] at same
    obtain ⟨packages, _⟩ := List.append_inj' same rfl
    have member : router.fileName ∈ other.packageParts := by
      rw [← packages]
      simp
    have dotless := (otherSlashless.parts.1 _ member).2.1
    exact absurd slashless.parts.2.2.1 dotless

end Plain

end Round

end ContentRouter
