import Mathlib.Data.List.Induction
import ContentRouter.File.Tree
import ContentRouter.Proofs.Text.Pieces

/-!
# The names in a path

Of the pieces of a path, those that are empty or `.` lead nowhere. The others are its names, and
`..` is one of them. Putting a relative path behind another one puts the names of the two together
(`Path.names_foldl_push`), and so the place of the result is reached from the place of the first by
the names of the second (`FileTree.place_foldl_push`).
-/

namespace ContentRouter

namespace Path

/-- Whether a piece of a path leads anywhere. -/
def leads (piece : String) : Bool := piece != "" && piece != "."

/-- The names in a path, in their order. -/
def names (path : Path) : List String := path.pieces.filter leads

/-- A piece leads somewhere if it is a component and not a `.` at the beginning. -/
theorem leads_eq (path : Path) (index : Nat) (piece : String) :
    leads piece = (piece != "." && path.isComponent index piece) := by
  unfold leads isComponent
  by_cases dot : piece = "."
  · simp [dot]
  · have nonempty : (piece != "") = !piece.isEmpty := by
      by_cases empty : piece = ""
      · simp [empty]
      · rw [bne_iff_ne.mpr empty, Bool.eq_false_iff.mpr (mt String.isEmpty_iff.mp empty)]
        rfl
    rw [nonempty, if_neg (mt beq_iff_eq.mp dot), Bool.and_comm]

private theorem isAbsolute_iff {path : Path} :
    path.isAbsolute = true ↔ ∃ second rest, path.pieces = "" :: second :: rest := by
  obtain ⟨text⟩ := path
  unfold isAbsolute pieces
  constructor
  · intro slash
    obtain ⟨rest, begins⟩ := List.head?_eq_some_iff.mp (beq_iff_eq.mp slash)
    have written : text = "" ++ String.singleton '/' ++ String.ofList rest := by
      apply String.toList_inj.mp
      simp [begins]
    obtain ⟨second, more, cut⟩ :=
      List.exists_cons_of_ne_nil (Text.pieces_ne_nil '/' (String.ofList rest))
    rw [written, Text.pieces_append (by simp), cut]
    exact ⟨second, more, rfl⟩
  · rintro ⟨second, rest, cut⟩
    have written := Text.joinWith_pieces '/' text
    rw [cut] at written
    change (text.toList.head? == some '/') = true
    rw [← written, Text.joinWith, String.toList_append, String.toList_append]
    rfl

section Pushing

variable {path part : Path} (relative : part.isAbsolute = false)
include relative

private theorem isAbsolute_push : (path.push part).isAbsolute = path.isAbsolute := by
  unfold push
  rw [relative, if_neg Bool.false_ne_true]
  by_cases empty : path.text = ""
  · have none : path.isAbsolute = false := by rw [isAbsolute, empty]; rfl
    rw [if_pos (by simp [empty]), none]
    simpa [isAbsolute, empty] using relative
  · obtain ⟨first, rest, begins⟩ :=
      List.exists_cons_of_ne_nil (mt String.toList_eq_nil_iff.mp empty)
    split <;> simp [isAbsolute, begins]

/-- Behind another path, a relative one keeps its pieces. Of the pieces of the other path, an empty
one at the end is lost. -/
theorem pieces_push (path : Path) :
    ∃ kept, (path.pieces = kept ∨ path.pieces = kept ++ [""]) ∧
      (path.push part).pieces = kept ++ part.pieces := by
  unfold push
  rw [relative, if_neg Bool.false_ne_true]
  by_cases empty : path.text = ""
  · rw [if_pos (by simp [empty])]
    refine ⟨[], .inr ?_, ?_⟩
    · rw [pieces, empty]
      rfl
    · simp [pieces, empty]
  · by_cases ends : path.text.toList.getLast? = some '/'
    · rw [if_pos (by simp [ends])]
      obtain ⟨front, written⟩ := List.getLast?_eq_some_iff.mp ends
      have text : path.text = String.ofList front ++ String.singleton '/' ++ "" := by
        apply String.toList_inj.mp
        simp [written]
      refine ⟨Text.pieces '/' (String.ofList front), .inr ?_, ?_⟩
      · rw [pieces, text, Text.pieces_append_append]
        rfl
      · rw [pieces, text, String.append_empty]
        exact Text.pieces_append_append _ _
    · rw [if_neg (by simp [empty, ends])]
      exact ⟨path.pieces, .inl rfl, Text.pieces_append_append _ _⟩

end Pushing

/-- **Pieces behind a path**: relative paths that are put behind it, one after the other, add pieces
with their names. -/
theorem pieces_foldl_push {parts : List Path} (relative : ∀ part ∈ parts, part.isAbsolute = false)
    (path : Path) :
    ∃ kept added, (path.pieces = kept ∨ path.pieces = kept ++ [""]) ∧
      (parts.foldl push path).pieces = kept ++ added ∧
      added.filter leads = parts.flatMap names := by
  induction parts generalizing path with
  | nil => exact ⟨path.pieces, [], .inl rfl, (List.append_nil _).symm, rfl⟩
  | cons part rest ih =>
      have first := relative part List.mem_cons_self
      obtain ⟨kept, own, pushed⟩ := pieces_push first path
      obtain ⟨through, added, same, cut, names⟩ :=
        ih (fun other member => relative other (List.mem_cons_of_mem _ member)) (path.push part)
      rw [List.foldl_cons, cut, List.flatMap_cons]
      rw [pushed] at same
      rcases same with rfl | lost
      · refine ⟨kept, part.pieces ++ added, own, List.append_assoc _ _ _, ?_⟩
        rw [List.filter_append, names, Path.names]
      · -- The last piece of the part is empty, and has no name.
        obtain ⟨front, last, ends⟩ :=
          (List.eq_nil_or_concat part.pieces).resolve_left (Text.pieces_ne_nil '/' part.text)
        rw [ends, List.concat_eq_append, ← List.append_assoc] at lost
        obtain ⟨rfl, empty⟩ := List.append_inj' lost rfl
        refine ⟨kept, front ++ added, own, List.append_assoc _ _ _, ?_⟩
        rw [List.filter_append, names, Path.names, ends, List.concat_eq_append, List.filter_append,
          empty]
        simp [leads]

/-- Pushing relative parts keeps whether a path is absolute. -/
theorem isAbsolute_foldl_push {parts : List Path}
    (relative : ∀ part ∈ parts, part.isAbsolute = false) (path : Path) :
    (parts.foldl push path).isAbsolute = path.isAbsolute := by
  induction parts generalizing path with
  | nil => rfl
  | cons part rest ih =>
      rw [List.foldl_cons, ih fun other member => relative other (List.mem_cons_of_mem _ member),
        isAbsolute_push (relative part List.mem_cons_self)]

/-- **The names of paths behind a path** follow those of the path. -/
theorem names_foldl_push {parts : List Path} (relative : ∀ part ∈ parts, part.isAbsolute = false)
    (path : Path) : (parts.foldl push path).names = path.names ++ parts.flatMap names := by
  obtain ⟨kept, added, own, cut, found⟩ := pieces_foldl_push relative path
  have same : kept.filter leads = path.names := by
    unfold Path.names
    rcases own with own | own
    · rw [own]
    · simp [own, leads]
  rw [← found, ← same, Path.names, cut, List.filter_append]

/-- An absolute path among those put behind a path replaces all that came before. -/
theorem foldl_push_of_isAbsolute {part : Path} (absolute : part.isAbsolute = true)
    (before after : List Path) (path : Path) :
    (before ++ part :: after).foldl push path = after.foldl push part := by
  rw [List.foldl_append, List.foldl_cons, push_of_isAbsolute absolute]

/-- Whatever is pushed to an absolute path, the path stays absolute. -/
theorem isAbsolute_foldl_push_of_isAbsolute {path : Path} (absolute : path.isAbsolute = true)
    (parts : List Path) : (parts.foldl push path).isAbsolute = true := by
  induction parts generalizing path with
  | nil => exact absolute
  | cons part rest ih =>
      refine ih ?_
      cases own : part.isAbsolute with
      | true => rwa [push_of_isAbsolute own]
      | false => rwa [isAbsolute_push own]

/-- Whether a path continues another one by names of which none is `..`. -/
def IsBelow (path other : Path) : Prop :=
  path.isAbsolute = other.isAbsolute ∧
    ∃ names, names ≠ [] ∧ ".." ∉ names ∧ path.names = other.names ++ names

section Parents

variable (path : Path)

/-- The components among pieces from the beginning of a path, as far as the last one: what follows
it leads nowhere. -/
theorem components_cases (pieces : List String) :
    let counted := (pieces.zipIdx.map fun (piece, index) => (index, piece)).filter
      fun (index, piece) => path.isComponent index piece
    (counted = [] ∧ ∀ piece ∈ pieces, leads piece = false) ∨
      ∃ earlier front last back, pieces = front ++ last :: back ∧
        counted = earlier ++ [(front.length, last)] ∧ last ≠ "" ∧
        ∀ piece ∈ back, leads piece = false := by
  induction pieces using List.reverseRecOn with
  | nil => exact .inl ⟨rfl, nofun⟩
  | append_singleton pieces piece ih =>
      dsimp only at ih ⊢
      rw [List.zipIdx_append, List.map_append, List.filter_append]
      by_cases component : path.isComponent pieces.length piece = true
      · refine .inr ⟨_, pieces, piece, [], rfl, congrArg _ ?_, ?_, nofun⟩
        · simp [component]
        · rintro rfl
          simp [isComponent] at component
      · have idle : leads piece = false := by
          rw [leads_eq path pieces.length, Bool.eq_false_iff.mpr component, Bool.and_false]
        have none : (([piece].zipIdx (0 + pieces.length)).map
            fun (piece, index) => (index, piece)).filter
              (fun (index, piece) => path.isComponent index piece) = [] := by
          simp [component]
        rw [none, List.append_nil]
        rcases ih with ⟨nothing, all⟩ | ⟨earlier, front, last, back, rfl, found, some, all⟩
        · exact .inl ⟨nothing, List.forall_mem_append.mpr ⟨all, List.forall_mem_singleton.mpr idle⟩⟩
        · refine .inr ⟨earlier, front, last, back ++ [piece], ?_, found, some, ?_⟩
          · rw [List.append_assoc, List.cons_append]
          · exact List.forall_mem_append.mpr ⟨all, List.forall_mem_singleton.mpr idle⟩

private theorem filter_leads_of_idle {pieces : List String}
    (idle : ∀ piece ∈ pieces, leads piece = false) :
    pieces.filter leads = [] :=
  List.filter_eq_nil_iff.mpr fun piece member => Bool.eq_false_iff.mp (idle piece member)

variable {path}

/-- **The parent of a path** that ends with a name has the names before it, and it goes up only
where the path does. -/
theorem exists_parent {before : List String} {name : String} (cut : path.pieces = before ++ [name])
    (own : leads name = true) :
    ∃ parent, path.parent? = some parent ∧ parent.isAbsolute = path.isAbsolute ∧
      parent.names = before.filter leads ∧
      ∀ front back, parent.pieces = front ++ ".." :: back →
        ∃ rest, before = front ++ ".." :: rest := by
  have component : path.isComponent before.length name = true := by
    rw [leads_eq path before.length, Bool.and_eq_true] at own
    exact own.2
  have counted : path.components =
      (before.zipIdx.map fun (piece, index) => (index, piece)).filter
        (fun (index, piece) => path.isComponent index piece) ++ [(before.length, name)] := by
    rw [components, cut, List.zipIdx_append, List.map_append, List.filter_append]
    simp [component]
  unfold parent?
  rw [counted, List.reverse_append, List.reverse_singleton, List.singleton_append]
  rcases components_cases path before with ⟨none, idle⟩ |
    ⟨earlier, front, last, back, rfl, found, some, idle⟩
  · -- The only component has the root or the empty path for its parent.
    have still {pieces front back : List String} (same : pieces = front ++ ".." :: back)
        (flat : ∀ piece ∈ pieces, piece = "") : ∃ rest, before = front ++ ".." :: rest := by
      have up : ".." ∈ pieces := same ▸ List.mem_append_right _ List.mem_cons_self
      exact absurd (flat ".." up) (by decide)
    rw [none, filter_leads_of_idle idle]
    refine ⟨_, rfl, ?_⟩
    cases path.isAbsolute
    · exact ⟨rfl, rfl, fun front back same => still same (by decide)⟩
    · exact ⟨rfl, rfl, fun front back same => still same (by decide)⟩
  · rw [found, List.reverse_append, List.reverse_singleton, List.singleton_append]
    have upTo : (path.upTo front.length).pieces = front ++ [last] := by
      have taken : path.pieces.take (front.length + 1) = front ++ [last] := by
        rw [cut, List.append_assoc, List.take_length_add_append]
        rfl
      rw [Path.upTo, taken]
      refine Text.pieces_joinWith (by simp) fun piece member => ?_
      rw [← taken] at member
      exact Text.not_mem_of_mem_pieces '/' (List.mem_of_mem_take member)
    refine ⟨_, rfl, ?_, ?_, ?_⟩
    · rw [Bool.eq_iff_iff, isAbsolute_iff, isAbsolute_iff, upTo, cut]
      cases front with
      | nil => simp [some]
      | cons first others => cases others <;> simp
    · have whole : front ++ last :: back = front ++ [last] ++ back := by simp
      rw [names, upTo, whole, List.filter_append _ back, filter_leads_of_idle idle, List.append_nil]
    · intro before after same
      rw [upTo] at same
      refine ⟨after ++ back, ?_⟩
      rw [← List.singleton_append, ← List.append_assoc, same, List.append_assoc, List.cons_append]

end Parents

end Path

namespace FileTree

/-- Pieces that lead nowhere can be left out of a way. -/
theorem foldl_stepTo_filter (place : Place) (pieces : List String) :
    (pieces.filter Path.leads).foldl stepTo place = pieces.foldl stepTo place := by
  induction pieces generalizing place with
  | nil => rfl
  | cons piece rest ih =>
      by_cases name : Path.leads piece = true
      · rw [List.filter_cons_of_pos name, List.foldl_cons, List.foldl_cons, ih]
      · have stays : stepTo place piece = place := by
          unfold stepTo
          rw [if_pos]
          by_contra other
          simp_all [Path.leads]
        rw [List.filter_cons_of_neg name, List.foldl_cons, stays, ih]

/-- Names other than `..` lead below where they start. -/
theorem foldl_stepTo_of_names {names : List String} (real : ∀ name ∈ names, Path.leads name = true)
    (down : ".." ∉ names) (place : Place) : names.foldl stepTo place = place ++ names := by
  induction names generalizing place with
  | nil => exact (List.append_nil place).symm
  | cons name rest ih =>
      have own := real name List.mem_cons_self
      have other : name ≠ ".." := fun same => down (same ▸ List.mem_cons_self)
      have step : stepTo place name = place ++ [name] := by
        simp_all [stepTo, Path.leads]
      rw [List.foldl_cons, step, ih (fun name member => real name (List.mem_cons_of_mem _ member))
        (fun member => down (List.mem_cons_of_mem _ member)), List.append_assoc,
        List.singleton_append]

/-- The names in paths lead somewhere. -/
theorem leads_of_mem_flatMap_names {parts : List Path} :
    ∀ name ∈ parts.flatMap Path.names, Path.leads name = true := by
  intro name member
  obtain ⟨part, _, own⟩ := List.mem_flatMap.mp member
  exact List.of_mem_filter own

/-- **Where paths behind a path lead**: from where the path leads, by their names. -/
theorem place_foldl_push {parts : List Path} (relative : ∀ part ∈ parts, part.isAbsolute = false)
    (tree : FileTree) (path : Path) :
    tree.place (parts.foldl Path.push path) =
      (parts.flatMap Path.names).foldl stepTo (tree.place path) := by
  have start : tree.start (parts.foldl Path.push path) = tree.start path := by
    rw [FileTree.start, FileTree.start, Path.isAbsolute_foldl_push relative]
  rw [place, place, ← foldl_stepTo_filter, ← foldl_stepTo_filter _ path.pieces, start,
    ← List.foldl_append]
  exact congrArg _ (Path.names_foldl_push relative path)

end FileTree

end ContentRouter
