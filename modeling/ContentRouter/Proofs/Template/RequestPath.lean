import ContentRouter.Proofs.Lists.Filters
import ContentRouter.Proofs.Template.NormalizedPath
import ContentRouter.Source.Call

/-!
# Paths of requests

A request for a template has a text in the place of every placeholder, and its list of path segments
leaves out the empty ones. As a placeholder gets a text that is not empty, what is left out are the
empty literals of the template, and a placeholder keeps its place among the others
(`Template.getElem?_filledSegments_requestPath`). The normalized path is the path of a request that
has the wildcard everywhere, so the same holds of it.
-/

namespace ContentRouter

namespace Segment

/-- The text of a segment in the path of a request. -/
def filled (values : String → String) : Segment → String
  | .literal text => text
  | .placeholder name => values name

private theorem normalized_eq_filled (wildcard : String) :
    Segment.normalized wildcard = Segment.filled fun _ => wildcard := by
  funext segment
  cases segment <;> rfl

end Segment

namespace Source

variable {segments : List Segment} {position : Nat}

/-- There are at most as many empty segments as segments. -/
theorem countP_isEmpty_le (segments : List Segment) (position : Nat) :
    (segments.take position).countP Segment.isEmpty ≤ position :=
  Nat.le_trans List.countP_le_length (List.length_take_le position segments)

/-- The runtime index counts the segments before a position that are not empty. -/
theorem runtimeIndex_eq_countP (inside : position ≤ segments.length) :
    runtimeIndex segments position = (segments.take position).countP (!·.isEmpty) := by
  have split := List.length_eq_countP_add_countP Segment.isEmpty (l := segments.take position)
  simp only [List.length_take_of_le inside, Bool.not_eq_true, ← Bool.not_eq_true',
    Bool.decide_eq_true] at split
  rw [runtimeIndex]
  omega

/-- Behind a segment that is not empty the runtime index is greater. -/
theorem runtimeIndex_lt {segment : Segment} (found : segments[position]? = some segment)
    (filled : segment.isEmpty = false) {later : Nat} (behind : position < later)
    (inside : later ≤ segments.length) :
    runtimeIndex segments position < runtimeIndex segments later := by
  have upTo : (segments.take (position + 1)).countP (!·.isEmpty) =
      (segments.take position).countP (!·.isEmpty) + 1 := by
    rw [List.take_add_one, found, List.countP_append]
    simp [filled]
  have reached : position + 1 ≤ later := behind
  have more := (List.take_sublist_take_left (l := segments) reached).countP_le (p := (!·.isEmpty))
  rw [runtimeIndex_eq_countP (by omega), runtimeIndex_eq_countP inside]
  omega

end Source

namespace Template

/-- The path of the request in which every placeholder of the path has a text. -/
def requestPath (values : String → String) (template : Template) : String :=
  "/" ++ Text.joinWith "/" (template.segments.map (Segment.filled values))

/-- Whether every placeholder of the path has a text, and no slash in it. -/
def IsFilledBy (template : Template) (values : String → String) : Prop :=
  ∀ name, .placeholder name ∈ template.segments → values name ≠ "" ∧ '/' ∉ (values name).toList

section Filling

variable {text : String} {template : Template} (read : parse text = .ok template)
  {values : String → String} (filling : template.IsFilledBy values)
include read filling

/-- The segments of a request are those of the template that are not empty, filled. -/
theorem filledSegments_requestPath :
    Source.filledSegments (template.requestPath values) =
      (template.segments.filter (!·.isEmpty)).map (Segment.filled values) := by
  obtain ⟨_, segments, _, _⟩ := eq_of_parse read
  have clean : ∀ own ∈ template.segments.map (Segment.filled values), '/' ∉ own.toList := by
    rw [List.forall_mem_map]
    intro segment listed
    cases segment with
    | literal own => exact not_mem_of_literal_mem_segmentsOf (segments ▸ listed)
    | placeholder name => exact (filling name listed).2
  rw [requestPath, Source.filledSegments_joinWith clean, List.filter_map]
  congr 1
  refine List.filter_congr ?_
  intro segment listed
  cases segment with
  | literal own => rfl
  | placeholder name => simpa [Segment.filled, Segment.isEmpty] using (filling name listed).1

/-- **A placeholder is found at its runtime index** among the segments of every request. -/
theorem getElem?_filledSegments_requestPath {name : String} {position : Nat}
    (placed : template.segments[position]? = some (.placeholder name)) :
    (Source.filledSegments (template.requestPath values))[
      Source.runtimeIndex template.segments position]? = some (values name) := by
  obtain ⟨inside, _⟩ := List.getElem?_eq_some_iff.mp placed
  rw [filledSegments_requestPath read filling,
    Source.runtimeIndex_eq_countP (Nat.le_of_lt inside), List.getElem?_map,
    getElem?_filter_countP placed rfl]
  rfl

end Filling

/-- A normalized path is the request with the wildcard for every placeholder. -/
theorem normalizedPathOf_eq_requestPath (wildcard : String) (template : Template) :
    Model.normalizedPathOf wildcard template.segments = template.requestPath fun _ => wildcard := by
  rw [Model.normalizedPathOf_eq, requestPath, Segment.normalized_eq_filled]

end Template

end ContentRouter
