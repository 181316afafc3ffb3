import ContentRouter.Proofs.Template.RoundTrip
import ContentRouter.Source.Rendering

/-!
# Normalized paths and the paths that routers register

A router registers a normalized path without its empty segments, so that two normalized paths are
registered alike exactly if they have the same segments with text
(`Source.matcherPath_eq_iff`). A model has an empty segment beside others exactly if its normalized
path is another one than the path that is registered for it (`Model.hasEmptySegment_iff`). So of
several normalized paths that are registered alike only one belongs to models without empty
segments.
-/

namespace ContentRouter

namespace Source

/-- The segments of a normalized path that have text. -/
def filledSegments (normalizedPath : String) : List String :=
  (Text.pieces '/' normalizedPath).filter (!·.isEmpty)

/-- A path is registered as its segments with text, joined by slashes. -/
theorem matcherPath_eq (normalizedPath : String) :
    matcherPath normalizedPath = Text.joinWith "/" (filledSegments normalizedPath) := rfl

/-- No segment has a slash. -/
theorem not_mem_of_mem_filledSegments {normalizedPath segment : String}
    (member : segment ∈ filledSegments normalizedPath) : '/' ∉ segment.toList :=
  Text.not_mem_of_mem_pieces '/' (List.mem_of_mem_filter member)

/-- A text without a slash is its only segment, unless it is empty. -/
theorem filledSegments_of_not_mem {text : String} (clean : '/' ∉ text.toList) :
    filledSegments text = [text].filter (!·.isEmpty) := by
  rw [filledSegments, Text.pieces_of_not_mem clean]

private theorem filledSegments_append (before after : String) :
    filledSegments (before ++ "/" ++ after) = filledSegments before ++ filledSegments after := by
  have cut : Text.pieces '/' (before ++ "/" ++ after) =
      Text.pieces '/' before ++ Text.pieces '/' after := Text.pieces_append_append before after
  rw [filledSegments, cut, List.filter_append]
  rfl

/-- The segments of a path are those of its parts, also where a part has slashes of its own. -/
theorem filledSegments_path (texts : List String) :
    filledSegments ("/" ++ Text.joinWith "/" texts) = texts.flatMap filledSegments := by
  have joined : filledSegments (Text.joinWith "/" texts) = texts.flatMap filledSegments := by
    induction texts with
    | nil => rfl
    | cons text rest ih =>
        cases rest with
        | nil => exact (List.append_nil _).symm
        | cons next others =>
            rw [Text.joinWith, filledSegments_append, ih]
            rfl
  have behind := filledSegments_append "" (Text.joinWith "/" texts)
  rw [String.empty_append] at behind
  rw [behind, joined]
  rfl

/-- The segments of a path are the texts that it was joined from, but for the empty ones. -/
theorem filledSegments_joinWith {texts : List String}
    (clean : ∀ text ∈ texts, '/' ∉ text.toList) :
    filledSegments ("/" ++ Text.joinWith "/" texts) = texts.filter (!·.isEmpty) := by
  rw [filledSegments_path]
  induction texts with
  | nil => rfl
  | cons text rest ih =>
      obtain ⟨here, others⟩ := List.forall_mem_cons.mp clean
      rw [List.flatMap_cons, filledSegments_of_not_mem here, ih others, ← List.filter_append]
      rfl

/-- A registered path has the segments of the normalized path. -/
theorem filledSegments_matcherPath (normalizedPath : String) :
    filledSegments (matcherPath normalizedPath) = filledSegments normalizedPath := by
  by_cases root : filledSegments normalizedPath = []
  · rw [matcherPath_eq, root]
    rfl
  · have pieces : Text.pieces '/' (matcherPath normalizedPath) = filledSegments normalizedPath :=
      Text.pieces_joinWith root fun _ => not_mem_of_mem_filledSegments
    rw [filledSegments, pieces, filledSegments, List.filter_filter]
    simp only [Bool.and_self]

/-- Paths are registered alike exactly if they have the same segments with text. -/
theorem matcherPath_eq_iff (path other : String) :
    matcherPath path = matcherPath other ↔ filledSegments path = filledSegments other := by
  constructor
  · intro same
    rw [← filledSegments_matcherPath path, same, filledSegments_matcherPath]
  · intro same
    rw [matcherPath_eq, same, matcherPath_eq]

end Source

/-- Leaving out empty texts changes what is joined, unless there is none or only one text. -/
theorem Text.joinWith_filter_eq_iff {texts : List String} (some : texts ≠ [])
    (clean : ∀ text ∈ texts, '/' ∉ text.toList) :
    joinWith "/" (texts.filter (!·.isEmpty)) = joinWith "/" texts ↔
      texts.length = 1 ∨ ∀ text ∈ texts, text ≠ "" := by
  have whole : pieces '/' (joinWith "/" texts) = texts := pieces_joinWith some clean
  have kept : texts.filter (!·.isEmpty) = texts ↔ ∀ text ∈ texts, text ≠ "" := by
    simp only [List.filter_eq_self, Bool.not_eq_true', ← Bool.not_eq_true, String.isEmpty_iff,
      ne_eq]
  constructor
  · intro same
    by_cases nothing : texts.filter (!·.isEmpty) = []
    · rw [← same, nothing] at whole
      exact .inl (by rw [← whole]; rfl)
    · refine .inr (kept.mp ?_)
      have filled : pieces '/' (joinWith "/" (texts.filter (!·.isEmpty))) = _ :=
        pieces_joinWith nothing fun text member => clean text (List.mem_of_mem_filter member)
      rw [← filled, same, whole]
  · rintro (single | filled)
    · obtain ⟨text, rfl⟩ := List.length_eq_one_iff.mp single
      by_cases empty : text = ""
      · rw [empty]
        rfl
      · rw [List.filter_cons_of_pos (by simpa using empty), List.filter_nil]
    · rw [kept.mpr filled]

/-- The text of a segment in a normalized path. -/
def Segment.normalized (wildcard : String) : Segment → String
  | .literal text => text
  | .placeholder _ => wildcard

private theorem Segment.normalized_eq_empty_iff {wildcard : String} (visible : wildcard ≠ "")
    (segment : Segment) : segment.normalized wildcard = "" ↔ segment.isEmpty = true := by
  cases segment with
  | literal text => exact String.isEmpty_iff.symm
  | placeholder name => exact iff_of_false visible nofun

/-- No literal segment has a slash. -/
theorem Template.not_mem_of_literal_mem_segmentsOf {path text : String}
    (member : Segment.literal text ∈ segmentsOf path) : '/' ∉ text.toList := by
  obtain ⟨piece, cut, kind⟩ := List.mem_map.mp member
  have written := Segment.text_ofText piece
  rw [kind] at written
  obtain rfl : text = piece := written
  exact Text.not_mem_of_mem_pieces '/' cut

private theorem Template.not_mem_of_mem_segmentsOf {wildcard : String}
    (whole : '/' ∉ wildcard.toList)
    {path : String} {segment : Segment} (member : segment ∈ segmentsOf path) :
    '/' ∉ (segment.normalized wildcard).toList := by
  cases segment with
  | literal text => exact not_mem_of_literal_mem_segmentsOf member
  | placeholder name => exact whole

/-- A template has at least one segment. -/
theorem Template.map_segments_ne_nil {α : Type} {text : String} {template : Template}
    (read : parse text = .ok template) (f : Segment → α) : template.segments.map f ≠ [] := by
  rw [(eq_of_parse read).2.1, segmentsOf, List.map_map, Ne, List.map_eq_nil_iff]
  exact Text.pieces_ne_nil '/' _

namespace Model

variable {scheme wildcard authority text : String} {model : Model}

/-- A normalized path joins the normalized segments behind a slash. -/
theorem normalizedPathOf_eq (wildcard : String) (segments : List Segment) :
    normalizedPathOf wildcard segments =
      "/" ++ Text.joinWith "/" (segments.map (Segment.normalized wildcard)) := rfl

/-- The normalized path of a model has no forbidden characters. -/
theorem allowed_of_build (built : build scheme wildcard authority text = .ok model) :
    ∀ c ∈ model.normalizedPath.toList, isForbiddenInPath c = false := by
  obtain ⟨template, _, checked, rfl⟩ := build_eq_ok_iff.mp built
  unfold checkPath at checked
  split at checked
  · cases checked
  · rename_i clean
    simpa only [List.find?_eq_none, Bool.not_eq_true] using clean

section Wildcard

variable (visible : wildcard ≠ "") (whole : '/' ∉ wildcard.toList)
  (built : build scheme wildcard authority text = .ok model)
include visible whole built

/-- **A model has an empty segment beside others** exactly if what is registered for its path is
another path. -/
theorem hasEmptySegment_iff :
    model.hasEmptySegment = true ↔
      "/" ++ Source.matcherPath model.normalizedPath ≠ model.normalizedPath := by
  obtain ⟨template, read, rfl⟩ := eq_of_build scheme wildcard authority text model built
  obtain ⟨_, segments, _, _⟩ := Template.eq_of_parse read
  have some := Template.map_segments_ne_nil read (Segment.normalized wildcard)
  have clean : ∀ own ∈ template.segments.map (Segment.normalized wildcard), '/' ∉ own.toList := by
    rw [List.forall_mem_map, segments]
    intro segment
    exact Template.not_mem_of_mem_segmentsOf whole
  have count : 0 < template.segments.length := by
    simpa only [List.length_map] using List.length_pos_iff.mpr some
  dsimp only
  rw [normalizedPathOf_eq, Source.matcherPath_eq, Source.filledSegments_joinWith clean, ne_eq,
    String.append_right_inj, Text.joinWith_filter_eq_iff some clean, hasEmptySegment,
    List.length_map, List.forall_mem_map]
  simp only [ne_eq, Segment.normalized_eq_empty_iff visible, Bool.and_eq_true, decide_eq_true_eq,
    List.any_eq_true, not_or, not_forall, not_not, exists_prop]
  exact and_congr_left fun _ => by omega

end Wildcard

end Model

end ContentRouter
