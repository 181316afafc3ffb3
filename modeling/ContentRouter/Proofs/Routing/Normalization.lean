import Mathlib.Data.List.TakeWhile
import ContentRouter.Proofs.Routing.Alias
import ContentRouter.Proofs.Template.NormalizedPath

/-!
# Normalized paths as templates

The normalized path of a model is a template itself, as long as the wildcard is a literal segment:
it begins with the one slash that reading drops, and it is cut where it was joined. Nothing in it
turns into a placeholder, because a literal segment was one before. So its model has the same path
again (`Model.build_normalizedPath`), and a registry gives both models one id
(`Model.normalization_law`).
-/

namespace ContentRouter

/-- Whether a text is a literal segment and stays one in any path. -/
structure IsLiteralSegment (text : String) : Prop where
  whole : '/' ∉ text.toList
  inPath : '?' ∉ text.toList
  unbraced : placeholderName? text = none

private theorem Segment.ofText_of_isLiteralSegment {text : String} (shape : IsLiteralSegment text) :
    ofText text = .literal text := by
  rw [ofText, shape.unbraced]

namespace Template

private theorem Findings.takeSegments_map_literal (template : String) (found : Findings)
    (index : Nat)
    (texts : List String) :
    takeSegments template found index (texts.map .literal) = found := by
  induction texts generalizing index with
  | nil => rfl
  | cons text rest ih => exact ih (index + 1)

/-- **A path of literal segments is a template** that has just these segments. -/
theorem parse_of_literals {texts : List String} (some : texts ≠ [])
    (shape : ∀ text ∈ texts, IsLiteralSegment text) :
    parse ("/" ++ Text.joinWith "/" texts) = .ok ⟨texts.map .literal, [], []⟩ := by
  have clean : '?' ∉ ("/" ++ Text.joinWith "/" texts).toList := by
    rw [String.toList_append, List.mem_append, not_or]
    exact ⟨by decide,
      Text.not_mem_joinWith (by decide) fun text member => (shape text member).inPath⟩
  have behind : behindSlash ("/" ++ Text.joinWith "/" texts) = Text.joinWith "/" texts := by
    simp [behindSlash]
  have cut : Text.pieces '/' (Text.joinWith "/" texts) = texts :=
    Text.pieces_joinWith some fun text member => (shape text member).whole
  have segments : segmentsOf ("/" ++ Text.joinWith "/" texts) = texts.map .literal := by
    rw [segmentsOf_eq, behind, cut]
    exact List.map_congr_left fun text member =>
      Segment.ofText_of_isLiteralSegment (shape text member)
  obtain ⟨path, query⟩ := pathPart_of_not_mem clean
  rw [parse_eq_ofParts (by rw [List.count_eq_zero_of_not_mem clean]; exact Nat.zero_le 1), path,
    query, ofParts, segments, Findings.takeSegments_map_literal]
  rfl

private theorem not_mem_pathPart (text : String) : '?' ∉ (pathPart text).toList := by
  rw [pathPart, String.toList_ofList]
  intro member
  cases List.mem_takeWhile_imp member

/-- A literal segment of a path is one in any path. -/
theorem isLiteralSegment_of_mem {text literal : String}
    (member : Segment.literal literal ∈ segmentsOf (pathPart text)) : IsLiteralSegment literal := by
  obtain ⟨piece, cut, kind⟩ := List.mem_map.mp member
  cases braced : placeholderName? piece with
  | some name =>
      rw [Segment.ofText, braced] at kind
      cases kind
  | none =>
      rw [Segment.ofText, braced] at kind
      obtain rfl := Segment.literal.inj kind
      exact {
        whole := not_mem_of_literal_mem_segmentsOf member
        inPath := fun mark => not_mem_pathPart text
          ((mem_behindSlash_iff (by decide)).mp (Text.mem_of_mem_pieces '/' cut mark))
        unbraced := braced }

end Template

namespace Model

variable {scheme wildcard authority text : String} {model : Model}

/-- What the normalized path of a model says as a template: the same path without placeholders. -/
def normalForm (wildcard : String) (model : Model) : Model :=
  { text := model.normalizedPath
    authority := model.authority
    normalizedPath := model.normalizedPath
    template :=
      ⟨model.template.segments.map fun segment => .literal (segment.normalized wildcard), [], []⟩ }

/-- **The normalized path of a model builds its normal form.** -/
theorem build_normalizedPath (shape : IsLiteralSegment wildcard)
    (built : build scheme wildcard authority text = .ok model) :
    build scheme wildcard authority model.normalizedPath = .ok (model.normalForm wildcard) := by
  obtain ⟨template, read, checked, rfl⟩ := build_eq_ok_iff.mp built
  have segments := (Template.eq_of_parse read).2.1
  have shapes : ∀ own ∈ template.segments.map (Segment.normalized wildcard),
      IsLiteralSegment own := by
    rw [List.forall_mem_map]
    intro segment member
    cases segment with
    | literal own => exact Template.isLiteralSegment_of_mem (segments ▸ member)
    | placeholder name => exact shape
  have again := Template.parse_of_literals (Template.map_segments_ne_nil read _) shapes
  rw [← normalizedPathOf_eq, List.map_map] at again
  have path : normalizedPathOf wildcard
      (template.segments.map (Segment.literal ∘ Segment.normalized wildcard)) =
        normalizedPathOf wildcard template.segments := by
    rw [normalizedPathOf_eq, normalizedPathOf_eq, List.map_map]
    rfl
  refine build_eq_ok_iff.mpr ⟨_, again, ?_, ?_⟩
  · rw [path]
    exact (checkPath_eq_ok_iff _ _ _).mp checked
  · rw [path]
    rfl

/-- **What holds of a model and of the model of its normalized path.** -/
structure NormalizationLaw (model again : Model) : Prop where
  text : again.text = model.normalizedPath
  /-- Every placeholder is the wildcard now, and every literal is still there. -/
  segments : again.template.segments =
    model.template.segments.map fun segment => .literal (segment.normalized defaultWildcard)
  length : again.template.segments.length = model.template.segments.length
  placeholders : again.template.placeholders = []
  query : again.query = []
  path : again.normalizedPath = model.normalizedPath
  /-- Every registry gives both the same id, and becomes the same by it. -/
  register : ∀ registry : Registry, registry.register again = registry.register model
  /-- Registering one after the other is registering once. -/
  twice : ∀ registry : Registry,
    (registry.register model).2.register again = registry.register model ∧
      (registry.register again).2.register model = registry.register model

/-- **Normalizing a normalized path changes nothing**, under every scheme and every authority. -/
theorem normalization_law {scheme authority text : String} {model : Model}
    (built : build scheme defaultWildcard authority text = .ok model) :
    ∃ again, build scheme defaultWildcard authority model.normalizedPath = .ok again ∧
      NormalizationLaw model again := by
  have wildcard : IsLiteralSegment defaultWildcard := ⟨by decide, by decide, by decide⟩
  have address : (model.normalForm defaultWildcard).address = model.address := rfl
  have registers (registry : Registry) := registry.register_of_address address
  refine ⟨_, build_normalizedPath wildcard built, ?_⟩
  exact {
    text := rfl
    segments := rfl
    length := List.length_map _
    placeholders := rfl
    query := rfl
    path := rfl
    register := registers
    twice := by
      intro registry
      rw [registers, registers, registry.register_register]
      exact ⟨rfl, rfl⟩ }

/-- Without a leading slash, with an empty segment, and with a brace that is not closed. -/
theorem normalization_law_of_braced :
    let model : Model :=
      { text := "n//\x7bid\x7d/\x7bx?k=\x7bv\x7d", authority := "a", normalizedPath := "/n//*/\x7bx"
        template :=
          ⟨[.literal "n", .literal "", .placeholder "id", .literal "\x7bx"],
            [⟨"k", .placeholder "v"⟩], [⟨"id", .segment 2⟩, ⟨"v", .parameter "k"⟩]⟩ }
    build "content" defaultWildcard "a" "n//\x7bid\x7d/\x7bx?k=\x7bv\x7d" = .ok model ∧
      ∃ again, build "content" defaultWildcard "a" "/n//*/\x7bx" = .ok again ∧
        NormalizationLaw model again := by
  intro model
  have built :
      build "content" defaultWildcard "a" "n//\x7bid\x7d/\x7bx?k=\x7bv\x7d" = .ok model := by
    decide
  exact ⟨built, normalization_law built⟩

end Model

end ContentRouter
