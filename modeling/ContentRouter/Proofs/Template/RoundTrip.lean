import Mathlib.Algebra.Group.Nat.Defs
import ContentRouter.Proofs.Lists.Keys
import ContentRouter.Proofs.Template.Grammar

/-!
# Templates and their texts

Reading a template loses nothing of its text but a leading slash and empty elements of the query:
writing the segments and the pairs gives the text back. The placeholders of a template are those of
its segments and then those of its pairs, each with the slot where it stands, so that looking for a
declared name finds its one place (`Template.lossless_law`).

The slot of a segment leaves the program as decimal text, and reading that text gives the index back
(`Slot.segmentOfKey?_key`).
-/

namespace ContentRouter

section Index

private theorem Text.isDigit_eq (c : Char) : Text.isDigit c = c.isDigit := by
  simp [Text.isDigit, Char.isDigit, Char.le_def]

private theorem Text.numberIn?_of_digits {digits : List Char}
    (all : ∀ c ∈ digits, Text.isDigit c = true) :
    Text.numberIn? 10 digits = some (Nat.ofDigitChars 10 digits 0) := by
  unfold Text.numberIn?
  generalize 0 = start
  induction digits generalizing start with
  | nil => rfl
  | cons c rest ih =>
      obtain ⟨first, others⟩ := List.forall_mem_cons.mp all
      have small : c.toNat - '0'.toNat < 10 := by
        simp only [Text.isDigit, Bool.and_eq_true, decide_eq_true_eq, Char.le_def] at first
        have upper : c.toNat ≤ '9'.toNat := UInt32.le_iff_toNat_le.mp first.2
        have nine : '9'.toNat = 57 := rfl
        have zero : '0'.toNat = 48 := rfl
        omega
      have value : Text.digitValue? c = some (c.toNat - '0'.toNat) := by
        rw [Text.digitValue?, if_pos first]
      rw [List.foldl_cons, Nat.ofDigitChars_cons]
      simp only [value, small, ↓reduceIte]
      rw [ih others, Nat.mul_comm]

/-- **The text of a segment's index is read back**, as far as indices go. -/
theorem Slot.segmentOfKey?_key {index : Nat} (bounded : index < 2 ^ 64) :
    Slot.segmentOfKey? (Slot.segment index).key = some index := by
  have digits : ((Slot.segment index).key).toList = Nat.toDigits 10 index := by
    rw [Slot.key, Nat.toString_eq_ofList_toDigits, String.toList_ofList]
  have all : ∀ c ∈ Nat.toDigits 10 index, Text.isDigit c = true := by
    intro c member
    rw [Text.isDigit_eq]
    exact Nat.isDigit_of_mem_toDigits (by omega) (by omega) member
  unfold Slot.segmentOfKey?
  rw [digits]
  dsimp only
  split
  · rename_i rest signed
    have plus := all '+' (by rw [signed]; exact List.mem_cons_self)
    exact absurd plus (by decide)
  · have limit : decide (index < Nat.pow 2 64) = true := decide_eq_true bounded
    rw [List.all_eq_true.mpr all, Text.numberIn?_of_digits all, Nat.ofDigitChars_ten_toDigits,
      Option.filter_some, limit]
    simp [Nat.toDigits_ne_nil]

end Index

/-- A segment is written as it was read. -/
theorem Segment.text_ofText (text : String) : (Segment.ofText text).text = text := by
  unfold ofText
  cases found : placeholderName? text with
  | none => rfl
  | some name => exact (placeholderName?_eq_some_iff.mp found).1.symm

private theorem QueryValue.text_ofText (text : String) : (QueryValue.ofText text).text = text := by
  unfold ofText
  cases found : placeholderName? text with
  | none => rfl
  | some name => exact (placeholderName?_eq_some_iff.mp found).1.symm

private theorem QueryPair.text_of_ofText? {text : String} {pair : QueryPair}
    (read : QueryPair.ofText? text = some pair) : pair.text = text := by
  obtain ⟨value, shape, same⟩ := QueryPair.ofText?_eq_some_iff.mp read
  rw [QueryPair.text, same, QueryValue.text_ofText, shape.1]

namespace Template

/-- The placeholders of segments, each with its index. -/
def pathPlaceholders (segments : List Segment) : List Placeholder :=
  segments.zipIdx.filterMap fun (segment, index) => segment.placeholder? index

/-- The placeholders of query pairs, each with its key. -/
def queryPlaceholders (query : List QueryPair) : List Placeholder :=
  query.filterMap QueryPair.placeholder?

private theorem mem_pathPlaceholders_iff {segments : List Segment} {placeholder : Placeholder} :
    placeholder ∈ pathPlaceholders segments ↔
      ∃ index, placeholder.slot = .segment index ∧
        segments[index]? = some (.placeholder placeholder.name) := by
  obtain ⟨name, slot⟩ := placeholder
  simp only [pathPlaceholders, List.mem_filterMap, Prod.exists, List.mem_zipIdx_iff_getElem?]
  constructor
  · rintro ⟨segment, index, found, has⟩
    cases segment with
    | literal text => cases has
    | placeholder other =>
        cases has
        exact ⟨index, rfl, found⟩
  · rintro ⟨index, rfl, found⟩
    exact ⟨_, index, found, rfl⟩

private theorem mem_queryPlaceholders_iff {query : List QueryPair} {placeholder : Placeholder} :
    placeholder ∈ queryPlaceholders query ↔
      ∃ key, placeholder.slot = .parameter key ∧ ⟨key, .placeholder placeholder.name⟩ ∈ query := by
  obtain ⟨name, slot⟩ := placeholder
  simp only [queryPlaceholders, List.mem_filterMap]
  constructor
  · rintro ⟨⟨key, value⟩, member, has⟩
    cases value with
    | literal text => cases has
    | placeholder other =>
        cases has
        exact ⟨key, rfl, member⟩
  · rintro ⟨key, rfl, member⟩
    exact ⟨_, member, rfl⟩

section Parts

variable (path query : String)

/-- The pairs among the parts are those of the query. -/
theorem filterMap_pair?_partsOf :
    (partsOf path query).filterMap Part.pair? = (elementsOf query).filterMap QueryPair.ofText? := by
  rw [partsOf, List.filterMap_append, List.filterMap_map, List.filterMap_map]
  -- No segment is a pair.
  refine (congrArg (· ++ _) (List.filterMap_eq_nil_iff.mpr ?_)).trans (List.nil_append _)
  exact fun _ _ => rfl

private theorem filterMap_placeholder?_partsOf :
    (partsOf path query).filterMap Part.placeholder? =
      pathPlaceholders (segmentsOf path) ++
        queryPlaceholders ((elementsOf query).filterMap QueryPair.ofText?) := by
  rw [partsOf, List.filterMap_append]
  congr 1
  · rw [pathPlaceholders, segmentsOf, List.zipIdx_map, List.filterMap_map, List.filterMap_map]
    rfl
  · rw [queryPlaceholders, List.filterMap_map, List.filterMap_filterMap]
    rfl

/-- Elements that are pairs are what these pairs write. -/
theorem map_text_pairs (pairs : ∀ text ∈ elementsOf query, ∃ key value, IsPair text key value) :
    ((elementsOf query).filterMap QueryPair.ofText?).map QueryPair.text = elementsOf query := by
  rw [List.map_filterMap]
  conv => rhs; rw [← List.filterMap_some (l := elementsOf query)]
  apply List.filterMap_congr
  intro text member
  obtain ⟨pair, read⟩ := Option.ne_none_iff_exists'.mp (exists_isPair_iff.mp (pairs text member))
  rw [read, Option.map_some, QueryPair.text_of_ofText? read]

end Parts

/-- What reading a template gives: its parts are in order, and the template has what they have. -/
theorem eq_of_parse {text : String} {template : Template} (read : parse text = .ok template) :
    IsWellFormed (partsOf (pathPart text) (queryPart text)) ∧
      template.segments = segmentsOf (pathPart text) ∧
      template.query = (elementsOf (queryPart text)).filterMap QueryPair.ofText? ∧
      template.placeholders =
        pathPlaceholders template.segments ++ queryPlaceholders template.query := by
  by_cases once : text.toList.count '?' ≤ 1
  · rw [parse_eq once] at read
    split at read
    · rename_i clean
      have formed := (offences_eq_nil_iff text).mp clean
      obtain rfl := Except.ok.inj read
      rw [filterMap_pair?_partsOf, declarations_eq formed.keys,
        filterMap_placeholder?_partsOf]
      simp only [formed, and_self]
    · cases read
  · rw [parse_of_second (by omega)] at read
    cases read

/-- The segments of a path write it, but for its first slash. -/
theorem pathText_of_segments {template : Template} {path : String}
    (segments : template.segments = segmentsOf path) : template.pathText = behindSlash path := by
  have written : (segmentsOf path).map Segment.text = Text.pieces '/' (behindSlash path) := by
    rw [segmentsOf, List.map_map]
    conv => rhs; rw [← List.map_id (Text.pieces '/' (behindSlash path))]
    exact List.map_congr_left fun text _ => Segment.text_ofText text
  rw [pathText, segments, written]
  exact Text.joinWith_pieces '/' (behindSlash path)

/-- There are no more segments behind the first one than there are characters. -/
theorem length_segmentsOf_le (text : String) :
    (segmentsOf (pathPart text)).length ≤ text.toList.length + 1 := by
  have behind : (behindSlash (pathPart text)).toList.length ≤ (pathPart text).toList.length := by
    unfold behindSlash
    split
    · rename_i rest slash
      simp [slash]
    · exact Nat.le_refl _
  have before : (pathPart text).toList.length ≤ text.toList.length := by
    rw [pathPart, String.toList_ofList]
    exact (List.takeWhile_sublist _).length_le
  have pieces : (segmentsOf (pathPart text)).length =
      (behindSlash (pathPart text)).toList.count '/' + 1 := by
    rw [← Text.length_pieces, segmentsOf, List.length_map]
    rfl
  have slashes := List.count_le_length (a := '/') (l := (behindSlash (pathPart text)).toList)
  omega

section Places

variable {text : String} {template : Template} (read : parse text = .ok template)
include read

/-- The names of the parts are those of the placeholders. -/
theorem namesOf_partsOf :
    Part.namesOf (partsOf (pathPart text) (queryPart text)) =
      template.placeholders.map (·.name) := by
  obtain ⟨_, segments, query, placeholders⟩ := eq_of_parse read
  rw [placeholders, segments, query, ← filterMap_placeholder?_partsOf, List.map_filterMap]
  rfl

/-- No two placeholders of a template have the same name. -/
theorem names_nodup_of_parse : (template.placeholders.map (·.name)).Nodup := by
  rw [← namesOf_partsOf read]
  exact (eq_of_parse read).1.names

/-- A segment has a name in braces exactly if it is the place of that name. -/
theorem getElem?_segments_iff {index : Nat} {name : String} :
    template.segments[index]? = some (.placeholder name) ↔
      ⟨name, .segment index⟩ ∈ template.placeholders := by
  obtain ⟨_, _, _, placeholders⟩ := eq_of_parse read
  rw [placeholders, List.mem_append, mem_pathPlaceholders_iff, mem_queryPlaceholders_iff]
  simp

/-- A pair has a name in braces exactly if it is the place of that name. -/
theorem mem_query_iff {key name : String} :
    ⟨key, .placeholder name⟩ ∈ template.query ↔
      ⟨name, .parameter key⟩ ∈ template.placeholders := by
  obtain ⟨_, _, _, placeholders⟩ := eq_of_parse read
  rw [placeholders, List.mem_append, mem_pathPlaceholders_iff, mem_queryPlaceholders_iff]
  simp

/-- A name has one place. -/
theorem slot_eq_of_mem {placeholder : Placeholder} (member : placeholder ∈ template.placeholders)
    {slot : Slot} :
    ⟨placeholder.name, slot⟩ ∈ template.placeholders ↔ placeholder.slot = slot := by
  constructor
  · intro other
    have same := List.inj_on_of_nodup_map (names_nodup_of_parse read) member other rfl
    exact congrArg Placeholder.slot same
  · rintro rfl
    exact member

/-- The index of a placeholder is read back from its text. -/
theorem segmentOfKey?_of_mem (short : text.toList.length < 2 ^ 64) {placeholder : Placeholder}
    (member : placeholder ∈ template.placeholders) (kind : placeholder.slot.kind = .path) :
    Slot.segmentOfKey? placeholder.slot.key = placeholder.slot.position := by
  obtain ⟨name, slot⟩ := placeholder
  cases slot with
  | parameter key => cases kind
  | segment index =>
      have found := (getElem?_segments_iff read).mpr member
      have inside := (List.getElem?_eq_some_iff.mp found).1
      -- A text has no more slashes than characters, so that the position is a machine word.
      have few := length_segmentsOf_le text
      rw [(eq_of_parse read).2.1] at inside
      rw [Slot.segmentOfKey?_key (by omega)]
      rfl

end Places

/-- **A template and the text that it was read from.** -/
structure LosslessLaw (text : String) (template : Template) : Prop where
  /-- The segments write the path, but for one slash in front of it. -/
  path : template.pathText = behindSlash (pathPart text)
  /-- The pairs write the query, but for its empty elements. -/
  query : template.queryText = Text.joinWith "&" (elementsOf (queryPart text))
  /-- The placeholders are those of the segments and then those of the pairs, in their order. -/
  placeholders : template.placeholders =
    pathPlaceholders template.segments ++ queryPlaceholders template.query
  names : (template.placeholders.map (·.name)).Nodup
  /-- A placeholder of the path has the index of its segment. -/
  position : ∀ placeholder ∈ template.placeholders, placeholder.slot.kind = .path →
    ∃ index, placeholder.slot.position = some index ∧
      template.segments[index]? = some (.placeholder placeholder.name)
  /-- The index is read back from its text. -/
  readBack : text.toList.length < 2 ^ 64 → ∀ placeholder ∈ template.placeholders,
    placeholder.slot.kind = .path →
      Slot.segmentOfKey? placeholder.slot.key = placeholder.slot.position
  /-- A placeholder of the query has no index, and the key of its pair. -/
  key : ∀ placeholder ∈ template.placeholders, placeholder.slot.kind = .query →
    placeholder.slot.position = none ∧
      ⟨placeholder.slot.key, .placeholder placeholder.name⟩ ∈ template.query
  /-- A model of the text has the same segments and the same pairs, and finds every placeholder by
  its name. -/
  model : ∀ scheme wildcard authority model,
    Model.build scheme wildcard authority text = .ok model →
      model.template.segments = template.segments ∧ model.query = template.query ∧
        ∀ placeholder ∈ template.placeholders,
          model.placeholder? placeholder.name = some placeholder

/-- **Reading loses nothing**, for every text that is a template. -/
theorem lossless_law (text : String) (template : Template) (read : parse text = .ok template) :
    LosslessLaw text template := by
  obtain ⟨formed, segments, query, placeholders⟩ := eq_of_parse read
  exact {
    path := pathText_of_segments segments
    query := by
      rw [queryText, query, map_text_pairs]
      intro element member
      exact formed.pairs element (List.mem_append_right _ (List.mem_map_of_mem member))
    placeholders := placeholders
    names := names_nodup_of_parse read
    position := by
      rintro ⟨name, slot⟩ member kind
      cases slot with
      | parameter key => cases kind
      | segment index => exact ⟨index, rfl, (getElem?_segments_iff read).mpr member⟩
    readBack := fun short _ member kind => segmentOfKey?_of_mem read short member kind
    key := by
      rintro ⟨name, slot⟩ member kind
      cases slot with
      | segment index => cases kind
      | parameter key => exact ⟨rfl, (mem_query_iff read).mpr member⟩
    model := by
      intro scheme wildcard authority model built
      obtain ⟨other, otherRead, rfl⟩ := Model.eq_of_build _ _ _ _ _ built
      obtain rfl := Except.ok.inj (otherRead.symm.trans read)
      refine ⟨rfl, rfl, ?_⟩
      intro placeholder member
      exact (find?_key_eq_some_iff Placeholder.name (names_nodup_of_parse read)).mpr ⟨member, rfl⟩ }

/-- A path with two slashes in a row and a query with two ampersands in a row keep their
placeholders in place. -/
theorem lossless_law_of_doubled :
    let text := "/n//\x7bid\x7d?l=\x7bx\x7d&&k=1"
    ∃ template, parse text = .ok template ∧
      template.placeholders = [⟨"id", .segment 2⟩, ⟨"x", .parameter "l"⟩] ∧
      LosslessLaw text template := by
  intro text
  have read : parse text = .ok
      ⟨[.literal "n", .literal "", .placeholder "id"],
        [⟨"l", .placeholder "x"⟩, ⟨"k", .literal "1"⟩],
        [⟨"id", .segment 2⟩, ⟨"x", .parameter "l"⟩]⟩ := by
    decide
  exact ⟨_, read, rfl, lossless_law text _ read⟩

end Template

end ContentRouter
