import ContentRouter.Proofs.Template.FullEquality
import ContentRouter.Proofs.Template.Part

/-!
# What the reader of templates accepts and reports

Reading a template is taking in its parts one after the other. What has been found always tells the
parts that were taken in: which keys and names they have, where each name was declared first, and
all their offences in order (`Template.Findings.Tells`). So the reader accepts exactly the templates
whose parts are in order, and otherwise reports exactly the offences (`Template.grammar_law`).
-/

namespace ContentRouter

namespace Template

open Template.Part

namespace Findings

/-- Declares the placeholder of a part, if it has one. -/
def declare? (template : String) (found : Findings) : Option Placeholder → Findings
  | none => found
  | some placeholder => found.declare template placeholder

/-- Takes in the next part. -/
def takePart (template : String) (found : Findings) : Part → Findings
  | .segment index text =>
      found.declare? template ((Segment.ofText text).placeholder? index)
  | .element text => found.takeElement template text

private theorem takeSegments_eq (template : String) (found : Findings) (index : Nat)
    (texts : List String) :
    takeSegments template found index (texts.map Segment.ofText) =
      ((texts.zipIdx index).map fun (text, index) => Part.segment index text).foldl
        (takePart template) found := by
  induction texts generalizing found index with
  | nil => rfl
  | cons text rest ih =>
      rw [List.map_cons, List.zipIdx_cons, List.map_cons, List.foldl_cons, takePart]
      cases Segment.ofText text with
      | literal text => exact ih found (index + 1)
      | placeholder name => exact ih _ (index + 1)

private theorem takePair_eq (template : String) (found : Findings) (pair : QueryPair) :
    found.takePair template pair =
      let declared := found.declare? template pair.placeholder?
      { declared with pairs := declared.pairs ++ [pair] } := by
  unfold takePair QueryPair.placeholder?
  cases pair.value <;> rfl

/-- **What has been found tells the parts that were taken in.** -/
structure Tells (template : String) (parts : List Part) (found : Findings) : Prop where
  keys : ∀ key, key ∈ found.keys ↔ key ∈ keysOf parts
  /-- Of every name the first slot is known. -/
  first : ∀ name, found.placeholders.find? (·.name == name) =
    (declarations parts).find? (·.name == name)
  faults : found.faults = offences template parts
  -- A repeated key or name is not kept, so the lists are complete only without faults. Nothing
  -- reads them otherwise.
  pairs : found.faults = [] → found.pairs = parts.filterMap Part.pair?
  placeholders : found.faults = [] → found.placeholders = declarations parts

/-- What taking in one part adds to what has been found. -/
structure Adds (template : String) (parts : List Part) (found : Findings) (part : Part)
    (after : Findings) : Prop where
  keys : ∀ key, key ∈ after.keys ↔ key ∈ found.keys ∨ part.key? = some key
  first : ∀ name, after.placeholders.find? (·.name == name) =
    (found.placeholders ++ (part.declares? parts).toList).find? (·.name == name)
  faults : after.faults = found.faults ++ (part.fault? template parts).toList
  pairs : part.fault? template parts = none → after.pairs = found.pairs ++ part.pair?.toList
  placeholders : part.fault? template parts = none →
    after.placeholders = found.placeholders ++ (part.declares? parts).toList

section Step

variable {template : String} {parts : List Part} {found after : Findings}

private theorem tells_nil : Tells template [] {} where
  keys := fun _ => Iff.rfl
  first := fun _ => rfl
  faults := rfl
  pairs := fun _ => rfl
  placeholders := fun _ => rfl

private theorem Tells.add (tells : Tells template parts found) {part : Part}
    (adds : Adds template parts found part after) : Tells template (parts ++ [part]) after := by
  have faultless (clean : after.faults = []) :
      found.faults = [] ∧ part.fault? template parts = none := by
    rwa [adds.faults, List.append_eq_nil_iff, Option.toList_eq_nil_iff] at clean
  have filtered {β : Type} (f : Part → Option β) :
      (parts ++ [part]).filterMap f = parts.filterMap f ++ (f part).toList := by
    rw [List.filterMap_append]
    cases found : f part <;> simp [found]
  refine ⟨?_, ?_, ?_, ?_, ?_⟩
  · intro key
    rw [adds.keys, tells.keys, keysOf, keysOf, filtered, List.mem_append, Option.mem_toList]
  · intro name
    rw [adds.first, declarations_append_singleton, List.find?_append, List.find?_append,
      tells.first]
  · rw [adds.faults, tells.faults, offences_append_singleton]
  · intro clean
    obtain ⟨before, own⟩ := faultless clean
    rw [adds.pairs own, tells.pairs before, filtered]
  · intro clean
    obtain ⟨before, own⟩ := faultless clean
    rw [adds.placeholders own, tells.placeholders before, declarations_append_singleton]

private theorem find?_declare (name : String) (placeholder : Placeholder) :
    (found.declare template placeholder).placeholders.find? (·.name == name) =
      (found.placeholders ++ [placeholder]).find? (·.name == name) := by
  unfold Findings.declare
  cases search : found.placeholders.find? (·.name == placeholder.name) with
  | none => rfl
  | some earlier =>
      -- Nothing is kept, and the search would not come as far: it ends at the earlier placeholder.
      rw [List.find?_append]
      by_cases same : placeholder.name = name
      · simp only [← same, report, search, Option.some_or]
      · simp [same, report]

/-- A declaration adds the placeholder if its name is new, and a fault otherwise. -/
theorem Tells.declare? (tells : Tells template parts found) (declared : Option Placeholder) :
    let after := found.declare? template declared
    let fault := declared.bind (nameFault? template parts)
    (∀ name, after.placeholders.find? (·.name == name) =
        (found.placeholders ++ declared.toList).find? (·.name == name)) ∧
      after.faults = found.faults ++ fault.toList ∧ after.pairs = found.pairs ∧
      (fault = none → after.placeholders = found.placeholders ++ declared.toList) := by
  cases declared with
  | none => simp [Findings.declare?]
  | some placeholder =>
      refine ⟨fun name => find?_declare name placeholder, ?_⟩
      have known := tells.first placeholder.name
      simp only [Findings.declare?, Findings.declare, Option.bind_some, nameFault?, ← known]
      cases found.placeholders.find? (·.name == placeholder.name) with
      | none => simp
      | some earlier => simp [report]

private theorem Tells.takePart_segment (tells : Tells template parts found) (index : Nat)
    (text : String) :
    Adds template parts found (.segment index text)
      (found.takePart template (.segment index text)) := by
  obtain ⟨first, faults, pairs, placeholders⟩ :=
    tells.declare? ((Segment.ofText text).placeholder? index)
  exact {
    keys := by simp [takePart, Findings.keys, pairs, key?, pair?]
    first := first
    faults := faults
    pairs := by simp [takePart, pairs, pair?]
    placeholders := placeholders }

section Element

variable {text : String}

/-- An element that is no pair adds a fault and nothing else. -/
theorem adds_malformed (unread : QueryPair.ofText? text = none) :
    Adds template parts found (.element text)
      (found.report (.illegalTemplate template (.malformedPair text))) := by
  have fault : (Part.element text).fault? template parts =
      some (.illegalTemplate template (.malformedPair text)) := by
    simp [fault?, keyFault?, unread]
  have declares : (Part.element text).declares? parts = none := by
    simp [declares?, key?, pair?, Part.placeholder?, unread]
  exact {
    keys := by simp [key?, pair?, unread]
    first := by simp [declares, report]
    faults := by simp [fault, report]
    pairs := by simp [fault]
    placeholders := by simp [fault] }

variable {pair : QueryPair} (read : QueryPair.ofText? text = some pair)
include read

/-- A pair whose key is known adds a fault and nothing else. -/
theorem Tells.adds_repeated (tells : Tells template parts found)
    (taken : pair.key ∈ keysOf parts) :
    Adds template parts found (.element text)
      (found.report (.illegalTemplate template (.repeatedKey pair.key))) := by
  have fault : (Part.element text).fault? template parts =
      some (.illegalTemplate template (.repeatedKey pair.key)) := by
    simp [fault?, keyFault?, read, taken]
  have declares : (Part.element text).declares? parts = none := by
    simp [declares?, key?, pair?, read, taken]
  have present := (tells.keys pair.key).mpr taken
  exact {
    keys := by
      intro key
      simp only [keys_report, key?, pair?, read, Option.map_some, Option.some.injEq]
      constructor
      · exact Or.inl
      · rintro (old | rfl)
        · exact old
        · exact present
    first := by simp [declares, report]
    faults := by simp [fault, report]
    pairs := by simp [fault]
    placeholders := by simp [fault] }

/-- A pair whose key is new adds itself and what it declares. -/
theorem Tells.adds_pair (tells : Tells template parts found) (fresh : pair.key ∉ keysOf parts) :
    Adds template parts found (.element text) (found.takePair template pair) := by
  have declares : (Part.element text).declares? parts = pair.placeholder? := by
    simp [declares?, key?, pair?, Part.placeholder?, read, fresh]
  have fault : (Part.element text).fault? template parts =
      pair.placeholder?.bind (nameFault? template parts) := by
    simp [fault?, keyFault?, read, fresh, declares]
  have keys := keys_takePair template found pair
  obtain ⟨first, faults, pairs, placeholders⟩ := tells.declare? pair.placeholder?
  rw [takePair_eq] at keys ⊢
  exact {
    keys := by simp [keys, key?, pair?, read, eq_comm]
    first := by simpa only [declares] using first
    faults := by simpa only [fault] using faults
    pairs := by simp [pair?, read, pairs]
    placeholders := by simpa only [fault, declares] using placeholders }

end Element

private theorem Tells.takePart_element (tells : Tells template parts found) (text : String) :
    Adds template parts found (.element text) (found.takePart template (.element text)) := by
  rw [takePart, takeElement]
  cases read : QueryPair.ofText? text with
  | none => exact adds_malformed read
  | some pair =>
      have known : found.pairs.any (·.key == pair.key) = true ↔ pair.key ∈ keysOf parts := by
        rw [← tells.keys, Findings.keys, List.any_eq_true]
        simp
      dsimp only
      by_cases taken : pair.key ∈ keysOf parts
      · rw [if_pos (known.mpr taken)]
        exact tells.adds_repeated read taken
      · rw [if_neg (mt known.mp taken)]
        exact tells.adds_pair read taken

/-- **One part.** What has been found goes on telling what was taken in. -/
theorem Tells.takePart (tells : Tells template parts found) (part : Part) :
    Tells template (parts ++ [part]) (found.takePart template part) := by
  cases part with
  | segment index text => exact tells.add (tells.takePart_segment index text)
  | element text => exact tells.add (tells.takePart_element text)

end Step

private theorem tells_foldl_takePart (template : String) (parts : List Part) :
    Tells template parts (parts.foldl (takePart template) {}) := by
  -- What counts as an offence depends on the parts before it, so the induction goes by the last
  -- part.
  induction parts using List.reverseRecOn with
  | nil => exact tells_nil
  | append_singleton parts last ih =>
      rw [List.foldl_append]
      exact ih.takePart last

end Findings

/-- The path of a template behind its leading slash, if it has one. -/
def behindSlash (path : String) : String :=
  match path.toList with
  | '/' :: rest => String.ofList rest
  | _ => path

/-- Leaving out the first slash leaves out no other character. -/
theorem mem_behindSlash_iff {path : String} {c : Char} (other : c ≠ '/') :
    c ∈ (behindSlash path).toList ↔ c ∈ path.toList := by
  unfold behindSlash
  split
  · rename_i rest slash
    rw [slash, String.toList_ofList, List.mem_cons, or_iff_right other]
  · rfl

/-- The parts of a template: its segments and then its elements. -/
def partsOf (path query : String) : List Part :=
  ((Text.pieces '/' (behindSlash path)).zipIdx.map fun (text, index) => .segment index text) ++
    (elementsOf query).map .element

/-- The text of a template before its first question mark. -/
def pathPart (text : String) : String := String.ofList (text.toList.takeWhile (· != '?'))

/-- The text of a template behind its first question mark. -/
def queryPart (text : String) : String :=
  String.ofList ((text.toList.dropWhile (· != '?')).drop 1)

private theorem ofParts_eq (template path query : String) :
    ofParts template path query =
      let found := (partsOf path query).foldl (Findings.takePart template) {}
      if found.faults.isEmpty then .ok ⟨segmentsOf path, found.pairs, found.placeholders⟩
      else .error found.faults := by
  have found : (elementsOf query).foldl (Findings.takeElement template)
      (Findings.takeSegments template {} 0 (segmentsOf path)) =
        (partsOf path query).foldl (Findings.takePart template) {} := by
    rw [partsOf, List.foldl_append, List.foldl_map, segmentsOf]
    exact congrArg (fun start => (elementsOf query).foldl (Findings.takeElement template) start)
      (Findings.takeSegments_eq template {} 0 _)
  rw [← found]
  rfl

section Separator

variable {text : String}

/-- A text is cut at its first question mark. -/
theorem pathPart_append {path query : String} (clean : '?' ∉ path.toList) :
    pathPart (path ++ "?" ++ query) = path ∧ queryPart (path ++ "?" ++ query) = query := by
  have passes : ∀ c ∈ path.toList, (c != '?') = true := by
    intro c member
    rw [bne_iff_ne]
    rintro rfl
    exact clean member
  simp [pathPart, queryPart, List.takeWhile_append_of_pos passes,
    List.dropWhile_append_of_pos passes]

/-- A text without a question mark is all path. -/
theorem pathPart_of_not_mem (clean : '?' ∉ text.toList) :
    pathPart text = text ∧ queryPart text = "" := by
  have passes : ∀ c ∈ text.toList, (c != '?') = true := by
    intro c member
    rw [bne_iff_ne]
    rintro rfl
    exact clean member
  rw [pathPart, queryPart, ← List.append_nil text.toList, List.takeWhile_append_of_pos passes,
    List.dropWhile_append_of_pos passes]
  simp

/-- A text with at most one question mark is read in two parts. -/
theorem parse_eq_ofParts (once : text.toList.count '?' ≤ 1) :
    parse text = ofParts text (pathPart text) (queryPart text) := by
  have length : (Text.pieces '?' text).length = _ := Text.length_pieces text
  unfold parse
  split
  · rename_i path cut
    obtain rfl : text = path := by
      rw [← Text.joinWith_pieces '?' text, cut]
      rfl
    have clean := Text.not_mem_of_mem_pieces '?' (cut ▸ List.mem_singleton_self text)
    rw [(pathPart_of_not_mem clean).1, (pathPart_of_not_mem clean).2]
  · rename_i path query cut
    obtain ⟨rfl, clean, _⟩ := Text.pieces_eq_pair_iff.mp cut
    have parts : pathPart (path ++ "?" ++ query) = path ∧ _ := pathPart_append clean
    exact congrArg₂ (ofParts _) parts.1.symm parts.2.symm
  · rename_i single pair
    match cut : Text.pieces '?' text with
    | [] => exact absurd cut (Text.pieces_ne_nil '?' text)
    | [path] => exact absurd cut (single path)
    | [path, query] => exact absurd cut (pair path query)
    | _ :: _ :: _ :: rest =>
        rw [cut] at length
        simp only [List.length_cons] at length
        omega

/-- **Reading a text with at most one question mark.** -/
theorem parse_eq (once : text.toList.count '?' ≤ 1) :
    let parts := partsOf (pathPart text) (queryPart text)
    parse text =
      if offences text parts = [] then
        .ok ⟨segmentsOf (pathPart text), parts.filterMap Part.pair?, declarations parts⟩
      else .error (offences text parts) := by
  have tells := Findings.tells_foldl_takePart text (partsOf (pathPart text) (queryPart text))
  rw [parse_eq_ofParts once, ofParts_eq]
  generalize (partsOf (pathPart text) (queryPart text)).foldl (Findings.takePart text) {} = found
    at tells
  dsimp only
  rw [← tells.faults]
  by_cases clean : found.faults = []
  · rw [if_pos clean, if_pos (List.isEmpty_iff.mpr clean), tells.pairs clean,
      tells.placeholders clean]
  · rw [if_neg clean, if_neg (mt List.isEmpty_iff.mp clean)]

/-- A text with two question marks is refused for the second one alone. -/
theorem parse_of_second (more : 1 < text.toList.count '?') :
    parse text = .error [.illegalTemplate text .secondQuestionMark] := by
  have length : (Text.pieces '?' text).length = _ := Text.length_pieces text
  unfold parse
  split
  · rename_i path cut
    rw [cut, List.length_singleton] at length
    omega
  · rename_i path query cut
    rw [cut, List.length_cons, List.length_singleton] at length
    omega
  · rfl

end Separator

/-- A segment has a name exactly if it is a placeholder. -/
theorem Part.name?_segment_iff (index : Nat) (text name : String) :
    (Part.segment index text).name? = some name ↔ IsPlaceholder text name := by
  rw [← placeholderName?_eq_some_iff, name?, placeholder?, Segment.ofText]
  cases placeholderName? text <;> simp [Segment.placeholder?]

private theorem Part.key?_element_iff (text key : String) :
    (Part.element text).key? = some key ↔ ∃ value, IsPair text key value := by
  rw [key?, pair?, Option.map_eq_some_iff]
  constructor
  · rintro ⟨pair, read, rfl⟩
    obtain ⟨value, shape, _⟩ := QueryPair.ofText?_eq_some_iff.mp read
    exact ⟨value, shape⟩
  · rintro ⟨value, shape⟩
    exact ⟨⟨key, QueryValue.ofText value⟩,
      QueryPair.ofText?_eq_some_iff.mpr ⟨value, shape, rfl⟩, rfl⟩

private theorem QueryValue.ofText_eq_placeholder_iff (text name : String) :
    QueryValue.ofText text = .placeholder name ↔ IsPlaceholder text name := by
  rw [← placeholderName?_eq_some_iff, QueryValue.ofText]
  cases placeholderName? text <;> simp

/-- An element has a name exactly if it is a pair with a placeholder for its value. -/
theorem Part.name?_element_iff (text name : String) :
    (Part.element text).name? = some name ↔
      ∃ key value, IsPair text key value ∧ IsPlaceholder value name := by
  have named (pair : QueryPair) :
      pair.placeholder?.map (·.name) = some name ↔ pair.value = .placeholder name := by
    unfold QueryPair.placeholder?
    cases pair.value <;> simp
  rw [name?, placeholder?, Option.map_bind, Option.bind_eq_some_iff]
  simp only [Function.comp_apply, named]
  constructor
  · rintro ⟨pair, read, same⟩
    obtain ⟨value, shape, asked⟩ := QueryPair.ofText?_eq_some_iff.mp read
    exact ⟨pair.key, value, shape,
      (QueryValue.ofText_eq_placeholder_iff value name).mp (asked.symm.trans same)⟩
  · rintro ⟨key, value, shape, braced⟩
    exact ⟨⟨key, QueryValue.ofText value⟩,
      QueryPair.ofText?_eq_some_iff.mpr ⟨value, shape, rfl⟩,
      (QueryValue.ofText_eq_placeholder_iff value name).mpr braced⟩

/-- **The grammar of templates**, for one text. -/
structure GrammarLaw (text : String) : Prop where
  /-- A segment has a name in braces if it is one as a whole. -/
  name_segment : ∀ index piece name,
    (Part.segment index piece).name? = some name ↔ IsPlaceholder piece name
  /-- An element has a name in braces if it is a pair whose value is one as a whole. -/
  name_element : ∀ piece name,
    (Part.element piece).name? = some name ↔
      ∃ key value, IsPair piece key value ∧ IsPlaceholder value name
  /-- An element has a key if it is a pair. -/
  key_element : ∀ piece key,
    (Part.element piece).key? = some key ↔ ∃ value, IsPair piece key value
  /-- A second question mark is the only fault. -/
  second : 1 < text.toList.count '?' →
    parse text = .error [.illegalTemplate text .secondQuestionMark]
  /-- Otherwise the text is a template exactly if its elements are pairs and no key and no name
  comes twice. -/
  ok_iff : text.toList.count '?' ≤ 1 →
    ((∃ template, parse text = .ok template) ↔
      IsWellFormed (partsOf (pathPart text) (queryPart text)))
  /-- A text that is no template has the offences of its parts for its faults, in their order. -/
  error : text.toList.count '?' ≤ 1 → ∀ faults, parse text = .error faults →
    faults = offences text (partsOf (pathPart text) (queryPart text))

/-- **The reader accepts exactly the templates and reports exactly the offences**, for every text.
-/
theorem grammar_law (text : String) : GrammarLaw text where
  name_segment := Part.name?_segment_iff
  name_element := Part.name?_element_iff
  key_element := Part.key?_element_iff
  second := parse_of_second
  ok_iff := by
    intro once
    rw [parse_eq once, ← offences_eq_nil_iff text]
    split
    · rename_i clean
      exact iff_of_true ⟨_, rfl⟩ clean
    · rename_i faulty
      exact iff_of_false nofun faulty
  error := by
    intro once faults refused
    rw [parse_eq once] at refused
    split at refused
    · cases refused
    · exact (Except.error.inj refused).symm

end Template

end ContentRouter
