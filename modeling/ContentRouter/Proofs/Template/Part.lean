import Mathlib.Data.List.Induction
import Mathlib.Data.List.Nodup
import ContentRouter.Proofs.Text.Pieces
import ContentRouter.Template.Basic

/-!
# The parts of a template

The grammar of templates, said without reading one from left to right. A template has a part for
every segment of its path and for every element of its query. A part that is a name in braces, or a
pair whose value is one, declares a placeholder, unless it repeats the key of an earlier element.

Each part has at most one offence, which depends on the parts before it only: an element that is no
pair, a key that an earlier element has, or a name that an earlier part declares. A template without
offences is one whose elements are all pairs and whose keys and names are pairwise distinct
(`Template.offences_eq_nil_iff`).
-/

namespace ContentRouter

/-- Whether a text is a name in braces, without a closing brace in the name. -/
def IsPlaceholder (text name : String) : Prop :=
  text = Fault.braced name ∧ name ≠ "" ∧ '}' ∉ name.toList

/-- Whether a text is a key and a value with the only equals sign between them. -/
def IsPair (text key value : String) : Prop :=
  text = key ++ "=" ++ value ∧ '=' ∉ key.toList ∧ '=' ∉ value.toList ∧ key ≠ "" ∧ value ≠ ""

/-- The characters of a name in braces. -/
theorem Fault.toList_braced (name : String) :
    (braced name).toList = '{' :: (name.toList ++ ['}']) := by
  simp [braced]

/-- A placeholder is not empty. -/
theorem IsPlaceholder.text_ne_empty {text name : String} (shape : IsPlaceholder text name) :
    text ≠ "" := by
  rw [shape.1, ne_eq, ← String.toList_inj, Fault.toList_braced]
  exact List.cons_ne_nil _ _

/-- Exactly the placeholders have a name. -/
theorem placeholderName?_eq_some_iff {text name : String} :
    placeholderName? text = some name ↔ IsPlaceholder text name := by
  have braced := Fault.toList_braced name
  constructor
  · intro found
    unfold placeholderName? at found
    split at found
    · rename_i rest opened
      obtain ⟨closing, whole⟩ := List.takeWhile_prefix (l := rest) (· != '}')
      have passes := List.all_eq_true.mp (List.all_takeWhile (p := (· != '}')) (l := rest))
      dsimp only at found
      -- From here on only the text before the first closing brace matters.
      generalize rest.takeWhile (· != '}') = inner at found whole passes
      subst whole
      split at found
      · rename_i shape
        cases found
        simp only [Bool.and_eq_true, Bool.not_eq_true', List.isEmpty_eq_false_iff,
          List.drop_left, beq_iff_eq] at shape
        obtain ⟨some, rfl⟩ := shape
        refine ⟨?_, ?_, ?_⟩
        · apply String.toList_inj.mp
          rw [braced, String.toList_ofList, opened]
        · simpa [← String.toList_inj] using some
        · rw [String.toList_ofList]
          intro inside
          simpa using passes _ inside
      · cases found
    · cases found
  · rintro ⟨rfl, some, clean⟩
    have passes : ∀ c ∈ name.toList, (c != '}') = true := by
      intro c member
      rw [bne_iff_ne]
      rintro rfl
      exact clean member
    have inner : (name.toList ++ ['}']).takeWhile (· != '}') = name.toList := by
      rw [List.takeWhile_append_of_pos passes]
      simp
    unfold placeholderName?
    rw [braced]
    simp [inner, some]

/-- A text is read as a pair exactly if it has the shape of that pair. -/
theorem QueryPair.ofText?_eq_some_iff {text : String} {pair : QueryPair} :
    QueryPair.ofText? text = some pair ↔
      ∃ value, IsPair text pair.key value ∧ pair.value = QueryValue.ofText value := by
  obtain ⟨key, asked⟩ := pair
  constructor
  · intro found
    unfold ofText? at found
    split at found
    · rename_i first value cut
      simp only [Option.ite_none_left_eq_some, Option.some.injEq, QueryPair.mk.injEq,
        Bool.not_eq_true, Bool.or_eq_false_iff] at found
      obtain ⟨⟨someKey, someValue⟩, rfl, rfl⟩ := found
      obtain ⟨joined, noneFirst, noneSecond⟩ := Text.pieces_eq_pair_iff.mp cut
      exact ⟨value, ⟨joined, noneFirst, noneSecond, by simpa using someKey,
        by simpa using someValue⟩, rfl⟩
    · cases found
  · rintro ⟨value, ⟨joined, noneFirst, noneSecond, someKey, someValue⟩, same⟩
    dsimp only at joined noneFirst someKey same
    have cut : Text.pieces '=' text = [key, value] :=
      Text.pieces_eq_pair_iff.mpr ⟨joined, noneFirst, noneSecond⟩
    unfold ofText?
    rw [cut]
    simp [someKey, someValue, same]

/-- The placeholder that a segment is, if it has the given index. -/
def Segment.placeholder? (index : Nat) : Segment → Option Placeholder
  | .literal _ => none
  | .placeholder name => some ⟨name, .segment index⟩

/-- The placeholder that a pair has for its value. -/
def QueryPair.placeholder? (pair : QueryPair) : Option Placeholder :=
  match pair.value with
  | .literal _ => none
  | .placeholder name => some ⟨name, .parameter pair.key⟩

namespace Template

/-- What each element of a list gives behind those before it. -/
def collect {α β : Type} (give : List α → α → Option β) : List α → List α → List β
  | _, [] => []
  | earlier, a :: rest => (give earlier a).toList ++ collect give (earlier ++ [a]) rest

/-- What the last element gives comes behind all else. -/
theorem collect_append_singleton {α β : Type} (give : List α → α → Option β)
    (earlier elements : List α) (last : α) :
    collect give earlier (elements ++ [last]) =
      collect give earlier elements ++ (give (earlier ++ elements) last).toList := by
  induction elements generalizing earlier with
  | nil => simp [collect]
  | cons a rest ih =>
      rw [List.cons_append, collect, collect, ih, List.append_assoc, List.append_assoc,
        List.singleton_append]

/-- What holds of everything that elements give holds of all that is collected. -/
theorem forall_mem_collect {α β : Type} {give : List α → α → Option β} {P : β → Prop}
    (every : ∀ earlier a b, give earlier a = some b → P b) (earlier elements : List α) :
    ∀ b ∈ collect give earlier elements, P b := by
  induction elements generalizing earlier with
  | nil => exact nofun
  | cons a rest ih =>
      rw [collect, List.forall_mem_append]
      refine ⟨?_, ih _⟩
      intro b member
      exact every earlier a b (Option.mem_toList.mp member)

/-- Nothing is collected exactly if no element gives anything. -/
theorem collect_eq_nil_iff {α β : Type} {give : List α → α → Option β}
    {earlier elements : List α} :
    collect give earlier elements = [] ↔
      ∀ before a after, elements = before ++ a :: after → give (earlier ++ before) a = none := by
  induction elements generalizing earlier with
  | nil => exact iff_of_true rfl fun before _ _ split => absurd split (by simp)
  | cons a rest ih =>
      rw [collect, List.append_eq_nil_iff, Option.toList_eq_nil_iff, ih]
      constructor
      · rintro ⟨here, later⟩ before b after split
        cases before with
        | nil =>
            obtain ⟨rfl, _⟩ := List.cons.inj split
            rwa [List.append_nil]
        | cons first before =>
            obtain ⟨rfl, tail⟩ := List.cons.inj split
            have found := later before b after tail
            rwa [List.append_assoc, List.singleton_append] at found
      · intro every
        refine ⟨?_, ?_⟩
        · have here := every [] a rest rfl
          rwa [List.append_nil] at here
        · rintro before b after rfl
          rw [List.append_assoc, List.singleton_append]
          exact every (a :: before) b after rfl

/-- A place of a template where a placeholder can be declared. -/
inductive Part
  | segment (index : Nat) (text : String)
  | element (text : String)

namespace Part

/-- The pair that an element is. -/
def pair? : Part → Option QueryPair
  | .segment _ _ => none
  | .element text => QueryPair.ofText? text

/-- The key of the pair that a part is. -/
def key? (part : Part) : Option String := part.pair?.map (·.key)

/-- The placeholder that a part has, whether or not it counts. -/
def placeholder? : Part → Option Placeholder
  | .segment index text => (Segment.ofText text).placeholder? index
  | .element text => (QueryPair.ofText? text).bind QueryPair.placeholder?

/-- The name that a part has in braces. -/
def name? (part : Part) : Option String := part.placeholder?.map (·.name)

/-- The keys of all pairs among parts, in their order. -/
def keysOf (parts : List Part) : List String := parts.filterMap key?

/-- The names that parts have in braces, in their order. -/
def namesOf (parts : List Part) : List String := parts.filterMap name?

/-- What a part declares behind earlier ones. The value of a repeated key declares nothing. -/
def declares? (earlier : List Part) (part : Part) : Option Placeholder :=
  if part.key?.any (· ∈ keysOf earlier) then none else part.placeholder?

/-- Everything that parts declare, a name once for each part that declares it. -/
def declarations (parts : List Part) : List Placeholder := collect declares? [] parts

/-- The fault of an element that is no pair, or whose key an earlier element has. -/
def keyFault? (template : String) (earlier : List Part) : Part → Option Fault
  | .segment _ _ => none
  | .element text =>
      match QueryPair.ofText? text with
      | none => some (.illegalTemplate template (.malformedPair text))
      | some pair =>
          if pair.key ∈ keysOf earlier then
            some (.illegalTemplate template (.repeatedKey pair.key))
          else none

/-- The fault of a placeholder whose name an earlier part declares. It names the first slot of the
name and the repeated one. -/
def nameFault? (template : String) (earlier : List Part) (placeholder : Placeholder) :
    Option Fault :=
  ((declarations earlier).find? (·.name == placeholder.name)).map fun first =>
    .duplicatePlaceholder template placeholder.name (.at first.slot) (.at placeholder.slot)

/-- **The offence of a part** behind earlier ones. -/
def fault? (template : String) (earlier : List Part) (part : Part) : Option Fault :=
  (part.keyFault? template earlier).or
    ((part.declares? earlier).bind (nameFault? template earlier))

end Part

open Template.Part

/-- **The offences of a template**, in the order of its parts. -/
def offences (template : String) (parts : List Part) : List Fault :=
  collect (Part.fault? template) [] parts

/-- The condition that parts are in order: elements are pairs, and no key and no name comes twice.
-/
structure IsWellFormed (parts : List Part) : Prop where
  pairs : ∀ text, Part.element text ∈ parts → ∃ key value, IsPair text key value
  keys : (keysOf parts).Nodup
  names : (namesOf parts).Nodup

/-- The condition that a part may follow others. -/
structure Part.Fits (earlier : List Part) (part : Part) : Prop where
  pair : ∀ text, part = .element text → ∃ key value, IsPair text key value
  key : ∀ key, part.key? = some key → key ∉ keysOf earlier
  name : ∀ name, part.name? = some name → name ∉ namesOf earlier

/-- A text has the shape of a pair exactly if it is read as one. -/
theorem exists_isPair_iff {text : String} :
    (∃ key value, IsPair text key value) ↔ QueryPair.ofText? text ≠ none := by
  rw [Option.ne_none_iff_exists']
  constructor
  · rintro ⟨key, value, shape⟩
    exact ⟨⟨key, QueryValue.ofText value⟩, QueryPair.ofText?_eq_some_iff.mpr ⟨value, shape, rfl⟩⟩
  · rintro ⟨pair, found⟩
    obtain ⟨value, shape, _⟩ := QueryPair.ofText?_eq_some_iff.mp found
    exact ⟨pair.key, value, shape⟩

/-- Another element causes no repetition exactly if what it gives was not given before. -/
theorem nodup_filterMap_append_singleton_iff {α β : Type} (f : α → Option β) (elements : List α)
    (last : α) :
    ((elements ++ [last]).filterMap f).Nodup ↔
      (elements.filterMap f).Nodup ∧ ∀ b, f last = some b → b ∉ elements.filterMap f := by
  rw [List.filterMap_append]
  cases found : f last with
  | none => simp [found]
  | some b =>
      rw [List.filterMap_cons_some found, List.filterMap_nil, List.nodup_append]
      simp only [List.nodup_singleton, List.mem_singleton, true_and, forall_eq, Option.some.injEq,
        forall_eq']
      exact and_congr Iff.rfl ⟨fun apart member => apart b member rfl,
        fun fresh other member same => fresh (same ▸ member)⟩

section Order

variable (template : String) (parts : List Part) (part : Part)

private theorem isWellFormed_append_singleton_iff :
    IsWellFormed (parts ++ [part]) ↔ IsWellFormed parts ∧ part.Fits parts := by
  have keys := nodup_filterMap_append_singleton_iff Part.key? parts part
  have names := nodup_filterMap_append_singleton_iff Part.name? parts part
  constructor
  · intro formed
    obtain ⟨oldKeys, key⟩ := keys.mp formed.keys
    obtain ⟨oldNames, name⟩ := names.mp formed.names
    exact ⟨⟨fun text member => formed.pairs text (List.mem_append_left _ member), oldKeys,
      oldNames⟩, ⟨fun text same => formed.pairs text (by simp [same]), key, name⟩⟩
  · rintro ⟨formed, fits⟩
    refine ⟨?_, keys.mpr ⟨formed.keys, fits.key⟩, names.mpr ⟨formed.names, fits.name⟩⟩
    intro text member
    rcases List.mem_append.mp member with earlier | last
    · exact formed.pairs text earlier
    · exact fits.pair text (List.mem_singleton.mp last).symm

/-- What the last part declares comes behind all else. -/
theorem declarations_append_singleton :
    declarations (parts ++ [part]) = declarations parts ++ (part.declares? parts).toList :=
  collect_append_singleton declares? [] parts part

/-- The fault of the last part comes behind all others. -/
theorem offences_append_singleton :
    offences template (parts ++ [part]) =
      offences template parts ++ (part.fault? template parts).toList :=
  collect_append_singleton (Part.fault? template) [] parts part

variable {parts part}

private theorem keyFault?_eq_none_iff :
    part.keyFault? template parts = none ↔
      (∀ text, part = .element text → ∃ key value, IsPair text key value) ∧
        ∀ key, part.key? = some key → key ∉ keysOf parts := by
  cases part with
  | segment index text => exact iff_of_true rfl ⟨nofun, nofun⟩
  | element text =>
      simp only [Part.element.injEq, forall_eq', exists_isPair_iff, keyFault?, key?, pair?]
      cases QueryPair.ofText? text with
      | none => simp
      | some pair => simp

private theorem declares?_of_fresh (fresh : ∀ key, part.key? = some key → key ∉ keysOf parts) :
    part.declares? parts = part.placeholder? := by
  rw [declares?]
  cases found : part.key? with
  | none => rfl
  | some key => simp [fresh key found]

/-- Where no key is repeated, every placeholder counts. -/
theorem declarations_eq (keys : (keysOf parts).Nodup) :
    declarations parts = parts.filterMap Part.placeholder? := by
  induction parts using List.reverseRecOn with
  | nil => rfl
  | append_singleton parts last ih =>
      obtain ⟨old, fresh⟩ := (nodup_filterMap_append_singleton_iff Part.key? parts last).mp keys
      rw [declarations_append_singleton, ih old, declares?_of_fresh fresh, List.filterMap_append]
      cases found : last.placeholder? <;> simp [found]

private theorem nameFault?_eq_none_iff (keys : (keysOf parts).Nodup) (placeholder : Placeholder) :
    nameFault? template parts placeholder = none ↔ placeholder.name ∉ namesOf parts := by
  rw [nameFault?, Option.map_eq_none_iff, List.find?_eq_none, declarations_eq keys]
  simp only [List.mem_filterMap, beq_iff_eq, namesOf, name?, Option.map_eq_some_iff]
  constructor
  · rintro apart ⟨other, member, found, has, same⟩
    exact apart found ⟨other, member, has⟩ same
  · rintro fresh found ⟨other, member, has⟩ same
    exact fresh ⟨other, member, found, has, same⟩

private theorem fault?_eq_none_iff (keys : (keysOf parts).Nodup) :
    part.fault? template parts = none ↔ part.Fits parts := by
  rw [fault?, Option.or_eq_none_iff, keyFault?_eq_none_iff]
  constructor
  · rintro ⟨⟨pair, key⟩, unnamed⟩
    refine ⟨pair, key, ?_⟩
    intro name found
    obtain ⟨placeholder, has, rfl⟩ := Option.map_eq_some_iff.mp found
    rw [declares?_of_fresh key, has, Option.bind_some] at unnamed
    exact (nameFault?_eq_none_iff template keys placeholder).mp unnamed
  · intro fits
    refine ⟨⟨fits.pair, fits.key⟩, ?_⟩
    rw [declares?_of_fresh fits.key, Option.bind_eq_none_iff]
    intro placeholder has
    rw [nameFault?_eq_none_iff template keys]
    exact fits.name placeholder.name (by rw [name?, has, Option.map_some])

/-- **A template has no offences exactly if its parts are in order.** -/
theorem offences_eq_nil_iff : offences template parts = [] ↔ IsWellFormed parts := by
  induction parts using List.reverseRecOn with
  | nil => exact iff_of_true rfl ⟨nofun, List.nodup_nil, List.nodup_nil⟩
  | append_singleton parts last ih =>
      rw [offences_append_singleton, List.append_eq_nil_iff, ih, isWellFormed_append_singleton_iff]
      refine and_congr_right fun formed => ?_
      rw [← fault?_eq_none_iff template formed.keys]
      cases last.fault? template parts <;> simp

end Order

end Template

end ContentRouter
