import ContentRouter.Proofs.Source.Reading
import ContentRouter.Proofs.Template.NormalizedPath
import ContentRouter.Proofs.Template.Rewriting
import ContentRouter.Source.Text

/-!
# Line comments

In a comment the control characters of a text become blanks, and all others stay, backslashes among
them. So a comment has the escapes of the text: it stays a comment exactly if each of them has its
four digits and none denotes a line break (`Source.staysComment_comment_iff`).

Of a template that builds, the normalized path has no backslash. The template itself can have one,
in the names of placeholders and in the pairs of its query, and then a router that shows the
template in a comment may not be readable, or may hold code that was written in the template
(`Model.exists_comment_left`).
-/

namespace ContentRouter

namespace Source

section CommentChar

variable {c : Char}

private theorem isControl_commentChar (c : Char) : Text.isControl (commentChar c) = false := by
  unfold commentChar
  split
  · rfl
  · rename_i plain
    exact Bool.not_eq_true _ ▸ plain

/-- No character becomes another one that is neither blank nor a control character. -/
theorem commentChar_eq_iff {d : Char} (blank : d ≠ ' ') (plain : Text.isControl d = false) :
    commentChar c = d ↔ c = d := by
  unfold commentChar
  split
  · rename_i control
    refine iff_of_false (Ne.symm blank) ?_
    rintro rfl
    rw [control] at plain
    cases plain
  · rfl

private theorem isControl_of_isHexDigit (digit : Text.isHexDigit c = true) :
    Text.isControl c = false := by
  have range := toNat_of_isHexDigit digit
  simp only [Text.isControl, Bool.or_eq_false_iff, Bool.and_eq_false_iff, decide_eq_false_iff_not]
  omega

private theorem commentChar_of_isHexDigit (digit : Text.isHexDigit c = true) : commentChar c = c :=
  if_neg (by rw [isControl_of_isHexDigit digit]; exact Bool.false_ne_true)

private theorem isHexDigit_commentChar (c : Char) :
    Text.isHexDigit (commentChar c) = Text.isHexDigit c := by
  cases digit : Text.isHexDigit c with
  | true => rw [commentChar_of_isHexDigit digit, digit]
  | false =>
      unfold commentChar
      split
      · rfl
      · exact digit

end CommentChar

section Escapes

private theorem slashesAtEnd_map_commentChar (text : List Char) :
    slashesAtEnd (text.map commentChar) = slashesAtEnd text := by
  have slash : (· == '\\') ∘ commentChar = (· == '\\') := by
    funext c
    rw [Function.comp_apply, Bool.eq_iff_iff, beq_iff_eq, beq_iff_eq]
    exact commentChar_eq_iff (by decide) (by decide)
  rw [slashesAtEnd, ← List.map_reverse, List.takeWhile_map, slash, List.length_map, slashesAtEnd]

/-- An escape denotes the same in a comment. -/
theorem escapedUnit?_map_commentChar (rest : List Char) :
    escapedUnit? (rest.map commentChar) = escapedUnit? rest := by
  have mark : (· == 'u') ∘ commentChar = (· == 'u') := by
    funext c
    rw [Function.comp_apply, Bool.eq_iff_iff, beq_iff_eq, beq_iff_eq]
    exact commentChar_eq_iff (by decide) (by decide)
  have hex : Text.isHexDigit ∘ commentChar = Text.isHexDigit := funext isHexDigit_commentChar
  unfold escapedUnit?
  dsimp only
  rw [List.dropWhile_map, mark, ← List.map_take, List.length_map, List.all_map, hex]
  split
  · rename_i digits
    have same : ((rest.dropWhile (· == 'u')).take 4).map commentChar =
        (rest.dropWhile (· == 'u')).take 4 :=
      (List.map_congr_left fun c member =>
        commentChar_of_isHexDigit (List.all_eq_true.mp digits.2 c member)).trans (List.map_id _)
    rw [same]
  · rfl

/-- **A comment has the escapes of its text.** -/
theorem forall_escapeAt_map_commentChar {text : List Char} {Q : List Char → Prop} :
    (∀ before after, EscapeAt (text.map commentChar) before after → Q after) ↔
      ∀ before after, EscapeAt text before after → Q (after.map commentChar) := by
  constructor
  · intro all before after escape
    refine all (before.map commentChar) _ ⟨?_, ?_⟩
    · rw [escape.split, List.map_append, List.map_cons, List.map_cons]
      rfl
    · rw [slashesAtEnd_map_commentChar]
      exact escape.even
  · intro all before after escape
    obtain ⟨front, behind, rfl, rfl, slashed⟩ := List.map_eq_append_iff.mp escape.split
    obtain ⟨slash, marked, rfl, isSlash, behindSlash⟩ := List.map_eq_cons_iff.mp slashed
    obtain ⟨mark, tail, rfl, isMark, rfl⟩ := List.map_eq_cons_iff.mp behindSlash
    rw [commentChar_eq_iff (by decide) (by decide)] at isSlash isMark
    refine all front tail ⟨by rw [isSlash, isMark], ?_⟩
    rw [← slashesAtEnd_map_commentChar]
    exact escape.even

/-- Whether a symbol denotes something, and no line break. -/
def Symbol.IsInline (symbol : Symbol) : Prop :=
  ∃ units, symbol.units = some units ∧ ∀ unit ∈ units, unit ∉ lineBreaks

private theorem staysComment_iff (text : String) :
    StaysComment text ↔ ∀ symbol ∈ symbols text, symbol.IsInline := by
  unfold StaysComment translation?
  constructor
  · rintro ⟨units, translated, inline⟩ symbol member
    split at translated
    · rename_i readable
      obtain ⟨own, denotes⟩ :=
        Option.isSome_iff_exists.mp (List.all_eq_true.mp readable symbol member)
      refine ⟨own, denotes, fun unit inside => inline unit ?_⟩
      rw [← Option.some.inj translated]
      exact List.mem_flatMap_of_mem member (by rwa [denotes, Option.getD_some])
    · cases translated
  · intro inline
    have readable : (symbols text).all (·.units.isSome) = true := by
      rw [List.all_eq_true]
      intro symbol member
      obtain ⟨units, denotes, _⟩ := inline symbol member
      rw [denotes, Option.isSome_some]
    refine ⟨_, if_pos readable, fun unit member => ?_⟩
    obtain ⟨symbol, listed, inside⟩ := List.mem_flatMap.mp member
    obtain ⟨units, denotes, apart⟩ := inline symbol listed
    rw [denotes, Option.getD_some] at inside
    exact apart unit inside

private theorem isInline_escapeSymbol_iff (rest : List Char) :
    (escapeSymbol rest).IsInline ↔ ∃ unit, escapedUnit? rest = some unit ∧ unit ∉ lineBreaks := by
  unfold escapeSymbol
  split
  · rename_i unit denotes
    simp [Symbol.IsInline, denotes]
  · rename_i malformed
    simp [Symbol.IsInline, malformed]

/-- **A comment stays one** exactly if every escape of its text has its digits and denotes no line
break. -/
theorem staysComment_comment_iff (text : String) :
    StaysComment (comment text) ↔ ∀ before after, EscapeAt text.toList before after →
      ∃ unit, escapedUnit? after = some unit ∧ unit ∉ lineBreaks := by
  have plain : ∀ c ∈ (comment text).toList, (plainSymbol c).IsInline := by
    intro c member
    rw [comment, String.toList_ofList] at member
    obtain ⟨own, _, rfl⟩ := List.mem_map.mp member
    have visible := isControl_commentChar own
    refine ⟨_, rfl, not_mem_lineBreaks ?_ ?_⟩ <;>
    · intro same
      rw [same] at visible
      cases visible
  rw [staysComment_iff, forall_mem_symbols_iff plain, comment, String.toList_ofList,
    forall_escapeAt_map_commentChar]
  simp only [isInline_escapeSymbol_iff, escapedUnit?_map_commentChar]

private theorem staysComment_comment_of_not_mem {text : String} (clean : '\\' ∉ text.toList) :
    StaysComment (comment text) := by
  rw [staysComment_comment_iff]
  intro before after escape
  refine absurd ?_ clean
  rw [escape.split]
  exact List.mem_append_right before List.mem_cons_self

end Escapes

end Source

namespace Model

variable {scheme wildcard authority text : String} {model : Model}
  (built : build scheme wildcard authority text = .ok model)
include built

private theorem not_mem_normalizedPath : '\\' ∉ model.normalizedPath.toList := by
  intro member
  have allowed := allowed_of_build built '\\' member
  cases allowed

/-- A backslash of a path is in the name of a placeholder. -/
theorem exists_placeholder_of_mem_path (member : '\\' ∈ (Template.pathPart text).toList) :
    ∃ placeholder ∈ model.template.placeholders, '\\' ∈ placeholder.name.toList := by
  obtain ⟨template, read, _, rfl⟩ := build_eq_ok_iff.mp built
  have behind := (Template.mem_behindSlash_iff (by decide)).mpr member
  rw [← Template.pathText_of_segments (Template.eq_of_parse read).2.1] at behind
  obtain separates | ⟨written, listed, inside⟩ := Text.mem_of_mem_joinWith behind
  · exact absurd separates (by decide)
  obtain ⟨segment, own, rfl⟩ := List.mem_map.mp listed
  cases segment with
  | literal text =>
      refine absurd ?_ (not_mem_normalizedPath built)
      have normalized := List.mem_map_of_mem (f := Segment.normalized wildcard) own
      rw [normalizedPathOf_eq, String.toList_append]
      exact List.mem_append_right _ (Text.mem_joinWith normalized inside)
  | placeholder name =>
      obtain ⟨index, found⟩ := List.getElem?_of_mem own
      refine ⟨_, (Template.getElem?_segments_iff read).mp found, ?_⟩
      rw [Segment.text, Fault.toList_braced] at inside
      simpa using inside

/-- A backslash of a query is in one of its pairs. -/
theorem exists_pair_of_mem_query (member : '\\' ∈ (Template.queryPart text).toList) :
    ∃ pair ∈ model.query, '\\' ∈ pair.text.toList := by
  obtain ⟨template, read, _, rfl⟩ := build_eq_ok_iff.mp built
  obtain ⟨formed, _, query, _⟩ := Template.eq_of_parse read
  rw [← Text.joinWith_pieces '&' (Template.queryPart text)] at member
  obtain separates | ⟨element, cut, inside⟩ := Text.mem_of_mem_joinWith member
  · exact absurd separates (by decide)
  have counts : element ∈ Template.elementsOf (Template.queryPart text) := by
    refine List.mem_filter.mpr ⟨cut, ?_⟩
    rw [Bool.not_eq_true', ← Bool.not_eq_true, String.isEmpty_iff]
    rintro rfl
    cases inside
  rw [← Template.map_text_pairs _ fun own listed =>
    formed.pairs own (List.mem_append_right _ (List.mem_map_of_mem listed)), ← query] at counts
  obtain ⟨pair, listed, rfl⟩ := List.mem_map.mp counts
  exact ⟨pair, listed, inside⟩

omit built

/-- **When the comments of a template that builds stay comments.** -/
structure CommentLaw (model : Model) : Prop where
  /-- The template does exactly if every escape in it has its digits and denotes no line break. -/
  escapes : Source.StaysComment (Source.comment model.text) ↔
    ∀ before after, Source.EscapeAt model.text.toList before after →
      ∃ unit, Source.escapedUnit? after = some unit ∧ unit ∉ Source.lineBreaks
  /-- Only the name of a placeholder and a pair of the query can have the backslash of an escape. -/
  places : '\\' ∈ model.text.toList →
    (∃ placeholder ∈ model.template.placeholders, '\\' ∈ placeholder.name.toList) ∨
      ∃ pair ∈ model.query, '\\' ∈ pair.text.toList
  /-- A template without a backslash stays a comment. -/
  plain : '\\' ∉ model.text.toList → Source.StaysComment (Source.comment model.text)
  /-- The normalized path always does. -/
  path : Source.StaysComment (Source.comment model.normalizedPath)

/-- **Comments are left through escapes only**, for every template that builds. -/
theorem comment_law {scheme wildcard authority text : String} {model : Model}
    (built : build scheme wildcard authority text = .ok model) : CommentLaw model where
  escapes := Source.staysComment_comment_iff model.text
  places := by
    intro member
    obtain ⟨template, read, _, same⟩ := build_eq_ok_iff.mp built
    have declared : model.text = text := by rw [same]
    rw [declared] at member
    obtain ⟨_, whole, _⟩ | ⟨_, whole, _⟩ := Template.parts_of_parse read
    · exact .inl (exists_placeholder_of_mem_path built (whole.symm ▸ member))
    · rw [whole, String.toList_append, String.toList_append, List.append_assoc] at member
      rcases List.mem_append.mp member with inPath | behind
      · exact .inl (exists_placeholder_of_mem_path built inPath)
      · rcases List.mem_append.mp behind with mark | inQuery
        · exact absurd mark (by decide)
        · exact .inr (exists_pair_of_mem_query built inQuery)
  plain := Source.staysComment_comment_of_not_mem
  path := Source.staysComment_comment_of_not_mem (not_mem_normalizedPath built)

/-- An escape in the query denotes a letter. -/
theorem comment_law_of_letter :
    let model : Model :=
      { text := "/n?k=\\u0041", authority := "a", normalizedPath := "/n"
        template := ⟨[.literal "n"], [⟨"k", .literal "\\u0041"⟩], []⟩ }
    build "content" "*" "a" "/n?k=\\u0041" = .ok model ∧ CommentLaw model := by
  intro model
  have built : build "content" "*" "a" "/n?k=\\u0041" = .ok model := by decide
  exact ⟨built, comment_law built⟩

/-- **A template that its comment does not hold.** Behind the line break that it denotes, the rest
of the template is read as code. Another template makes the source unreadable. -/
theorem exists_comment_left :
    (∃ model, build "content" "*" "a" "/n?k=\\u000aint x;" = .ok model ∧
      Source.translation? (Source.comment model.text) = some (Source.textUnits "/n?k=\nint x;") ∧
      ¬Source.StaysComment (Source.comment model.text)) ∧
    ∃ model, build "content" "*" "a" "/n?dir=c:\\users" = .ok model ∧
      Source.translation? (Source.comment model.text) = none ∧
      ¬Source.StaysComment (Source.comment model.text) := by
  constructor
  · have broken : Source.translation? (Source.comment "/n?k=\\u000aint x;") =
        some (Source.textUnits "/n?k=\nint x;") := by decide
    refine ⟨{ text := "/n?k=\\u000aint x;", authority := "a", normalizedPath := "/n"
              template := ⟨[.literal "n"], [⟨"k", .literal "\\u000aint x;"⟩], []⟩ },
      by decide, broken, ?_⟩
    rintro ⟨units, translated, inline⟩
    obtain rfl := Option.some.inj (broken.symm.trans translated)
    exact inline 0x0A (by decide) (by decide)
  · have unreadable : Source.translation? (Source.comment "/n?dir=c:\\users") = none := by decide
    refine ⟨{ text := "/n?dir=c:\\users", authority := "a", normalizedPath := "/n"
              template := ⟨[.literal "n"], [⟨"dir", .literal "c:\\users"⟩], []⟩ },
      by decide, unreadable, ?_⟩
    rintro ⟨units, translated, _⟩
    cases unreadable.symm.trans translated

end Model

end ContentRouter
