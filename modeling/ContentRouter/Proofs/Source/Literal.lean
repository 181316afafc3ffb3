import ContentRouter.Proofs.Source.Reading
import ContentRouter.Source.Text

/-!
# String literals

A text is written as a literal in two ways at once: a sign behind a backslash, which the reader of
the literal undoes, and four digits behind a backslash and a `u`, which are undone before. They do
not get in each other's way, because a backslash of the text is written twice: wherever a character
is written, an even number of backslashes stands before it. So reading a literal gives the text
back and stops at its last quote (`Source.readLiteral?_literal`), and a literal is told from all
others by what a source begins with (`Source.literal_append_inj`).
-/

namespace ContentRouter

namespace Source

section Escaped

variable {c : Char}

/-- The ways to write a character inside a literal. -/
theorem escaped_cases (c : Char) :
    (∃ sign, sign ≠ 'u' ∧ (escaped c).toList = ['\\', sign] ∧
        LiteralPlace.escape.move? (codeUnits sign) = some ⟨codeUnits c, some .plain⟩) ∨
      (Text.isControl c = true ∧ c ≠ '\n' ∧ c ≠ '\r' ∧ escaped c = unicodeEscape c) ∨
      (c ≠ '"' ∧ c ≠ '\\' ∧ c ≠ '\n' ∧ c ≠ '\r' ∧ (escaped c).toList = [c]) := by
  by_cases quote : c = '"'
  · exact .inl ⟨'"', by decide, by rw [quote]; rfl, by rw [quote]; decide⟩
  by_cases slash : c = '\\'
  · exact .inl ⟨'\\', by decide, by rw [slash]; rfl, by rw [slash]; decide⟩
  by_cases feed : c = '\n'
  · exact .inl ⟨'n', by decide, by rw [feed]; rfl, by rw [feed]; decide⟩
  by_cases back : c = '\r'
  · exact .inl ⟨'r', by decide, by rw [back]; rfl, by rw [back]; decide⟩
  by_cases tab : c = '\t'
  · exact .inl ⟨'t', by decide, by rw [tab]; rfl, by rw [tab]; decide⟩
  right
  have others : escaped c = if Text.isControl c then unicodeEscape c else c.toString := by
    simp only [escaped, beq_iff_eq, quote, slash, feed, back, tab, ↓reduceIte]
  by_cases control : Text.isControl c = true
  · exact .inl ⟨control, feed, back, others.trans (if_pos control)⟩
  · refine .inr ⟨quote, slash, feed, back, ?_⟩
    rw [others, if_neg control, Char.toString_eq_singleton, String.toList_singleton]

/-- The digits of an escape are those of the character. -/
theorem exists_digits_unicodeEscape (control : Text.isControl c = true) :
    ∃ digits, (unicodeEscape c).toList = '\\' :: 'u' :: digits ∧ digits.length = 4 ∧
      digits.all Text.isHexDigit = true ∧ Text.numberIn? 16 digits = some c.toNat := by
  let digits (n : Nat) : List Char :=
    List.replicate (4 - (Nat.toDigits 16 n).length) '0' ++ Nat.toDigits 16 n
  have read : ∀ n < 0xA0, (digits n).length = 4 ∧ (digits n).all Text.isHexDigit = true ∧
      Text.numberIn? 16 (digits n) = some n := by
    decide +kernel
  have written : (unicodeEscape c).toList = '\\' :: 'u' :: digits c.toNat := by
    simp [unicodeEscape, Text.hexDigits, digits]
  have small : c.toNat < 0xA0 := by
    simp only [Text.isControl, Bool.or_eq_true, Bool.and_eq_true, decide_eq_true_eq] at control
    omega
  exact ⟨digits c.toNat, written, read c.toNat small⟩

end Escaped

section Reading

private theorem readLiteralFrom_of_next {place next : LiteralPlace} {symbol : Symbol}
    {units value : List CodeUnit} (denotes : symbol.units = some units)
    (moves : place.move? units = some ⟨value, some next⟩) (rest : List Symbol) :
    readLiteralFrom place (symbol :: rest) =
      (readLiteralFrom next rest).map fun (others, behind) => (value ++ others, behind) := by
  rw [readLiteralFrom, denotes, Option.bind_some, moves]

/-- A character that is neither quote nor backslash and does not break the line means itself,
however it is written. -/
theorem move?_plain_codeUnits {c : Char} (quote : c ≠ '"') (slash : c ≠ '\\') (feed : c ≠ '\n')
    (back : c ≠ '\r') :
    LiteralPlace.plain.move? (codeUnits c) = some ⟨codeUnits c, some .plain⟩ := by
  have unbroken : ¬(codeUnits c).any lineBreaks.contains = true := by
    simpa using not_mem_lineBreaks feed back
  rw [LiteralPlace.move?, LiteralPlace.plainMove?, if_neg (mt codeUnits_inj.mp quote),
    if_neg (mt codeUnits_inj.mp slash), if_neg unbroken]

/-- **Reading over one written character** gives the character, and again leaves an even number of
backslashes. -/
theorem readLiteralFrom_escaped {slashes : Nat} (even : slashes % 2 = 0) (c : Char)
    (rest : List Char) :
    ∃ behind, behind % 2 = 0 ∧
      readLiteralFrom .plain (symbolsFrom slashes 0 ((escaped c).toList ++ rest)) =
        (readLiteralFrom .plain (symbolsFrom behind 0 rest)).map fun (others, left) =>
          (codeUnits c ++ others, left) := by
  obtain ⟨sign, mark, written, means⟩ | ⟨control, feed, back, written⟩ |
    ⟨quote, slash, feed, back, written⟩ := escaped_cases c
  · have opens : LiteralPlace.plain.move? (codeUnits '\\') = some ⟨[], some .escape⟩ := by decide
    have first : firstSymbol slashes '\\' (sign :: rest) = plainSymbol '\\' :=
      firstSymbol_of_head? (by simpa using mark)
    -- The sign may be a backslash, but one before it is enough to make the number odd.
    have second : firstSymbol (slashes + 1) sign rest = plainSymbol sign :=
      firstSymbol_of_odd (by omega)
    refine ⟨slashesAfter (slashes + 1) sign, ?_, ?_⟩
    · unfold slashesAfter
      split <;> omega
    · rw [written, List.cons_append, List.cons_append, List.nil_append,
        symbolsFrom_of_firstSymbol first,
        show slashesAfter slashes '\\' = slashes + 1 from if_pos rfl,
        symbolsFrom_of_firstSymbol second,
        readLiteralFrom_of_next rfl opens, readLiteralFrom_of_next rfl means, Option.map_map]
      rfl
  · obtain ⟨digits, escape, four, all, number⟩ := exists_digits_unicodeEscape control
    have quote : c ≠ '"' := by
      rintro rfl
      cases control
    have slash : c ≠ '\\' := by
      rintro rfl
      cases control
    refine ⟨0, rfl, ?_⟩
    rw [written, escape, List.cons_append, List.cons_append,
      symbolsFrom_escape even four all number, ← codeUnits_of_isControl control]
    exact readLiteralFrom_of_next rfl (move?_plain_codeUnits quote slash feed back) _
  · refine ⟨0, rfl, ?_⟩
    rw [written, List.cons_append, List.nil_append, symbolsFrom_of_ne slash]
    exact readLiteralFrom_of_next rfl (move?_plain_codeUnits quote slash feed back) _

/-- **Reading over a written text** gives the text and stops behind the quote. -/
theorem readLiteralFrom_flatMap_escaped {slashes : Nat} (even : slashes % 2 = 0)
    (chars rest : List Char) :
    readLiteralFrom .plain
        (symbolsFrom slashes 0 (chars.flatMap (fun c => (escaped c).toList) ++ '"' :: rest)) =
      some (chars.flatMap codeUnits, symbolsFrom 0 0 rest) := by
  induction chars generalizing slashes with
  | nil =>
      rw [List.flatMap_nil, List.nil_append, symbolsFrom_of_ne (by decide)]
      rfl
  | cons c others ih =>
      rw [List.flatMap_cons, List.append_assoc]
      obtain ⟨behind, evenBehind, read⟩ := readLiteralFrom_escaped even c
        (others.flatMap (fun c => (escaped c).toList) ++ '"' :: rest)
      rw [read, ih evenBehind, Option.map_some, List.flatMap_cons]

/-- The characters of a literal in front of a text. -/
theorem toList_literal_append (text rest : String) :
    (literal text ++ rest).toList =
      '"' :: (text.toList.flatMap (fun c => (escaped c).toList) ++ '"' :: rest.toList) := by
  simp only [literal, String.toList_append, String.toList_join, List.flatMap_map]
  simp

/-- **A literal is read back**, whatever stands behind it. -/
theorem readLiteral?_literal (text rest : String) :
    readLiteral? (literal text ++ rest) = some (textUnits text, rest) := by
  rw [readLiteral?, symbols, toList_literal_append, symbolsFrom_of_ne (by decide)]
  dsimp only [plainSymbol]
  rw [if_pos rfl, readLiteralFrom_flatMap_escaped rfl, Option.map_some]
  dsimp only
  rw [flatMap_written_symbolsFrom, List.drop_zero, String.ofList_toList, textUnits]

/-- **No two sources begin with different literals.** -/
theorem literal_append_inj {text other rest otherRest : String}
    (same : literal text ++ rest = literal other ++ otherRest) :
    text = other ∧ rest = otherRest := by
  have read := readLiteral?_literal text rest
  rw [same, readLiteral?_literal, Option.some_inj, Prod.mk.injEq] at read
  exact ⟨(textUnits_injective read.1).symm, read.2.symm⟩

/-- Different texts have different literals. -/
theorem literal_inj {text other : String} : literal text = literal other ↔ text = other :=
  ⟨fun same => (literal_append_inj (congrArg (· ++ "") same)).1, congrArg literal⟩

/-- **What a reader makes of a literal.** -/
structure LiteralLaw (text : String) : Prop where
  /-- In front of any text, it takes exactly the literal, and its value is the text. -/
  read : ∀ rest, readLiteral? (literal text ++ rest) = some (textUnits text, rest)
  /-- The value is that of no other text. -/
  units : ∀ other, textUnits other = textUnits text ↔ other = text
  /-- No other text is written like this one. -/
  injective : ∀ other, literal other = literal text ↔ other = text
  /-- No literal is the beginning of another one. -/
  apart : ∀ other, (literal other).toList <+: (literal text).toList ↔ other = text

/-- **A literal denotes the text that it was written for**, for every text. -/
theorem literal_law (text : String) : LiteralLaw text where
  read := readLiteral?_literal text
  units other := textUnits_injective.eq_iff
  injective other := literal_inj
  apart other := by
    constructor
    · rintro ⟨rest, same⟩
      have longer : literal other ++ String.ofList rest = literal text ++ "" := by
        rw [← String.toList_inj, String.toList_append, String.toList_ofList, same,
          String.append_empty]
      exact (literal_append_inj longer).1
    · rintro rfl
      exact List.prefix_rfl

/-- A backslash before a `u`, one before a control character and one before a quote, in front of an
escape without digits. -/
example : readLiteral? (literal "\\u0041\\\x01\\\"" ++ "\\u") =
    some (textUnits "\\u0041\\\x01\\\"", "\\u") := by
  decide

end Reading

end Source

end ContentRouter
