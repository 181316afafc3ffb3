import Mathlib.Data.List.TakeWhile
import ContentRouter.Source.Reading

/-!
# Symbols of sources

A text is determined by its code units (`Source.textUnits_injective`). Taking a source apart into
symbols loses nothing of it (`Source.flatMap_written_symbolsFrom`): every character denotes itself
but for those of escapes, and the escapes are where a backslash with an even number of backslashes
before it has a `u` behind it (`Source.forall_mem_symbolsFrom_iff`).
-/

namespace ContentRouter

namespace Source

section CodeUnits

variable {c d : Char}

/-- No character has code units that begin with all those of another one. -/
theorem codeUnits_append_inj {units others : List CodeUnit}
    (same : codeUnits c ++ units = codeUnits d ++ others) : c = d ∧ units = others := by
  -- Half a pair is no character, so a pair and a single unit never begin alike.
  have valid : c.toNat < 0xD800 ∨ 0xDFFF < c.toNat ∧ c.toNat < 0x110000 := c.valid
  have otherValid : d.toNat < 0xD800 ∨ 0xDFFF < d.toNat ∧ d.toNat < 0x110000 := d.valid
  rw [← Char.toNat_inj]
  unfold codeUnits at same
  split at same <;> split at same <;>
    simp only [List.cons_append, List.nil_append, List.cons.injEq, ← UInt16.toNat_inj,
      UInt16.toNat_ofNat'] at same
  · exact ⟨by omega, same.2⟩
  · omega
  · omega
  · exact ⟨by omega, same.2.2⟩

/-- A character is told by its code units. -/
theorem codeUnits_inj : codeUnits c = codeUnits d ↔ c = d :=
  ⟨fun same => (codeUnits_append_inj (congrArg (· ++ []) same)).1, congrArg codeUnits⟩

/-- A control character has a single code unit. -/
theorem codeUnits_of_isControl (control : Text.isControl c = true) :
    codeUnits c = [UInt16.ofNat c.toNat] := by
  simp only [Text.isControl, Bool.or_eq_true, Bool.and_eq_true, decide_eq_true_eq] at control
  exact if_pos (by omega)

/-- Only the two characters that break lines have units that do. -/
theorem not_mem_lineBreaks (feed : c ≠ '\n') (back : c ≠ '\r') :
    ∀ unit ∈ codeUnits c, unit ∉ lineBreaks := by
  have valid : c.toNat < 0xD800 ∨ 0xDFFF < c.toNat ∧ c.toNat < 0x110000 := c.valid
  have feed : c.toNat ≠ 10 := mt (Char.toNat_inj (d := '\n')).mp feed
  have back : c.toNat ≠ 13 := mt (Char.toNat_inj (d := '\r')).mp back
  have breaks (n : Nat) (small : n < 0x10000) (feed : n ≠ 10) (back : n ≠ 13) :
      UInt16.ofNat n ∉ lineBreaks := by
    simp only [lineBreaks, List.mem_cons, List.not_mem_nil, or_false, not_or, ← UInt16.toNat_inj,
      UInt16.toNat_ofNat', Nat.mod_eq_of_lt small]
    exact ⟨feed, back⟩
  unfold codeUnits
  split
  · rename_i small
    exact List.forall_mem_singleton.mpr (breaks _ small feed back)
  · dsimp only
    exact List.forall_mem_cons.mpr ⟨breaks _ (by omega) (by omega) (by omega),
      List.forall_mem_singleton.mpr (breaks _ (by omega) (by omega) (by omega))⟩

/-- **A text is determined by its code units.** -/
theorem textUnits_injective : Function.Injective textUnits := by
  intro text other same
  rw [← String.toList_inj]
  unfold textUnits at same
  generalize text.toList = chars, other.toList = others at same
  have some (c : Char) : codeUnits c ≠ [] := by
    unfold codeUnits
    split <;> simp
  induction chars generalizing others with
  | nil =>
      cases others with
      | nil => rfl
      | cons d rest => simp [some d] at same
  | cons c rest ih =>
      cases others with
      | nil => simp [some c] at same
      | cons d others =>
          rw [List.flatMap_cons, List.flatMap_cons] at same
          obtain ⟨rfl, behind⟩ := codeUnits_append_inj same
          rw [ih others behind]

end CodeUnits

section Symbols

variable {slashes : Nat} {c : Char} {rest : List Char}

private theorem escapeTail_append (rest : List Char) :
    escapeTail rest ++ (rest.dropWhile (· == 'u')).drop 4 = rest := by
  rw [escapeTail, List.append_assoc, List.take_append_drop, List.takeWhile_append_dropWhile]

/-- The first symbol is written with the first character and with others behind it. -/
theorem exists_written_firstSymbol (slashes : Nat) (c : Char) (rest : List Char) :
    ∃ tail behind, (firstSymbol slashes c rest).written = c :: tail ∧ rest = tail ++ behind := by
  unfold firstSymbol
  split
  · rename_i behind
    split
    · rename_i escape
      obtain ⟨rfl, _⟩ := escape
      unfold escapeSymbol
      split
      · exact ⟨'u' :: escapeTail behind, _, rfl,
          congrArg ('u' :: ·) (escapeTail_append behind).symm⟩
      · exact ⟨[], _, rfl, rfl⟩
    · exact ⟨[], _, rfl, rfl⟩
  · exact ⟨[], _, rfl, rfl⟩

/-- **Symbols lose nothing of a source.** -/
theorem flatMap_written_symbolsFrom (slashes skip : Nat) (text : List Char) :
    (symbolsFrom slashes skip text).flatMap (·.written) = text.drop skip := by
  fun_induction symbolsFrom slashes skip text with
  | case1 slashes skip => exact List.drop_nil.symm
  | case2 slashes skip c rest ih => rw [ih, List.drop_succ_cons]
  | case3 slashes c rest symbol ih =>
      obtain ⟨tail, behind, written, same⟩ := exists_written_firstSymbol slashes c rest
      have length : symbol.written.length - 1 = tail.length := by
        simp only [symbol, written, List.length_cons, Nat.add_sub_cancel]
      rw [List.flatMap_cons, ih, length, written, same, List.drop_left, List.drop_zero,
        List.cons_append]

/-- A character that stands for itself is read alone. -/
theorem symbolsFrom_of_firstSymbol (plain : firstSymbol slashes c rest = plainSymbol c) :
    symbolsFrom slashes 0 (c :: rest) =
      plainSymbol c :: symbolsFrom (slashesAfter slashes c) 0 rest := by
  rw [symbolsFrom, plain]
  rfl

private theorem firstSymbol_of_ne (other : c ≠ '\\') :
    firstSymbol slashes c rest = plainSymbol c := by
  unfold firstSymbol
  split
  · exact if_neg fun escape => other escape.1
  · rfl

/-- Behind an odd number of backslashes a character stands for itself. -/
theorem firstSymbol_of_odd (odd : slashes % 2 = 1) :
    firstSymbol slashes c rest = plainSymbol c := by
  unfold firstSymbol
  split
  · exact if_neg fun escape => by omega
  · rfl

/-- A character stands for itself if no `u` is behind it. -/
theorem firstSymbol_of_head? (other : rest.head? ≠ some 'u') :
    firstSymbol slashes c rest = plainSymbol c := by
  unfold firstSymbol
  split
  · exact absurd rfl other
  · rfl

private theorem firstSymbol_escape (even : slashes % 2 = 0) :
    firstSymbol slashes '\\' ('u' :: rest) = escapeSymbol rest :=
  if_pos ⟨rfl, even⟩

/-- A character other than a backslash denotes itself, and leaves no backslashes behind. -/
theorem symbolsFrom_of_ne (other : c ≠ '\\') :
    symbolsFrom slashes 0 (c :: rest) = plainSymbol c :: symbolsFrom 0 0 rest := by
  rw [symbolsFrom_of_firstSymbol (firstSymbol_of_ne other), slashesAfter, if_neg other]

private theorem symbolsFrom_skip {skipped : List Char} (some : skipped ≠ [])
    (clean : '\\' ∉ skipped) :
    symbolsFrom slashes skipped.length (skipped ++ rest) = symbolsFrom 0 0 rest := by
  induction skipped generalizing slashes with
  | nil => exact absurd rfl some
  | cons c others ih =>
      obtain ⟨here, later⟩ := not_or.mp (mt List.mem_cons.mpr clean)
      rw [List.length_cons, List.cons_append, symbolsFrom, slashesAfter, if_neg (Ne.symm here)]
      cases others with
      | nil => rfl
      | cons d others => exact ih (List.cons_ne_nil d others) later

/-- Where the hexadecimal digits are in the order of characters. -/
theorem toNat_of_isHexDigit (digit : Text.isHexDigit c = true) :
    48 ≤ c.toNat ∧ c.toNat ≤ 57 ∨ 65 ≤ c.toNat ∧ c.toNat ≤ 70 ∨
      97 ≤ c.toNat ∧ c.toNat ≤ 102 := by
  have order (d : Char) : (d ≤ c ↔ d.toNat ≤ c.toNat) ∧ (c ≤ d ↔ c.toNat ≤ d.toNat) :=
    ⟨UInt32.le_iff_toNat_le, UInt32.le_iff_toNat_le⟩
  simp only [Text.isHexDigit, Text.digitValue?, Text.isDigit, order, Bool.and_eq_true,
    decide_eq_true_eq] at digit
  have bounds : '0'.toNat = 48 ∧ '9'.toNat = 57 ∧ 'a'.toNat = 97 ∧ 'f'.toNat = 102 ∧
      'A'.toNat = 65 ∧ 'F'.toNat = 70 := by decide
  split at digit
  · omega
  · split at digit
    · omega
    · split at digit
      · omega
      · cases digit

private theorem ne_of_isHexDigit (digit : Text.isHexDigit c = true) : c ≠ '\\' ∧ c ≠ 'u' := by
  constructor <;> rintro rfl <;> cases digit

/-- What an escape takes up has no backslash but the first character. -/
theorem not_mem_escapeTail {unit : CodeUnit} (denotes : escapedUnit? rest = some unit) :
    '\\' ∉ 'u' :: escapeTail rest := by
  unfold escapedUnit? at denotes
  dsimp only at denotes
  split at denotes
  · rename_i digits
    rw [List.mem_cons, escapeTail, List.mem_append]
    rintro (here | marks | member)
    · cases here
    · cases List.mem_takeWhile_imp marks
    · exact (ne_of_isHexDigit (List.all_eq_true.mp digits.2 _ member)).1 rfl
  · cases denotes

/-- **An escape and what stands behind it.** -/
theorem symbolsFrom_escape {digits : List Char} {value : Nat} (even : slashes % 2 = 0)
    (four : digits.length = 4) (all : digits.all Text.isHexDigit = true)
    (number : Text.numberIn? 16 digits = some value) :
    symbolsFrom slashes 0 ('\\' :: 'u' :: (digits ++ rest)) =
      ⟨'\\' :: 'u' :: digits, some [UInt16.ofNat value]⟩ :: symbolsFrom 0 0 rest := by
  have first : ∃ d others, digits = d :: others := List.exists_cons_of_ne_nil (by
    rintro rfl
    cases four)
  obtain ⟨d, others, same⟩ := first
  have digit : Text.isHexDigit d = true := List.all_eq_true.mp all d (same ▸ List.mem_cons_self)
  -- A hexadecimal digit is no further mark of the escape.
  have marks : (digits ++ rest).takeWhile (· == 'u') = [] := by
    rw [same, List.cons_append,
      List.takeWhile_cons_of_neg (by simpa using (ne_of_isHexDigit digit).2)]
  have behind : (digits ++ rest).dropWhile (· == 'u') = digits ++ rest := by
    rw [same, List.cons_append,
      List.dropWhile_cons_of_neg (by simpa using (ne_of_isHexDigit digit).2)]
  have taken : (digits ++ rest).take 4 = digits := by rw [← four, List.take_left]
  have denotes : escapedUnit? (digits ++ rest) = some (UInt16.ofNat value) := by
    rw [escapedUnit?, behind, taken, if_pos ⟨four, all⟩, number, Option.map_some]
  have tail : escapeTail (digits ++ rest) = digits := by
    rw [escapeTail, marks, behind, taken, List.nil_append]
  have symbol : escapeSymbol (digits ++ rest) =
      ⟨'\\' :: 'u' :: digits, some [UInt16.ofNat value]⟩ := by
    rw [escapeSymbol, denotes, tail]
  have clean := not_mem_escapeTail denotes
  rw [tail] at clean
  rw [symbolsFrom, firstSymbol_escape even, symbol]
  exact congrArg _ (symbolsFrom_skip (List.cons_ne_nil 'u' digits) clean)

end Symbols

section Escapes

/-- The number of backslashes at the end of a text. -/
def slashesAtEnd (text : List Char) : Nat :=
  (text.reverse.takeWhile (· == '\\')).length

private theorem slashesAtEnd_append_singleton (text : List Char) (c : Char) :
    slashesAtEnd (text ++ [c]) = slashesAfter (slashesAtEnd text) c := by
  rw [slashesAtEnd, List.reverse_append, List.reverse_singleton, List.singleton_append,
    slashesAfter]
  by_cases slash : c = '\\'
  · rw [List.takeWhile_cons_of_pos (by simpa using slash), if_pos slash, List.length_cons,
      slashesAtEnd]
  · rw [List.takeWhile_cons_of_neg (by simpa using slash), if_neg slash, List.length_nil]

/-- A text has an escape behind a part of it: a backslash with an even number of backslashes right
before it and a `u` behind it. -/
structure EscapeAt (text before after : List Char) : Prop where
  split : text = before ++ '\\' :: 'u' :: after
  even : slashesAtEnd before % 2 = 0

/-- An escape of a longer text begins with its first character or is one of the rest. -/
theorem forall_split_cons {c : Char} {rest : List Char} {Q : List Char → List Char → Prop} :
    (∀ before after, c :: rest = before ++ '\\' :: 'u' :: after → Q before after) ↔
      (∀ after, c = '\\' → rest = 'u' :: after → Q [] after) ∧
        ∀ before after, rest = before ++ '\\' :: 'u' :: after → Q (c :: before) after := by
  constructor
  · intro all
    exact ⟨fun after slash mark => all [] after (by rw [slash, mark]; rfl),
      fun before after split => all (c :: before) after (by rw [split]; rfl)⟩
  · rintro ⟨here, later⟩ before after split
    cases before with
    | nil =>
        obtain ⟨slash, mark⟩ := List.cons.inj split
        exact here after slash mark
    | cons d before =>
        obtain ⟨rfl, behind⟩ := List.cons.inj split
        exact later before after behind

/-- What holds of the first symbol of a source holds of an escape there, if there is one. -/
theorem firstSymbol_iff {P : Symbol → Prop} {slashes : Nat} {c : Char} {rest : List Char}
    (plain : P (plainSymbol c)) :
    P (firstSymbol slashes c rest) ↔
      ∀ after, c = '\\' → rest = 'u' :: after → slashes % 2 = 0 → P (escapeSymbol after) := by
  constructor
  · rintro first after rfl rfl even
    rwa [firstSymbol_escape even] at first
  · intro escape
    unfold firstSymbol
    split
    · rename_i after
      split
      · rename_i begins
        exact escape after begins.1 rfl begins.2
      · exact plain
    · exact plain

private theorem not_mem_take_firstSymbol (slashes : Nat) (c : Char) (rest : List Char) :
    '\\' ∉ rest.take ((firstSymbol slashes c rest).written.length - 1) := by
  unfold firstSymbol
  split
  · rename_i behind
    split
    · unfold escapeSymbol
      split
      · rename_i unit denotes
        have taken : escapeTail behind = behind.take (escapeTail behind).length :=
          List.prefix_iff_eq_take.mp ⟨_, escapeTail_append behind⟩
        rw [List.length_cons, List.length_cons, Nat.add_sub_cancel, List.take_succ_cons, ← taken]
        exact not_mem_escapeTail denotes
      · exact List.not_mem_nil
    · exact List.not_mem_nil
  · simp [plainSymbol]

/-- **The symbols of a source are its characters and its escapes.** What holds of all characters
holds of all symbols exactly if it holds of every escape. -/
theorem forall_mem_symbolsFrom_iff {P : Symbol → Prop} {front text : List Char} {skip : Nat}
    (plain : ∀ c ∈ text, P (plainSymbol c)) (inside : '\\' ∉ text.take skip) :
    (∀ symbol ∈ symbolsFrom (slashesAtEnd front) skip text, P symbol) ↔
      ∀ before after, text = before ++ '\\' :: 'u' :: after →
        slashesAtEnd (front ++ before) % 2 = 0 → P (escapeSymbol after) := by
  induction text generalizing front skip with
  | nil => simp [symbolsFrom]
  | cons c rest ih =>
      obtain ⟨here, others⟩ := List.forall_mem_cons.mp plain
      have later {skip : Nat} (inside : '\\' ∉ rest.take skip) :
          (∀ symbol ∈ symbolsFrom (slashesAfter (slashesAtEnd front) c) skip rest, P symbol) ↔
            ∀ before after, rest = before ++ '\\' :: 'u' :: after →
              slashesAtEnd (front ++ c :: before) % 2 = 0 → P (escapeSymbol after) := by
        rw [← slashesAtEnd_append_singleton, ih others inside]
        simp only [List.append_assoc, List.singleton_append]
      rw [forall_split_cons]
      cases skip with
      | zero =>
          rw [symbolsFrom, List.forall_mem_cons, firstSymbol_iff here,
            later (not_mem_take_firstSymbol _ c rest), List.append_nil]
      | succ skip =>
          rw [List.take_succ_cons, List.mem_cons, not_or] at inside
          rw [symbolsFrom, later inside.2]
          exact (and_iff_right fun after slash => absurd slash.symm inside.1).symm

/-- Every symbol of a text denotes what its character or its escape does. -/
theorem forall_mem_symbols_iff {P : Symbol → Prop} {text : String}
    (plain : ∀ c ∈ text.toList, P (plainSymbol c)) :
    (∀ symbol ∈ symbols text, P symbol) ↔
      ∀ before after, EscapeAt text.toList before after → P (escapeSymbol after) := by
  have all := @forall_mem_symbolsFrom_iff P [] text.toList 0 plain List.not_mem_nil
  exact all.trans ⟨fun each before after escape => each before after escape.split escape.even,
    fun each before after split even => each before after ⟨split, even⟩⟩

end Escapes

end Source

end ContentRouter
