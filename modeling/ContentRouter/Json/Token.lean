import ContentRouter.Text.Characters

/-!
# JSON tokens

A JSON text as a list of tokens. A string token keeps its content only if it denotes a text: one
with an unpaired surrogate escape is well formed, but denotes none. Numbers are checked and not
evaluated, because nothing that is read from JSON asks for a number.
-/

namespace ContentRouter

namespace Json

/-- The tokens of a JSON text. -/
inductive Token
  | openList
  | closeList
  | openObject
  | closeObject
  | comma
  | colon
  | null
  | bool
  | number
  | text (content : Option String)
  deriving DecidableEq, Repr

/-- One element of a string: a character, or a sixteen-bit unit given by its number. -/
inductive StringPart
  | char (c : Char)
  | unit (code : Nat)
  deriving DecidableEq, Repr

/-- White space between tokens. -/
def isSpace (c : Char) : Bool :=
  c == ' ' || c == '\n' || c == '\t' || c == '\r'

/-- The character that a letter behind a backslash stands for. -/
def escapedChar? : Char → Option Char
  | '"' => some '"'
  | '\\' => some '\\'
  | '/' => some '/'
  | 'b' => some '\x08'
  | 'f' => some '\x0c'
  | 'n' => some '\n'
  | 'r' => some '\r'
  | 't' => some '\t'
  | _ => none

/-- Reads the elements of a string up to the closing quote, and hands on what follows it. -/
def stringParts : List Char → Option (List StringPart × List Char)
  | [] => none
  | '"' :: rest => some ([], rest)
  | '\\' :: 'u' :: a :: b :: c :: d :: rest => do
      let code ← Text.numberIn? 16 [a, b, c, d]
      let (parts, rest) ← stringParts rest
      return (.unit code :: parts, rest)
  | '\\' :: letter :: rest => do
      let c ← escapedChar? letter
      let (parts, rest) ← stringParts rest
      return (.char c :: parts, rest)
  | c :: rest =>
      if c.toNat < 0x20 then none
      else do
        let (parts, rest) ← stringParts rest
        return (.char c :: parts, rest)

/-- A unit that opens a surrogate pair. -/
def isLeading (code : Nat) : Bool := 0xD800 ≤ code && code < 0xDC00

/-- A unit that closes a surrogate pair. -/
def isTrailing (code : Nat) : Bool := 0xDC00 ≤ code && code < 0xE000

/-- The characters that the elements of a string denote, unless a surrogate is unpaired. -/
def charsOfParts : List StringPart → Option (List Char)
  | [] => some []
  | .char c :: rest => (charsOfParts rest).map (c :: ·)
  | .unit first :: .unit second :: rest =>
      if isLeading first then
        if isTrailing second then
          (charsOfParts rest).map
            (Char.ofNat (0x10000 + (first - 0xD800) * 0x400 + (second - 0xDC00)) :: ·)
        else none
      else if isTrailing first then none
      else (charsOfParts (.unit second :: rest)).map (Char.ofNat first :: ·)
  | .unit code :: rest =>
      if isLeading code || isTrailing code then none
      else (charsOfParts rest).map (Char.ofNat code :: ·)

/-- Drops digits, of which there has to be at least one. -/
def dropDigits? (chars : List Char) : Option (List Char) :=
  match chars with
  | c :: rest => if Text.isDigit c then some (rest.dropWhile Text.isDigit) else none
  | [] => none

/-- Drops the fraction of a number, if there is one. -/
def dropFraction? : List Char → Option (List Char)
  | '.' :: rest => dropDigits? rest
  | rest => some rest

/-- Drops the exponent of a number, if there is one. -/
def dropExponent? : List Char → Option (List Char)
  | c :: rest =>
      if c == 'e' || c == 'E' then
        match rest with
        | '+' :: rest => dropDigits? rest
        | '-' :: rest => dropDigits? rest
        | rest => dropDigits? rest
      else some (c :: rest)
  | [] => some []

/-- Drops the digits of a number in front of its fraction. A leading zero stands alone. -/
def dropWhole? : List Char → Option (List Char)
  | '0' :: rest => some rest
  | rest => dropDigits? rest

/-- Drops a number without its sign. -/
def dropNumber? (chars : List Char) : Option (List Char) := do
  let rest ← dropWhole? chars
  let rest ← dropFraction? rest
  dropExponent? rest

/-- Reads one token, which may not be preceded by white space. -/
def token? : List Char → Option (Token × List Char)
  | '[' :: rest => some (.openList, rest)
  | ']' :: rest => some (.closeList, rest)
  | '{' :: rest => some (.openObject, rest)
  | '}' :: rest => some (.closeObject, rest)
  | ',' :: rest => some (.comma, rest)
  | ':' :: rest => some (.colon, rest)
  | 'n' :: 'u' :: 'l' :: 'l' :: rest => some (.null, rest)
  | 't' :: 'r' :: 'u' :: 'e' :: rest => some (.bool, rest)
  | 'f' :: 'a' :: 'l' :: 's' :: 'e' :: rest => some (.bool, rest)
  | '"' :: rest => do
      let (parts, rest) ← stringParts rest
      return (.text ((charsOfParts parts).map String.ofList), rest)
  | '-' :: rest => do return (.number, ← dropNumber? rest)
  | rest => do return (.number, ← dropNumber? rest)

/-! ## Reading goes on

What follows a token is shorter than the text that begins with it. -/

private theorem length_stringParts {chars : List Char} {parts : List StringPart} {rest : List Char}
    (read : stringParts chars = some (parts, rest)) : rest.length < chars.length := by
  fun_induction stringParts chars generalizing parts rest with
  | case1 => simp at read
  | case2 => simp_all
  | case3 a b c d others ih =>
      simp only [Option.bind_eq_bind, Option.bind_eq_some_iff, Option.pure_def,
        Option.some.injEq, Prod.mk.injEq] at read
      obtain ⟨_, _, ⟨_, _⟩, inner, rfl, rfl⟩ := read
      have shorter := ih inner
      simp only [List.length_cons]
      omega
  | case4 letter others _ ih =>
      simp only [Option.bind_eq_bind, Option.bind_eq_some_iff, Option.pure_def,
        Option.some.injEq, Prod.mk.injEq] at read
      obtain ⟨_, _, ⟨_, _⟩, inner, rfl, rfl⟩ := read
      have shorter := ih inner
      simp only [List.length_cons]
      omega
  | case5 => simp at read
  | case6 c others _ _ _ _ ih =>
      simp only [Option.bind_eq_bind, Option.bind_eq_some_iff, Option.pure_def,
        Option.some.injEq, Prod.mk.injEq] at read
      obtain ⟨⟨_, _⟩, inner, rfl, rfl⟩ := read
      have shorter := ih inner
      simp only [List.length_cons]
      omega

private theorem length_dropDigits? {chars rest : List Char} (read : dropDigits? chars = some rest) :
    rest.length < chars.length := by
  cases chars with
  | nil => simp [dropDigits?] at read
  | cons c others =>
      simp only [dropDigits?, Option.ite_none_right_eq_some, Option.some.injEq] at read
      obtain ⟨_, rfl⟩ := read
      have kept := (List.dropWhile_sublist (l := others) Text.isDigit).length_le
      simp only [List.length_cons]
      omega

private theorem length_dropFraction? {chars rest : List Char}
    (read : dropFraction? chars = some rest) :
    rest.length ≤ chars.length := by
  unfold dropFraction? at read
  split at read
  · have shorter := length_dropDigits? read
    simp only [List.length_cons]
    omega
  · simp_all

private theorem length_dropExponent? {chars rest : List Char}
    (read : dropExponent? chars = some rest) :
    rest.length ≤ chars.length := by
  unfold dropExponent? at read
  split at read
  · split at read
    · split at read <;>
      · have shorter := length_dropDigits? read
        simp only [List.length_cons] at *
        omega
    · simp_all
  · simp_all

private theorem length_dropWhole? {chars rest : List Char} (read : dropWhole? chars = some rest) :
    rest.length < chars.length := by
  unfold dropWhole? at read
  split at read
  · simp_all
  · exact length_dropDigits? read

private theorem length_dropNumber? {chars rest : List Char} (read : dropNumber? chars = some rest) :
    rest.length < chars.length := by
  simp only [dropNumber?, Option.bind_eq_bind, Option.bind_eq_some_iff] at read
  obtain ⟨whole, isWhole, fraction, isFraction, isExponent⟩ := read
  have wholeShort := length_dropWhole? isWhole
  have fractionShort := length_dropFraction? isFraction
  have exponentShort := length_dropExponent? isExponent
  omega

private theorem length_token? {chars : List Char} {token : Token} {rest : List Char}
    (read : token? chars = some (token, rest)) : rest.length < chars.length := by
  unfold token? at read
  split at read
  case h_10 others =>
    simp only [Option.bind_eq_bind, Option.bind_eq_some_iff, Option.pure_def,
      Option.some.injEq, Prod.mk.injEq] at read
    obtain ⟨⟨_, _⟩, inner, _, rfl⟩ := read
    have shorter := length_stringParts inner
    simp only [List.length_cons]
    omega
  case h_11 others =>
    simp only [Option.bind_eq_bind, Option.bind_eq_some_iff, Option.pure_def,
      Option.some.injEq, Prod.mk.injEq] at read
    obtain ⟨_, inner, _, rfl⟩ := read
    have shorter := length_dropNumber? inner
    simp only [List.length_cons]
    omega
  case h_12 =>
    simp only [Option.bind_eq_bind, Option.bind_eq_some_iff, Option.pure_def,
      Option.some.injEq, Prod.mk.injEq] at read
    obtain ⟨_, inner, _, rfl⟩ := read
    exact length_dropNumber? inner
  all_goals
    simp only [Option.some.injEq, Prod.mk.injEq] at read
    obtain ⟨_, rfl⟩ := read
    simp only [List.length_cons]
    omega

/-- Reads a text as tokens. -/
def tokens? (chars : List Char) : Option (List Token) :=
  match chars with
  | [] => some []
  | c :: others =>
      if isSpace c then tokens? others
      else
        match read : token? (c :: others) with
        | none => none
        | some (token, rest) =>
            have _shorter := length_token? read
            (tokens? rest).map (token :: ·)
termination_by chars.length
decreasing_by
  · exact Nat.lt_succ_self _
  · exact _shorter

end Json

end ContentRouter
