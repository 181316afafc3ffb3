import ContentRouter.Text.Characters

/-!
# TOML strings

The four forms of strings: basic strings between double quotes, in which a backslash opens an
escape, and literal strings between apostrophes, which hold what they show; both within a line, or
over several lines between three quotes each.
-/

namespace ContentRouter

namespace Toml

/-- The characters that may stand in strings and comments: no controls but the tab. -/
def isVisible (c : Char) : Bool :=
  c == '\t' || (0x20 ≤ c.toNat && c.toNat != 0x7F)

/-- The blanks within a line. -/
def isGap (c : Char) : Bool := c == ' ' || c == '\t'

/-- A line break and what follows it, if there is one. -/
def lineBreak? : List Char → Option (List Char × List Char)
  | '\n' :: rest => some (['\n'], rest)
  | '\r' :: '\n' :: rest => some (['\r', '\n'], rest)
  | _ => none

/-- What follows a line break, if there is one. -/
def afterBreak? (chars : List Char) : Option (List Char) :=
  (lineBreak? chars).map (·.2)

/-- The character that a letter behind a backslash stands for. -/
def namedEscape? : Char → Option Char
  | 'b' => some '\x08'
  | 't' => some '\t'
  | 'n' => some '\n'
  | 'f' => some '\x0c'
  | 'r' => some '\r'
  | 'e' => some '\x1b'
  | '"' => some '"'
  | '\\' => some '\\'
  | _ => none

/-- How many hexadecimal digits follow a letter behind a backslash. -/
def escapeWidth? : Char → Option Nat
  | 'x' => some 2
  | 'u' => some 4
  | 'U' => some 8
  | _ => none

/-- Reads an escape from behind its backslash: the character, and what follows. -/
def escape? : List Char → Option (Char × List Char)
  | [] => none
  | letter :: rest =>
      match escapeWidth? letter with
      | some width =>
          if (rest.take width).length = width then do
            let code ← Text.numberIn? 16 (rest.take width)
            if code < 0xD800 || (0xE000 ≤ code && code < 0x110000) then
              return (Char.ofNat code, rest.drop width)
            else none
          else none
      | none => (namedEscape? letter).map fun c => (c, rest)

/-- What follows blanks and line breaks. -/
def dropBlankLines : List Char → List Char
  | '\r' :: '\n' :: rest => dropBlankLines rest
  | c :: rest => if isGap c || c == '\n' then dropBlankLines rest else c :: rest
  | [] => []

/-- What follows a backslash at the end of a line: the next character that is no blank and no
break. -/
def afterContinuation? (chars : List Char) : Option (List Char) :=
  (afterBreak? (chars.dropWhile isGap)).map dropBlankLines

/-- Reads a basic string within a line, from behind its opening quote. -/
def basicFrom? : Nat → List Char → Option (List Char × List Char)
  | 0, _ => none
  | _ + 1, [] => none
  | _ + 1, '"' :: rest => some ([], rest)
  | fuel + 1, '\\' :: rest => do
      let (c, rest) ← escape? rest
      let (text, rest) ← basicFrom? fuel rest
      return (c :: text, rest)
  | fuel + 1, c :: rest =>
      if isVisible c then do
        let (text, rest) ← basicFrom? fuel rest
        return (c :: text, rest)
      else none

/-- Reads a literal string within a line, from behind its opening quote. -/
def literalFrom? : List Char → Option (List Char × List Char)
  | [] => none
  | '\'' :: rest => some ([], rest)
  | c :: rest =>
      if isVisible c then (literalFrom? rest).map fun (text, rest) => (c :: text, rest) else none

/-- The quotes at the end of a string over several lines: up to two of them belong to its text. -/
def closingQuotes? (quote : Char) (chars : List Char) : Option (List Char × List Char) :=
  let count := min 5 (chars.takeWhile (· == quote)).length
  if count < 3 then none else some (List.replicate (count - 3) quote, chars.drop count)

/-- Reads a string over several lines, from behind its opening quotes. Its line breaks stay as they
are. -/
def linesFrom? (quote : Char) : Nat → List Char → Option (List Char × List Char)
  | 0, _ => none
  | fuel + 1, chars =>
      match closingQuotes? quote chars with
      | some closed => some closed
      | none =>
          match lineBreak? chars with
          | some (lineBreak, rest) =>
              (linesFrom? quote fuel rest).map fun (text, rest) => (lineBreak ++ text, rest)
          | none =>
              match chars with
              | [] => none
              | c :: rest =>
                  if quote == '"' && c == '\\' then
                    match escape? rest with
                    | some (escaped, rest) =>
                        (linesFrom? quote fuel rest).map fun (text, rest) => (escaped :: text, rest)
                    | none => (afterContinuation? rest).bind (linesFrom? quote fuel)
                  else if isVisible c then
                    (linesFrom? quote fuel rest).map fun (text, rest) => (c :: text, rest)
                  else none

/-- A string over several lines without the break right behind its opening quotes. -/
def dropFirstBreak (chars : List Char) : List Char :=
  (afterBreak? chars).getD chars

/-- Reads a string within a line. -/
def lineString? (chars : List Char) : Option (String × List Char) :=
  let read :=
    match chars with
    | '"' :: rest => basicFrom? (rest.length + 1) rest
    | '\'' :: rest => literalFrom? rest
    | _ => none
  read.map fun (text, rest) => (String.ofList text, rest)

/-- **Reads a string of any form.** -/
def string? (chars : List Char) : Option (String × List Char) :=
  match chars with
  | '"' :: '"' :: '"' :: rest => linesString? '"' rest
  | '\'' :: '\'' :: '\'' :: rest => linesString? '\'' rest
  | chars => lineString? chars
where
  /-- Reads a string over several lines from behind its opening quotes. -/
  linesString? (quote : Char) (rest : List Char) : Option (String × List Char) :=
    (linesFrom? quote (rest.length + 1) (dropFirstBreak rest)).map fun (text, rest) =>
      (String.ofList text, rest)

end Toml

end ContentRouter
