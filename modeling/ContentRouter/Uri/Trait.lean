import ContentRouter.Text.Pieces

/-!
# Traits of characters in labels

What the rules for labels have to know of a character (Unicode 17): in which direction it is
written, whether it is a mark, and how it is joined to the letters beside it. The traits are those
of the characters that a domain name may contain.
-/

namespace ContentRouter

namespace Domain

/-- The direction in which a character is written, or what it does to the direction. -/
inductive Direction
  | leftToRight
  | rightToLeft
  | arabicLetter
  | arabicNumber
  | europeanNumber
  | europeanSeparator
  | europeanTerminator
  | commonSeparator
  | nonspacingMark
  | boundaryNeutral
  | otherNeutral
  /-- The separators, which no label contains. -/
  | separator
  deriving DecidableEq, Repr

/-- How a letter is joined to the letters beside it. -/
inductive Joining
  | none
  | left
  | right
  | dual
  | causing
  | transparent
  deriving DecidableEq, Repr

/-- The traits of a character. -/
structure Trait where
  direction : Direction := .leftToRight
  isMark : Bool := false
  joining : Joining := .none
  deriving DecidableEq, Repr

/-- The runs of the traits: how many code points, in hexadecimal, and their direction; behind it a
`+` for marks, and the way of joining. -/
def traitWords : String := "
  9:BN 1:S 1:B 1:S 1:WS 1:B E:BN 3:B 1:S 1:WS 2:ON 3:ET 5:ON 1:ES 1:CS 1:ES 2:CS A:EN 1:CS 26:ON
  1A:L 4:ON 22:BN 1:ON 4:ET A:ON 6:ET 29:ON 18:L 1:ON 1C1:L 2:ON 7:L E:ON 2:L 1C:ON 1:L 11:ON
  71:NSM+/T 4:L 2:ON 7F:L 2:ON 8B:L 8:NSM+/T FF:L 5:ON 2:ET 2D:NSM+/T 1:R 1:NSM+/T 1:R 2:NSM+/T
  1:R 2:NSM+/T 1:R 9:NSM+/T 36:R 2:ON 1:AL 2:ET 1:AL 1:CS 1:AL 2:ON B:NSM+/T 5:AL 1:AL/D 1:AL
  4:AL/R 1:AL/D 1:AL/R 1:AL/D 1:AL/R 5:AL/D 4:AL/R D:AL/D 1:AL/C 7:AL/D 1:AL/R 2:AL/D 15:NSM+/T
  A:AN 1:ET 2:AN 1:AL 2:AL/D 1:NSM+/T 3:AL/R 5:AL F:AL/D 12:AL/R 26:AL/D 1:AL/R 2:AL/D 9:AL/R
  1:AL/D 1:AL/R 1:AL/D 1:AL/R 2:AL/D 2:AL/R 1:AL 1:AL/R 8:NSM+/T 1:ON 6:NSM+/T 2:AL 2:NSM+/T 1:ON
  4:NSM+/T 2:AL/R A:EN 3:AL/D 2:AL 1:AL/D 10:AL 1:AL/R 1:NSM+/T 3:AL/D 5:AL/R 4:AL/D 1:AL/R 9:AL/D
  1:AL/R 1:AL/D 1:AL/R 1:AL/D 1:AL/R 2:AL/D 1:AL/R 1D:NSM+/T 1:AL/R B:AL/D 3:AL/R F:AL/D 2:AL/R
  4:AL/D 1:AL/R 1:AL/D 2:AL/R 3:AL/D 2:AL/R 6:AL/D 26:AL B:NSM+/T F:AL A:R 21:R/D 9:NSM+/T 2:R
  4:ON 3:R/C 1:NSM+/T 18:R 4:NSM+/T 1:R 9:NSM+/T 1:R 3:NSM+/T 1:R 7:NSM+/T 10:R 1:R/R 5:R/D 2:R/R
  1:R/D 1:R/R A:R/D 1:R/R 1:R/D 3:R/R 5:NSM+/T 2:R 1:AL/D 1:AL 4:AL/D 1:AL 1:AL/R 1:AL/D 1A:AL/R
  3:AL/C 1:AL/D 2:AL 5:AL/D 1:AL/R 8:AL/D 9:NSM+/T A:AL/D 3:AL/R 1:AL 1:AL/R 2:AL/D 2:AL/R 6:AL/D
  1:AL/R F:AL/D 1:AL 39:NSM+/T 1:L+ 36:L 1:NSM+/T 1:L+ 1:NSM+/T 1:L 3:L+ 8:NSM+/T 4:L+ 1:NSM+/T
  2:L+ 1:L F:NSM+/T 2:L 2:NSM+/T 1D:L 1:NSM+/T 3:L+ 37:L 1:NSM+/T 1:L 3:L+ 6:NSM+/T 6:L+ 1:NSM+/T
  9:L 9:L+ 2:L 4:NSM+/T C:L 2:ET 7:L 1:ET 2:L 5:NSM+/T 2:L+ 37:L 2:NSM+/T 3:L+ 1B:NSM+/T 14:L
  2:NSM+/T 3:L 1:NSM+/T B:L 2:NSM+/T 2:L+ 37:L 1:NSM+/T 1:L 3:L+ 8:NSM+/T 4:L+ 3:NSM+/T 12:L
  4:NSM+/T B:L 8:ET 1:L 8:NSM+/T 3:L+ 37:L 1:NSM+/T 1:L 1:L+ 1:NSM+/T 1:L+ 6:NSM+/T 6:L+ A:NSM+/T
  8:L+ 3:L 4:NSM+/T 1C:L 1:NSM+/T 3B:L 2:L+ 1:NSM+/T C:L+ 3:NSM+/T 7:L F:L+ D:L 6:ON 1:ET 6:ON
  1:NSM+/T 3:L+ 1:NSM+/T 37:L 1:NSM+/T 1:L 3:NSM+/T 5:L+ 12:NSM+/T A:L 4:NSM+/T 12:L 7:ON 2:L
  1:NSM+/T 2:L+ 38:L 1:NSM+/T 1:L 1:L+ 1:L+/T 6:L+ 1:L+/T 5:L+ 9:NSM+/T 7:L+ 6:L 4:NSM+/T D:L D:L+
  2:NSM+/T 2:L+ 37:L 2:NSM+/T 1:L 3:L+ 5:NSM+/T 7:L+ 1:NSM+/T 9:L 1:L+ A:L 4:NSM+/T 1B:L 1:NSM+/T
  3:L+ 45:L 5:NSM+/T 3:L+ 6:NSM+/T E:L+ C:L 2:L+ 3D:L 1:NSM+/T 2:L B:NSM+/T 1:ET 7:L 8:NSM+/T 62:L
  1:NSM+/T 2:L 9:NSM+/T B:L 8:NSM+/T 48:L 2:NSM+/T 1B:L 1:NSM+/T 1:L 1:NSM+/T 1:L 1:NSM+/T 4:ON
  2:L+ 31:L E:NSM+/T 1:L+ 5:NSM+/T 1:L 2:NSM+/T 5:L 31:NSM+/T 8:L 1:NSM+/T 64:L 2:L+ 4:NSM+/T 1:L+
  6:NSM+/T 1:L+ 2:NSM+/T 2:L+ 2:NSM+/T 17:L 2:L+ 2:NSM+/T 4:L 3:NSM+/T 1:L 3:L+ 2:L 7:L+ 3:L
  4:NSM+/T D:L 1:NSM+/T 2:L+ 2:NSM+/T 6:L+ 1:NSM+/T 1:L 1:L+ A:L 3:L+ 1:NSM+/T 2BF:L 3:NSM+/T 30:L
  10:ON 60:L 1:ON 29A:L 5:ON 72:L 3:NSM+/T A:L+ 13:L 2:NSM+/T 1:L+ 1D:L E:NSM+/T 12:L E:NSM+/T
  36:L 1:L+ 7:NSM+/T 8:L+ 1:NSM+/T 2:L+ B:NSM+/T 7:L 1:ET 1:L 3:NSM+/T 10:L 17:ON 1:ON/D 2:ON
  6:ON/C 10:L 60:L/D 5:L 2:NSM+/T 22:L/D 1:NSM+/T 6:L/D 70:L 3:NSM+/T 4:L+ 2:NSM+/T 9:L+ 1:NSM+/T
  6:L+ 7:NSM+/T 6:ON 98:L 22:ON 17:L 2:NSM+/T 2:L+ 3:NSM+/T 37:L 1:L+ 1:NSM+/T 1:L+ 9:NSM+/T 1:L+
  1:NSM+/T 2:L+ 8:NSM+/T 6:L+ D:NSM+/T 30:L 54:NSM+/T 1:L+ 2F:L 1:NSM+/T 1:L+ 5:NSM+/T 1:L+
  1:NSM+/T 5:L+ 1:NSM+/T 2:L+ 26:L 9:NSM+/T C:L 2:NSM+/T 1:L+ 1E:L 1:L+ 4:NSM+/T 2:L+ 2:NSM+/T
  1:L+ 3:NSM+/T 38:L 1:NSM+/T 1:L+ 2:NSM+/T 3:L+ 1:NSM+/T 1:L+ 3:NSM+/T A:L+ 28:L 8:L+ 8:NSM+/T
  2:L+ 5:NSM+/T 95:L 3:NSM+/T 1:L D:NSM+/T 1:L+ 7:NSM+/T 4:L 1:NSM+/T 6:L 1:NSM+/T 2:L 1:L+
  2:NSM+/T C6:L 41:NSM+/T 20B:L 1:BN 3:BN/C 20:ON 5:ET F:ON 1:CS 5B:ON 30:ET 34:NSM+/T 2A:ON C:ET
  14:ON 3C:L 88:ON 1:ES 1:ET 122:ON 45:L 1A:ON 1:L 316:ON 1:L 153:ON 100:L 330:ON B5:L 7:ON 3:L
  4:NSM+/T 6:L 7:ON 7F:L 1:NSM+/T 60:L 20:NSM+/T 205:ON 3:L 19:ON 9:L 4:NSM+/T 2:L+ 1:ON 6:L 4:ON
  2:L 4:ON 58:L 4:NSM+/T 3:L 1:ON 5A:L 1:ON C4:L 30:ON 1BD0:L 40:ON 5690:L 40:ON 13D:L 3:ON 5F:L
  4:NSM+/T 1:ON A:NSM+/T 3:ON 1D:L 2:NSM+/T 50:L 2:NSM+/T E:L 23:ON 65:L 1:ON 79:L 1:NSM+/T 3:L
  1:NSM+/T 4:L 1:NSM+/T 17:L 2:L+ 2:NSM+/T 1:L+ 4:ON 4:NSM+/T 8:L 8:ET 32:L/D 1:L/L 1:L C:ON 2:L+
  32:L 10:L+ A:NSM+/T 12:L 12:NSM+/T D:L 1:NSM+/T 26:L 8:NSM+/T 19:L B:NSM+/T D:L+ 21:L 3:NSM+/T
  1:L+ 2F:L 1:NSM+/T 2:L+ 4:NSM+/T 2:L+ 2:NSM+/T 3:L+ 24:L 1:NSM+/T 43:L 6:NSM+/T 2:L+ 2:NSM+/T
  2:L+ B:NSM+/T 3:L 1:NSM+/T 8:L 1:NSM+/T 3:L+ 2B:L 1:L+ 1:NSM+/T 1:L+ 32:L 1:NSM+/T 1:L 3:NSM+/T
  2:L 2:NSM+/T 5:L 2:NSM+/T 1:L 1:NSM+/T 29:L 1:L+ 2:NSM+/T 2:L+ 5:L 1:L+ B:NSM+/T 69:L 56:ON 23:L
  2:L+ 1:NSM+/T 2:L+ 1:NSM+/T 2:L+ 1:L 1:L+ 3:NSM+/T 4F2E:L 94:NSM+/T 11:AL 25D:ON 25:NSM+/T 2E:ON
  18D:AL 101:L 1:ON 3E:L 4D:ON 3:L 40:ON 2D:L 83:NSM+/T 60:L 1:NSM+/T 1F:EN 76:L A:NSM+/T 480:L
  11F:R 1:ON E1:R F:NSM+/T 28:R 8:NSM+/T 80:R 5:R/D 1:R/R 1:R 1:R/R 1:R 2:R/R 2:R 1:R/L 5:R/R
  4:R/D 1:R/L 5:R/D 1:R/R 3:R/D 1:R/R 2:R 1:R/R 6:NSM+/T 4:R/D 1:R/R 49:R 7:ON 40:R 1:R/D 1:R/R
  1:R/D 3:R/R 3:R/D 1:R/R 2:R/D 1:R/R 1:R/D 2:R/R 1:R/D 8:R/R 10:R 4:R/R 2:R/D 151:R 1:AL/L
  21:AL/D 1:AL/R 1:AL/D C:NSM+/T 1A:AN 1F:R 5:NSM+/T 1:ON F1:R 20:AN 2B:R 2:NSM+/T 15:R 1:AL/R
  2:AL/D 1:AL A:AL/D 2A:ON 6:NSM+/T 30:R 3:AL/D 1:AL/R 11:AL/D 1:AL B:NSM+/T 3:AL/D 1:AL/R 1B:AL
  4:R/D 2:R/R C:R/D 4:NSM+/T 2A:R 1:R/D 1:R 2:R/D 3:R/R 1:R 1:R/D 2:R/R 2:R/D 1:R/R 2:R/D 1:R
  1:R/D 2:R/R 1:R/D 4:R 1:R/R 1:R/D 15:R/L 20:R 1:L+ 1:NSM+/T 1:L+ 35:L F:NSM+/T B:L 14:ON A:L
  1:NSM+/T 2:L 2:NSM+/T A:L 3:NSM+/T 1:L+ 2D:L 3:L+ 4:NSM+/T 2:L+ 2:NSM+/T 7:L E:NSM+/T 30:L
  3:NSM+/T 24:L 5:NSM+/T 1:L+ 9:NSM+/T F:L 2:L+ 2C:L 1:NSM+/T C:L 2:NSM+/T 1:L+ 30:L 3:L+ 9:NSM+/T
  2:L+ 8:L 4:NSM+/T 1:L 1:L+ 1:NSM+/T 5C:L 3:L+ 3:NSM+/T 2:L+ 1:NSM+/T 1:L+ 2:NSM+/T 6:L 1:NSM+/T
  2:L 3F:NSM+/T 5F:L 1:NSM+/T 3:L+ D:NSM+/T 10:L 2:NSM+/T 3:L+ 36:L 2:NSM+/T 1:L 2:L+ 1:NSM+/T
  F:L+ 7:L 6:L+ 5:L 4:L+ 1A:NSM+/T 38:L 3:L+ 7:NSM+/T C:L+ 1:NSM+/T 1:L+ 1:NSM+/T 1:L 1:NSM+/T E:L
  1F:NSM+/T 35:L 3:L+ 8:NSM+/T 2:L+ 3:NSM+/T 1:L+ 1:NSM+/T 17:L 1:NSM+/T 51:L 3:L+ 6:NSM+/T 1:L+
  1:NSM+/T 4:L+ 2:NSM+/T 1:L+ 2:NSM+/T EB:L 3:L+ 6:NSM+/T 4:L+ 2:NSM+/T 1:L+ 2:NSM+/T 1B:L
  24:NSM+/T 30:L 3:L+ 8:NSM+/T 2:L+ 1:NSM+/T 1:L+ 2:NSM+/T 1F:L 20:ON 2B:L 1:NSM+/T 1:L+ 1:NSM+/T
  2:L+ 6:NSM+/T 1:L+ 1:NSM+/T 65:L 1:NSM+/T 1:L+ 1:NSM+/T 2:L+ 4:NSM+/T 1:L+ 9:NSM+/T FC:L 3:L+
  9:NSM+/T 1:L+ 2:NSM+/T F5:L B:L+ 2:NSM+/T 1:L+ 1:NSM+/T 1:L 1:L+ 1:L 1:L+ 1:NSM+/T 8D:L 3:L+
  8:NSM+/T 4:L+ 1:NSM+/T 3:L 1C:L+ 1:L 6:NSM+/T 2:L+/T 2:NSM+/T 28:L 6:NSM+/T 1:L+ 1:L 4:NSM+/T
  8:L 9:NSM+/T 1:L 6:NSM+/T 2:L+ 3:NSM+/T 2E:L D:NSM+/T 1:L+ 2:NSM+/T C6:L 1:NSM+/T 1:L+ 3:NSM+/T
  1:L+ 1:NSM+/T 59:L+ 6F:L 1:L+ E:NSM+/T 1:L+ 1:L+/T 52:L 17:NSM+/T 1:L+ 7:NSM+/T 1:L+ 2:NSM+/T
  1:L+ 4B:NSM+/T 31:L 15:NSM+/T 1:L 9:NSM+/T 3A:L 6:L+ 3:NSM+/T 2:L+ 1:NSM+/T 1:L+ 1:NSM+/T 15B:L
  2:NSM+/T 2:L+ 9:L 2:NSM+/T 1:L 1:L+ 30:L 2:L+ 8:NSM+/T 2:L+ 1:NSM+/T 1:L+ 1:NSM+/T 17:L
  56:NSM+/T 25:L 8:ON 4:ET 1E:ON 1441:L 1:NSM+/T 6:L 19:NSM+/T 2CBE:L C:NSM+/T 3:L+ 3:NSM+/T 9C0:L
  5:NSM+/T 3B:L 7:NSM+/T 418:L 1:NSM+/T 1:L 3E:L+ 4:NSM+/T 4F:L 1:ON 1:L C:NSM+/T 2:L+ 4CAB:L
  2:NSM+/T F61:L 300:ON 50:NSM+/T 215:L 2:L+ 3:NSM+/T 3:L E:L+ 8:NSM+/T 2:L 7:NSM+/T 1E:L 4:NSM+/T
  3B:L 59:ON 3:NSM+/T 7B:ON 40:L 60:ON 6A0:L 37:NSM+/T 4:L 32:NSM+/T 8:L 1:NSM+/T E:L 1:NSM+/T
  16:L 465:NSM+/T 100:L 100:NSM+/T 30:L 7:NSM+/T 177:L 12:NSM+/T 2C:L 4:NSM+/T F:L 1D1:ET 1C:L
  4:NSM+/T FE:L 2:NSM+/T F3:L 1:NSM+/T 2:L 1:NSM+/T 7:L 2:NSM+/T 5:L 9:NSM+/T 102:L D0:R 52:NSM+/T
  22:R/D 7:NSM+/T 5:R/T 321:R 27F:AL 260:ON 1D:L 3:ON 3D:L 39:ON 7A:L DA0:ON F0000:L"

/-- The direction of a name in the table. -/
def direction? : String → Option Direction
  | "L" => some .leftToRight
  | "R" => some .rightToLeft
  | "AL" => some .arabicLetter
  | "AN" => some .arabicNumber
  | "EN" => some .europeanNumber
  | "ES" => some .europeanSeparator
  | "ET" => some .europeanTerminator
  | "CS" => some .commonSeparator
  | "NSM" => some .nonspacingMark
  | "BN" => some .boundaryNeutral
  | "ON" => some .otherNeutral
  | "B" | "S" | "WS" => some .separator
  | _ => none

/-- The way of joining of a name in the table. -/
def joining? : String → Option Joining
  | "L" => some .left
  | "R" => some .right
  | "D" => some .dual
  | "C" => some .causing
  | "T" => some .transparent
  | _ => none

/-- Reads the traits of a run. -/
def trait? (text : List Char) : Option Trait := do
  let (name, joining) := text.span (· != '/')
  let direction ← direction? (String.ofList (name.filter (· != '+')))
  let joining ← if joining.isEmpty then some .none else joining? (String.ofList (joining.drop 1))
  return { direction, isMark := name.contains '+', joining }

/-- Reads a run of the traits. -/
def traitRun? (word : List Char) : Option (Nat × Trait) :=
  match Text.splitChars ':' word with
  | [count, traits] => do return (← Text.numberIn? 16 count, ← trait? traits)
  | _ => none

/-- The traits of all characters. -/
def traits : Text.Runs Trait := Text.Runs.ofText traitRun? traitWords

/-- The traits of a character. -/
def traitOf (c : Char) : Trait := traits.valueOf {} c

end Domain

end ContentRouter
