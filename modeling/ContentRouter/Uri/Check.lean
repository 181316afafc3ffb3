import ContentRouter.Uri.Host

/-!
# Acceptance of absolute URIs

`Uri.check` decides whether a text is an absolute URI by the rules that browsers read URLs by, and
says why not. Only the scheme, the user information, the host and the port can be at fault: every
text is a path, a query and a fragment.
-/

namespace ContentRouter

namespace Uri

/-- The text that is looked at: white space and controls at both ends are dropped, and so are tabs
and line breaks everywhere. -/
def cleaned (chars : List Char) : List Char :=
  let isEdge := fun c : Char => c.toNat ≤ 0x20
  let trimmed := ((chars.dropWhile isEdge).reverse.dropWhile isEdge).reverse
  trimmed.filter fun c => c != '\t' && c != '\n' && c != '\r'

/-- The characters of a scheme after its first one. -/
def isSchemeChar (c : Char) : Bool :=
  Text.isLetter c || Text.isDigit c || c == '+' || c == '-' || c == '.'

/-- The scheme in lower case and the text after its colon. -/
def scheme? (chars : List Char) : Option (List Char × List Char) :=
  let name := chars.takeWhile isSchemeChar
  match name, chars.dropWhile isSchemeChar with
  | first :: _, ':' :: rest =>
      if Text.isLetter first then some (name.map Text.lower, rest) else none
  | _, _ => none

/-- The special schemes that have a host and a port. `file` is special too, and has its own
rules. -/
def specialSchemes : List String := ["http", "https", "ws", "wss", "ftp"]

/-- A slash, or the backslash that special schemes take for one. -/
def isSlash (c : Char) : Bool := c == '/' || c == '\\'

/-- The characters that end an authority. A backslash does so in special schemes only. -/
def endsAuthority (special : Bool) (c : Char) : Bool :=
  c == '/' || c == '?' || c == '#' || (special && c == '\\')

/-- Skips the user information, which ends at the last `@` of the authority. The answer says whether
any was left to keep: a lone colon counts as none. User information that is empty has to be followed
by a host. -/
def skipUserInfo (special : Bool) (chars : List Char) : Except UriFault (Bool × List Char) :=
  let authority := chars.takeWhile (!endsAuthority special ·)
  let rest := chars.drop authority.length
  if authority.contains '@' then
    let host := (authority.reverse.takeWhile (· != '@')).reverse
    let userInfo := authority.take (authority.length - host.length - 1)
    if userInfo.isEmpty && host.isEmpty && !rest.isEmpty then throw .emptyHost
    else pure (!userInfo.isEmpty && userInfo != [':'], host ++ rest)
  else pure (false, chars)

/-- The text of the host: it ends with the authority or at a colon outside brackets. `inside` says
whether a bracket is open. -/
def hostText (special inside : Bool) : List Char → List Char
  | [] => []
  | c :: rest =>
      if (c == ':' && !inside) || endsAuthority special c then []
      else
        c :: hostText special (if c == '[' then true else if c == ']' then false else inside) rest

/-- The port after the colon, up to the end of the authority. -/
def checkPort (chars : List Char) : Except UriFault Unit :=
  let digits := chars.takeWhile Text.isDigit
  let number := (Text.numberIn? 10 digits).getD 0
  match chars.drop digits.length with
  | c :: _ =>
      if number ≤ 65535 && (c == '/' || c == '\\' || c == '?' || c == '#') then pure ()
      else throw .invalidPort
  | [] => if number ≤ 65535 then pure () else throw .invalidPort

/-- User information, host and port. -/
def checkAuthority (special : Bool) (chars : List Char) : Except UriFault Unit := do
  let (hasUserInfo, chars) ← skipUserInfo special chars
  let host := hostText special false chars
  if special && host.isEmpty then throw .emptyHost
  if special then Host.checkSpecial host else Host.checkOpaque host
  match chars.drop host.length with
  | ':' :: port => if host.isEmpty then throw .emptyHost else checkPort port
  | _ => if host.isEmpty && hasUserInfo then throw .emptyHost else pure ()

/-- A drive letter in place of a host, as in `file://c:/x`. -/
def isDriveLetter : List Char → Bool
  | [letter, mark] => Text.isLetter letter && (mark == ':' || mark == '|')
  | _ => false

/-- The part of a `file` URI after its scheme. Only a host can be at fault, and there is one only
after two slashes. -/
def checkFile (chars : List Char) : Except UriFault Unit :=
  match chars with
  | a :: b :: rest =>
      let host := rest.takeWhile (!endsAuthority true ·)
      if isSlash a && isSlash b && !host.isEmpty && !isDriveLetter host then
        Host.checkSpecial host
      else pure ()
  | _ => pure ()

/-- Whether a text is an absolute URI, and if not, why. -/
def check (candidate : String) : Except UriFault Unit :=
  match scheme? (cleaned candidate.toList) with
  | none => throw .relativeWithoutBase
  | some (scheme, rest) =>
      if scheme = "file".toList then checkFile rest
      else if specialSchemes.contains (String.ofList scheme) then
        checkAuthority true (rest.dropWhile isSlash)
      else
        match rest with
        | '/' :: '/' :: authority => checkAuthority false authority
        | _ => pure ()

end Uri

end ContentRouter
