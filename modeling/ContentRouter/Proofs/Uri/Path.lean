import Mathlib.Data.List.TakeWhile
import ContentRouter.Template.Model

/-!
# The path of a URI is never at fault

A text is refused as a URI for its scheme, its user information, its host or its port. All of these
end at a slash, so a text that goes on behind a slash is judged by what stands before it: each
check of a part gives the same answer for `chars ++ more` as for `chars` once a slash is among
`chars`.

Therefore a path that has no white space and no control characters can take the place of the path
`/` in a URI that is accepted (`Uri.check_candidateUri`). White space has to be excluded because it
is dropped at the ends of a URI, and some of it everywhere.
-/

namespace ContentRouter

namespace Uri

section Stretches

variable {p : Char → Bool} {chars : List Char} {c : Char} (member : c ∈ chars) (stops : p c = false)
include member stops

private theorem dropWhile_ne_nil : chars.dropWhile p ≠ [] := by
  rw [ne_eq, List.dropWhile_eq_nil_iff]
  intro passes
  rw [passes c member] at stops
  cases stops

private theorem takeWhile_append_of_stop (more : List Char) :
    (chars ++ more).takeWhile p = chars.takeWhile p := by
  rw [List.takeWhile_append, if_neg]
  intro whole
  have rest := dropWhile_ne_nil member stops
  rw [← List.takeWhile_append_dropWhile (p := p) (l := chars), List.length_append] at whole
  exact rest (List.length_eq_zero_iff.mp (by simpa using whole))

private theorem dropWhile_append_of_stop (more : List Char) :
    (chars ++ more).dropWhile p = chars.dropWhile p ++ more := by
  rw [List.dropWhile_append, if_neg]
  rw [List.isEmpty_iff]
  exact dropWhile_ne_nil member stops

private theorem mem_dropWhile : c ∈ chars.dropWhile p := by
  rw [← List.takeWhile_append_dropWhile (p := p) (l := chars)] at member
  refine (List.mem_append.mp member).resolve_left fun taken => ?_
  rw [List.mem_takeWhile_imp taken] at stops
  cases stops

end Stretches

private theorem drop_length_takeWhile (p : Char → Bool) (chars : List Char) :
    chars.drop (chars.takeWhile p).length = chars.dropWhile p := by
  have whole : (chars.takeWhile p ++ chars.dropWhile p).drop (chars.takeWhile p).length = _ :=
    List.drop_left
  rwa [List.takeWhile_append_dropWhile] at whole

private theorem endsAuthority_slash (special : Bool) : endsAuthority special '/' = true := by
  cases special <;> rfl

section Parts

variable {special : Bool} {chars : List Char} (slash : '/' ∈ chars) (more : List Char)
include slash

/-- **User information** ends before a slash, and what it leaves still has the slash. -/
theorem skipUserInfo_append :
    skipUserInfo special (chars ++ more) =
      (skipUserInfo special chars).map fun (kept, left) => (kept, left ++ more) := by
  have stops : (!endsAuthority special '/') = false := by rw [endsAuthority_slash]; rfl
  have rest : chars.dropWhile (!endsAuthority special ·) ≠ [] := dropWhile_ne_nil slash stops
  have behind : (chars ++ more).drop (chars.takeWhile (!endsAuthority special ·)).length =
      chars.dropWhile (!endsAuthority special ·) ++ more := by
    rw [← takeWhile_append_of_stop slash stops more, drop_length_takeWhile,
      dropWhile_append_of_stop slash stops]
  unfold skipUserInfo
  dsimp only
  rw [takeWhile_append_of_stop slash stops, behind, drop_length_takeWhile,
    List.isEmpty_eq_false_iff.mpr rest,
    List.isEmpty_eq_false_iff.mpr (List.append_ne_nil_of_left_ne_nil rest more)]
  split
  · split
    · rfl
    · simp [Except.map, pure, Except.pure]
  · rfl

omit more in
private theorem slash_mem_of_skipUserInfo {kept : Bool} {left : List Char}
    (skipped : skipUserInfo special chars = .ok (kept, left)) : '/' ∈ left := by
  have stops : (!endsAuthority special '/') = false := by rw [endsAuthority_slash]; rfl
  unfold skipUserInfo at skipped
  dsimp only at skipped
  rw [drop_length_takeWhile] at skipped
  split at skipped
  · split at skipped
    · cases skipped
    · cases skipped
      exact List.mem_append_right _ (mem_dropWhile slash stops)
  · cases skipped
    exact slash

private theorem hostText_append (inside : Bool) :
    hostText special inside (chars ++ more) = hostText special inside chars := by
  induction chars generalizing inside with
  | nil => cases slash
  | cons c rest ih =>
      rw [List.cons_append, hostText, hostText]
      split
      · rfl
      · rename_i goesOn
        have other : '/' ≠ c := by
          rintro rfl
          simp [endsAuthority_slash] at goesOn
        rw [ih ((List.mem_cons.mp slash).resolve_left other)]

omit more in
private theorem slash_mem_drop_hostText (inside : Bool) :
    '/' ∈ chars.drop (hostText special inside chars).length := by
  induction chars generalizing inside with
  | nil => cases slash
  | cons c rest ih =>
      rw [hostText]
      split
      · exact slash
      · rename_i goesOn
        have other : '/' ≠ c := by
          rintro rfl
          simp [endsAuthority_slash] at goesOn
        exact ih ((List.mem_cons.mp slash).resolve_left other) _

private theorem checkPort_append : checkPort (chars ++ more) = checkPort chars := by
  have stops : Text.isDigit '/' = false := rfl
  have digits := takeWhile_append_of_stop slash stops more
  have behind : (chars ++ more).drop (chars.takeWhile Text.isDigit).length =
      chars.dropWhile Text.isDigit ++ more := by
    rw [← digits, drop_length_takeWhile, dropWhile_append_of_stop slash stops]
  obtain ⟨c, rest, found⟩ :=
    List.exists_cons_of_ne_nil (dropWhile_ne_nil (p := Text.isDigit) slash stops)
  unfold checkPort
  dsimp only
  rw [digits, behind, drop_length_takeWhile, found]
  rfl

/-- **The authority** ends before a slash. -/
theorem checkAuthority_append :
    checkAuthority special (chars ++ more) = checkAuthority special chars := by
  unfold checkAuthority
  rw [skipUserInfo_append slash]
  cases skipped : skipUserInfo special chars with
  | error fault => rfl
  | ok found =>
      obtain ⟨kept, left⟩ := found
      have inLeft := slash_mem_of_skipUserInfo slash skipped
      have inRest : '/' ∈ left.drop (hostText special false left).length :=
        slash_mem_drop_hostText inLeft false
      have short : (hostText special false left).length ≤ left.length := by
        by_contra long
        rw [List.drop_eq_nil_of_le (by omega)] at inRest
        cases inRest
      simp only [Except.map, bind, Except.bind]
      rw [hostText_append inLeft, List.drop_append_of_le_length short]
      -- The slash stands behind the host, so what follows the host is not empty.
      match rest : left.drop (hostText special false left).length with
      | [] =>
          rw [rest] at inRest
          cases inRest
      | c :: port =>
          rw [rest] at inRest
          by_cases colon : c = ':'
          · subst colon
            have inPort := (List.mem_cons.mp inRest).resolve_left (by decide)
            simp only [List.cons_append, checkPort_append inPort]
          · simp [colon]

end Parts

/-- **The scheme** ends before a slash. -/
theorem scheme?_append {chars : List Char} (slash : '/' ∈ chars) (more : List Char) :
    scheme? (chars ++ more) = (scheme? chars).map fun (scheme, rest) => (scheme, rest ++ more) := by
  have stops : isSchemeChar '/' = false := rfl
  obtain ⟨c, rest, found⟩ :=
    List.exists_cons_of_ne_nil (dropWhile_ne_nil (p := isSchemeChar) slash stops)
  unfold scheme?
  dsimp only
  rw [takeWhile_append_of_stop slash stops, dropWhile_append_of_stop slash stops, found]
  cases chars.takeWhile isSchemeChar with
  | nil => rfl
  | cons first others =>
      by_cases colon : c = ':'
      · subst colon
        cases letter : Text.isLetter first <;> simp [letter]
      · simp [colon]

/-- Whatever follows a colon is behind the scheme. -/
theorem suffix_of_scheme? {before after scheme rest : List Char}
    (found : scheme? (before ++ ':' :: after) = some (scheme, rest)) : after <:+ rest := by
  have colon : ':' :: rest = (before ++ ':' :: after).dropWhile isSchemeChar := by
    unfold scheme? at found
    dsimp only at found
    split at found
    · rename_i dropped
      split at found
      · rw [dropped, (Prod.mk.inj (Option.some.inj found)).2]
      · cases found
    · cases found
  rw [List.dropWhile_append] at colon
  split at colon
  · rw [List.dropWhile_cons_of_neg (by decide)] at colon
    obtain ⟨_, rfl⟩ := List.cons.inj colon
    exact List.suffix_refl rest
  · rename_i early
    obtain ⟨c, others, dropped⟩ := List.exists_cons_of_ne_nil (mt List.isEmpty_iff.mpr early)
    rw [dropped] at colon
    refine ⟨others ++ [':'], ?_⟩
    rw [(List.cons.inj colon).2, List.append_assoc]
    rfl

/-- The check of what is behind the scheme and its colon. -/
def checkBehind (scheme rest : List Char) : Except UriFault Unit :=
  if scheme = "file".toList then checkFile rest
  else if specialSchemes.contains (String.ofList scheme) then
    checkAuthority true (rest.dropWhile isSlash)
  else
    match rest with
    | '/' :: '/' :: authority => checkAuthority false authority
    | _ => pure ()

private theorem check_eq (candidate : String) :
    check candidate =
      match scheme? (cleaned candidate.toList) with
      | none => .error .relativeWithoutBase
      | some (scheme, rest) => checkBehind scheme rest := rfl

section Rest

variable {front : List Char} (more : List Char)

private theorem checkFile_append (long : 2 ≤ front.length) :
    checkFile (front ++ '/' :: more) = checkFile (front ++ ['/']) := by
  match front, long with
  | a :: b :: rest, _ =>
      have slash : '/' ∈ rest ++ ['/'] := by simp
      have host := takeWhile_append_of_stop (p := (!endsAuthority true ·)) slash rfl more
      rw [List.append_assoc, List.singleton_append] at host
      simp only [List.cons_append, checkFile, host]

/-- A special scheme skips slashes, and there is no authority in slashes alone. -/
theorem checkAuthority_dropWhile_append
    (accepted : checkAuthority true ((front ++ ['/']).dropWhile isSlash) = .ok ()) :
    checkAuthority true ((front ++ '/' :: more).dropWhile isSlash) = .ok () := by
  have some : ¬ (front.dropWhile isSlash).isEmpty = true := by
    rw [List.isEmpty_iff, List.dropWhile_eq_nil_iff]
    intro slashes
    rw [List.dropWhile_append_of_pos slashes] at accepted
    cases accepted
  rw [List.dropWhile_append, if_neg some] at accepted ⊢
  have slash : '/' ∈ front.dropWhile isSlash ++ ['/'] := by simp
  rw [← accepted, ← checkAuthority_append slash more, List.append_assoc, List.singleton_append]

/-- **What is behind the scheme**, if it has two characters before its last slash. -/
theorem checkBehind_append {scheme : List Char} (long : 2 ≤ front.length)
    (accepted : checkBehind scheme (front ++ ['/']) = .ok ()) :
    checkBehind scheme (front ++ '/' :: more) = .ok () := by
  unfold checkBehind at accepted ⊢
  split
  · rename_i file
    rw [if_pos file] at accepted
    rw [checkFile_append more long, accepted]
  · rename_i other
    rw [if_neg other] at accepted
    split
    · rename_i special
      rw [if_pos special] at accepted
      exact checkAuthority_dropWhile_append more accepted
    · rename_i ordinary
      rw [if_neg ordinary] at accepted
      match front, long with
      | a :: b :: rest, _ =>
          simp only [List.cons_append] at accepted ⊢
          split
          · rename_i whole
            simp only [List.cons.injEq] at whole
            obtain ⟨rfl, rfl, rfl⟩ := whole
            have slash : '/' ∈ rest ++ ['/'] := by simp
            have same : checkAuthority false (rest ++ ['/'] ++ more) = _ :=
              checkAuthority_append slash more
            rw [List.append_assoc, List.singleton_append] at same
            rw [same]
            exact accepted
          · rfl

end Rest

/-- Behind what is dropped at the beginning, visible characters stay as they are. -/
theorem exists_cleaned_append (front : List Char) :
    ∃ kept, ∀ behind, behind ≠ [] → (∀ c ∈ behind, 0x20 < c.toNat) →
      cleaned (front ++ behind) = kept ++ behind := by
  refine ⟨(front.dropWhile fun c => c.toNat ≤ 0x20).filter
    fun c => c != '\t' && c != '\n' && c != '\r', fun behind some visible => ?_⟩
  have stays {first : Char} {rest : List Char} (ahead : first ∈ behind) :
      (first :: rest).dropWhile (fun c => c.toNat ≤ 0x20) = first :: rest :=
    List.dropWhile_cons_of_neg (by simpa using visible first ahead)
  obtain ⟨first, rest, split⟩ := List.exists_cons_of_ne_nil some
  -- Nothing is trimmed from what stands behind: it begins and ends with a visible character.
  have atFront : (front ++ behind).dropWhile (fun c => c.toNat ≤ 0x20) =
      front.dropWhile (fun c => c.toNat ≤ 0x20) ++ behind := by
    rw [List.dropWhile_append, split, stays (split ▸ List.mem_cons_self)]
    split
    · rename_i nothing
      rw [List.isEmpty_iff.mp nothing, List.nil_append]
    · rfl
  have atEnd (chars : List Char) :
      (chars ++ behind).reverse.dropWhile (fun c => c.toNat ≤ 0x20) =
        (chars ++ behind).reverse := by
    obtain ⟨last, others, reversed⟩ :=
      List.exists_cons_of_ne_nil (mt List.reverse_eq_nil_iff.mp some)
    have ends : last ∈ behind := List.mem_reverse.mp (reversed ▸ List.mem_cons_self)
    rw [List.reverse_append, reversed, List.cons_append, stays ends]
  have kept : behind.filter (fun c => c != '\t' && c != '\n' && c != '\r') = behind := by
    rw [List.filter_eq_self]
    intro c member
    have above := visible c member
    simp only [Bool.and_eq_true, bne_iff_ne]
    refine ⟨⟨?_, ?_⟩, ?_⟩ <;>
    · rintro rfl
      exact absurd above (by decide)
  unfold cleaned
  dsimp only
  rw [atFront, atEnd, List.reverse_reverse, List.filter_append, kept]

/-- The characters of a candidate are those of its parts, less what is dropped from the scheme. -/
theorem exists_cleaned_candidateUri (scheme : String) {authority : String}
    (stays : ∀ c ∈ authority.toList, 0x20 < c.toNat) :
    ∃ kept, ∀ path : String, (∀ c ∈ path.toList, 0x20 < c.toNat) →
      cleaned (Model.candidateUri scheme authority ("/" ++ path)).toList =
        (kept ++ ':' :: ('/' :: '/' :: authority.toList ++ ['/'])) ++ path.toList := by
  obtain ⟨kept, keeps⟩ := exists_cleaned_append scheme.toList
  refine ⟨kept, fun path pathStays => ?_⟩
  have written : (Model.candidateUri scheme authority ("/" ++ path)).toList =
      scheme.toList ++ ("://".toList ++ authority.toList ++ "/".toList ++ path.toList) := by
    simp only [Model.candidateUri, String.toList_append, List.append_assoc]
  rw [written, keeps _ (by simp)]
  · simp
  · have marks : ∀ c ∈ "://".toList, 0x20 < c.toNat := by simp
    have slash : ∀ c ∈ "/".toList, 0x20 < c.toNat := by simp
    simp only [List.forall_mem_append]
    exact ⟨⟨⟨marks, stays⟩, slash⟩, pathStays⟩

/-- **A path in the place of the path `/`.** Whatever the scheme and the authority are, so long as
nothing is dropped from the authority and the path. -/
theorem check_candidateUri {scheme authority path : String}
    (authorityStays : ∀ c ∈ authority.toList, 0x20 < c.toNat)
    (pathStays : ∀ c ∈ path.toList, 0x20 < c.toNat)
    (accepted : check (Model.candidateUri scheme authority "/") = .ok ()) :
    check (Model.candidateUri scheme authority ("/" ++ path)) = .ok () := by
  obtain ⟨kept, candidate⟩ := exists_cleaned_candidateUri scheme authorityStays
  have slash : '/' ∈ kept ++ ':' :: ('/' :: '/' :: authority.toList ++ ['/']) := by simp
  have root := candidate "" (by simp)
  rw [String.append_empty, String.toList_empty, List.append_nil] at root
  rw [check_eq, root] at accepted
  rw [check_eq, candidate path pathStays, scheme?_append slash]
  cases found : scheme? (kept ++ ':' :: ('/' :: '/' :: authority.toList ++ ['/'])) with
  | none =>
      rw [found] at accepted
      cases accepted
  | some parts =>
      obtain ⟨scheme, rest⟩ := parts
      obtain ⟨before, rfl⟩ := suffix_of_scheme? found
      have long : 2 ≤ (before ++ '/' :: '/' :: authority.toList).length := by
        simp only [List.length_append, List.length_cons]
        omega
      rw [found, ← List.append_assoc] at accepted
      dsimp only [Option.map_some]
      rw [← List.append_assoc, List.append_assoc, List.singleton_append]
      exact checkBehind_append path.toList long accepted

end Uri

end ContentRouter
