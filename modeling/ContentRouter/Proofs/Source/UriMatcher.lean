import Mathlib.Data.Fintype.EquivFin
import Mathlib.Data.List.Nodup
import ContentRouter.Proofs.Template.NormalizedPath

/-!
# The URI matcher of the framework

A router hands its paths to a URI matcher of the framework, one after the other and each under an
id, and later asks for the id of a request. The matcher is no part of this library. What is known of
it is a structure (`Source.UriMatcher`): an id that it finds is that of the last call for its path,
and it finds the id of a path that a request fits, unless the path of an earlier call fits a
beginning of the request in another way.

So an id can be returned if no earlier path has an asterisk where its own path has a text after the
same beginning: the request that has new texts in place of all asterisks finds it
(`Source.UriMatcher.exists_request_of_not_rivals`).
-/

namespace ContentRouter

namespace Source

section Fitting

/-- Whether the segments of a request fit those of a registered path, in which an asterisk stands
for any text. -/
def Fits (path request : List String) : Prop :=
  List.Forall₂ (fun segment text => segment = "*" ∨ segment = text) path request

/-- A path without asterisks or with them fits itself, read as a request. -/
theorem fits_self (path : List String) : Fits path path :=
  List.forall₂_same.mpr fun _ _ => .inr rfl

/-- Only a path itself fits it if it has no asterisks. -/
theorem eq_of_fits {path request : List String} (exact : "*" ∉ path) (fits : Fits path request) :
    request = path := by
  induction fits with
  | nil => rfl
  | cons here _ ih =>
      obtain ⟨notHere, notBehind⟩ := not_or.mp fun any => exact (List.mem_cons.mpr any)
      rw [ih notBehind, here.resolve_left (Ne.symm notHere)]

/-- Whether a path takes requests away from another one: after the same beginning it has an asterisk
where the other one has a text. -/
def Rivals : List String → List String → Prop
  | first :: others, own :: rest => (first = "*" ∧ own ≠ "*") ∨ (first = own ∧ Rivals others rest)
  | _, _ => False

/-- Rivals can be told by going through both paths. -/
instance decidableRivals : ∀ other path, Decidable (Rivals other path)
  | [], _ => .isFalse id
  | _ :: _, [] => .isFalse id
  | first :: others, own :: rest =>
      haveI := decidableRivals others rest
      inferInstanceAs (Decidable ((first = "*" ∧ own ≠ "*") ∨ (first = own ∧ Rivals others rest)))

/-- The request for a path that has a text in place of every asterisk. -/
def filledWith (filler : String) (path : List String) : List String :=
  path.map fun segment => if segment = "*" then filler else segment

/-- A path fits its request. -/
theorem fits_filledWith (filler : String) (path : List String) :
    Fits path (filledWith filler path) := by
  rw [Fits, filledWith, List.forall₂_map_right_iff, List.forall₂_same]
  intro segment _
  by_cases any : segment = "*"
  · exact .inl any
  · exact .inr (if_neg any).symm

/-- Only paths that rival a path fit a beginning of its request in another way, if they do not have
the text that stands for the asterisks. -/
theorem take_eq_of_fits_filledWith {filler : String} {other path : List String} {count : Nat}
    (fresh : filler ∉ other) (free : ¬ Rivals other path)
    (fits : Fits (other.take count) ((filledWith filler path).take count)) :
    other.take count = path.take count := by
  induction other generalizing path count with
  | nil =>
      rw [List.take_nil] at fits ⊢
      have none := (List.forall₂_nil_left_iff.mp fits)
      rw [filledWith, ← List.map_take, List.map_eq_nil_iff] at none
      exact none.symm
  | cons first others ih =>
      cases count with
      | zero => rfl
      | succ count =>
          cases path with
          | nil => cases fits
          | cons own rest =>
              obtain ⟨notFirst, notOthers⟩ := not_or.mp (fun h => fresh (List.mem_cons.mpr h))
              obtain ⟨notWider, notBehind⟩ := not_or.mp free
              rw [filledWith, List.map_cons, List.take_succ_cons, List.take_succ_cons] at fits
              obtain ⟨here, behind⟩ := List.forall₂_cons.mp fits
              -- The request has the filler here, which the other path has not, or the own text.
              have same : first = own := by
                by_cases ownAny : own = "*"
                · rw [if_pos ownAny] at here
                  rcases here with any | filled
                  · rw [any, ownAny]
                  · exact absurd filled.symm notFirst
                · rw [if_neg ownAny] at here
                  exact here.resolve_left fun any => notWider ⟨any, ownAny⟩
              rw [List.take_succ_cons, List.take_succ_cons, same,
                ih notOthers (fun rivals => notBehind ⟨same, rivals⟩) behind]

end Fitting

/-- Whether a path can be registered as it stands: it has no empty segments, and no mark that stands
for numbers. -/
structure IsRegistrable (path : String) : Prop where
  whole : matcherPath path = path
  digits : '#' ∉ path.toList

/-- **What is known of a URI matcher.** All calls and all requests are for one authority. A request
stands for the segments of its path, none of which is empty. -/
structure UriMatcher where
  /-- The id of a request behind calls that register a path under an id each. -/
  code? : List (String × MatcherId) → List String → Option MatcherId
  /-- An id is that of the last call for its path. -/
  last_of_code {calls : List (String × MatcherId)} {request : List String} {id : MatcherId}
    (registrable : ∀ call ∈ calls, IsRegistrable call.1) (whole : "" ∉ request)
    (found : code? calls request = some id) :
    ∃ before path after, calls = before ++ (path, id) :: after ∧ path ∉ after.map (·.1)
  /-- If a request fits a path, the id of the last call for it is found, unless the path of an
  earlier call fits a beginning of the request and is not a beginning of this path there. -/
  code_of_fits {before after : List (String × MatcherId)} {path : String} {id : MatcherId}
    {request : List String}
    (registrable : ∀ call ∈ before ++ (path, id) :: after, IsRegistrable call.1)
    (whole : "" ∉ request) (last : path ∉ after.map (·.1)) (deep : filledSegments path ≠ [])
    (fits : Fits (filledSegments path) request)
    (first : ∀ call ∈ before, ∀ count,
      Fits ((filledSegments call.1).take count) (request.take count) →
        (filledSegments call.1).take count = (filledSegments path).take count) :
    code? (before ++ (path, id) :: after) request = some id

namespace UriMatcher

variable (matcher : UriMatcher) {before after : List (String × MatcherId)} {path : String}
  {id : MatcherId}

/-- An id that stands under one path only is not found if a later call registers the path. -/
theorem code_ne_of_overridden {request : List String}
    (registrable : ∀ call ∈ before ++ (path, id) :: after, IsRegistrable call.1)
    (whole : "" ∉ request) (later : path ∈ after.map (·.1))
    (ids : ((before ++ (path, id) :: after).map (·.2)).Nodup) :
    matcher.code? (before ++ (path, id) :: after) request ≠ some id := by
  intro found
  obtain ⟨front, other, rest, calls, last⟩ := matcher.last_of_code registrable whole found
  -- There is only one call with this id, so that both ways to cut the calls are the same.
  rw [List.map_append, List.map_cons, List.nodup_middle, List.nodup_cons, List.mem_append,
    not_or] at ids
  have cuts := congrArg (List.map (·.2)) calls
  rw [List.map_append, List.map_append, List.map_cons, List.map_cons] at cuts
  obtain ⟨fronts, _⟩ := (List.append_cons_inj_of_notMem ids.1.1 ids.1.2).mp cuts
  have lengths := congrArg List.length fronts
  rw [List.length_map, List.length_map] at lengths
  obtain ⟨_, behind⟩ := List.append_inj calls lengths
  obtain ⟨same, rfl⟩ := List.cons.inj behind
  exact last ((Prod.mk.inj same).1 ▸ later)

/-- **An id is returned for some request** if its path is registered once and no earlier path rivals
it. -/
theorem exists_request_of_not_rivals
    (registrable : ∀ call ∈ before ++ (path, id) :: after, IsRegistrable call.1)
    (last : path ∉ after.map (·.1)) (deep : filledSegments path ≠ [])
    (free : ∀ call ∈ before, ¬ Rivals (filledSegments call.1) (filledSegments path)) :
    ∃ request, "" ∉ request ∧ matcher.code? (before ++ (path, id) :: after) request = some id := by
  obtain ⟨filler, fresh⟩ := Infinite.exists_notMem_finset
    ("" :: before.flatMap (fun call => filledSegments call.1)).toFinset
  rw [List.mem_toFinset, List.mem_cons, not_or] at fresh
  obtain ⟨some, fresh⟩ := fresh
  have whole : "" ∉ filledWith filler (filledSegments path) := by
    intro empty
    obtain ⟨segment, listed, same⟩ := List.mem_map.mp empty
    split at same
    · exact some same
    · rw [same, filledSegments] at listed
      exact absurd (List.of_mem_filter listed) (by decide)
  refine ⟨_, whole, matcher.code_of_fits registrable whole last deep (fits_filledWith filler _) ?_⟩
  intro call earlier count fits
  refine take_eq_of_fits_filledWith ?_ (free call earlier) fits
  exact fun inside => fresh (List.mem_flatMap.mpr ⟨call, earlier, inside⟩)

end UriMatcher

section FirstToken

/-- The calls below a token of the first segments, with what remains of their segments. -/
def below? (token : String) : List String × MatcherId → Option (List String × MatcherId)
  | ([], _) => none
  | (first :: rest, id) => if first = token then some (rest, id) else none

/-- The token with which a walk goes on at a text: the one that was registered first of those that
accept the text. -/
def firstToken? (calls : List (List String × MatcherId)) (text : String) : Option String :=
  calls.findSome? fun call => call.1.head?.filter fun token => token = "*" ∨ token = text

/-- The walk of a request down the tree of tokens. It never comes back to try another token, and
where it ends, the last call decides. -/
def walk? : List (List String × MatcherId) → List String → Option MatcherId
  | calls, [] => (calls.reverse.find? (·.1 = [])).map (·.2)
  | calls, text :: rest =>
      (firstToken? calls text).bind fun token => walk? (calls.filterMap (below? token)) rest

variable {calls before after : List (List String × MatcherId)} {tokens request : List String}
  {id : MatcherId}

/-- Below a token are the calls that begin with it, without it. -/
theorem below?_eq_some_iff {token : String} {call rest : List String × MatcherId} :
    below? token call = some rest ↔ call = (token :: rest.1, rest.2) := by
  obtain ⟨_ | ⟨first, others⟩, id⟩ := call
  · simp [below?]
  · rw [below?]
    split
    · rename_i same
      simp [same, Prod.ext_iff, eq_comm]
    · rename_i apart
      simp [apart]

/-- A walk goes on with tokens that accept the text. -/
theorem accepts_of_firstToken? {token text : String} (led : firstToken? calls text = some token) :
    token = "*" ∨ token = text := by
  obtain ⟨_, _, accepted⟩ := List.exists_of_findSome?_eq_some led
  exact of_decide_eq_true (Option.filter_eq_some_iff.mp accepted).2

/-- A walk ends at the last call with some tokens, which the request fits. -/
theorem last_of_walk? (found : walk? calls request = some id) :
    ∃ before tokens after, calls = before ++ (tokens, id) :: after ∧
      tokens ∉ after.map (·.1) ∧ Fits tokens request := by
  -- The calls grow shorter with the request: behind a token only those that begin with it are left.
  induction request generalizing calls with
  | nil =>
      obtain ⟨⟨tokens, _⟩, last, rfl⟩ := Option.map_eq_some_iff.mp found
      obtain ⟨empty, behind, front, cut, others⟩ := List.find?_eq_some_iff_append.mp last
      refine ⟨front.reverse, tokens, behind.reverse, ?_, ?_, ?_⟩
      · rw [← List.reverse_inj, cut]
        simp
      · intro listed
        obtain ⟨call, member, same⟩ := List.mem_map.mp listed
        have apart := others call (List.mem_reverse.mp member)
        rw [same] at apart
        simp only [empty, Bool.not_true] at apart
        cases apart
      · obtain rfl := of_decide_eq_true empty
        exact .nil
  | cons text rest ih =>
      obtain ⟨token, led, deeper⟩ := Option.bind_eq_some_iff.mp found
      obtain ⟨front, tokens, behind, cut, last, fits⟩ := ih deeper
      obtain ⟨above, others, rfl, _, cut⟩ := List.filterMap_eq_append_iff.mp cut
      obtain ⟨skipped, call, after, rfl, _, here, rfl⟩ := List.filterMap_eq_cons_iff.mp cut
      obtain rfl := below?_eq_some_iff.mp here
      refine ⟨above ++ skipped, token :: tokens, after, by simp, ?_,
        .cons (accepts_of_firstToken? led) fits⟩
      intro listed
      obtain ⟨⟨_, other⟩, member, rfl⟩ := List.mem_map.mp listed
      exact last (List.mem_map.mpr ⟨(tokens, other),
        List.mem_filterMap.mpr ⟨_, member, below?_eq_some_iff.mpr rfl⟩, rfl⟩)

/-- A walk goes on with a token that accepts the text if no other token in front of it does. -/
theorem firstToken?_of_accepts {token text : String} (here : token = "*" ∨ token = text)
    (first : ∀ call ∈ before, ∀ other, other = "*" ∨ other = text →
      call.1.head? = some other → other = token) :
    firstToken? (before ++ (token :: tokens, id) :: after) text = some token := by
  have own : (some token).filter (fun token => token = "*" ∨ token = text) = some token := by
    rw [Option.filter_some, if_pos (decide_eq_true here)]
  rw [firstToken?, List.findSome?_append, List.findSome?_cons]
  dsimp only [List.head?_cons]
  rw [own]
  cases led : before.findSome? (fun call =>
      call.1.head?.filter fun token => token = "*" ∨ token = text) with
  | none => rfl
  | some other =>
      obtain ⟨call, earlier, accepted⟩ := List.exists_of_findSome?_eq_some led
      obtain ⟨head, accepts⟩ := Option.filter_eq_some_iff.mp accepted
      exact congrArg some (first call earlier other (of_decide_eq_true accepts) head)

/-- A walk follows tokens that the request fits, unless earlier tokens lead it away. -/
theorem walk?_of_fits (last : tokens ∉ after.map (·.1)) (fits : Fits tokens request)
    (first : ∀ call ∈ before, ∀ count,
      Fits (call.1.take count) (request.take count) → call.1.take count = tokens.take count) :
    walk? (before ++ (tokens, id) :: after) request = some id := by
  induction request generalizing before after tokens with
  | nil =>
      obtain rfl := List.forall₂_nil_right_iff.mp fits
      have others : after.reverse.find? (·.1 = []) = none := by
        rw [List.find?_eq_none]
        intro call member
        rw [decide_eq_true_eq]
        exact fun empty => last (List.mem_map.mpr ⟨call, List.mem_reverse.mp member, empty⟩)
      rw [walk?, List.reverse_append, List.reverse_cons, List.append_assoc, List.find?_append,
        others]
      rfl
  | cons text rest ih =>
      obtain ⟨token, others, here, behind, rfl⟩ := List.forall₂_cons_right_iff.mp fits
      have next : firstToken? (before ++ (token :: others, id) :: after) text = some token := by
        refine firstToken?_of_accepts here ?_
        intro call earlier other accepts head
        obtain ⟨further, cut⟩ := List.head?_eq_some_iff.mp head
        -- The hypothesis about beginnings of one token tells which token is asked first.
        have same := first call earlier 1 (by simpa [cut, Fits] using accepts)
        rw [cut] at same
        exact (List.cons.inj same).1
      have step : below? token (token :: others, id) = some (others, id) :=
        below?_eq_some_iff.mpr rfl
      rw [walk?, next, Option.bind_some, List.filterMap_append, List.filterMap_cons_some step]
      refine ih ?_ behind ?_
      · intro listed
        obtain ⟨call, deeper, same⟩ := List.mem_map.mp listed
        obtain ⟨_, member, cut⟩ := List.mem_filterMap.mp deeper
        obtain rfl := below?_eq_some_iff.mp cut
        exact last (List.mem_map.mpr ⟨_, member, by rw [← same]⟩)
      · intro call deeper count fitting
        obtain ⟨_, earlier, cut⟩ := List.mem_filterMap.mp deeper
        obtain rfl := below?_eq_some_iff.mp cut
        -- A beginning behind the token is a beginning that is one longer before it.
        exact (List.cons.inj (first _ earlier (count + 1) (.cons here fitting))).2

/-- The tokens of a path that can be registered: its segments, or an empty one. -/
theorem IsRegistrable.pieces_eq {path : String} (registrable : IsRegistrable path) :
    Text.pieces '/' path = filledSegments path ∨
      (filledSegments path = [] ∧ Text.pieces '/' path = [""]) := by
  by_cases root : filledSegments path = []
  · refine .inr ⟨root, ?_⟩
    rw [← registrable.whole, matcherPath_eq, root]
    rfl
  · refine .inl ?_
    have cut : Text.pieces '/' (matcherPath path) = filledSegments path :=
      Text.pieces_joinWith root fun _ => not_mem_of_mem_filledSegments
    rwa [registrable.whole] at cut

/-- As far as a request fits them, the tokens of a path are its segments: an empty token fits no
text of a request. -/
theorem IsRegistrable.take_pieces_eq_of_fits {path : String} (registrable : IsRegistrable path)
    {count : Nat} (whole : "" ∉ request)
    (fits : Fits ((Text.pieces '/' path).take count) (request.take count)) :
    (Text.pieces '/' path).take count = (filledSegments path).take count := by
  rcases registrable.pieces_eq with same | ⟨root, same⟩
  · rw [same]
  · rw [same] at fits
    cases count with
    | zero => rfl
    | succ count =>
        obtain ⟨text, _, empty, _, cut⟩ := List.forall₂_cons_left_iff.mp fits
        have inside : text ∈ request := List.mem_of_mem_take (cut ▸ List.mem_cons_self)
        obtain rfl : "" = text := by simpa using empty
        exact absurd inside whole

/-- The matcher that keeps the paths as a tree of tokens, asks them in the order of their calls and
never comes back from one of them. -/
def firstTokenMatcher : UriMatcher where
  code? calls := walk? (calls.map fun call => (Text.pieces '/' call.1, call.2))
  last_of_code := by
    intro calls request id registrable whole found
    obtain ⟨before, tokens, after, cut, last, _⟩ := last_of_walk? found
    obtain ⟨front, rest, rfl, rfl, ends⟩ := List.map_eq_append_iff.mp cut
    obtain ⟨⟨path, _⟩, behind, rfl, same, rfl⟩ := List.map_eq_cons_iff.mp ends
    obtain ⟨rfl, rfl⟩ := Prod.mk.inj same
    refine ⟨front, path, behind, rfl, fun listed => last ?_⟩
    obtain ⟨call, member, same⟩ := List.mem_map.mp listed
    rw [List.map_map]
    exact List.mem_map.mpr ⟨call, member, congrArg (Text.pieces '/') same⟩
  code_of_fits := by
    intro before after path id request registrable whole last deep fits first
    have own : Text.pieces '/' path = filledSegments path :=
      (registrable (path, id) (by simp)).pieces_eq.resolve_right fun root => deep root.1
    rw [List.map_append, List.map_cons]
    refine walk?_of_fits ?_ (own ▸ fits) ?_
    · rw [List.map_map]
      intro listed
      obtain ⟨call, member, same⟩ := List.mem_map.mp listed
      have tokens : Text.pieces '/' call.1 = Text.pieces '/' path := same
      rw [← Text.joinWith_pieces '/' path, ← tokens, Text.joinWith_pieces] at last
      exact last (List.mem_map_of_mem member)
    · intro pieces listed count fitting
      obtain ⟨call, earlier, rfl⟩ := List.mem_map.mp listed
      have known : call ∈ before ++ (path, id) :: after := by simp [earlier]
      have same := (registrable call known).take_pieces_eq_of_fits whole fitting
      dsimp only at fitting ⊢
      rw [same] at fitting
      rw [own, same]
      exact first call earlier count fitting

/-- An id is found only for requests that fit the tokens of one of its paths. -/
theorem exists_fits_of_firstTokenMatcher {calls : List (String × MatcherId)}
    (found : firstTokenMatcher.code? calls request = some id) :
    ∃ call ∈ calls, call.2 = id ∧ Fits (Text.pieces '/' call.1) request := by
  obtain ⟨before, tokens, after, cut, _, fits⟩ := last_of_walk? found
  have listed : (tokens, id) ∈ calls.map fun call => (Text.pieces '/' call.1, call.2) :=
    cut ▸ List.mem_append_right _ List.mem_cons_self
  obtain ⟨call, member, same⟩ := List.mem_map.mp listed
  obtain ⟨rfl, rfl⟩ := Prod.mk.inj same
  exact ⟨call, member, rfl, fits⟩

/-- A path with an asterisk takes the request for a later path away from it. -/
example : firstTokenMatcher.code? [("a/*", 1), ("a/b", 2)] ["a", "b"] = some 1 := by
  decide

end FirstToken

end Source

end ContentRouter
