import Mathlib.Data.Set.Function
import ContentRouter.Proofs.Routing.Contents
import ContentRouter.Proofs.Routing.Renaming

/-!
# Registering in another order

Handlers are *compatible* if no two of them serve the same requests for one operation. An empty
registry takes in compatible handlers whatever comes first, and only two things depend on the order:
which id an address gets, and how entries with equally many query pairs follow each other
(`reorder_law`).

An id of one registry is translated into the id that another one has for its address
(`Registry.translate`), which pairs their buckets if both have the same addresses.
-/

namespace ContentRouter

namespace Registration

/-- The call that offers a model for its handler. -/
def call (offer : Registration) : Call := .registerExact offer.model offer.owner

/-- What a bucket of an id has of an offer. -/
def mark (id : MatcherId) (offer : Registration) : Registration :=
  { offer with model := offer.model.withMatcherId id }

private theorem mapId_mark {offer : Registration} (unmarked : offer.model.matcherId = none)
    (name : MatcherId → MatcherId) (id : MatcherId) :
    (offer.mark id).mapId name = offer.mark (name id) := by
  rw [mapId, mark, mark, Model.mapId_withMatcherId name unmarked]

end Registration

/-- Models without ids for their handlers, no two of which serve the same requests for one
operation. -/
structure Compatible (offers : List Registration) : Prop where
  built : ∀ offer ∈ offers, offer.model.IsBuilt
  unmarked : ∀ offer ∈ offers, offer.model.matcherId = none
  apart : offers.Pairwise fun first second =>
    first.owner.operation = second.owner.operation → first.model.fullyEquals second.model = false

namespace Compatible

variable {offers others : List Registration}

/-- Built models are fully equal to each other or not at all, so that it does not matter which of
two offers comes first. -/
theorem perm (compatible : Compatible offers) (reordered : others.Perm offers) :
    Compatible others where
  built := fun offer member => compatible.built offer (reordered.mem_iff.mp member)
  unmarked := fun offer member => compatible.unmarked offer (reordered.mem_iff.mp member)
  apart := by
    have eachWay : offers.Pairwise fun first second =>
        first.owner.operation = second.owner.operation →
          first.model.fullyEquals second.model = false ∧
            second.model.fullyEquals first.model = false := by
      refine compatible.apart.imp_of_mem ?_
      intro first second member otherMember apart same
      rw [Model.fullyEquals_comm (compatible.built second otherMember)
        (compatible.built first member), and_self]
      exact apart same
    refine ((reordered.symm.pairwise_iff ?_).mp eachWay).imp fun apart same => (apart same).1
    intro first second apart same
    exact (apart same.symm).symm

private theorem of_sublist (compatible : Compatible offers) (fewer : others.Sublist offers) :
    Compatible others where
  built := fun offer member => compatible.built offer (fewer.subset member)
  unmarked := fun offer member => compatible.unmarked offer (fewer.subset member)
  apart := compatible.apart.sublist fewer

end Compatible

namespace Registry

/-- The id that another registry has for the address of an id. -/
def translate (registry other : Registry) (id : MatcherId) : MatcherId :=
  ((registry.bucket? id).bind fun bucket =>
    other.buckets.find? (·.address = bucket.address)).elim 0 (·.id)

section Translating

variable {registry other : Registry} (wellFormed : registry.WellFormed)
  (otherWellFormed : other.WellFormed)
include wellFormed otherWellFormed

private theorem translate_id {bucket partner : Bucket} (member : bucket ∈ registry.buckets)
    (partnerMember : partner ∈ other.buckets) (same : partner.address = bucket.address) :
    registry.translate other bucket.id = partner.id := by
  have found : other.buckets.find? (·.address = bucket.address) = some partner :=
    (find?_key_eq_some_iff Bucket.address otherWellFormed.distinct).mpr ⟨partnerMember, same⟩
  rw [translate, wellFormed.bucket?_eq_some member, Option.bind_some, found, Option.elim_some]

/-- **Registries with the same addresses** have their ids paired. -/
theorem bijOn_translate
    (addresses : ∀ address, address ∈ registry.buckets.map Bucket.address ↔
      address ∈ other.buckets.map Bucket.address) :
    Set.BijOn (registry.translate other) {id | id ∈ registry.buckets.map (·.id)}
      {id | id ∈ other.buckets.map (·.id)} := by
  have partner {bucket : Bucket} (member : bucket ∈ registry.buckets) :
      ∃ partner ∈ other.buckets, partner.address = bucket.address :=
    List.mem_map.mp ((addresses bucket.address).mp (List.mem_map_of_mem member))
  refine ⟨?_, ?_, ?_⟩
  · intro id listed
    obtain ⟨bucket, member, rfl⟩ := List.mem_map.mp listed
    obtain ⟨partner, partnerMember, same⟩ := partner member
    rw [translate_id wellFormed otherWellFormed member partnerMember same]
    exact List.mem_map_of_mem partnerMember
  · intro id listed otherId otherListed translated
    obtain ⟨bucket, member, rfl⟩ := List.mem_map.mp listed
    obtain ⟨rival, rivalMember, rfl⟩ := List.mem_map.mp otherListed
    obtain ⟨first, firstMember, firstSame⟩ := partner member
    obtain ⟨second, secondMember, secondSame⟩ := partner rivalMember
    rw [translate_id wellFormed otherWellFormed member firstMember firstSame,
      translate_id wellFormed otherWellFormed rivalMember secondMember secondSame] at translated
    obtain rfl := otherWellFormed.eq_of_id firstMember secondMember translated
    rw [wellFormed.eq_of_address member rivalMember (firstSame.symm.trans secondSame)]
  · intro id listed
    obtain ⟨partner, partnerMember, rfl⟩ := List.mem_map.mp listed
    obtain ⟨bucket, member, same⟩ := List.mem_map.mp
      ((addresses partner.address).mpr (List.mem_map_of_mem partnerMember))
    exact ⟨bucket.id, List.mem_map_of_mem member,
      translate_id wellFormed otherWellFormed member partnerMember same.symm⟩

end Translating

end Registry

/-- What a call brings into a registry if it is answered. -/
def Call.entry? (registry : Registry) : Call → Option Registration
  | .register _ => none
  | .registerExact model owner => some (Registration.mark (registry.idFor model) ⟨model, owner⟩)

namespace Run

/-- What an answered call registered has the id that the registry still has for its address. -/
theorem Sound.registration?_eq {run : Run} (sound : run.Sound) {step : Step}
    (member : step ∈ run.steps) (answered : ∃ id, step.answer = .ok id) :
    step.registration? = step.call.entry? run.registry := by
  obtain ⟨id, answer⟩ := answered
  have same : run.registry.idFor step.call.model = id :=
    sound.wellFormed.idFor_eq_of_label (sound.answered step member id answer)
  obtain ⟨call, _⟩ := step
  cases call with
  | register model => rfl
  | registerExact model owner =>
      dsimp only [Call.model] at same answer
      rw [Step.registration?, answer, Call.entry?, same]
      rfl

section Offers

variable {offers : List Registration}

/-- Where every offer is answered, the registrations are the offers under the ids of their
addresses. -/
theorem registrations_of_answered
    (answered : ∀ step ∈ (ofCalls (offers.map Registration.call)).steps,
      ∃ id, step.answer = .ok id) :
    (ofCalls (offers.map Registration.call)).registrations = offers.map fun offer =>
      offer.mark ((ofCalls (offers.map Registration.call)).registry.idFor offer.model) := by
  have sound := sound_ofCalls (offers.map Registration.call)
  have calls := steps_ofCalls_map_call (offers.map Registration.call)
  generalize ofCalls (offers.map Registration.call) = run at answered sound calls
  calc run.registrations
      = run.steps.filterMap fun step => step.call.entry? run.registry :=
        List.filterMap_congr fun step member =>
          sound.registration?_eq member (answered step member)
    _ = (offers.map Registration.call).filterMap (Call.entry? run.registry) := by
        rw [← calls, List.filterMap_map]
        rfl
    _ = offers.map fun offer => offer.mark (run.registry.idFor offer.model) := by
        rw [List.filterMap_map, ← List.filterMap_eq_map]
        rfl

/-- An offer is answered behind others that it is compatible with. -/
theorem registerExact_of_answered {last : Registration}
    (answered : ∀ step ∈ (ofCalls (offers.map Registration.call)).steps,
      ∃ id, step.answer = .ok id)
    (compatible : Compatible (offers ++ [last])) :
    ∃ id, ((ofCalls (offers.map Registration.call)).registry.registerExact last.model
      last.owner).1 = .ok id := by
  obtain ⟨_, _, apart⟩ := List.pairwise_append.mp compatible.apart
  rw [(sound_ofCalls _).registerExact_ok_iff, registrations_of_answered answered,
    List.forall_mem_map]
  intro offer member same
  exact apart offer member last (List.mem_singleton_self last) same

/-- **Compatible offers are all answered.** -/
theorem answered_ofCalls (compatible : Compatible offers) :
    ∀ step ∈ (ofCalls (offers.map Registration.call)).steps, ∃ id, step.answer = .ok id := by
  induction offers using List.reverseRecOn with
  | nil => exact List.forall_mem_nil _
  | append_singleton offers last ih =>
      have answered := ih (compatible.of_sublist (List.sublist_append_left _ _))
      rw [List.map_append, List.map_singleton, ofCalls_append_singleton, steps_take,
        List.forall_mem_append, List.forall_mem_singleton]
      exact ⟨answered, registerExact_of_answered answered compatible⟩

/-- Each of compatible offers is answered in its turn. -/
theorem registerExact_of_compatible (compatible : Compatible offers) :
    ∀ before offer after, offers = before ++ offer :: after →
      ∃ id, ((ofCalls (before.map Registration.call)).registry.registerExact offer.model
        offer.owner).1 = .ok id := by
  rintro before offer after rfl
  rw [List.append_cons] at compatible
  have upTo := compatible.of_sublist (List.sublist_append_left _ _)
  have earlier := upTo.of_sublist (List.sublist_append_left _ _)
  exact registerExact_of_answered (answered_ofCalls earlier) upTo

/-- A bucket has the offers of its address, marked with its id and in stable order. -/
theorem entries_of_compatible (compatible : Compatible offers) {bucket : Bucket}
    (member : bucket ∈ (ofCalls (offers.map Registration.call)).registry.buckets) :
    bucket.entries = Bucket.inOrder
      ((offers.filter (·.model.address = bucket.address)).map (Registration.mark bucket.id)) := by
  have sound := sound_ofCalls (offers.map Registration.call)
  rw [sound.contents bucket member, registrationsAt,
    registrations_of_answered (answered_ofCalls compatible), List.filter_map]
  refine congrArg Bucket.inOrder (List.map_congr_left ?_)
  intro offer here
  have same : bucket.address = offer.model.address :=
    (of_decide_eq_true (List.mem_filter.mp here).2).symm
  rw [sound.wellFormed.idFor_eq member same]

private theorem mem_addresses_iff (address : String × String) :
    address ∈ (ofCalls (offers.map Registration.call)).registry.buckets.map Bucket.address ↔
      address ∈ offers.map (·.model.address) := by
  rw [(sound_ofCalls _).addresses, List.mem_eraseDups, addresses_ofCalls, List.map_map]
  rfl

end Offers

end Run

private theorem Run.Sound.map_queryCount_falls {run : Run} (sound : run.Sound) {bucket : Bucket}
    (member : bucket ∈ run.registry.buckets) :
    (bucket.entries.map (·.model.queryCount)).Pairwise (· ≥ ·) := by
  rw [sound.contents bucket member]
  exact List.pairwise_map.mpr (Bucket.inOrder_falls _)

section Reordered

variable {offers others : List Registration} (compatible : Compatible offers)
  (reordered : others.Perm offers) {bucket partner : Bucket}
  (member : bucket ∈ (Run.ofCalls (offers.map Registration.call)).registry.buckets)
  (partnerMember : partner ∈ (Run.ofCalls (others.map Registration.call)).registry.buckets)
  (same : partner.address = bucket.address)
include compatible reordered member partnerMember same

/-- **Buckets of one address** have the same entries apart from their ids. -/
theorem Compatible.entries_perm {name : MatcherId → MatcherId}
    (named : name bucket.id = partner.id) :
    (bucket.entries.map (·.mapId name)).Perm partner.entries := by
  have renamed : (offers.filter (·.model.address = bucket.address)).map
      ((·.mapId name) ∘ Registration.mark bucket.id) =
        (offers.filter (·.model.address = bucket.address)).map
          (Registration.mark partner.id) := by
    apply List.map_congr_left
    intro offer here
    have unmarked := compatible.unmarked offer (List.mem_filter.mp here).1
    rw [Function.comp_apply, Registration.mapId_mark unmarked, named]
  rw [Run.entries_of_compatible compatible member, ← Bucket.inOrder_map_mapId,
    Run.entries_of_compatible (compatible.perm reordered) partnerMember, List.map_map, same,
    renamed]
  have here := (reordered.symm.filter (·.model.address = bucket.address)).map
    (Registration.mark partner.id)
  exact ((Bucket.inOrder_perm _).trans here).trans (Bucket.inOrder_perm _).symm

/-- Their numbers of query pairs are the same ones and fall, which leaves them no other order. -/
theorem Compatible.map_queryCount_eq {name : MatcherId → MatcherId}
    (named : name bucket.id = partner.id) :
    bucket.entries.map (·.model.queryCount) = partner.entries.map (·.model.queryCount) := by
  have counts := (compatible.entries_perm reordered member partnerMember same named).map
    (·.model.queryCount)
  rw [List.map_map] at counts
  exact List.Perm.eq_of_pairwise (fun _ _ _ _ above below => Nat.le_antisymm below above)
    ((Run.sound_ofCalls _).map_queryCount_falls member)
    ((Run.sound_ofCalls _).map_queryCount_falls partnerMember) counts

end Reordered

/-- **The law of reordering** for offers to an empty registry and the same ones in another order. -/
structure ReorderLaw (offers others : List Registration) : Prop where
  /-- Every offer is answered in its turn. -/
  answered : ∀ before offer after, offers = before ++ offer :: after →
    ∃ id, ((Run.ofCalls (before.map Registration.call)).registry.registerExact offer.model
      offer.owner).1 = .ok id
  otherAnswered : ∀ before offer after, others = before ++ offer :: after →
    ∃ id, ((Run.ofCalls (before.map Registration.call)).registry.registerExact offer.model
      offer.owner).1 = .ok id
  /-- The ids are paired. A bucket has the authority, the path and, with its ids renamed, the
  entries of its partner, and the numbers of query pairs follow each other in the same way. -/
  paired : ∃ name : MatcherId → MatcherId,
    Set.BijOn name
        {id | id ∈ (Run.ofCalls (offers.map Registration.call)).registry.buckets.map (·.id)}
        {id | id ∈ (Run.ofCalls (others.map Registration.call)).registry.buckets.map (·.id)} ∧
      ∀ bucket ∈ (Run.ofCalls (offers.map Registration.call)).registry.buckets,
        ∃ partner ∈ (Run.ofCalls (others.map Registration.call)).registry.buckets,
          partner.id = name bucket.id ∧ partner.authority = bucket.authority ∧
            partner.normalizedPath = bucket.normalizedPath ∧
            (bucket.entries.map (·.mapId name)).Perm partner.entries ∧
            bucket.entries.map (·.model.queryCount) = partner.entries.map (·.model.queryCount)

/-- **Compatible handlers may be registered in any order.** -/
theorem reorder_law {offers others : List Registration} (compatible : Compatible offers)
    (reordered : others.Perm offers) : ReorderLaw offers others := by
  have wellFormed := (Run.sound_ofCalls (offers.map Registration.call)).wellFormed
  have otherWellFormed := (Run.sound_ofCalls (others.map Registration.call)).wellFormed
  have addresses (address : String × String) :
      address ∈ (Run.ofCalls (offers.map Registration.call)).registry.buckets.map Bucket.address ↔
        address ∈
          (Run.ofCalls (others.map Registration.call)).registry.buckets.map Bucket.address := by
    rw [Run.mem_addresses_iff, Run.mem_addresses_iff]
    exact (reordered.map _).mem_iff.symm
  refine ⟨Run.registerExact_of_compatible compatible,
    Run.registerExact_of_compatible (compatible.perm reordered), _,
    Registry.bijOn_translate wellFormed otherWellFormed addresses, ?_⟩
  intro bucket member
  obtain ⟨partner, partnerMember, same⟩ :=
    List.mem_map.mp ((addresses bucket.address).mp (List.mem_map_of_mem member))
  have named :=
    Registry.translate_id wellFormed otherWellFormed member partnerMember same
  obtain ⟨authority, path⟩ := Prod.mk.inj same
  exact ⟨partner, partnerMember, named.symm, authority, path,
    compatible.entries_perm reordered member partnerMember same named,
    compatible.map_queryCount_eq reordered member partnerMember same named⟩

/-- Whether the two handlers of `/n` or the one of `/m` come first decides who gets the first id.
The one with a query pair goes before the other one either way. -/
theorem reorder_law_of_three :
    let list : Registration :=
      ⟨{ text := "n", authority := "a", normalizedPath := "/n",
         template := ⟨[.literal "n"], [], []⟩ }, ⟨"P", "list", 0, .query⟩⟩
    let search : Registration :=
      ⟨{ text := "n?k=\x7bv\x7d", authority := "a", normalizedPath := "/n",
         template := ⟨[.literal "n"], [⟨"k", .placeholder "v"⟩], [⟨"v", .parameter "k"⟩]⟩ },
        ⟨"P", "search", 1, .query⟩⟩
    let other : Registration :=
      ⟨{ text := "m", authority := "a", normalizedPath := "/m",
         template := ⟨[.literal "m"], [], []⟩ }, ⟨"P", "other", 2, .query⟩⟩
    let shown (offers : List Registration) : List (MatcherId × List String) :=
      (Run.ofCalls (offers.map Registration.call)).registry.buckets.map fun bucket =>
        (bucket.id, bucket.entries.map (·.owner.method))
    Compatible [list, search, other] ∧ [other, search, list].Perm [list, search, other] ∧
      shown [list, search, other] = [(1, ["search", "list"]), (2, ["other"])] ∧
      shown [other, search, list] = [(1, ["other"]), (2, ["search", "list"])] ∧
      ReorderLaw [list, search, other] [other, search, list] := by
  intro list search other shown
  have compatible : Compatible [list, search, other] := by
    refine ⟨?_, ?_, ?_⟩
    · intro offer member
      simp only [List.mem_cons, List.not_mem_nil, or_false] at member
      rcases member with rfl | rfl | rfl
      · exact ⟨"content", "*", "a", "n", rfl⟩
      · exact ⟨"content", "*", "a", "n?k=\x7bv\x7d", rfl⟩
      · exact ⟨"content", "*", "a", "m", rfl⟩
    · simp [list, search, other]
    · decide
  have reordered : [other, search, list].Perm [list, search, other] := by decide
  exact ⟨compatible, reordered, by decide +kernel, by decide +kernel,
    reorder_law compatible reordered⟩

end ContentRouter
