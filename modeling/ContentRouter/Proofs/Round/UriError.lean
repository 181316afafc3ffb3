import ContentRouter.Proofs.Binding.Acceptance
import ContentRouter.Proofs.Round.Authority
import ContentRouter.Proofs.Template.Authority

/-!
# Errors about URIs

Both an authority and a template are tried as parts of a URI, and both can be refused. But a
template is tried only under an authority that was accepted before with the path `/`, and no path
whose characters are allowed changes that (`Uri.check_candidateUri`). So a URI that is refused is
reported once, on the class, and never on its handlers (`Round.uriError_law`).

Diagnostics are told apart by what they say. Messages about a refused URI end with the reason for
it, and already the last two characters tell them from all other messages of their kind.
-/

namespace ContentRouter

/-- Every reason for refusing a URI. -/
def UriFault.all : List UriFault :=
  [.relativeWithoutBase, .emptyHost, .invalidPort, .invalidIpv4, .invalidIpv6,
    .internationalDomain, .domainCharacter]

private theorem UriFault.mem_all (reason : UriFault) : reason ∈ all := by
  cases reason <;> decide

/-- How a message about a refused URI ends. -/
def UriFault.ending (reason : UriFault) : String := "' is not a valid URI: " ++ reason.message

/-- Whether a diagnostic is an error that says that a URI was refused. -/
def Diagnostic.isUriError (diagnostic : Diagnostic) : Bool :=
  diagnostic.isError && diagnostic.kind == "IllegalTemplate" &&
    UriFault.all.any fun reason => reason.ending.toList.isSuffixOf diagnostic.message.toList

/-- Whether a fault says that a URI was refused. -/
def Fault.isOfUri : Fault → Bool
  | .illegalTemplate _ (.unacceptableUri _ _) => true
  | _ => false

/-- Whether the wording of a fault is the library's own. -/
def Fault.isWorded : Fault → Bool
  | .illegalTemplate _ (.stated _) => false
  | _ => true

section Wording

/-- The last two characters of a text, the last one first. -/
def lastTwo (text : String) : List Char := text.toList.reverse.take 2

private theorem two_le_length {text : String} {last other : Char}
    (ends : lastTwo text = [last, other]) :
    2 ≤ text.toList.length := by
  have length := congrArg List.length ends
  simp only [lastTwo, List.length_take, List.length_reverse, List.length_cons, List.length_nil]
    at length
  omega

private theorem lastTwo_append (front : String) {ending : String} {last other : Char}
    (ends : lastTwo ending = [last, other]) : lastTwo (front ++ ending) = [last, other] := by
  have long := two_le_length ends
  rw [← ends, lastTwo, String.toList_append, List.reverse_append,
    List.take_append_of_le_length (by rwa [List.length_reverse]), lastTwo]

/-- Every message about a refused URI ends with one of these pairs of characters. -/
def uriEndings : List (List Char) :=
  [['e', 's'], ['t', 's'], ['r', 'e'], ['s', 's'], ['e', 'm']]

private theorem UriFault.exists_lastTwo_ending (reason : UriFault) :
    ∃ last other, lastTwo reason.ending = [last, other] ∧ [last, other] ∈ uriEndings := by
  cases reason <;> exact ⟨_, _, rfl, by decide⟩

namespace Diagnostic

variable {diagnostic : Diagnostic}

private theorem lastTwo_of_isUriError (error : diagnostic.isUriError = true) :
    lastTwo diagnostic.message ∈ uriEndings := by
  obtain ⟨reason, _, ends⟩ := List.any_eq_true.mp (Bool.and_eq_true_iff.mp error).2
  obtain ⟨front, same⟩ := List.isSuffixOf_iff_suffix.mp ends
  obtain ⟨last, other, two, listed⟩ := reason.exists_lastTwo_ending
  have wording : diagnostic.message = String.ofList front ++ reason.ending := by
    rw [← String.toList_inj, String.toList_append, String.toList_ofList, same]
  rw [wording, lastTwo_append _ two]
  exact listed

/-- A message with another ending is not about a refused URI. -/
theorem isUriError_eq_false (front ending : String) {last other : Char}
    (wording : diagnostic.message = front ++ ending) (ends : lastTwo ending = [last, other])
    (apart : [last, other] ∉ uriEndings) : diagnostic.isUriError = false := by
  rw [← Bool.not_eq_true]
  intro error
  have listed := lastTwo_of_isUriError error
  rw [wording, lastTwo_append _ ends] at listed
  exact apart listed

private theorem message_ofFault_illegalTemplate (element : Element) (subject : String)
    (cause : IllegalCause) :
    (ofFault element (.illegalTemplate subject cause)).message =
      "Illegal URI template '" ++ subject ++ "': " ++ cause.message := rfl

private theorem message_unacceptableUri (candidate : String) (reason : UriFault) :
    (IllegalCause.unacceptableUri candidate reason).message =
      "'" ++ candidate ++ reason.ending :=
  String.append_assoc

private theorem isUriError_illegalTemplate (element : Element) (subject front ending : String)
    {cause : IllegalCause} {last other : Char} (wording : cause.message = front ++ ending)
    (ends : lastTwo ending = [last, other]) (apart : [last, other] ∉ uriEndings) :
    (ofFault element (.illegalTemplate subject cause)).isUriError = false := by
  refine isUriError_eq_false ("Illegal URI template '" ++ subject ++ "': " ++ front) ending ?_ ends
    apart
  rw [message_ofFault_illegalTemplate, wording, ← String.append_assoc]

private theorem isUriError_unacceptableUri (element : Element) (subject candidate : String)
    (reason : UriFault) :
    (ofFault element (.illegalTemplate subject (.unacceptableUri candidate reason))).isUriError =
      true := by
  let cause : IllegalCause := .unacceptableUri candidate reason
  have wording := message_ofFault_illegalTemplate element subject cause
  rw [message_unacceptableUri, ← String.append_assoc] at wording
  have ends : reason.ending.toList.isSuffixOf
      (ofFault element (.illegalTemplate subject cause)).message.toList = true := by
    rw [wording, String.toList_append, List.isSuffixOf_iff_suffix]
    exact List.suffix_append _ _
  rw [isUriError, Bool.and_eq_true_iff, Bool.and_eq_true_iff]
  exact ⟨⟨rfl, beq_self_eq_true "IllegalTemplate"⟩,
    List.any_eq_true.mpr ⟨reason, reason.mem_all, ends⟩⟩

/-- **Messages about refused URIs** are told from all others by their endings. -/
theorem isUriError_ofFault (element : Element) {fault : Fault} (worded : fault.isWorded = true) :
    (ofFault element fault).isUriError = fault.isOfUri := by
  cases fault with
  | illegalTemplate subject cause =>
      have plain := isUriError_illegalTemplate element subject
      cases cause with
      | secondQuestionMark => exact plain "" _ (String.empty_append).symm rfl (by decide)
      | malformedPair written =>
          exact plain ("malformed query parameter '" ++ written) "', expected key=value" rfl rfl
            (by decide)
      | repeatedKey key =>
          exact plain ("query parameter '" ++ key) "' appears more than once" rfl rfl (by decide)
      | pathCharacter character =>
          exact plain ("invalid character " ++ Text.shownChar character) " in path" rfl rfl
            (by decide)
      | emptyAuthority => exact plain "" _ (String.empty_append).symm rfl (by decide)
      | authorityCharacter character =>
          exact plain ("invalid character " ++ Text.shownChar character) " in authority" rfl rfl
            (by decide)
      | unacceptableUri candidate reason =>
          exact isUriError_unacceptableUri element subject candidate reason
      | repeatedClass => exact plain "" _ (String.empty_append).symm rfl (by decide)
      | stated reason => cases worded
  | duplicatePlaceholder | duplicatePath | unresolvedPlaceholder | conflictingAnnotations
  | typeMismatch | duplicateBinding => rfl

private theorem isUriError_warning (element : Element) (kind message : String) :
    (warning element kind message).isUriError = false := rfl

end Diagnostic

end Wording

section Faults

private theorem Fault.plain_of_isOfText {fault : Fault} (ofText : fault.isOfText = true) :
    fault.isWorded = true ∧ fault.isOfUri = false := by
  cases fault with
  | illegalTemplate subject cause => cases cause <;> first | exact ⟨rfl, rfl⟩ | cases ofText
  | duplicatePlaceholder => exact ⟨rfl, rfl⟩
  | duplicatePath | unresolvedPlaceholder | conflictingAnnotations | typeMismatch
  | duplicateBinding => cases ofText

private theorem Authority.isWorded_of_check {scheme authority : String} {fault : Fault}
    (refused : check scheme authority = .error fault) : fault.isWorded = true := by
  unfold check at refused
  split at refused
  · cases refused
    rfl
  · split at refused
    · cases refused
      rfl
    · dsimp only at refused
      split at refused
      · cases refused
      · cases refused
        rfl

private theorem Model.isUriError_of_accepted {scheme authority : String}
    (accepted : Authority.check scheme authority = .ok ()) {wildcard text : String}
    {faults : List Fault} (refused : build scheme wildcard authority text = .error faults)
    (element : Element) :
    ∀ fault ∈ faults, (Diagnostic.ofFault element fault).isUriError = false := by
  intro fault member
  rcases fault_of_accepted accepted refused fault member with ofText | ⟨character, rfl⟩
  · obtain ⟨worded, other⟩ := Fault.plain_of_isOfText ofText
    rw [Diagnostic.isUriError_ofFault element worded, other]
  · exact Diagnostic.isUriError_ofFault element rfl

end Faults

/-- The error about the URI of a declaration that comes behind earlier ones. A class that was
declared before has none, whatever its authority is. -/
def Provider.uriError? (settings : Settings) (earlier : List Provider) (provider : Provider) :
    Option Diagnostic :=
  if provider.className ∈ earlier.map (·.className) then none
  else
    match Authority.check settings.output.uriScheme provider.authority with
    | .ok () => none
    | .error fault =>
        if fault.isOfUri then some (.ofFault (.provider provider.className) fault) else none

private theorem Provider.element_of_uriError? {settings : Settings} {earlier : List Provider}
    {provider : Provider} {diagnostic : Diagnostic}
    (found : provider.uriError? settings earlier = some diagnostic) :
    diagnostic.element = .provider provider.className ∧
      provider.className ∉ earlier.map (·.className) ∧
      Authority.check settings.output.uriScheme provider.authority ≠ .ok () := by
  unfold uriError? at found
  split at found
  · cases found
  · rename_i fresh
    split at found
    · cases found
    · rename_i fault refused
      split at found
      · rename_i ofUri
        cases found
        refine ⟨?_, fresh, by rw [refused]; exact nofun⟩
        cases fault with
        | illegalTemplate subject cause => rfl
        | duplicatePlaceholder | duplicatePath | unresolvedPlaceholder | conflictingAnnotations
        | typeMismatch | duplicateBinding => cases ofUri
      · cases found

private theorem Parameter.isUriError_of_fault? {types : TypeNames} {model : Model}
    {earlier : List Parameter} {parameter : Parameter} {fault : Fault}
    (found : parameter.fault? types model earlier = some fault) (element : Element) :
    (Diagnostic.ofFault element fault).isUriError = false := by
  unfold fault? at found
  rcases Option.or_eq_some_iff.mp found with conflict | ⟨_, rest⟩
  · unfold conflictFault? at conflict
    split at conflict
    · cases conflict
      rfl
    · cases conflict
  rcases Option.or_eq_some_iff.mp rest with type | ⟨_, rest⟩
  · obtain ⟨role, _, more⟩ := Option.bind_eq_some_iff.mp type
    obtain ⟨required, _, last⟩ := Option.bind_eq_some_iff.mp more
    split at last
    · cases last
    · cases last
      rfl
  rcases Option.or_eq_some_iff.mp rest with unresolved | ⟨_, duplicate⟩
  · obtain ⟨claim, _, last⟩ := Option.bind_eq_some_iff.mp unresolved
    obtain ⟨_, same⟩ := Option.ite_none_left_eq_some.mp last
    cases same
    rfl
  · obtain ⟨claim, _, last⟩ := Option.bind_eq_some_iff.mp duplicate
    obtain ⟨first, _, rfl⟩ := Option.map_eq_some_iff.mp last
    rfl

namespace Round

section Handlers

variable {settings : Settings} {provider : Provider}
  (accepted : Authority.check settings.output.uriScheme provider.authority = .ok ())
include accepted

/-- **Examining a handler** of an accepted authority brings no URI error to light. -/
theorem isUriError_examine (registry : Registry) (method : Method) :
    ∀ diagnostic ∈ (examine settings registry provider method).diagnostics,
      diagnostic.isUriError = false := by
  apply forall_mem_examine_of
  · exact fun faults refused fault => Model.isUriError_of_accepted accepted refused _ fault
  · exact fun _ _ => rfl
  · intro model faults refused fault member
    rw [bindParameters_eq] at refused
    split at refused
    · cases refused
    · cases refused
      exact Template.forall_mem_collect
        (fun _ _ _ found => Parameter.isUriError_of_fault? found _) [] _ fault member
  · exact Diagnostic.isUriError_warning _

private theorem isUriError_accountsOfMethods (round : Round) (ordinal : Nat)
    (methods : List Method) :
    ∀ diagnostic ∈
        (accountsOfMethods settings provider round ordinal methods).flatMap (·.diagnostics),
      diagnostic.isUriError = false := by
  induction methods generalizing round ordinal with
  | nil => exact nofun
  | cons method rest ih =>
      rw [accountsOfMethods, List.flatMap_cons, account_eq, List.forall_mem_append]
      exact ⟨isUriError_examine accepted round.registry method, ih _ _⟩

end Handlers

section Declarations

variable {settings : Settings} {round : Round} {earlier : List Provider}
  (declared : round.declared = earlier.map (·.className))
include declared

/-- **A bad authority** leaves its fault, and nothing else. -/
theorem recordedOf_of_refused {provider : Provider} {fault : Fault}
    (fresh : provider.className ∉ earlier.map (·.className))
    (refused : Authority.check settings.output.uriScheme provider.authority = .error fault) :
    round.recordedOf settings provider = [.ofFault (.provider provider.className) fault] := by
  have found : round.providerFault? settings provider = some fault := by
    rw [providerFault?_of_fresh (declared ▸ fresh), refused]
  rw [recordedOf, providerNotices, accountsOfProvider, found, List.flatMap_nil, List.append_nil]

/-- The URI errors that are recorded while a declaration is taken in. -/
theorem filter_isUriError_recordedOf (provider : Provider) :
    (round.recordedOf settings provider).filter (·.isUriError) =
      (provider.uriError? settings earlier).toList := by
  unfold Provider.uriError?
  by_cases known : provider.className ∈ earlier.map (·.className)
  · have found : round.providerFault? settings provider = some (repeatedClass provider) := by
      rw [providerFault?, declared, if_pos (List.contains_iff_mem.mpr known)]
    have worded : (repeatedClass provider).isWorded = true := rfl
    rw [if_pos known, recordedOf, providerNotices, accountsOfProvider, found, List.flatMap_nil,
      List.append_nil, List.filter_singleton, Diagnostic.isUriError_ofFault _ worded]
    rfl
  · rw [if_neg known]
    cases checked : Authority.check settings.output.uriScheme provider.authority with
    | error fault =>
        rw [recordedOf_of_refused declared known checked, List.filter_singleton,
          Diagnostic.isUriError_ofFault _ (Authority.isWorded_of_check checked)]
        cases ofUri : fault.isOfUri <;> simp [ofUri]
    | ok done =>
        -- The declaration counts: its handlers are examined under an accepted authority.
        have passes := (providerFault?_eq_none_iff declared provider).mpr ⟨known, checked⟩
        have quiet : ((accountsOfMethods settings provider (round.declare provider) 0
            provider.methods).flatMap (·.diagnostics)).filter (·.isUriError) = [] :=
          List.filter_eq_nil_iff.mpr fun diagnostic member =>
            Bool.eq_false_iff.mp (isUriError_accountsOfMethods checked _ 0 _ diagnostic member)
        rw [recordedOf, providerNotices, accountsOfProvider, passes, List.filter_append]
        dsimp only
        rw [quiet]
        split <;> rfl

end Declarations

section Rounds

variable (settings : Settings)

/-- **The URI errors of a round** are those of its declarations. -/
theorem filter_isUriError_ofManifest (providers : List Provider) :
    (ofManifest settings ⟨providers⟩).reporter.diagnostics.filter (·.isUriError) =
      Template.collect (Provider.uriError? settings) [] providers := by
  induction providers using List.reverseRecOn with
  | nil => rfl
  | append_singleton providers last ih =>
      have declared := (settled_ofManifest settings ⟨providers⟩).declared
      rw [ofManifest_append_singleton, diagnostics_processProvider, List.filter_append, ih,
        filter_isUriError_recordedOf declared, Template.collect_append_singleton, List.nil_append]

/-- A URI error is about a declared class none of whose declarations counts. -/
theorem forall_mem_uriErrors (providers : List Provider) :
    ∀ diagnostic ∈ Template.collect (Provider.uriError? settings) [] providers,
      ∃ className ∈ providers.map (·.className), diagnostic.element = .provider className ∧
        ∀ provider ∈ effective settings providers, provider.className ≠ className := by
  induction providers using List.reverseRecOn with
  | nil => exact nofun
  | append_singleton providers last ih =>
      rw [Template.collect_append_singleton, List.nil_append, List.map_append,
        effective_append_singleton]
      refine List.forall_mem_append.mpr ⟨?_, ?_⟩
      · intro diagnostic member
        obtain ⟨className, known, element, apart⟩ := ih diagnostic member
        refine ⟨className, List.mem_append_left _ known, element,
          List.forall_mem_append.mpr ⟨apart, ?_⟩⟩
        split
        · rename_i counts
          exact List.forall_mem_singleton.mpr fun same => counts.1 (same ▸ known)
        · exact nofun
      · intro diagnostic member
        obtain ⟨element, fresh, refused⟩ :=
          Provider.element_of_uriError? (Option.mem_toList.mp member)
        refine ⟨last.className, List.mem_append_right _ List.mem_cons_self, element, ?_⟩
        rw [if_neg fun counts => refused counts.2, List.append_nil]
        rintro provider counts same
        exact fresh (same ▸ List.mem_map_of_mem ((effective_sublist providers).subset counts))

/-- No class has two URI errors. -/
theorem map_element_uriErrors_nodup (providers : List Provider) :
    ((Template.collect (Provider.uriError? settings) [] providers).map (·.element)).Nodup := by
  induction providers using List.reverseRecOn with
  | nil => exact List.nodup_nil
  | append_singleton providers last ih =>
      rw [Template.collect_append_singleton, List.nil_append]
      cases found : last.uriError? settings providers with
      | none => simpa using ih
      | some diagnostic =>
          obtain ⟨own, fresh, _⟩ := Provider.element_of_uriError? found
          rw [Option.toList_some, List.map_append, List.map_singleton, ← List.concat_eq_append,
            List.nodup_concat]
          refine ⟨fun member => ?_, ih⟩
          obtain ⟨earlier, listed, same⟩ := List.mem_map.mp member
          obtain ⟨className, known, element, _⟩ := forall_mem_uriErrors settings providers _ listed
          rw [own, element, Element.provider.injEq] at same
          exact fresh (same ▸ known)

/-- **The law of URI errors** under settings. -/
structure UriErrorLaw : Prop where
  /-- Under an accepted authority, a template forms a model unless its text is at fault or a
  character of its path. -/
  built : ∀ authority text, Authority.check settings.output.uriScheme authority = .ok () →
    Model.build settings.output.uriScheme settings.output.wildcard authority text =
      match Template.parse text with
      | .error faults => .error faults
      | .ok template =>
          let path := Model.normalizedPathOf settings.output.wildcard template.segments
          match path.toList.find? Model.isForbiddenInPath with
          | some character => .error [.illegalTemplate text (.pathCharacter character)]
          | none => .ok { text, authority, template, normalizedPath := path }
  /-- None of its faults says that a URI was refused, in whatever words. -/
  faults : ∀ authority text faults, Authority.check settings.output.uriScheme authority = .ok () →
    Model.build settings.output.uriScheme settings.output.wildcard authority text = .error faults →
      ∀ fault ∈ faults, fault.isOfUri = false ∧
        ∀ element, (Diagnostic.ofFault element fault).isUriError = false
  /-- What is recorded about a class whose authority is refused is this fault alone, and it is
  recorded about the class. -/
  refused : ∀ earlier (provider : Provider) fault,
    provider.className ∉ earlier.map (·.className) →
    Authority.check settings.output.uriScheme provider.authority = .error fault →
      (ofManifest settings ⟨earlier ++ [provider]⟩).reporter.diagnostics =
        (ofManifest settings ⟨earlier⟩).reporter.diagnostics ++
          [.ofFault (.provider provider.className) fault]
  /-- The URI errors of a round are those of its declarations, in their order. -/
  errors : ∀ manifest, (ofManifest settings manifest).reporter.diagnostics.filter (·.isUriError) =
    Template.collect (Provider.uriError? settings) [] manifest.providers
  /-- No two of them are about the same class. -/
  once : ∀ manifest,
    (((ofManifest settings manifest).reporter.diagnostics.filter (·.isUriError)).map
      (·.element)).Nodup
  /-- Each is about a class as a whole, and not about one whose authority is accepted. -/
  spared : ∀ manifest, ∀ diagnostic ∈ (ofManifest settings manifest).reporter.diagnostics,
    diagnostic.isUriError = true → ∃ className, diagnostic.element = .provider className ∧
      ∀ provider ∈ effective settings manifest.providers, provider.className ≠ className

/-- **A refused URI is reported once, and on the class.** The handlers of an accepted provider have
no such error, whatever the scheme, the wildcard and the templates are. -/
theorem uriError_law : UriErrorLaw settings where
  built _ text accepted := Model.build_of_accepted accepted settings.output.wildcard text
  faults := by
    intro authority text faults accepted refused fault member
    refine ⟨?_, fun element => Model.isUriError_of_accepted accepted refused element fault member⟩
    rcases Model.fault_of_accepted accepted refused fault member with ofText | ⟨_, rfl⟩
    · exact (Fault.plain_of_isOfText ofText).2
    · rfl
  refused := by
    intro earlier provider fault fresh refused
    have declared := (settled_ofManifest settings ⟨earlier⟩).declared
    rw [ofManifest_append_singleton, diagnostics_processProvider,
      recordedOf_of_refused declared fresh refused]
  errors manifest := filter_isUriError_ofManifest settings manifest.providers
  once manifest := by
    rw [filter_isUriError_ofManifest settings manifest.providers]
    exact map_element_uriErrors_nodup settings manifest.providers
  spared := by
    intro manifest diagnostic recorded ofUri
    have listed := List.mem_filter.mpr ⟨recorded, ofUri⟩
    rw [filter_isUriError_ofManifest settings manifest.providers] at listed
    obtain ⟨className, _, element, apart⟩ := forall_mem_uriErrors settings _ diagnostic listed
    exact ⟨className, element, apart⟩

example :
    (ofManifest {} ⟨[⟨"p.A", "a:b", []⟩, ⟨"p.B", "c", []⟩]⟩).reporter.diagnostics.map
        (fun diagnostic => (diagnostic.element, diagnostic.isUriError)) =
      [(.provider "p.A", true), (.provider "p.B", false)] := by decide +kernel

end Rounds

end Round

end ContentRouter
