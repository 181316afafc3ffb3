import ContentRouter.Proofs.Template.RoundTrip

/-!
# Which faults of a template are reported

A template under an authority can have faults of two kinds: those of its text, and one of its path,
which is there whether or not the text can be read. It forms a model exactly if it has none of
either kind. All faults of the text are reported together, but the path is checked only once the
text has none. So the fault of a path is reported alone or not at all
(`Model.report_law`), and a template with faults of both kinds is refused again after all that was
reported has been corrected (`Model.exists_fault_hidden`).
-/

namespace ContentRouter

/-- Whether a cause is about the text of a template. -/
def IllegalCause.isOfText : IllegalCause → Bool
  | .secondQuestionMark | .malformedPair _ | .repeatedKey _ => true
  | _ => false

/-- Whether a cause is about the path of a template. -/
def IllegalCause.isOfPath : IllegalCause → Bool
  | .pathCharacter _ | .unacceptableUri _ _ => true
  | _ => false

/-- Whether a fault is about the text of a template. -/
def Fault.isOfText : Fault → Bool
  | .illegalTemplate _ cause => cause.isOfText
  | .duplicatePlaceholder .. => true
  | _ => false

namespace Template

private theorem Part.isOfText_of_fault? {template : String} {earlier : List Part} {part : Part}
    {fault : Fault} (found : part.fault? template earlier = some fault) :
    fault.isOfText = true := by
  rcases Option.or_eq_some_iff.mp found with key | ⟨_, name⟩
  · unfold keyFault? at key
    split at key
    · cases key
    · split at key
      · cases key
        rfl
      · split at key
        · cases key
          rfl
        · cases key
  · obtain ⟨placeholder, _, repeated⟩ := Option.bind_eq_some_iff.mp name
    obtain ⟨first, _, rfl⟩ := Option.map_eq_some_iff.mp repeated
    rfl

private theorem ofParts_error_ne_nil {text path query : String} {faults : List Fault}
    (refused : ofParts text path query = .error faults) : faults ≠ [] := by
  unfold ofParts at refused
  dsimp only at refused
  split at refused
  · cases refused
  · rename_i found
    cases refused
    exact fun none => found (List.isEmpty_iff.mpr none)

private theorem parse_error_ne_nil {text : String} {faults : List Fault}
    (refused : parse text = .error faults) : faults ≠ [] := by
  unfold parse at refused
  split at refused
  · exact ofParts_error_ne_nil refused
  · exact ofParts_error_ne_nil refused
  · cases refused
    exact List.cons_ne_nil _ _

/-- The faults of the text of a template. -/
def faultsOf (text : String) : List Fault :=
  match parse text with
  | .ok _ => []
  | .error faults => faults

/-- The faults of a text are faults that a text can have. -/
theorem isOfText_of_mem_faultsOf {text : String} :
    ∀ fault ∈ faultsOf text, fault.isOfText = true := by
  unfold faultsOf
  split
  · exact nofun
  · rename_i faults refused
    by_cases once : text.toList.count '?' ≤ 1
    · rw [parse_eq once] at refused
      split at refused
      · cases refused
      · obtain rfl := Except.error.inj refused
        exact forall_mem_collect (fun _ _ _ => Part.isOfText_of_fault?) [] _
    · rw [parse_of_second (by omega)] at refused
      cases refused
      exact List.forall_mem_singleton.mpr rfl

private theorem faultsOf_eq_nil_iff {text : String} :
    faultsOf text = [] ↔ ∃ template, parse text = .ok template := by
  unfold faultsOf
  cases read : parse text with
  | ok template => exact iff_of_true rfl ⟨template, rfl⟩
  | error faults => exact iff_of_false (parse_error_ne_nil read) nofun

end Template

namespace Model

variable (scheme wildcard authority text : String)

/-- The normalized path of a template, whether or not its text can be read. -/
def pathOf : String :=
  normalizedPathOf wildcard (Template.segmentsOf (Template.pathPart text))

/-- The fault of the path of a template, whether or not its text can be read. -/
def pathFault? : Option Fault :=
  match checkPath scheme authority (pathOf wildcard text) text with
  | .ok () => none
  | .error fault => some fault

/-- **All faults of a template** under an authority, those of its text first. -/
def faultsOf : List Fault :=
  Template.faultsOf text ++ (pathFault? scheme wildcard authority text).toList

variable {scheme wildcard authority text}

private theorem checkPath_error {path : String} {fault : Fault}
    (refused : checkPath scheme authority path text = .error fault) :
    ∃ cause : IllegalCause, cause.isOfPath = true ∧ fault = .illegalTemplate text cause ∧
      ∀ other, checkPath scheme authority path other = .error (.illegalTemplate other cause) := by
  unfold checkPath at refused ⊢
  split at refused
  · cases refused
    exact ⟨_, rfl, rfl, fun _ => rfl⟩
  · dsimp only at refused ⊢
    split at refused
    · cases refused
    · cases refused
      exact ⟨_, rfl, rfl, fun _ => rfl⟩

/-- The fault of a path is about nothing else, and every template of the path has it. -/
theorem exists_cause_of_pathFault? {fault : Fault}
    (found : pathFault? scheme wildcard authority text = some fault) :
    ∃ cause : IllegalCause, cause.isOfPath = true ∧ fault = .illegalTemplate text cause ∧
      ∀ other, pathOf wildcard other = pathOf wildcard text →
        pathFault? scheme wildcard authority other = some (.illegalTemplate other cause) := by
  unfold pathFault? at found ⊢
  split at found
  · cases found
  · rename_i refused
    cases found
    obtain ⟨cause, ofPath, rfl, every⟩ := checkPath_error refused
    refine ⟨cause, ofPath, rfl, fun other same => ?_⟩
    rw [same, every other]

/-- A fault of a path is not one of the text. -/
theorem not_mem_faultsOf_of_pathFault? {fault : Fault}
    (found : pathFault? scheme wildcard authority text = some fault) :
    fault ∉ Template.faultsOf text := by
  intro member
  obtain ⟨cause, ofPath, rfl, _⟩ := exists_cause_of_pathFault? found
  have ofText := Template.isOfText_of_mem_faultsOf _ member
  cases cause <;> cases ofPath <;> cases ofText

/-- **A template that cannot be read** has the faults of its text reported. -/
theorem build_of_unread (unread : Template.faultsOf text ≠ []) :
    build scheme wildcard authority text = .error (Template.faultsOf text) := by
  unfold Template.faultsOf at unread ⊢
  unfold build
  cases read : Template.parse text with
  | error faults => rfl
  | ok template =>
      rw [read] at unread
      exact absurd rfl unread

/-- **A template that can be read** has the fault of its path reported, or forms a model. -/
theorem build_of_read {template : Template} (read : Template.parse text = .ok template) :
    build scheme wildcard authority text =
      match pathFault? scheme wildcard authority text with
      | some fault => .error [fault]
      | none =>
          .ok { text, authority, template, normalizedPath := pathOf wildcard text } := by
  have path : normalizedPathOf wildcard template.segments = pathOf wildcard text := by
    rw [pathOf, (Template.eq_of_parse read).2.1]
  unfold pathFault? build
  rw [read]
  dsimp only
  rw [path]
  cases checkPath scheme authority (pathOf wildcard text) text with
  | error fault => rfl
  | ok done => rfl

/-- A template is refused with at least one fault. -/
theorem build_error_ne_nil {scheme wildcard authority text : String} {faults : List Fault}
    (refused : build scheme wildcard authority text = .error faults) : faults ≠ [] := by
  unfold build at refused
  split at refused
  · rename_i unread
    cases refused
    exact Template.parse_error_ne_nil unread
  · dsimp only at refused
    split at refused
    · cases refused
      exact List.cons_ne_nil _ _
    · cases refused

/-- **The law of reporting** the faults of a template under an authority. -/
structure ReportLaw (scheme wildcard authority text : String) : Prop where
  /-- A model is formed exactly if there are no faults. -/
  accepted : (∃ model, build scheme wildcard authority text = .ok model) ↔
    faultsOf scheme wildcard authority text = []
  /-- What is reported are faults, in their order, and those of the text are all among them. -/
  reported : ∀ faults, build scheme wildcard authority text = .error faults →
    Template.faultsOf text <+: faults ∧ faults <+: faultsOf scheme wildcard authority text
  /-- Every fault is reported exactly if there are not faults of both kinds. -/
  complete_iff : ∀ faults, build scheme wildcard authority text = .error faults →
    (faults = faultsOf scheme wildcard authority text ↔
      Template.faultsOf text = [] ∨ pathFault? scheme wildcard authority text = none)
  /-- Otherwise the fault of the path is left out. -/
  hidden : ∀ fault, pathFault? scheme wildcard authority text = some fault →
    Template.faultsOf text ≠ [] → ∃ faults, build scheme wildcard authority text = .error faults ∧
      fault ∉ faults ∧ faultsOf scheme wildcard authority text = faults ++ [fault]
  /-- It is reported, and nothing else is, once the text has been corrected and the path is still
  the same. -/
  revealed : ∀ fault, pathFault? scheme wildcard authority text = some fault →
    ∃ cause, fault = .illegalTemplate text cause ∧
      ∀ corrected, Template.faultsOf corrected = [] →
        pathOf wildcard corrected = pathOf wildcard text →
        build scheme wildcard authority corrected = .error [.illegalTemplate corrected cause]

/-- The outcome of building, told by the faults. -/
theorem build_cases (scheme wildcard authority text : String) :
    (Template.faultsOf text ≠ [] ∧
      build scheme wildcard authority text = .error (Template.faultsOf text)) ∨
    (Template.faultsOf text = [] ∧ ∃ fault, pathFault? scheme wildcard authority text = some fault ∧
      build scheme wildcard authority text = .error [fault]) ∨
    (Template.faultsOf text = [] ∧ pathFault? scheme wildcard authority text = none ∧
      ∃ model, build scheme wildcard authority text = .ok model) := by
  by_cases unread : Template.faultsOf text = []
  · obtain ⟨template, read⟩ := Template.faultsOf_eq_nil_iff.mp unread
    have built : build scheme wildcard authority text = _ := build_of_read read
    cases found : pathFault? scheme wildcard authority text with
    | some fault =>
        rw [found] at built
        exact .inr (.inl ⟨unread, fault, rfl, built⟩)
    | none =>
        rw [found] at built
        exact .inr (.inr ⟨unread, rfl, _, built⟩)
  · exact .inl ⟨unread, build_of_unread unread⟩

/-- **The fault of a path is reported alone or not at all**, for every template. -/
theorem report_law (scheme wildcard authority text : String) :
    ReportLaw scheme wildcard authority text where
  accepted := by
    unfold faultsOf
    obtain ⟨unread, built⟩ | ⟨read, fault, found, built⟩ | ⟨read, sound, built⟩ :=
      build_cases scheme wildcard authority text
    · rw [built]
      exact iff_of_false nofun fun none => unread (List.append_eq_nil_iff.mp none).1
    · rw [built, read, found]
      exact iff_of_false nofun nofun
    · rw [read, sound]
      exact iff_of_true built rfl
  reported := by
    intro faults refused
    unfold faultsOf
    obtain ⟨unread, built⟩ | ⟨read, fault, found, built⟩ | ⟨read, sound, model, built⟩ :=
      build_cases scheme wildcard authority text
    · obtain rfl := Except.error.inj (built.symm.trans refused)
      exact ⟨List.prefix_refl _, List.prefix_append _ _⟩
    · obtain rfl := Except.error.inj (built.symm.trans refused)
      rw [read, found]
      exact ⟨List.nil_prefix, List.prefix_refl _⟩
    · cases built.symm.trans refused
  complete_iff := by
    intro faults refused
    unfold faultsOf
    obtain ⟨unread, built⟩ | ⟨read, fault, found, built⟩ | ⟨read, sound, model, built⟩ :=
      build_cases scheme wildcard authority text
    · obtain rfl := Except.error.inj (built.symm.trans refused)
      rw [List.self_eq_append_right, Option.toList_eq_nil_iff]
      exact (or_iff_right unread).symm
    · obtain rfl := Except.error.inj (built.symm.trans refused)
      rw [read, found]
      exact iff_of_true rfl (.inl rfl)
    · cases built.symm.trans refused
  hidden := by
    intro fault found unread
    refine ⟨_, build_of_unread unread, not_mem_faultsOf_of_pathFault? found, ?_⟩
    rw [faultsOf, found]
    rfl
  revealed := by
    intro fault found
    obtain ⟨cause, _, rfl, every⟩ := exists_cause_of_pathFault? found
    refine ⟨cause, rfl, fun corrected clean same => ?_⟩
    obtain ⟨template, read⟩ := Template.faultsOf_eq_nil_iff.mp clean
    rw [build_of_read read, every corrected same]

/-- **A fault that is not reported**: the blank in the path is not seen beside the malformed pair.
It comes to light only when the pair has been corrected. -/
theorem exists_fault_hidden :
    let text := "/a b?x"
    let hidden : Fault := .illegalTemplate text (.pathCharacter ' ')
    text.toList.count '?' ≤ 1 ∧
      checkPath "content" "a" (pathOf "*" text) text = .error hidden ∧
      (∃ faults, build "content" "*" "a" text = .error faults ∧ hidden ∉ faults) ∧
      build "content" "*" "a" "/a b?x=1" =
        .error [.illegalTemplate "/a b?x=1" (.pathCharacter ' ')] := by
  intro text hidden
  refine ⟨by decide, by decide, ?_, by decide⟩
  exact ⟨[.illegalTemplate text (.malformedPair "x")], by decide, by decide⟩

end Model

end ContentRouter
