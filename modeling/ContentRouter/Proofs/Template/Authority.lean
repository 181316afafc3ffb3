import ContentRouter.Proofs.Template.Report
import ContentRouter.Proofs.Uri.Path

/-!
# Templates under an accepted authority

An authority is accepted if it forms a URI with the path `/`. The path of a template is tried in the
same way, but only if its characters are allowed, and then it forms a URI as well
(`Uri.check_candidateUri`). So under an accepted authority nothing is wrong with a template but its
text or a character of its path (`Model.build_of_accepted`).
-/

namespace ContentRouter

private theorem Text.lt_of_visible {c : Char} (shown : Text.isBlank c = false)
    (printed : Text.isControl c = false) : 0x20 < c.toNat := by
  simp only [Text.isBlank, Bool.or_eq_false_iff, beq_eq_false_iff_ne] at shown
  simp only [Text.isControl, Bool.or_eq_false_iff, decide_eq_false_iff_not] at printed
  omega

namespace Authority

variable {scheme authority : String}

/-- An authority passes if it is not empty, has no character that is forbidden, and forms a URI with
the path `/`. -/
theorem check_eq_ok_iff :
    check scheme authority = .ok () ↔
      authority ≠ "" ∧ (∀ c ∈ authority.toList, isForbidden c = false) ∧
        Uri.check (Model.candidateUri scheme authority "/") = .ok () := by
  unfold check
  by_cases empty : authority = ""
  · rw [if_pos (String.isEmpty_iff.mpr empty)]
    exact iff_of_false nofun fun all => all.1 empty
  · rw [if_neg (mt String.isEmpty_iff.mp empty)]
    cases found : authority.toList.find? isForbidden with
    | some character =>
        refine iff_of_false nofun fun all => ?_
        have clear := all.2.1 character (List.mem_of_find?_eq_some found)
        rw [List.find?_some found] at clear
        cases clear
    | none =>
        have clear : ∀ c ∈ authority.toList, isForbidden c = false := by
          simpa using List.find?_eq_none.mp found
        dsimp only
        cases Uri.check (Model.candidateUri scheme authority "/") with
        | ok done => exact iff_of_true rfl ⟨empty, clear, rfl⟩
        | error reason => exact iff_of_false nofun fun all => nomatch all.2.2

end Authority

namespace Model

variable {scheme authority : String}
  (accepted : Authority.check scheme authority = .ok ())
include accepted

/-- **Under an accepted authority** a path is at fault only for its characters. -/
theorem checkPath_of_accepted (path template : String) :
    checkPath scheme authority ("/" ++ path) template =
      match ("/" ++ path).toList.find? isForbiddenInPath with
      | some character => .error (.illegalTemplate template (.pathCharacter character))
      | none => .ok () := by
  unfold checkPath
  cases found : ("/" ++ path).toList.find? isForbiddenInPath with
  | some character => rfl
  | none =>
      obtain ⟨_, clear, formed⟩ := Authority.check_eq_ok_iff.mp accepted
      have authorityStays : ∀ c ∈ authority.toList, 0x20 < c.toNat := by
        intro c member
        have passes := clear c member
        simp only [Authority.isForbidden, Bool.or_eq_false_iff] at passes
        exact Text.lt_of_visible passes.1.1 passes.1.2
      have pathStays : ∀ c ∈ path.toList, 0x20 < c.toNat := by
        intro c member
        have inPath : c ∈ ("/" ++ path).toList := by
          rw [String.toList_append]
          exact List.mem_append_right _ member
        have passes := Bool.not_eq_true _ ▸ List.find?_eq_none.mp found c inPath
        simp only [isForbiddenInPath, Bool.or_eq_false_iff] at passes
        exact Text.lt_of_visible passes.1.1 passes.1.2
      dsimp only
      rw [Uri.check_candidateUri authorityStays pathStays formed]

/-- **Under an accepted authority** a template forms a model unless its text is at fault, or a
character of its path. -/
theorem build_of_accepted (wildcard text : String) :
    build scheme wildcard authority text =
      match Template.parse text with
      | .error faults => .error faults
      | .ok template =>
          let path := normalizedPathOf wildcard template.segments
          match path.toList.find? isForbiddenInPath with
          | some character => .error [.illegalTemplate text (.pathCharacter character)]
          | none => .ok { text, authority, template, normalizedPath := path } := by
  unfold build
  cases Template.parse text with
  | error faults => rfl
  | ok template =>
      dsimp only
      rw [normalizedPathOf, checkPath_of_accepted accepted]
      cases List.find? isForbiddenInPath _ with
      | some character => rfl
      | none => rfl

/-- What keeps a template from forming a model under an accepted authority. -/
theorem fault_of_accepted {wildcard text : String} {faults : List Fault}
    (refused : build scheme wildcard authority text = .error faults) :
    ∀ fault ∈ faults, fault.isOfText = true ∨
      ∃ character, fault = .illegalTemplate text (.pathCharacter character) := by
  rw [build_of_accepted accepted] at refused
  cases read : Template.parse text with
  | error found =>
      rw [read] at refused
      cases refused
      intro fault member
      have listed : fault ∈ Template.faultsOf text := by rwa [Template.faultsOf, read]
      exact .inl (Template.isOfText_of_mem_faultsOf fault listed)
  | ok template =>
      rw [read] at refused
      dsimp only at refused
      split at refused
      · cases refused
        exact List.forall_mem_singleton.mpr (.inr ⟨_, rfl⟩)
      · cases refused

end Model

end ContentRouter
