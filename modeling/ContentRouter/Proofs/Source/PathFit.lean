import Mathlib.Data.List.Forall2
import ContentRouter.Proofs.Source.MatcherPath
import ContentRouter.Proofs.Template.RequestPath

/-!
# Requests that fit registered paths

A request for a template has a text in the place of every placeholder, and the path that is
registered for the template has the wildcard there, whatever was chosen for it. Segment by segment
both have the same texts elsewhere. So all requests for a template with placeholders fit its path
exactly if the wildcard is read as an asterisk (`Source.pathFit_law`), which the default one is.
-/

namespace ContentRouter

/-- Two joined lists are related if their parts are, one by one, provided that these have equal
lengths. -/
theorem forall₂_flatMap_iff {α β γ : Type} {R : β → γ → Prop} {f : α → List β} {g : α → List γ}
    {elements : List α} (even : ∀ a ∈ elements, (f a).length = (g a).length) :
    List.Forall₂ R (elements.flatMap f) (elements.flatMap g) ↔
      ∀ a ∈ elements, List.Forall₂ R (f a) (g a) := by
  induction elements with
  | nil => exact iff_of_true List.Forall₂.nil (List.forall_mem_nil _)
  | cons a rest ih =>
      obtain ⟨same, others⟩ := List.forall_mem_cons.mp even
      rw [List.flatMap_cons, List.flatMap_cons, List.forall_mem_cons, ← ih others]
      constructor
      · intro related
        have first := List.forall₂_take_append _ _ _ related
        have later := List.forall₂_drop_append _ _ _ related
        rw [← same, List.take_left] at first
        rw [← same, List.drop_left] at later
        exact ⟨first, later⟩
      · rintro ⟨first, later⟩
        exact List.rel_append first later

/-- Whether a segment is a placeholder. -/
def Segment.isPlaceholder : Segment → Bool
  | .literal _ => false
  | .placeholder _ => true

namespace Template

section Parts

variable {segments : List Segment} {values : String → String}

private theorem filledSegments_requestPath_eq_flatMap (values : String → String)
    (template : Template) :
    Source.filledSegments (template.requestPath values) =
      template.segments.flatMap fun segment => Source.filledSegments (segment.filled values) := by
  rw [requestPath, Source.filledSegments_path, List.flatMap_map]

/-- The segments of a filled path are those of its literals and equally many for each placeholder.
-/
theorem length_filledSegments {count : Nat}
    (each : ∀ name, .placeholder name ∈ segments →
      (Source.filledSegments (values name)).length = count) :
    (segments.flatMap fun segment => Source.filledSegments (segment.filled values)).length =
      ((segments.filter (!·.isPlaceholder)).flatMap fun segment =>
        Source.filledSegments segment.text).length +
          count * segments.countP Segment.isPlaceholder := by
  induction segments with
  | nil => rfl
  | cons segment rest ih =>
      have others := ih fun name listed => each name (List.mem_cons_of_mem _ listed)
      rw [List.flatMap_cons, List.length_append, others]
      cases segment with
      | literal text =>
          rw [List.filter_cons_of_pos rfl, List.flatMap_cons, List.length_append,
            List.countP_cons_of_neg (by simp [Segment.isPlaceholder]), Nat.add_assoc]
          rfl
      | placeholder name =>
          have own : (Source.filledSegments (Segment.filled values (.placeholder name))).length =
              count := each name List.mem_cons_self
          rw [List.filter_cons_of_neg (by simp [Segment.isPlaceholder]),
            List.countP_cons_of_pos rfl, own, Nat.mul_succ]
          omega

end Parts

section Fitting

variable {template : Template} {wildcard : String}

/-- The path with a wildcard of one segment fits the requests that have this segment wherever they
have the text of a placeholder, unless it stands for all. -/
theorem fits_requestPath_iff {mark : String} (single : Source.filledSegments wildcard = [mark])
    {values : String → String} (filling : template.IsFilledBy values) :
    Source.Fits (Source.filledSegments (template.requestPath fun _ => wildcard))
        (Source.filledSegments (template.requestPath values)) ↔
      ∀ name, .placeholder name ∈ template.segments → mark = "*" ∨ mark = values name := by
  have whole {name : String} (placed : .placeholder name ∈ template.segments) :
      Source.filledSegments (values name) = [values name] := by
    obtain ⟨some, clean⟩ := filling name placed
    rw [Source.filledSegments_of_not_mem clean, List.filter_cons_of_pos (by simpa using some),
      List.filter_nil]
  rw [filledSegments_requestPath_eq_flatMap, filledSegments_requestPath_eq_flatMap, Source.Fits,
    forall₂_flatMap_iff]
  · constructor
    · intro related name placed
      have here := related _ placed
      simp only [Segment.filled, single, whole placed] at here
      exact (List.forall₂_cons.mp here).1
    · intro marked segment listed
      cases segment with
      | literal text => exact Source.fits_self _
      | placeholder name =>
          simp only [Segment.filled, single, whole listed]
          exact .cons (marked name listed) .nil
  · intro segment listed
    cases segment with
    | literal text => rfl
    | placeholder name => simp only [Segment.filled, single, whole listed, List.length_singleton]

/-- If all requests fit, a placeholder leaves the wildcard no choice: it has as many segments as the
text of a placeholder, which is one, and this segment fits whatever the text is. -/
theorem filledSegments_wildcard
    (all : ∀ values, template.IsFilledBy values →
      Source.Fits (Source.filledSegments (template.requestPath fun _ => wildcard))
        (Source.filledSegments (template.requestPath values)))
    {name : String} (placed : .placeholder name ∈ template.segments) :
    Source.filledSegments wildcard = ["*"] := by
  have short : "x" ≠ "" ∧ '/' ∉ "x".toList := by decide
  have lengths := (all (fun _ => "x") fun _ _ => short).length_eq
  have one : (Source.filledSegments "x").length = 1 := by decide
  rw [filledSegments_requestPath_eq_flatMap, filledSegments_requestPath_eq_flatMap,
    length_filledSegments fun _ _ => rfl, length_filledSegments fun _ _ => one] at lengths
  have some : 0 < template.segments.countP Segment.isPlaceholder :=
    List.countP_pos_iff.mpr ⟨_, placed, rfl⟩
  obtain ⟨mark, single⟩ := List.length_eq_one_iff.mp
    (Nat.eq_of_mul_eq_mul_right some (Nat.add_left_cancel lengths))
  have clean : '/' ∉ mark.toList :=
    Source.not_mem_of_mem_filledSegments (single ▸ List.mem_singleton_self mark)
  -- A text that is not the mark itself.
  have filling : template.IsFilledBy fun _ => mark ++ "x" := by
    intro _ _
    simp [clean]
  have fits := (fits_requestPath_iff single filling).mp (all _ filling) name placed
  rcases fits with any | same
  · rw [single, any]
  · have longer := congrArg String.length same
    simp at longer

end Fitting

end Template

namespace Source

/-- **The law of fitting paths** for a model that was built with a wildcard. -/
structure PathFitLaw (wildcard : String) (model : Model) : Prop where
  /-- All requests for the model fit the path that is registered for it exactly if it has no
  placeholder in its path or the wildcard is, but for slashes, an asterisk. -/
  fits_iff :
    (∀ values, model.template.IsFilledBy values →
      Fits (filledSegments (matcherPath model.normalizedPath))
        (filledSegments (model.template.requestPath values))) ↔
    (∀ name, .placeholder name ∉ model.template.segments) ∨ filledSegments wildcard = ["*"]
  /-- No segment of the path is one that stands for numbers only. -/
  digits : ∀ segment ∈ filledSegments (matcherPath model.normalizedPath), '#' ∉ segment.toList

/-- **When a registered path fits all requests**, for all settings and every template that forms a
model under them. -/
theorem pathFit_law (settings : Settings) {authority text : String} {model : Model}
    (built : settings.buildModel authority text = .ok model) :
    PathFitLaw settings.output.wildcard model := by
  have allowed := allowed_matcherPath (Model.allowed_of_build built)
  obtain ⟨template, _, rfl⟩ := Model.eq_of_build _ _ _ _ _ built
  constructor
  · dsimp only
    rw [filledSegments_matcherPath, Template.normalizedPathOf_eq_requestPath]
    constructor
    · intro all
      by_cases placed : ∃ name, .placeholder name ∈ template.segments
      · obtain ⟨name, placed⟩ := placed
        exact .inr (Template.filledSegments_wildcard all placed)
      · exact .inl (not_exists.mp placed)
    · rintro (none | any) values filling
      -- Without placeholders there is only one request.
      · have same : template.requestPath values =
            template.requestPath fun _ => settings.output.wildcard := by
          have literal : template.segments.map (Segment.filled values) =
              template.segments.map (Segment.filled fun _ => settings.output.wildcard) := by
            apply List.map_congr_left
            intro segment listed
            cases segment with
            | literal text => rfl
            | placeholder name => exact absurd listed (none name)
          rw [Template.requestPath, literal]
          rfl
        rw [same]
        exact fits_self _
      · exact (Template.fits_requestPath_iff any filling).mpr fun _ _ => .inl rfl
  · intro segment listed inside
    have member : '#' ∈ (matcherPath (Model.normalizedPathOf settings.output.wildcard
        template.segments)).toList :=
      Text.mem_of_mem_pieces '/' (List.mem_of_mem_filter listed) inside
    exact absurd (allowed _ member) (by decide)

/-- With the default wildcard all requests fit. -/
theorem pathFit_law_of_asterisk :
    let model : Model :=
      { text := "/n/\x7bid\x7d", authority := "a", normalizedPath := "/n/*",
        template :=
          ⟨[.literal "n", .placeholder "id"], [], [⟨"id", .segment 1⟩]⟩ }
    Settings.buildModel {} "a" "/n/\x7bid\x7d" = .ok model ∧ PathFitLaw "*" model ∧
      ∀ values, model.template.IsFilledBy values →
        Fits ["n", "*"] (filledSegments (model.template.requestPath values)) := by
  intro model
  have built : Settings.buildModel {} "a" "/n/\x7bid\x7d" = .ok model := rfl
  have law : PathFitLaw "*" model := pathFit_law {} built
  have registered : filledSegments (matcherPath model.normalizedPath) = ["n", "*"] := by
    decide +kernel
  refine ⟨built, law, ?_⟩
  rw [← registered]
  exact law.fits_iff.mpr (.inr (by decide))

/-- **A wildcard that is a plain text** is registered as this text, which other requests do not
fit. -/
theorem exists_request_not_fits :
    let model : Model :=
      { text := "/n/\x7bid\x7d", authority := "a", normalizedPath := "/n/ID",
        template :=
          ⟨[.literal "n", .placeholder "id"], [], [⟨"id", .segment 1⟩]⟩ }
    Settings.buildModel { output := { wildcard := "ID" } } "a" "/n/\x7bid\x7d" = .ok model ∧
      filledSegments (matcherPath model.normalizedPath) = ["n", "ID"] ∧
      ∃ values, model.template.IsFilledBy values ∧
        filledSegments (model.template.requestPath values) = ["n", "5"] ∧
        ¬ Fits (filledSegments (matcherPath model.normalizedPath))
          (filledSegments (model.template.requestPath values)) := by
  intro model
  have registered : filledSegments (matcherPath model.normalizedPath) = ["n", "ID"] := by
    decide +kernel
  have asked : filledSegments (model.template.requestPath fun _ => "5") = ["n", "5"] := by
    decide +kernel
  have filling : "5" ≠ "" ∧ '/' ∉ "5".toList := by decide
  refine ⟨rfl, registered, fun _ => "5", fun _ _ => filling, asked, ?_⟩
  rw [registered, asked]
  simp [Fits]

end Source

end ContentRouter
