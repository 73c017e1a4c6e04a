import TemplateManual.Proofs.Consistency
import TemplateManual.Proofs.Survey

set_option autoImplicit false

namespace TemplateManual.DataType

inductive OnWayToCore : DataType → DataType → Prop where
  | start (type : DataType) : OnWayToCore type type
  | onward (alternatives : List DataType) (secure : Bool) (only inner : DataType)
      (sole : nonNull alternatives = [only]) (rest : OnWayToCore only inner) :
      OnWayToCore ⟨.union alternatives, secure⟩ inner

def MeetsNull (type : DataType) : Prop :=
  ∃ alternatives secure, OnWayToCore type ⟨.union alternatives, secure⟩ ∧
    ∃ part ∈ alternatives, part.isNull = true

def ListsValues (type : DataType) (values : List String) : Prop :=
  ∃ (alternatives : List DataType) (literals : List Literal), type.shape = .union alternatives ∧
    2 ≤ literals.length ∧
    (nonNull alternatives).map DataType.shape = literals.map Shape.literal ∧
    values = literals.map Literal.valueText

def shownText (core : DataType) : String :=
  match core.shape with
  | .union alternatives =>
    if (nonNull alternatives).isEmpty then "null"
    else Text.join " | " ((nonNull alternatives).map DataType.text)
  | .reference name _ => name
  | _ => core.text

theorem meets_null_of_member (alternatives : List DataType) (secure : Bool)
    (nullable : alternatives.any isNull = true) : MeetsNull ⟨.union alternatives, secure⟩ :=
  ⟨alternatives, secure, .start _, List.any_eq_true.mp nullable⟩

theorem meets_null_sole (alternatives : List DataType) (secure : Bool) (only : DataType)
    (sole : nonNull alternatives = [only]) :
    MeetsNull ⟨.union alternatives, secure⟩ ↔ MeetsNull only ∨ alternatives.any isNull = true := by
  constructor
  · rintro ⟨others, mark, way, null⟩
    cases way with
    | start => exact Or.inr (List.any_eq_true.mpr null)
    | onward _ _ first _ found rest =>
        obtain rfl : first = only := List.head_eq_of_cons_eq (found.symm.trans sole)
        exact Or.inl ⟨others, mark, rest, null⟩
  · rintro (⟨others, mark, way, null⟩ | nullable)
    · exact ⟨others, mark, .onward alternatives secure only _ sole way, null⟩
    · exact meets_null_of_member alternatives secure nullable

theorem meets_null_choice (alternatives : List DataType) (secure : Bool)
    (several : (nonNull alternatives).length ≠ 1) :
    MeetsNull ⟨.union alternatives, secure⟩ ↔ alternatives.any isNull = true := by
  constructor
  · rintro ⟨others, mark, way, null⟩
    cases way with
    | start => exact List.any_eq_true.mpr null
    | onward _ _ first _ found rest => simp [found] at several
  · exact meets_null_of_member alternatives secure

theorem not_meets_null (type : DataType) (single : type.isUnion = false) : ¬ MeetsNull type := by
  rintro ⟨alternatives, secure, way, _⟩
  cases way <;> cases single

-- The target of a reference may be null without making the reference optional.
theorem survey_required (type : DataType) : type.survey.required = false ↔ type.MeetsNull := by
  induction type using induction_on_survey with
  | plain type plain =>
      simp [survey_plain type plain, not_meets_null type (plain_not_union type plain)]
  | sole alternatives secure only sole ih =>
      rw [survey_union_sole alternatives secure only sole, meets_null_sole alternatives secure only sole, ← ih]
      simp only [Survey.allowNull, Survey.mark, Bool.and_eq_false_iff, Bool.not_eq_false']
  | choice alternatives secure several =>
      rw [survey_union_choice alternatives secure several, meets_null_choice alternatives secure several]
      simp [Survey.allowNull, (choice_unlimited secure _).1]
  | reference name target secure _ =>
      rw [survey]
      simp [Survey.plain, not_meets_null ⟨.reference name (some target), secure⟩ rfl]

structure Shows (core : DataType) (survey : Survey) : Prop where
  named : survey.userDefined = true ↔ ∃ name target, core.shape = .reference name target
  listed : ∀ values, survey.allowed = some values ↔ core.ListsValues values
  text : survey.text = core.shownText

theorem shows_single (core : DataType) (survey : Survey) (single : core.isUnion = false)
    (named : survey.userDefined = true ↔ ∃ name target, core.shape = .reference name target)
    (unlisted : survey.allowed = none) (text : survey.text = core.shownText) : core.Shows survey where
  named := named
  listed := by
    intro values
    constructor
    · intro present
      rw [unlisted] at present
      cases present
    · rintro ⟨alternatives, _, shape, _⟩
      simp [isUnion, shape] at single
  text := text

theorem is_reference_iff (type : DataType) :
    type.isReference = true ↔ ∃ name target, type.shape = .reference name target := by
  obtain ⟨shape, secure⟩ := type
  cases shape <;> simp [isReference]

theorem plain_shown_text (type : DataType) (plain : type.isPlain = true) : type.shownText = type.text := by
  obtain ⟨shape, secure⟩ := type
  cases shape with
  | union alternatives => cases plain
  | _ => rfl

theorem plain_shows (type : DataType) (plain : type.isPlain = true) : type.Shows type.survey := by
  rw [survey_plain type plain]
  exact shows_single type _ (plain_not_union type plain) (is_reference_iff type) rfl
    (plain_shown_text type plain).symm

theorem literals_iff (choices : List DataType) (values : List String) :
    (choices.all isLiteral = true ∧ choices.filterMap literalText? = values) ↔
      ∃ literals : List Literal, choices.map DataType.shape = literals.map Shape.literal ∧
        values = literals.map Literal.valueText := by
  induction choices generalizing values with
  | nil =>
      constructor
      · rintro ⟨_, rfl⟩
        exact ⟨[], rfl, rfl⟩
      · rintro ⟨literals, shapes, rfl⟩
        obtain rfl : literals = [] := List.map_eq_nil_iff.mp shapes.symm
        exact ⟨rfl, rfl⟩
  | cons type rest ih =>
      obtain ⟨shape, secure⟩ := type
      constructor
      · rintro ⟨all, rfl⟩
        rw [List.all_cons, Bool.and_eq_true] at all
        obtain ⟨literals, shapes, texts⟩ := (ih _).mp ⟨all.2, rfl⟩
        cases shape with
        | literal value => exact ⟨value :: literals, by simp [shapes], by simp [literalText?, texts]⟩
        | _ => cases all.1
      · rintro ⟨literals, shapes, rfl⟩
        cases literals with
        | nil => cases shapes
        | cons value more =>
            rw [List.map_cons, List.map_cons, List.cons.injEq] at shapes
            obtain ⟨rfl, shapes⟩ := shapes
            obtain ⟨all, texts⟩ := (ih _).mpr ⟨more, shapes, rfl⟩
            exact ⟨by simp [isLiteral, all], by simp [literalText?, texts]⟩

theorem lists_values_union (alternatives : List DataType) (secure : Bool) (values : List String) :
    ListsValues ⟨.union alternatives, secure⟩ values ↔ 2 ≤ (nonNull alternatives).length ∧
      (nonNull alternatives).all isLiteral = true ∧ (nonNull alternatives).filterMap literalText? = values := by
  constructor
  · rintro ⟨_, literals, ⟨⟩, several, shapes, texts⟩
    have same : (nonNull alternatives).length = literals.length := by simpa using congrArg List.length shapes
    exact ⟨same ▸ several, (literals_iff _ values).mpr ⟨literals, shapes, texts⟩⟩
  · rintro ⟨several, listed⟩
    obtain ⟨literals, shapes, texts⟩ := (literals_iff _ values).mp listed
    have same : (nonNull alternatives).length = literals.length := by simpa using congrArg List.length shapes
    exact ⟨alternatives, literals, rfl, same ▸ several, shapes, texts⟩

theorem choice_shows (alternatives : List DataType) (secure : Bool)
    (several : (nonNull alternatives).length ≠ 1) :
    Shows ⟨.union alternatives, secure⟩ (surveyChoice secure (nonNull alternatives)) := by
  rcases survey_choice_cases secure (nonNull alternatives) with
    ⟨empty, found⟩ | ⟨filled, literals, found⟩ | ⟨unlisted, found⟩
  · rw [found]
    refine ⟨by simp [Survey.plain], fun values => ?_, by simp [Survey.plain, shownText, empty]⟩
    rw [lists_values_union]
    simp [Survey.plain, empty]
  · rw [found]
    have two : 2 ≤ (nonNull alternatives).length := by
      have some := List.length_pos_iff.mpr filled
      omega
    refine ⟨by simp [Survey.plain], fun values => ?_, by simp [Survey.plain, shownText, filled]⟩
    rw [lists_values_union]
    simp [two, literals]
  · rw [found]
    have filled : nonNull alternatives ≠ [] := by
      rintro empty
      rw [empty] at unlisted
      cases unlisted
    refine ⟨by simp [Survey.plain], fun values => ?_, by simp [Survey.plain, shownText, filled]⟩
    rw [lists_values_union]
    simp [Survey.plain, unlisted]

theorem core_shows (type : DataType) : type.core.Shows type.survey := by
  induction type using induction_on_survey with
  | plain type plain =>
      rw [core_of_not_union type (plain_not_union type plain)]
      exact plain_shows type plain
  | sole alternatives secure only sole ih =>
      rw [survey_union_sole alternatives secure only sole, core_union_sole alternatives secure only sole]
      exact ⟨ih.named, ih.listed, ih.text⟩
  | choice alternatives secure several =>
      have shows := choice_shows alternatives secure several
      rw [survey_union_choice alternatives secure several, core_union_choice alternatives secure several]
      exact ⟨shows.named, shows.listed, shows.text⟩
  | reference name target secure _ =>
      rw [core_of_not_union _ rfl, survey]
      exact shows_single _ _ rfl ⟨fun _ => ⟨name, some target, rfl⟩, fun _ => rfl⟩ rfl rfl

end TemplateManual.DataType

namespace TemplateManual

theorem entry_shows_core (name : String) (type : DataType) (decorators : List Decorator) :
    let entry := (PropertyEntry.ofType name type decorators).value
    (entry.required = false ↔ type.MeetsNull) ∧
    (entry.userDefined = true ↔ ∃ named target, type.core.shape = .reference named target) ∧
    (∀ values, entry.allowed = some values ↔ type.core.ListsValues values) ∧
    (entry.largeSet = true ↔ ∃ values, type.core.ListsValues values ∧ 2 < values.length) ∧
    entry.typeText = type.core.shownText := by
  have shows := DataType.core_shows type
  refine ⟨DataType.survey_required type, shows.named, shows.listed, ?_, shows.text⟩
  rw [(of_type_agrees name type decorators).large]
  exact exists_congr fun values => and_congr_left fun _ => shows.listed values

end TemplateManual
