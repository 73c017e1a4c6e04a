import TemplateManual.Proofs.Survey

set_option autoImplicit false

namespace TemplateManual

namespace Survey

theorem allow_null_again (first second : Bool) (survey : Survey) :
    (survey.allowNull first).allowNull second = survey.allowNull (first || second) := by
  simp [allowNull, Bool.and_assoc]

theorem mark_false (survey : Survey) : survey.mark false = survey := by
  simp [mark]

end Survey

namespace DataType

def surveyPresent (secure : Bool) (present : List DataType) : Survey :=
  match present with
  | [only] => only.survey.mark secure
  | _ => surveyChoice secure present

theorem survey_union (alternatives : List DataType) (secure : Bool) :
    survey ⟨.union alternatives, secure⟩ =
      (surveyPresent secure (nonNull alternatives)).allowNull (alternatives.any isNull) := by
  by_cases one : (nonNull alternatives).length = 1
  · obtain ⟨only, sole⟩ := List.length_eq_one_iff.mp one
    rw [survey_union_sole alternatives secure only sole, sole]
    rfl
  · rw [survey_union_choice alternatives secure one]
    unfold surveyPresent
    split
    · rename_i only sole
      simp [sole] at one
    · rfl

theorem is_null_null : isNull null = true := rfl

theorem non_null_append_null (alternatives : List DataType) :
    nonNull (alternatives ++ [null]) = nonNull alternatives := by
  simp [nonNull, is_null_null]

theorem any_null_append_null (alternatives : List DataType) :
    (alternatives ++ [null]).any isNull = true := by
  simp [is_null_null]

theorem is_nullable_union (alternatives : List DataType) (secure : Bool) :
    isNullable ⟨.union alternatives, secure⟩ = alternatives.any isNull := rfl

theorem as_nullable_single (type : DataType) (single : type.isUnion = false) :
    type.asNullable = ⟨.union [type, null], false⟩ := by
  obtain ⟨shape, secure⟩ := type
  cases shape with
  | union alternatives => cases single
  | _ => rfl

theorem as_nullable_of_nullable (type : DataType) (nullable : type.isNullable = true) :
    type.asNullable = type := by
  obtain ⟨shape, secure⟩ := type
  cases shape with
  | union alternatives => exact if_pos nullable
  | _ => cases nullable

theorem as_nullable_union (alternatives : List DataType) (secure : Bool)
    (without : alternatives.any isNull = false) :
    asNullable ⟨.union alternatives, secure⟩ = ⟨.union (alternatives ++ [null]), secure⟩ :=
  if_neg (by simp [without])

theorem as_nullable_nullable (type : DataType) : type.asNullable.isNullable = true := by
  by_cases nullable : type.isNullable = true
  · rw [as_nullable_of_nullable type nullable, nullable]
  · obtain ⟨shape, secure⟩ := type
    cases shape with
    | union alternatives =>
        rw [is_nullable_union, Bool.not_eq_true] at nullable
        rw [as_nullable_union alternatives secure nullable, is_nullable_union, any_null_append_null]
    | _ => rfl

-- A union that admits null already stays, any other gets null as one more alternative, and a type that is
-- no union becomes the only alternative besides null.
theorem survey_as_nullable (type : DataType) (present : type.isNull = false) :
    type.asNullable.survey = type.survey.allowNull true := by
  by_cases single : type.isUnion = false
  · have sole : nonNull [type, null] = [type] := by
      rw [non_null_cons_present type [null] present]
      rfl
    rw [as_nullable_single type single, survey_union_sole _ false type sole, Survey.mark_false]
    simp [is_null_null]
  · obtain ⟨shape, secure⟩ := type
    cases shape with
    | union alternatives =>
        cases nullable : alternatives.any isNull with
        | true =>
            rw [as_nullable_of_nullable ⟨.union alternatives, secure⟩ nullable, survey_union, nullable,
              Survey.allow_null_again]
            rfl
        | false =>
            rw [as_nullable_union alternatives secure nullable, survey_union, survey_union,
              non_null_append_null, any_null_append_null, nullable, Survey.allow_null_again]
            rfl
    | _ => exact absurd rfl single

end DataType

theorem of_type_optional (name : String) (type other : DataType) (decorators : List Decorator)
    (surveyed : other.survey = type.survey.allowNull true) :
    PropertyEntry.ofType name other decorators =
      ⟨{ (PropertyEntry.ofType name type decorators).value with required := false },
        (PropertyEntry.ofType name type decorators).notices⟩ := by
  simp [PropertyEntry.ofType, PropertyEntry.ofSurvey, surveyed, Survey.allowNull]

theorem of_union_required (name : String) (alternatives : List DataType) (secure : Bool)
    (decorators : List Decorator) (nullable : alternatives.any DataType.isNull = true) :
    (PropertyEntry.ofType name ⟨.union alternatives, secure⟩ decorators).value.required = false := by
  have surveyed := DataType.survey_union alternatives secure
  simp [PropertyEntry.ofType, PropertyEntry.ofSurvey, surveyed, nullable, Survey.allowNull]

theorem null_decides_required_only (name : String) (decorators : List Decorator) :
    (∀ (first second : List DataType) (secure : Bool),
      DataType.nonNull first = DataType.nonNull second →
      let entry := PropertyEntry.ofType name ⟨.union first, secure⟩ decorators
      let other := PropertyEntry.ofType name ⟨.union second, secure⟩ decorators
      { entry.value with required := other.value.required } = other.value ∧
        entry.notices = other.notices ∧
        (first.any DataType.isNull = second.any DataType.isNull → entry = other)) ∧
    (∀ (alternatives : List DataType) (secure : Bool), (∃ type ∈ alternatives, type.isNull = true) →
      (PropertyEntry.ofType name ⟨.union alternatives, secure⟩ decorators).value.required = false) ∧
    (∀ type : DataType, type.isNull = false →
      PropertyEntry.ofType name type.asNullable decorators =
        ⟨{ (PropertyEntry.ofType name type decorators).value with required := false },
          (PropertyEntry.ofType name type decorators).notices⟩) ∧
    ∀ type : DataType,
      type.asNullable.asNullable = type.asNullable ∧ type.asNullable.isNullable = true := by
  refine ⟨?_, ?_, ?_, ?_⟩
  · intro first second secure same
    have surveyed := DataType.survey_union first secure
    have otherSurveyed := DataType.survey_union second secure
    rw [same] at surveyed
    simp only [PropertyEntry.ofType, surveyed, otherSurveyed]
    refine ⟨rfl, rfl, ?_⟩
    intro alike
    rw [alike]
  · intro alternatives secure nullable
    exact of_union_required name alternatives secure decorators (List.any_eq_true.mpr nullable)
  · intro type present
    exact of_type_optional name type _ decorators (DataType.survey_as_nullable type present)
  · intro type
    have nullable := DataType.as_nullable_nullable type
    exact ⟨DataType.as_nullable_of_nullable _ nullable, nullable⟩

def secretKey : DataType :=
  .reference "key" (DataType.string.withLength ⟨some 3, some 24⟩).asSecure

theorem secret_key_between_nulls :
    let decorators := [Decorator.ofInt "minLength" 5]
    let entry := PropertyEntry.ofType "id" (.union [.null, secretKey, DataType.null.asSecure]) decorators
    let required := PropertyEntry.ofType "id" secretKey decorators
    required.value.required = true ∧ required.value.constraints = ⟨some 5, some 24, none, none, true⟩ ∧
      entry.value.required = false ∧
      entry = ⟨{ required.value with required := false }, required.notices⟩ := by
  obtain ⟨unions, optional, nullable, _⟩ := null_decides_required_only "id" [.ofInt "minLength" 5]
  obtain ⟨_, _, alike⟩ := unions [.null, secretKey, DataType.null.asSecure] [secretKey, .null] false rfl
  have moved := (alike rfl).trans (nullable secretKey rfl)
  exact ⟨rfl, by decide, optional _ false ⟨.null, by simp, rfl⟩, moved⟩

end TemplateManual
