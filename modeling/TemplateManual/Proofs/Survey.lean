import TemplateManual.Manual.Survey

set_option autoImplicit false

namespace TemplateManual.DataType

theorem non_null_cons_null (type : DataType) (rest : List DataType) (null : type.isNull = true) :
    nonNull (type :: rest) = nonNull rest := by
  simp [nonNull, null]

theorem non_null_cons_present (type : DataType) (rest : List DataType) (present : type.isNull = false) :
    nonNull (type :: rest) = type :: nonNull rest := by
  simp [nonNull, present]

theorem mem_non_null (type : DataType) (alternatives : List DataType) :
    type ∈ nonNull alternatives ↔ type ∈ alternatives ∧ type.isNull = false := by
  simp [nonNull]

theorem non_null_eq_nil (alternatives : List DataType) :
    nonNull alternatives = [] ↔ alternatives.all isNull = true := by
  simp [nonNull, List.filter_eq_nil_iff]

theorem sole_survey_eq (alternatives : List DataType) :
    soleSurvey? alternatives =
      match nonNull alternatives with
      | [type] => some type.survey
      | _ => none := by
  induction alternatives with
  | nil => simp [soleSurvey?, nonNull]
  | cons type rest ih =>
      cases null : type.isNull with
      | true => rw [soleSurvey?, if_pos null, ih, non_null_cons_null type rest null]
      | false =>
          rw [soleSurvey?, if_neg (by simp [null]), non_null_cons_present type rest null]
          by_cases alone : rest.all isNull = true
          · rw [if_pos alone, (non_null_eq_nil rest).mpr alone]
          · rw [if_neg alone]
            cases others : nonNull rest with
            | nil => exact absurd ((non_null_eq_nil rest).mp others) alone
            | cons next more => rfl

theorem survey_union_sole (alternatives : List DataType) (secure : Bool) (type : DataType)
    (sole : nonNull alternatives = [type]) :
    survey ⟨.union alternatives, secure⟩ =
      (type.survey.mark secure).allowNull (alternatives.any isNull) := by
  rw [survey, sole_survey_eq, sole]

theorem survey_union_choice (alternatives : List DataType) (secure : Bool)
    (several : (nonNull alternatives).length ≠ 1) :
    survey ⟨.union alternatives, secure⟩ =
      (surveyChoice secure (nonNull alternatives)).allowNull (alternatives.any isNull) := by
  rw [survey, sole_survey_eq]
  cases choices : nonNull alternatives with
  | nil => rfl
  | cons type rest =>
      cases rest with
      | nil => simp [choices] at several
      | cons next more => rfl

theorem survey_choice_cases (secure : Bool) (choices : List DataType) :
    (choices = [] ∧ surveyChoice secure choices = Survey.plain "null" .none secure) ∨
    (choices ≠ [] ∧ choices.all isLiteral = true ∧
      surveyChoice secure choices =
        { Survey.plain (Text.join " | " (choices.map DataType.text)) .none
            (secure || choices.any DataType.secure) with
          allowed := some (choices.filterMap literalText?) }) ∨
    (choices.all isLiteral = false ∧
      surveyChoice secure choices =
        Survey.plain (Text.join " | " (choices.map DataType.text)) .none secure) := by
  cases choices with
  | nil => exact Or.inl ⟨rfl, rfl⟩
  | cons first rest =>
      right
      cases literals : (first :: rest).all isLiteral with
      | true =>
          refine Or.inl ⟨List.cons_ne_nil first rest, rfl, ?_⟩
          simp only [surveyChoice, List.isEmpty_cons, literals, if_true, Bool.false_eq_true, if_false]
      | false =>
          refine Or.inr ⟨rfl, ?_⟩
          simp only [surveyChoice, List.isEmpty_cons, literals, Bool.false_eq_true, if_false]

theorem survey_reference_secure (name : String) (target : DataType) (secure : Bool) :
    (survey ⟨.reference name (some target), secure⟩).secure = (secure || target.survey.secure) := by
  rw [survey]
  rfl

-- Neither a union nor a reference with a target: the survey of such a type looks at nothing inside.
def isPlain (type : DataType) : Bool :=
  match type.shape with
  | .union _ => false
  | .reference _ (some _) => false
  | _ => true

def finding? (type : DataType) : Option Finding :=
  match type.shape with
  | .reference name none => some (.unresolvedReference name)
  | .other name => some (.nameOnly name)
  | _ => none

def ownLimits (type : DataType) : Limits :=
  match type.shape with
  | .string length => .length length
  | .array _ length => .length length
  | .int range => .value range
  | _ => .none

def isReference (type : DataType) : Bool :=
  match type.shape with
  | .reference _ _ => true
  | _ => false

theorem survey_plain (type : DataType) (plain : type.isPlain = true) :
    type.survey =
      ⟨type.text, true, none, type.isReference, type.ownLimits, type.secure, type.finding?⟩ := by
  obtain ⟨shape, secure⟩ := type
  cases shape with
  | union alternatives => cases plain
  | reference name target =>
      cases target with
      | none => rfl
      | some target => cases plain
  | _ => rfl

theorem survey_plain_secure (type : DataType) (plain : type.isPlain = true) :
    type.survey.secure = type.secure := by
  rw [survey_plain type plain]

theorem plain_of_literal (type : DataType) (literal : type.isLiteral = true) : type.isPlain = true := by
  obtain ⟨shape, secure⟩ := type
  cases shape <;> simp_all [isLiteral, isPlain]

theorem induction_on_parts (motive : DataType → Prop)
    (plain : ∀ type, type.isPlain = true → motive type)
    (union : ∀ alternatives secure, (∀ type ∈ alternatives, motive type) →
      motive ⟨.union alternatives, secure⟩)
    (reference : ∀ name target secure, motive target → motive ⟨.reference name (some target), secure⟩)
    (type : DataType) : motive type := by
  match type with
  | ⟨.union alternatives, secure⟩ =>
      apply union
      intro part member
      have smaller : sizeOf part < sizeOf alternatives := List.sizeOf_lt_of_mem member
      exact induction_on_parts motive plain union reference part
  | ⟨.reference name (some target), secure⟩ =>
      exact reference name target secure (induction_on_parts motive plain union reference target)
  | ⟨.reference name none, secure⟩ | ⟨.string length, secure⟩ | ⟨.int range, secure⟩
  | ⟨.bool, secure⟩ | ⟨.any, secure⟩ | ⟨.object members, secure⟩ | ⟨.array item length, secure⟩
  | ⟨.literal value, secure⟩ | ⟨.null, secure⟩ | ⟨.other name, secure⟩ => exact plain _ rfl
termination_by sizeOf type

theorem sole_member (alternatives : List DataType) (type : DataType)
    (sole : nonNull alternatives = [type]) : type ∈ alternatives :=
  ((mem_non_null type alternatives).mp (by simp [sole])).1

theorem induction_on_survey (motive : DataType → Prop)
    (plain : ∀ type, type.isPlain = true → motive type)
    (sole : ∀ alternatives secure type, nonNull alternatives = [type] → motive type →
      motive ⟨.union alternatives, secure⟩)
    (choice : ∀ alternatives secure, (nonNull alternatives).length ≠ 1 →
      motive ⟨.union alternatives, secure⟩)
    (reference : ∀ name target secure, motive target → motive ⟨.reference name (some target), secure⟩)
    (type : DataType) : motive type := by
  induction type using induction_on_parts with
  | plain type isPlain => exact plain type isPlain
  | union alternatives secure ih =>
      by_cases one : (nonNull alternatives).length = 1
      · obtain ⟨only, alone⟩ := List.length_eq_one_iff.mp one
        exact sole alternatives secure only alone (ih only (sole_member alternatives only alone))
      · exact choice alternatives secure one
  | reference name target secure ih => exact reference name target secure ih

theorem sole_smaller (alternatives : List DataType) (type : DataType)
    (sole : nonNull alternatives = [type]) : sizeOf type < sizeOf alternatives :=
  List.sizeOf_lt_of_mem (sole_member alternatives type sole)

-- What is left when a union of one alternative besides null is replaced by that alternative, again and
-- again.
def core (type : DataType) : DataType :=
  match type with
  | ⟨.union alternatives, secure⟩ =>
    match sole : nonNull alternatives with
    | [inner] =>
      have := sole_smaller alternatives inner sole
      inner.core
    | _ => ⟨.union alternatives, secure⟩
  | other => other
termination_by sizeOf type

theorem core_union_sole (alternatives : List DataType) (secure : Bool) (type : DataType)
    (sole : nonNull alternatives = [type]) : core ⟨.union alternatives, secure⟩ = type.core := by
  rw [core]
  split
  · rename_i inner found
    rw [sole] at found
    cases found
    rfl
  · rename_i several
    exact absurd sole (several type)

theorem core_union_choice (alternatives : List DataType) (secure : Bool)
    (several : (nonNull alternatives).length ≠ 1) :
    core ⟨.union alternatives, secure⟩ = ⟨.union alternatives, secure⟩ := by
  rw [core]
  split
  · rename_i inner found
    simp [found] at several
  · rfl

theorem core_of_not_union (type : DataType) (single : type.isUnion = false) : type.core = type := by
  unfold core
  split
  · cases single
  · rfl

theorem plain_not_union (type : DataType) (plain : type.isPlain = true) : type.isUnion = false := by
  obtain ⟨shape, secure⟩ := type
  cases shape <;> first | rfl | cases plain

theorem choice_unlimited (secure : Bool) (choices : List DataType) :
    (surveyChoice secure choices).required = true ∧ (surveyChoice secure choices).limits = .none ∧
      (surveyChoice secure choices).finding = none := by
  rcases survey_choice_cases secure choices with ⟨_, found⟩ | ⟨_, _, found⟩ | ⟨_, found⟩ <;> rw [found] <;>
    exact ⟨rfl, rfl, rfl⟩

-- The target of a reference is surveyed without its finding.
theorem survey_finding (type : DataType) : type.survey.finding = type.core.finding? := by
  induction type using induction_on_survey with
  | plain type plain =>
      rw [core_of_not_union type (plain_not_union type plain), survey_plain type plain]
  | sole alternatives secure only sole ih =>
      rw [survey_union_sole alternatives secure only sole, core_union_sole alternatives secure only sole]
      exact ih
  | choice alternatives secure several =>
      rw [survey_union_choice alternatives secure several, core_union_choice alternatives secure several]
      exact (choice_unlimited secure _).2.2
  | reference name target secure _ =>
      rw [core_of_not_union _ rfl, survey]
      rfl

end TemplateManual.DataType
