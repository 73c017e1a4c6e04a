import TemplateManual.Proofs.Extraction
import TemplateManual.Proofs.Survey
import TemplateManual.Manual.Cell

set_option autoImplicit false

namespace TemplateManual

def Constraints.Unbounded (constraints : Constraints) : Prop :=
  constraints.minLength = none ∧ constraints.maxLength = none ∧
    constraints.minValue = none ∧ constraints.maxValue = none

structure ValuesAgree (allowed : Option (List String)) (largeSet userDefined : Bool)
    (constraints : Constraints) : Prop where
  named : userDefined = true → allowed = none
  large : largeSet = true ↔ ∃ values, allowed = some values ∧ 2 < values.length
  listed : ∀ values, allowed = some values → 2 ≤ values.length ∧ constraints.Unbounded
  oneKind : (constraints.minLength = none ∧ constraints.maxLength = none) ∨
    (constraints.minValue = none ∧ constraints.maxValue = none)

structure DefaultAgrees (entry : ParameterEntry) : Prop where
  required : entry.required = true ↔ entry.defaultText = none
  complex : entry.complexDefault = true → entry.defaultText.isSome = true ∧ entry.interpolated = false

structure Survey.Agrees (survey : Survey) : Prop where
  named : survey.userDefined = true → survey.allowed = none
  listed : ∀ values, survey.allowed = some values → 2 ≤ values.length ∧ survey.limits = .none

namespace Survey

theorem agrees_of_no_values (survey : Survey) (absent : survey.allowed = none) : survey.Agrees where
  named := fun _ => absent
  listed := by
    intro values present
    rw [absent] at present
    cases present

theorem mark_agrees (secure : Bool) (survey : Survey) (agrees : survey.Agrees) :
    (survey.mark secure).Agrees :=
  ⟨agrees.named, agrees.listed⟩

theorem allow_null_agrees (nullable : Bool) (survey : Survey) (agrees : survey.Agrees) :
    (survey.allowNull nullable).Agrees :=
  ⟨agrees.named, agrees.listed⟩

end Survey

namespace DataType

theorem literal_text_is_some (type : DataType) : type.literalText?.isSome = type.isLiteral := by
  obtain ⟨shape, secure⟩ := type
  cases shape <;> rfl

theorem length_literal_texts (choices : List DataType) (literals : choices.all isLiteral = true) :
    (choices.filterMap literalText?).length = choices.length := by
  rw [List.filterMap_length_eq_length]
  intro type member
  rw [literal_text_is_some]
  exact List.all_eq_true.mp literals type member

theorem choice_agrees (secure : Bool) (choices : List DataType) (several : choices.length ≠ 1) :
    (surveyChoice secure choices).Agrees := by
  rcases survey_choice_cases secure choices with ⟨_, found⟩ | ⟨filled, literals, found⟩ | ⟨_, found⟩
  · rw [found]
    exact Survey.agrees_of_no_values _ rfl
  · rw [found]
    refine ⟨fun named => (Bool.false_ne_true named).elim, ?_⟩
    intro values present
    obtain rfl : choices.filterMap literalText? = values := Option.some.inj present
    have some := List.length_pos_iff.mpr filled
    rw [length_literal_texts choices literals]
    exact ⟨by omega, rfl⟩
  · rw [found]
    exact Survey.agrees_of_no_values _ rfl

theorem survey_agrees (type : DataType) : type.survey.Agrees := by
  induction type using induction_on_survey with
  | plain type plain => exact Survey.agrees_of_no_values _ (by rw [survey_plain type plain])
  | sole alternatives secure only sole ih =>
      rw [survey_union_sole alternatives secure only sole]
      exact Survey.allow_null_agrees _ _ (Survey.mark_agrees _ _ ih)
  | choice alternatives secure several =>
      rw [survey_union_choice alternatives secure several]
      exact Survey.allow_null_agrees _ _ (choice_agrees secure _ several)
  | reference name target secure _ =>
      rw [survey]
      exact Survey.agrees_of_no_values _ rfl

end DataType

theorem of_limits_unbounded (secure : Bool) (decorators : List Decorator) (limits : Limits)
    (absent : limits = .none) : (Constraints.ofLimits secure (limits.decorate decorators)).Unbounded := by
  subst absent
  exact ⟨rfl, rfl, rfl, rfl⟩

theorem of_limits_one_kind (secure : Bool) (limits : Limits) :
    ((Constraints.ofLimits secure limits).minLength = none ∧
        (Constraints.ofLimits secure limits).maxLength = none) ∨
      ((Constraints.ofLimits secure limits).minValue = none ∧
        (Constraints.ofLimits secure limits).maxValue = none) := by
  cases limits with
  | none => exact Or.inl ⟨rfl, rfl⟩
  | length bounds => exact Or.inr ⟨rfl, rfl⟩
  | value bounds => exact Or.inl ⟨rfl, rfl⟩

def PropertyEntry.Agrees (entry : PropertyEntry) : Prop :=
  ValuesAgree entry.allowed entry.largeSet entry.userDefined entry.constraints

def ParameterEntry.Agrees (entry : ParameterEntry) : Prop :=
  ValuesAgree entry.allowed entry.largeSet entry.userDefined entry.constraints

theorem of_survey_agrees (name : String) (survey : Survey) (decorators : List Decorator)
    (agrees : survey.Agrees) : (PropertyEntry.ofSurvey name survey decorators).Agrees where
  named := agrees.named
  large := by
    unfold PropertyEntry.ofSurvey
    cases survey.allowed with
    | none => simp
    | some values => simp [isLargeSet]
  listed := by
    intro values present
    obtain ⟨several, unlimited⟩ := agrees.listed values present
    exact ⟨several, of_limits_unbounded _ decorators survey.limits unlimited⟩
  oneKind := of_limits_one_kind _ _

theorem of_type_agrees (name : String) (type : DataType) (decorators : List Decorator) :
    (PropertyEntry.ofType name type decorators).value.Agrees :=
  of_survey_agrees name type.survey decorators (DataType.survey_agrees type)

theorem of_member_agrees (member : Member) : (PropertyEntry.ofMember member).value.Agrees :=
  of_type_agrees member.name member.type member.decorators

-- A parameter never has the mark of its property: it is named for a type of the template or not at all.
theorem of_property_agrees (property : PropertyEntry) (defaultValue : Option Expr)
    (agrees : property.Agrees) : (ParameterEntry.ofProperty property defaultValue).Agrees where
  named := fun named => (Bool.false_ne_true named).elim
  large := agrees.large
  listed := agrees.listed
  oneKind := agrees.oneKind

theorem name_type_agrees (typeName : String) (entry : ParameterEntry) (agrees : entry.Agrees) :
    (entry.nameType typeName).Agrees where
  named := fun _ => rfl
  large := by simp [ParameterEntry.nameType]
  listed := by
    intro values present
    cases present
  oneKind := agrees.oneKind

theorem of_parameter_agrees (template : Template) (parameter : Parameter) :
    (ParameterEntry.ofParameter template parameter).value.Agrees := by
  have property := of_property_agrees _ parameter.defaultValue
    (of_type_agrees parameter.name parameter.type parameter.decorators)
  unfold ParameterEntry.ofParameter
  split
  · exact name_type_agrees _ _ property
  · exact property

theorem complex_not_interpolated (expr : Expr) (complex : expr.isComplex = true) :
    expr.isInterpolated = false := by
  obtain ⟨text, form⟩ := expr
  cases form <;> first | rfl | cases complex

theorem of_property_default_agrees (property : PropertyEntry) (defaultValue : Option Expr) :
    DefaultAgrees (ParameterEntry.ofProperty property defaultValue) where
  required := by cases defaultValue <;> simp [ParameterEntry.ofProperty]
  complex := by
    intro complex
    cases defaultValue with
    | none => cases complex
    | some expr => exact ⟨rfl, complex_not_interpolated expr complex⟩

theorem of_parameter_default_agrees (template : Template) (parameter : Parameter) :
    DefaultAgrees (ParameterEntry.ofParameter template parameter).value := by
  have property := of_property_default_agrees
    (PropertyEntry.ofType parameter.name parameter.type parameter.decorators).value
    parameter.defaultValue
  unfold ParameterEntry.ofParameter
  split
  · exact ⟨property.required, property.complex⟩
  · exact property

theorem type_cell_unbounded (typeText : String) (constraints : Constraints)
    (unbounded : constraints.Unbounded) :
    Cell.type typeText constraints = Cell.escape typeText ++ Cell.secrecy constraints.secure := by
  obtain ⟨minLength, maxLength, minValue, maxValue⟩ := unbounded
  simp [Cell.type, Cell.lengthClause?, Cell.valueClause?, Constraints.hasLength, minLength, maxLength,
    minValue, maxValue]

-- Where values are listed there is no bound to be told, so the cell of a large set leaves nothing out
-- that the cell of a type would show.
theorem entries_agree (template : Template) :
    (∀ entry ∈ template.manual.value.parameters, DefaultAgrees entry ∧ entry.Agrees ∧
      ∀ values, entry.allowed = some values →
        Cell.type entry.typeText entry.constraints =
          Cell.escape entry.typeText ++ Cell.secrecy entry.constraints.secure) ∧
    ∀ type ∈ template.manual.value.allTypes, ∀ property ∈ type.properties, property.Agrees := by
  constructor
  · intro entry member
    obtain ⟨parameter, _, rfl⟩ := (parameter_entries_documents template).source entry member
    have agrees := of_parameter_agrees template parameter
    refine ⟨of_parameter_default_agrees template parameter, agrees, ?_⟩
    intro values present
    exact type_cell_unbounded _ _ (agrees.listed values present).2
  · intro type listed property owned
    cases body : type.body with
    | literalUnion rendered => simp [TypeEntry.properties, body] at owned
    | scalarLiteral rendered => simp [TypeEntry.properties, body] at owned
    | object properties =>
        have inBody : property ∈ properties := by simpa [TypeEntry.properties, body] using owned
        rw [type_entry_properties template type listed properties body] at inBody
        obtain ⟨source, _, rfl⟩ := (of_members_documents _ _).source property inBody
        exact of_member_agrees source

def boundedMember : Member :=
  ⟨"m", .union [.reference "r" (DataType.string.withLength ⟨some 3, none⟩), .null], none,
    [.ofInt "maxValue" 9]⟩

def nestedTypes : Template :=
  ⟨[⟨"tier", .union [.union [.stringLiteral "a", .stringLiteral "b", .stringLiteral "c"], .null],
      .other "tier", [.ofInt "minLength" 1], some (.ofEntries [("k", .ofInt 1)])⟩],
    [⟨"t", .objectOf [boundedMember], .other "object", []⟩], [], []⟩

theorem nested_types_agree :
    (∃ entry ∈ nestedTypes.manual.value.parameters, entry.allowed = some ["a", "b", "c"] ∧
      entry.complexDefault = true ∧ DefaultAgrees entry ∧ entry.Agrees) ∧
    ∃ type ∈ nestedTypes.manual.value.allTypes, ∃ property ∈ type.properties,
      property.userDefined = true ∧ property.constraints.minLength = some 3 ∧ property.Agrees := by
  obtain ⟨parameters, properties⟩ := entries_agree nestedTypes
  have parameter := List.mem_of_find?_eq_some ((parameter_entries_documents nestedTypes).first "tier")
  have declared := List.mem_of_find?_eq_some ((type_entries_documents nestedTypes).first "t")
  have listed := List.mem_append_left nestedTypes.manual.value.importedTypes declared
  have member := List.mem_of_find?_eq_some ((of_members_documents "t" [boundedMember]).first "m")
  obtain ⟨default, agrees, _⟩ := parameters _ parameter
  exact ⟨⟨_, parameter, rfl, rfl, default, agrees⟩,
    _, listed, _, member, rfl, rfl, properties _ listed _ member⟩

end TemplateManual
