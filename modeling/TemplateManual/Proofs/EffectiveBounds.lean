import TemplateManual.Proofs.Consistency
import TemplateManual.Proofs.Survey

set_option autoImplicit false

namespace TemplateManual

namespace Decorator

def Sets (decorators : List Decorator) (name : String) (value : Int) : Prop :=
  ∃ before decorator after text more, decorators = before ++ decorator :: after ∧
    (∀ earlier ∈ before, earlier.isNamed name = false) ∧ decorator.isNamed name = true ∧
    decorator.args = ⟨text, .int value⟩ :: more

-- A bound is what a decorator sets, and otherwise the type's own.
structure Adjusts (decorators : List Decorator) (name : String) (own bound : Option Int) : Prop where
  set : ∀ value, Sets decorators name value → bound = some value
  unset : (∀ value, ¬ Sets decorators name value) → bound = own

theorem int_eq_some_iff (decorators : List Decorator) (name : String) (value : Int) :
    int? decorators name = some value ↔ Sets decorators name value := by
  simp only [int?, firstArg?, find?, Option.bind_eq_some_iff, List.find?_eq_some_iff_append]
  constructor
  · rintro ⟨⟨text, form⟩, ⟨decorator, ⟨named, before, after, split, earlier⟩, first⟩, whole⟩
    cases form with
    | int found =>
        obtain rfl : found = value := Option.some.inj whole
        obtain ⟨more, args⟩ := List.head?_eq_some_iff.mp first
        exact ⟨before, decorator, after, text, more, split, by simpa using earlier, named, args⟩
    | _ => cases whole
  · rintro ⟨before, decorator, after, text, more, split, earlier, named, args⟩
    exact ⟨⟨text, .int value⟩, ⟨decorator, ⟨named, before, after, split, by simpa using earlier⟩,
      by rw [args, List.head?_cons]⟩, rfl⟩

theorem or_else_adjusts (decorators : List Decorator) (name : String) (own : Option Int) :
    Adjusts decorators name own (int? decorators name <|> own) where
  set := by
    intro value sets
    rw [(int_eq_some_iff decorators name value).mpr sets]
    rfl
  unset := by
    intro none
    cases found : int? decorators name with
    | none => rfl
    | some value => exact absurd ((int_eq_some_iff decorators name value).mp found) (none value)

end Decorator

namespace DataType

-- The type that references with a target and unions of one alternative besides null lead to.
def effective (type : DataType) : DataType :=
  match type with
  | ⟨.union alternatives, secure⟩ =>
    match sole : nonNull alternatives with
    | [inner] =>
      have := sole_smaller alternatives inner sole
      inner.effective
    | _ => ⟨.union alternatives, secure⟩
  | ⟨.reference _ (some target), _⟩ => target.effective
  | other => other
termination_by sizeOf type

theorem effective_sole (alternatives : List DataType) (secure : Bool) (only : DataType)
    (sole : nonNull alternatives = [only]) :
    effective ⟨.union alternatives, secure⟩ = only.effective := by
  rw [effective]
  split
  · rename_i inner found
    rw [sole] at found
    cases found
    rfl
  · rename_i several
    exact absurd sole (several only)

theorem effective_choice (alternatives : List DataType) (secure : Bool)
    (several : (nonNull alternatives).length ≠ 1) :
    effective ⟨.union alternatives, secure⟩ = ⟨.union alternatives, secure⟩ := by
  rw [effective]
  split
  · rename_i inner found
    simp [found] at several
  · rfl

theorem effective_reference (name : String) (target : DataType) (secure : Bool) :
    effective ⟨.reference name (some target), secure⟩ = target.effective := by
  rw [effective]

theorem effective_plain (type : DataType) (plain : type.isPlain = true) : type.effective = type := by
  obtain ⟨shape, secure⟩ := type
  cases shape with
  | union alternatives => cases plain
  | reference name target =>
      cases target with
      | none => rw [effective] <;> simp
      | some target => cases plain
  | _ => rw [effective] <;> simp

theorem survey_limits (type : DataType) : type.survey.limits = type.effective.ownLimits := by
  induction type using induction_on_survey with
  | plain type plain => rw [effective_plain type plain, survey_plain type plain]
  | sole alternatives secure only sole ih =>
      rw [survey_union_sole alternatives secure only sole, effective_sole alternatives secure only sole]
      exact ih
  | choice alternatives secure several =>
      rw [survey_union_choice alternatives secure several, effective_choice alternatives secure several]
      exact (choice_unlimited secure _).2.1
  | reference name target secure ih =>
      rw [survey, effective_reference]
      exact ih

def behind (names : List String) (type : DataType) : DataType := names.foldr reference type

theorem survey_behind (names : List String) (type : DataType) :
    (type.behind names).survey.limits = type.survey.limits ∧
      (type.behind names).survey.secure = type.survey.secure := by
  induction names with
  | nil => exact ⟨rfl, rfl⟩
  | cons name rest ih =>
      change (survey ⟨.reference name (some (type.behind rest)), false⟩).limits = _ ∧
        (survey ⟨.reference name (some (type.behind rest)), false⟩).secure = _
      rw [survey]
      exact ⟨ih.1, (Bool.false_or _).trans ih.2⟩

end DataType

theorem of_type_constraints (name : String) (type : DataType) (decorators : List Decorator) :
    (PropertyEntry.ofType name type decorators).value.constraints =
      .ofLimits (type.survey.secure || Decorator.isSecure decorators)
        (type.effective.ownLimits.decorate decorators) := by
  rw [← DataType.survey_limits]
  rfl

theorem bounds_follow_effective_type (name : String) (type : DataType) (decorators : List Decorator) :
    let constraints := (PropertyEntry.ofType name type decorators).value.constraints
    (∀ length, (type.effective.shape = .string length ∨ ∃ item, type.effective.shape = .array item length) →
      Decorator.Adjusts decorators "minLength" length.low constraints.minLength ∧
      Decorator.Adjusts decorators "maxLength" length.high constraints.maxLength ∧
      constraints.minValue = none ∧ constraints.maxValue = none) ∧
    (∀ range, type.effective.shape = .int range →
      Decorator.Adjusts decorators "minValue" range.low constraints.minValue ∧
      Decorator.Adjusts decorators "maxValue" range.high constraints.maxValue ∧
      constraints.minLength = none ∧ constraints.maxLength = none) ∧
    ((∀ length, type.effective.shape ≠ .string length) →
      (∀ item length, type.effective.shape ≠ .array item length) →
      (∀ range, type.effective.shape ≠ .int range) → constraints.Unbounded) ∧
    ∀ names, (PropertyEntry.ofType name (type.behind names) decorators).value.constraints = constraints := by
  refine ⟨?_, ?_, ?_, ?_⟩
  · intro length bounded
    have own : type.effective.ownLimits = .length length := by
      rcases bounded with shape | ⟨item, shape⟩ <;> simp [DataType.ownLimits, shape]
    rw [of_type_constraints, own]
    exact ⟨Decorator.or_else_adjusts _ _ _, Decorator.or_else_adjusts _ _ _, rfl, rfl⟩
  · intro range bounded
    have own : type.effective.ownLimits = .value range := by simp [DataType.ownLimits, bounded]
    rw [of_type_constraints, own]
    exact ⟨Decorator.or_else_adjusts _ _ _, Decorator.or_else_adjusts _ _ _, rfl, rfl⟩
  · intro noString noArray noInt
    have own : type.effective.ownLimits = .none := by
      unfold DataType.ownLimits
      split
      · exact absurd ‹_› (noString _)
      · exact absurd ‹_› (noArray _ _)
      · exact absurd ‹_› (noInt _)
      · rfl
    rw [of_type_constraints, own]
    exact ⟨rfl, rfl, rfl, rfl⟩
  · intro names
    obtain ⟨limits, secure⟩ := DataType.survey_behind names type
    rw [of_type_constraints, of_type_constraints, ← DataType.survey_limits, ← DataType.survey_limits, limits, secure]

def namedLabel : DataType :=
  .union [(DataType.string.withLength ⟨some 3, some 24⟩).behind ["key", "label"], .null]

def labelDecorators : List Decorator :=
  [.ofInt "sys.minLength" 5, ⟨"maxLength", [.ofString "9"]⟩, .ofInt "minLength" 7]

theorem named_label_effective : namedLabel.effective = DataType.string.withLength ⟨some 3, some 24⟩ := by
  change DataType.effective ⟨.union _, false⟩ = _
  rw [DataType.effective_sole _ false ((DataType.string.withLength ⟨some 3, some 24⟩).behind ["key", "label"]) rfl]
  change DataType.effective ⟨.reference "key" (some ⟨.reference "label" (some _), false⟩), false⟩ = _
  rw [DataType.effective_reference, DataType.effective_reference, DataType.effective_plain _ rfl]
  rfl

theorem named_label_bounds :
    let constraints := (PropertyEntry.ofType "id" namedLabel labelDecorators).value.constraints
    constraints.minLength = some 5 ∧ constraints.maxLength = some 24 ∧
      constraints.minValue = none ∧ constraints.maxValue = none := by
  obtain ⟨lengths, _⟩ := bounds_follow_effective_type "id" namedLabel labelDecorators
  obtain ⟨least, greatest, unvalued⟩ := lengths ⟨some 3, some 24⟩ (Or.inl (by rw [named_label_effective]; rfl))
  refine ⟨least.set 5 ⟨[], _, _, "5", [], rfl, by simp, by decide, rfl⟩, greatest.unset ?_, unvalued⟩
  intro value sets
  exact Option.some_ne_none value ((Decorator.int_eq_some_iff _ _ _).mpr sets).symm

end TemplateManual
