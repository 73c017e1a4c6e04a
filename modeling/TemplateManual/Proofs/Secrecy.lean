import Mathlib.Data.List.Infix
import TemplateManual.Proofs.Extraction
import TemplateManual.Proofs.Layout
import TemplateManual.Proofs.Survey

set_option autoImplicit false

namespace TemplateManual

open Markdown

-- The types that a value of a type may have: step by step to an alternative other than null or to the
-- target of a reference. `enters` says of which unions the alternatives count.
inductive Reaches (enters : List DataType → Prop) : DataType → DataType → Prop where
  | self (type : DataType) : Reaches enters type type
  | alternative (alternatives : List DataType) (secure : Bool) (type inner : DataType)
      (entered : enters alternatives) (member : type ∈ alternatives) (present : type.isNull = false)
      (onward : Reaches enters type inner) : Reaches enters ⟨.union alternatives, secure⟩ inner
  | target (name : String) (target : DataType) (secure : Bool) (inner : DataType)
      (onward : Reaches enters target inner) :
      Reaches enters ⟨.reference name (some target), secure⟩ inner

def Secret (enters : List DataType → Prop) (type : DataType) (decorators : List Decorator) : Prop :=
  Decorator.isSecure decorators = true ∨ ∃ inner, Reaches enters type inner ∧ inner.secure = true

def everyUnion (_ : List DataType) : Prop := True

def openUnion (alternatives : List DataType) : Prop :=
  (DataType.nonNull alternatives).length ≤ 1 ∨
    (DataType.nonNull alternatives).all DataType.isLiteral = true

theorem reaches_weaken (enters wider : List DataType → Prop)
    (weaker : ∀ alternatives, enters alternatives → wider alternatives) (type inner : DataType)
    (reached : Reaches enters type inner) : Reaches wider type inner := by
  induction reached with
  | self type => exact .self type
  | alternative alternatives secure type inner entered member present _ ih =>
      exact .alternative alternatives secure type inner (weaker alternatives entered) member present ih
  | target name target secure inner _ ih => exact .target name target secure inner ih

-- With nothing but open unions on the way, every mark that can be reached is reached through them.
theorem reaches_open (type inner : DataType) (reached : Reaches everyUnion type inner)
    (allOpen : ∀ alternatives secure, Reaches everyUnion type ⟨.union alternatives, secure⟩ →
      openUnion alternatives) : Reaches openUnion type inner := by
  induction reached with
  | self type => exact .self type
  | alternative alternatives secure type inner _ member present _ ih =>
      refine .alternative alternatives secure type inner (allOpen alternatives secure (.self _)) member
        present (ih ?_)
      intro further mark found
      exact allOpen further mark (.alternative alternatives secure type _ trivial member present found)
  | target name target secure inner _ ih =>
      refine .target name target secure inner (ih ?_)
      intro further mark found
      exact allOpen further mark (.target name target secure _ found)

theorem choice_secure (secure : Bool) (choices : List DataType) :
    (DataType.surveyChoice secure choices).secure = true ↔
      secure = true ∨ choices.all DataType.isLiteral = true ∧ ∃ type ∈ choices, type.secure = true := by
  rcases DataType.survey_choice_cases secure choices with
    ⟨rfl, found⟩ | ⟨_, literals, found⟩ | ⟨unlisted, found⟩
  · rw [found]
    simp [Survey.plain]
  · rw [found, literals]
    simp [Survey.plain]
  · rw [found, unlisted]
    simp [Survey.plain]

theorem survey_keeps_own_mark (type : DataType) (marked : type.secure = true) :
    type.survey.secure = true := by
  obtain ⟨shape, secure⟩ := type
  obtain rfl : secure = true := marked
  cases shape with
  | union alternatives =>
      by_cases one : (DataType.nonNull alternatives).length = 1
      · obtain ⟨type, sole⟩ := List.length_eq_one_iff.mp one
        rw [DataType.survey_union_sole alternatives true type sole]
        simp [Survey.allowNull, Survey.mark]
      · rw [DataType.survey_union_choice alternatives true one]
        exact (choice_secure true _).mpr (Or.inl rfl)
  | reference name target =>
      cases target with
      | none => rfl
      | some target => rw [DataType.survey_reference_secure, Bool.true_or]
  | _ => rfl

theorem survey_secure_of_reached (type inner : DataType) (reached : Reaches openUnion type inner)
    (marked : inner.secure = true) : type.survey.secure = true := by
  induction reached with
  | self type => exact survey_keeps_own_mark type marked
  | alternative alternatives secure type inner entered member present _ ih =>
      have found := ih marked
      have choice := (DataType.mem_non_null type alternatives).mpr ⟨member, present⟩
      by_cases one : (DataType.nonNull alternatives).length = 1
      · obtain ⟨only, sole⟩ := List.length_eq_one_iff.mp one
        have same : type = only := by simpa [sole] using choice
        rw [DataType.survey_union_sole alternatives secure only sole]
        simp [Survey.allowNull, Survey.mark, ← same, found]
      · have literals : (DataType.nonNull alternatives).all DataType.isLiteral = true := by
          rcases entered with few | literals
          · have some := List.length_pos_of_mem choice
            omega
          · exact literals
        have literal := List.all_eq_true.mp literals type choice
        have own : type.secure = true := by
          rw [← DataType.survey_plain_secure type (DataType.plain_of_literal type literal)]
          exact found
        rw [DataType.survey_union_choice alternatives secure one]
        exact (choice_secure secure _).mpr (Or.inr ⟨literals, type, choice, own⟩)
  | target name target secure inner _ ih =>
      rw [DataType.survey_reference_secure, ih marked, Bool.or_true]

theorem reached_of_survey_secure (type : DataType) (shown : type.survey.secure = true) :
    ∃ inner, Reaches openUnion type inner ∧ inner.secure = true := by
  induction type using DataType.induction_on_survey with
  | plain type plain =>
      rw [DataType.survey_plain_secure type plain] at shown
      exact ⟨type, .self type, shown⟩
  | sole alternatives secure only sole ih =>
      by_cases marked : secure = true
      · exact ⟨_, .self _, marked⟩
      have member := (DataType.mem_non_null only alternatives).mp (by simp [sole])
      rw [DataType.survey_union_sole alternatives secure only sole] at shown
      have found : only.survey.secure = true := by
        simpa [Survey.allowNull, Survey.mark, marked] using shown
      obtain ⟨inner, reached, secret⟩ := ih found
      exact ⟨inner, .alternative alternatives secure only inner (Or.inl (by simp [sole])) member.1
        member.2 reached, secret⟩
  | choice alternatives secure several =>
      rw [DataType.survey_union_choice alternatives secure several] at shown
      rcases (choice_secure secure _).mp shown with own | ⟨literals, type, choice, secret⟩
      · exact ⟨_, .self _, own⟩
      · have member := (DataType.mem_non_null type alternatives).mp choice
        exact ⟨type, .alternative alternatives secure type type (Or.inr literals) member.1 member.2
          (.self type), secret⟩
  | reference name target secure ih =>
      by_cases marked : secure = true
      · exact ⟨_, .self _, marked⟩
      · have found : target.survey.secure = true := by
          simpa [DataType.survey_reference_secure, marked] using shown
        obtain ⟨inner, reached, secret⟩ := ih found
        exact ⟨inner, .target name target secure inner reached, secret⟩

theorem of_limits_secure (secure : Bool) (limits : Limits) :
    (Constraints.ofLimits secure limits).secure = secure := by
  cases limits <;> rfl

theorem of_type_secure (name : String) (type : DataType) (decorators : List Decorator) :
    (PropertyEntry.ofType name type decorators).value.constraints.secure = true ↔
      Secret openUnion type decorators := by
  change (Constraints.ofLimits _ _).secure = true ↔ _
  rw [of_limits_secure, Bool.or_eq_true]
  constructor
  · rintro (shown | decorated)
    · exact Or.inr (reached_of_survey_secure type shown)
    · exact Or.inl decorated
  · rintro (decorated | ⟨inner, reached, marked⟩)
    · exact Or.inr decorated
    · exact Or.inl (survey_secure_of_reached type inner reached marked)

theorem of_parameter_constraints (template : Template) (parameter : Parameter) :
    (ParameterEntry.ofParameter template parameter).value.constraints =
      (PropertyEntry.ofType parameter.name parameter.type parameter.decorators).value.constraints :=
  of_parameter_kept ParameterEntry.constraints template parameter fun _ _ => rfl

theorem of_member_constraints (member : Member) :
    (PropertyEntry.ofMember member).value.constraints =
      (PropertyEntry.ofType member.name member.type member.decorators).value.constraints := rfl

def ShowsSecret (columns row : List String) : Prop :=
  ∃ cell, (columns.zip row).lookup "Type" = some cell ∧ " (secure)".toList <:+: cell.toList

theorem join_starts_with (separator part : String) (rest : List String) :
    part.toList <+: (Text.join separator (part :: rest)).toList := by
  cases rest with
  | nil => exact List.prefix_refl _
  | cons next more =>
      rw [Text.join_cons_cons, String.append_assoc, String.toList_append]
      exact List.prefix_append _ _

theorem type_cell_secure (typeText : String) (constraints : Constraints)
    (secure : constraints.secure = true) :
    " (secure)".toList <:+: (Cell.type typeText constraints).toList := by
  have shown : " (secure)".toList <:+: (Cell.escape typeText ++ Cell.secrecy constraints.secure).toList := by
    simp only [secure, String.toList_append]
    exact (List.suffix_append _ _).isInfix
  exact shown.trans (join_starts_with _ _ _).isInfix

theorem allowed_values_secure (values : List String) :
    " (secure)".toList <:+: (Cell.allowedValues values true).toList := by
  unfold Cell.allowedValues
  rw [String.toList_append (t := Cell.secrecy true)]
  exact (List.suffix_append _ _).isInfix

theorem parameter_type_cell_secure (entry : ParameterEntry) (secure : entry.constraints.secure = true) :
    " (secure)".toList <:+: (Cell.parameterType entry).toList := by
  unfold Cell.parameterType
  split
  · rw [secure]
    exact allowed_values_secure _
  · exact type_cell_secure entry.typeText entry.constraints secure

theorem parameter_row_shows_secret (entry : ParameterEntry) (secure : entry.constraints.secure = true) :
    ShowsSecret parameterColumns entry.row :=
  ⟨Cell.parameterType entry, rfl, parameter_type_cell_secure entry secure⟩

theorem property_row_shows_secret (entry : PropertyEntry) (secure : entry.constraints.secure = true) :
    ShowsSecret propertyColumns entry.row :=
  ⟨Cell.type entry.typeText entry.constraints, rfl,
    type_cell_secure entry.typeText entry.constraints secure⟩

def ShownIn (blocks : List Block) (columns row : List String) : Prop :=
  ∃ rows, Block.table columns rows ∈ blocks ∧ row ∈ rows ∧ ShowsSecret columns row

theorem secret_parameter_shown (template : Template) (withTypes : Bool) (entry : ParameterEntry)
    (member : entry ∈ template.manual.value.parameters) (parameter : Parameter)
    (first : template.parameters.find? (fun parameter => parameter.name == entry.name) = some parameter)
    (secret : Secret openUnion parameter.type parameter.decorators) :
    ShownIn (template.manual.value.blocks true withTypes) parameterColumns entry.row := by
  obtain ⟨source, found, made⟩ := (parameter_entries_documents template).source entry member
  obtain rfl : source = parameter := Option.some.inj (found.symm.trans first)
  have secure : entry.constraints.secure = true := by
    rw [made, of_parameter_constraints]
    exact (of_type_secure _ _ _).mpr secret
  exact ⟨_, parameter_table_listed _ withTypes entry member, List.mem_map_of_mem member,
    parameter_row_shows_secret entry secure⟩

theorem secret_member_shown (template : Template) (withParameters : Bool) (entry : TypeEntry)
    (listed : entry ∈ template.manual.value.allTypes) (property : PropertyEntry)
    (owned : property ∈ entry.properties) (member : Member)
    (first : (template.membersOf entry.name entry.origin).find?
      (fun member => member.name == property.name) = some member)
    (secret : Secret openUnion member.type member.decorators) :
    ShownIn (template.manual.value.blocks withParameters true) propertyColumns property.row := by
  obtain ⟨properties, body, inBody, table⟩ :=
    property_table_listed _ withParameters entry listed property owned
  have documents := of_members_documents entry.name (template.membersOf entry.name entry.origin)
  rw [← type_entry_properties template entry listed properties body] at documents
  obtain ⟨source, found, made⟩ := documents.source property inBody
  obtain rfl : source = member := Option.some.inj (found.symm.trans first)
  have secure : property.constraints.secure = true := by
    rw [made, of_member_constraints]
    exact (of_type_secure _ _ _).mpr secret
  exact ⟨_, table, List.mem_map_of_mem inBody, property_row_shows_secret property secure⟩

-- An entry is secret exactly by its decorators and by the marks that are reached through open unions.
-- Where all unions are open these are all marks there are, and each is shown in the table.
theorem secrecy_shown_exactly (template : Template) :
    (∀ name type decorators,
      (PropertyEntry.ofType name type decorators).value.constraints.secure = true ↔
        Secret openUnion type decorators) ∧
    (∀ type decorators,
      (∀ alternatives secure, Reaches everyUnion type ⟨.union alternatives, secure⟩ →
        openUnion alternatives) →
      (Secret everyUnion type decorators ↔ Secret openUnion type decorators)) ∧
    (∀ withTypes, ∀ entry ∈ template.manual.value.parameters, ∀ parameter,
      template.parameters.find? (fun parameter => parameter.name == entry.name) = some parameter →
      Secret openUnion parameter.type parameter.decorators →
      ShownIn (template.manual.value.blocks true withTypes) parameterColumns entry.row) ∧
    ∀ withParameters, ∀ entry ∈ template.manual.value.allTypes, ∀ property ∈ entry.properties,
      ∀ member,
      (template.membersOf entry.name entry.origin).find? (fun member => member.name == property.name) =
        some member →
      Secret openUnion member.type member.decorators →
      ShownIn (template.manual.value.blocks withParameters true) propertyColumns property.row := by
  refine ⟨of_type_secure, ?_, secret_parameter_shown template, secret_member_shown template⟩
  intro type decorators allOpen
  constructor
  · rintro (decorated | ⟨inner, reached, marked⟩)
    · exact Or.inl decorated
    · exact Or.inr ⟨inner, reaches_open type inner reached allOpen, marked⟩
  · rintro (decorated | ⟨inner, reached, marked⟩)
    · exact Or.inl decorated
    · exact Or.inr ⟨inner, reaches_weaken _ _ (fun _ _ => trivial) type inner reached, marked⟩

def secretReference : Template :=
  ⟨[⟨"token", .reference "secret" (.union [DataType.string.asSecure, .null]), .reference "secret", [],
    none⟩], [], [], []⟩

theorem referenced_secret_shown :
    ∃ entry ∈ secretReference.manual.value.parameters,
      ShownIn (secretReference.manual.value.blocks true true) parameterColumns entry.row := by
  obtain ⟨_, _, shown, _⟩ := secrecy_shown_exactly secretReference
  have listed := List.mem_of_find?_eq_some ((parameter_entries_documents secretReference).first "token")
  refine ⟨_, listed, shown true _ listed _ rfl (Or.inr ⟨DataType.string.asSecure, ?_, rfl⟩)⟩
  refine .target "secret" _ false _ ?_
  exact .alternative _ _ DataType.string.asSecure _ (Or.inl (by decide)) List.mem_cons_self rfl (.self _)

-- A secret string or a number: the choice is not among literals, and the mark is lost.
theorem choice_hides_secrecy :
    Secret everyUnion (.union [DataType.string.asSecure, .int]) [] ∧
      (PropertyEntry.ofType "token" (.union [DataType.string.asSecure, .int]) []).value.constraints.secure =
        false ∧
      Cell.type "string | int"
        (PropertyEntry.ofType "token" (.union [DataType.string.asSecure, .int]) []).value.constraints =
        "string \\| int" := by
  refine ⟨Or.inr ⟨DataType.string.asSecure, ?_, rfl⟩, by decide, by decide⟩
  exact .alternative _ _ DataType.string.asSecure _ trivial List.mem_cons_self rfl (.self _)

end TemplateManual
