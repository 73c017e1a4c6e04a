import Mathlib.Data.List.Basic
import TemplateManual.CommandLine.Run
import TemplateManual.Proofs.Json.Delimited

set_option autoImplicit false

namespace TemplateManual

open Json

namespace Json

def presentMembers (fields : List (String × Option Json)) : List (Option String × Json) :=
  fields.filterMap fun field => field.2.map fun value => (some field.1, value)

theorem present_member_source (fields : List (String × Option Json)) (member : Option String × Json)
    (found : member ∈ presentMembers fields) :
    ∃ field ∈ fields, member.1 = some field.1 ∧ field.2 = some member.2 := by
  obtain ⟨field, listed, made⟩ := List.mem_filterMap.mp found
  obtain ⟨value, present, rfl⟩ := Option.map_eq_some_iff.mp made
  exact ⟨field, listed, rfl, present⟩

theorem present_members_absent (name : String) (fields : List (String × Option Json)) :
    presentMembers ((name, none) :: fields) = presentMembers fields := rfl

theorem present_members_present (name : String) (value : Json) (fields : List (String × Option Json)) :
    presentMembers ((name, some value) :: fields) = (some name, value) :: presentMembers fields := rfl

theorem record_legible (fields : List (String × Option Json))
    (each : ∀ field ∈ fields, ∀ value, field.2 = some value → Legible value) : Legible (record fields) := by
  refine .object (presentMembers fields) ?_ ?_
  · intro member found
    obtain ⟨field, _, key, _⟩ := present_member_source fields member found
    rw [key, Option.isSome_some]
  · intro member found
    obtain ⟨field, listed, _, present⟩ := present_member_source fields member found
    exact each field listed member.2 present

-- A field that one record has and the other has not would stand in the other under a later name.
theorem present_members_differ (name : String) (value : Json) (fields others : List (String × Option Json))
    (fresh : name ∉ others.map Prod.fst) :
    presentMembers ((name, some value) :: fields) ≠ presentMembers ((name, none) :: others) := by
  intro same
  rw [present_members_absent, present_members_present] at same
  have found : (some name, value) ∈ presentMembers others := by
    rw [← same]
    exact List.mem_cons_self
  obtain ⟨field, listed, key, _⟩ := present_member_source others _ found
  exact fresh (List.mem_map.mpr ⟨field, listed, (Option.some.inj key).symm⟩)

theorem present_members_injective (names : List String) (distinct : names.Nodup)
    (fields others : List (String × Option Json)) (named : fields.map Prod.fst = names)
    (otherNamed : others.map Prod.fst = names) (same : presentMembers fields = presentMembers others) :
    fields = others := by
  induction names generalizing fields others with
  | nil => rw [List.map_eq_nil_iff.mp named, List.map_eq_nil_iff.mp otherNamed]
  | cons name names ih =>
      obtain ⟨fresh, namesDistinct⟩ := List.nodup_cons.mp distinct
      obtain ⟨⟨_, first⟩, fields, rfl, rfl, rest⟩ := List.map_eq_cons_iff.mp named
      obtain ⟨⟨_, second⟩, others, rfl, rfl, otherRest⟩ := List.map_eq_cons_iff.mp otherNamed
      cases first with
      | none =>
          cases second with
          | none => rw [ih namesDistinct fields others rest otherRest same]
          | some other => exact absurd same.symm (present_members_differ _ other others fields (rest ▸ fresh))
      | some value =>
          cases second with
          | none => exact absurd same (present_members_differ _ value fields others (otherRest ▸ fresh))
          | some other =>
              rw [present_members_present, present_members_present] at same
              obtain ⟨here, later⟩ := List.cons.inj same
              rw [(Prod.mk.inj here).2, ih namesDistinct fields others rest otherRest later]

theorem record_injective (names : List String) (distinct : names.Nodup)
    (fields others : List (String × Option Json)) (named : fields.map Prod.fst = names)
    (otherNamed : others.map Prod.fst = names) (same : record fields = record others) : fields = others :=
  present_members_injective names distinct fields others named otherNamed (Json.object.inj same)

theorem int_injective : Function.Injective Json.int := by
  intro first second same
  exact Number.whole.inj (Json.number.inj same)

theorem string_injective : Function.Injective Json.string := fun _ _ same => Json.string.inj same

end Json

theorem strings_to_json_injective : Function.Injective stringsToJson := by
  intro first second same
  exact List.map_injective_iff.mpr string_injective (Json.array.inj same)

@[simp] theorem map_string_eq (first second : Option String) :
    first.map Json.string = second.map Json.string ↔ first = second :=
  (Option.map_injective string_injective).eq_iff

@[simp] theorem map_strings_eq (first second : Option (List String)) :
    first.map stringsToJson = second.map stringsToJson ↔ first = second :=
  (Option.map_injective strings_to_json_injective).eq_iff

theorem constraints_fields_injective : Function.Injective Constraints.fields := by
  intro first second same
  obtain ⟨minLength, maxLength, minValue, maxValue, secure⟩ := first
  obtain ⟨otherMinLength, otherMaxLength, otherMinValue, otherMaxValue, otherSecure⟩ := second
  simpa [Constraints.fields, (Option.map_injective int_injective).eq_iff] using same

def constraintNames : List String := ["minLength", "maxLength", "minValue", "maxValue", "secure"]

def propertyNames : List String :=
  ["name", "type", "description", "isRequired", "allowedValues", "isComplexAllowedSet",
    "isUserDefinedType"]

def parameterNames : List String :=
  ["name", "type", "description", "isRequired", "defaultValue", "isComplexDefault", "isInterpolated",
    "isUserDefinedType", "allowedValues", "isComplexAllowedSet"]

theorem bounded_to_json_injective {α : Type} (own : α → List (String × Option Json))
    (constraints : α → Constraints) (names : List String) (distinct : (names ++ constraintNames).Nodup)
    (named : ∀ entry, (own entry).map Prod.fst = names)
    (determined : ∀ first second, own first = own second → constraints first = constraints second →
      first = second) :
    Function.Injective fun entry => record (own entry ++ (constraints entry).fields) := by
  intro first second same
  have allNamed : ∀ entry, (own entry ++ (constraints entry).fields).map Prod.fst = names ++ constraintNames := by
    intro entry
    rw [List.map_append, named]
    rfl
  have fields := record_injective _ distinct _ _ (allNamed first) (allNamed second) same
  have lengths : (own first).length = (own second).length := by
    rw [← List.length_map (f := Prod.fst), named, ← named second, List.length_map]
  obtain ⟨ownSame, bounds⟩ := List.append_inj fields lengths
  exact determined first second ownSame (constraints_fields_injective bounds)

theorem property_to_json_injective : Function.Injective PropertyEntry.toJson := by
  refine bounded_to_json_injective PropertyEntry.ownFields PropertyEntry.constraints propertyNames (by decide)
    (fun _ => rfl) ?_
  intro first second own constraints
  simpa [PropertyEntry.ownFields, PropertyEntry.ext_iff, constraints] using own

theorem parameter_to_json_injective : Function.Injective ParameterEntry.toJson := by
  refine bounded_to_json_injective ParameterEntry.ownFields ParameterEntry.constraints parameterNames (by decide)
    (fun _ => rfl) ?_
  intro first second own constraints
  simpa [ParameterEntry.ownFields, ParameterEntry.ext_iff, constraints] using own

-- The kinds of body have names of their own, so no two of them are written alike.
theorem type_body_to_json_injective : Function.Injective TypeBody.toJson := by
  intro first second same
  cases first <;> cases second <;> simp [TypeBody.toJson, record] at same
  · exact congrArg TypeBody.object (List.map_injective_iff.mpr property_to_json_injective same)
  · exact congrArg TypeBody.literalUnion same
  · exact congrArg TypeBody.scalarLiteral same

theorem origin_text_injective : Function.Injective Origin.text := by
  intro first second same
  cases first <;> cases second <;> first | rfl | exact absurd same (by decide)

theorem type_to_json_injective : Function.Injective TypeEntry.toJson := by
  intro first second same
  have fields := record_injective ["name", "description", "shape", "origin"] (by decide) _ _ rfl rfl same
  cases first
  cases second
  simpa [type_body_to_json_injective.eq_iff, origin_text_injective.eq_iff] using fields

theorem manual_to_json_injective : Function.Injective Manual.toJson := by
  intro first second same
  have fields := record_injective ["parameters", "userTypes", "importedTypes"] (by decide) _ _ rfl rfl same
  cases first
  cases second
  simpa [(List.map_injective_iff.mpr parameter_to_json_injective).eq_iff,
    (List.map_injective_iff.mpr type_to_json_injective).eq_iff] using fields

theorem int_legible (value : Int) : Legible (Json.int value) := .whole value

theorem array_legible {α : Type} (write : α → Json) (legible : ∀ item, Legible (write item)) (items : List α) :
    Legible (.array (items.map write)) := by
  refine .array _ ?_
  intro value member
  obtain ⟨item, _, rfl⟩ := List.mem_map.mp member
  exact legible item

theorem strings_legible (values : List String) : Legible (stringsToJson values) :=
  array_legible Json.string .string values

theorem constraints_legible (constraints : Constraints) :
    ∀ field ∈ constraints.fields, ∀ value, field.2 = some value → Legible value := by
  simp [Constraints.fields, Legible.bool, int_legible]

theorem bounded_legible (own : List (String × Option Json)) (constraints : Constraints)
    (each : ∀ field ∈ own, ∀ value, field.2 = some value → Legible value) :
    Legible (record (own ++ constraints.fields)) := by
  apply record_legible
  intro field listed
  rcases List.mem_append.mp listed with ownField | bound
  · exact each field ownField
  · exact constraints_legible constraints field bound

theorem property_legible (entry : PropertyEntry) : Legible entry.toJson := by
  apply bounded_legible
  simp [PropertyEntry.ownFields, or_imp, forall_and, Legible.string, Legible.bool, strings_legible]

theorem parameter_legible (entry : ParameterEntry) : Legible entry.toJson := by
  apply bounded_legible
  simp [ParameterEntry.ownFields, or_imp, forall_and, Legible.string, Legible.bool, strings_legible]

theorem type_body_legible (body : TypeBody) : Legible body.toJson := by
  cases body <;> apply record_legible <;>
    simp [Legible.string, array_legible PropertyEntry.toJson property_legible]

theorem type_legible (entry : TypeEntry) : Legible entry.toJson := by
  apply record_legible
  simp [Legible.string, type_body_legible]

theorem manual_legible (manual : Manual) : Legible manual.toJson := by
  apply record_legible
  simp [array_legible ParameterEntry.toJson parameter_legible, array_legible TypeEntry.toJson type_legible]

theorem rendered_manual_eq_iff (first second : Document) :
    Docs.rendered .json first = Docs.rendered .json second ↔ first.manual = second.manual := by
  constructor
  · intro same
    have texts := String.append_left_inj "\n" |>.mp same
    exact manual_to_json_injective
      (indented_injective _ _ (manual_legible first.manual) (manual_legible second.manual) 0 texts)
  · intro same
    rw [Docs.rendered, Docs.rendered, same]

end TemplateManual
