import TemplateManual.Proofs.Insertion
import TemplateManual.Proofs.Reordering

set_option autoImplicit false

namespace TemplateManual

namespace DataType

-- The members of an object, directly or behind names that are resolved.
inductive HasMembers : DataType → List Member → Prop where
  | unlisted (secure : Bool) : HasMembers ⟨.object none, secure⟩ []
  | listed (members : List Member) (secure : Bool) : HasMembers ⟨.object (some members), secure⟩ members
  | named (name : String) (target : DataType) (secure : Bool) (members : List Member)
      (behind : HasMembers target members) : HasMembers ⟨.reference name (some target), secure⟩ members

theorem object_members_iff (type : DataType) (members : List Member) :
    type.objectMembers? = some members ↔ type.HasMembers members := by
  constructor
  · fun_induction objectMembers? type with
    | case1 listed secure =>
        intro found
        cases found
        cases listed with
        | none => exact .unlisted secure
        | some listed => exact .listed listed secure
    | case2 name target secure ih =>
        intro found
        exact .named name target secure members (ih found)
    | case3 type => intro found; cases found
  · intro has
    induction has with
    | unlisted secure => rw [objectMembers?]; rfl
    | listed members secure => rw [objectMembers?]; rfl
    | named name target secure members behind ih => rw [objectMembers?, ih]

end DataType

structure Presents (entry : Noted TypeEntry) (documented : Noted (List PropertyEntry)) : Prop where
  properties : entry.value.properties = documented.value
  notices : entry.notices = documented.notices

theorem presents_documented (documented : Noted (List PropertyEntry)) (name description : String)
    (origin : Origin) :
    Presents (do
      let properties ← documented
      pure ⟨name, description, .object properties, origin⟩) documented :=
  ⟨rfl, List.append_nil _⟩

theorem documented_of_members (owner : String) (type : DataType) (notice : Notice) (members : List Member)
    (has : type.HasMembers members) :
    TypeEntry.documented owner type notice = PropertyEntry.ofMembers owner members := by
  rw [TypeEntry.documented, (DataType.object_members_iff type members).mpr has]

theorem of_decl_presents (decl : TypeDecl) (members : List Member) (has : decl.type.HasMembers members)
    (noUnion : ∀ alternatives, decl.value.form ≠ .union alternatives)
    (noLiteral : ∀ literal, decl.value.form ≠ .literal literal) :
    Presents (TypeEntry.ofDecl decl) (PropertyEntry.ofMembers decl.name members) := by
  rw [← documented_of_members decl.name decl.type (.notAnObject decl.name decl.type.text) members has]
  unfold TypeEntry.ofDecl
  cases form : decl.value.form with
  | union alternatives => exact absurd form (noUnion alternatives)
  | literal value => exact absurd form (noLiteral value)
  | _ => exact presents_documented _ decl.name _ .declared

theorem of_import_presents (name : String) (description : Option String) (type : DataType)
    (members : List Member) (has : type.HasMembers members) :
    Presents (TypeEntry.ofImport ⟨name, description, some type⟩) (PropertyEntry.ofMembers name members) := by
  rw [← documented_of_members name type (.importNotAnObject name type.text) members has]
  exact presents_documented _ name _ .imported

def exportsOf (members : List Member) (distinct : (members.map Member.name).Nodup) : KeyedList Export where
  entries := members.map fun member => (member.name, ⟨member.type, member.description⟩)
  distinct := by
    rw [List.map_map]
    exact distinct

theorem members_of_exports (members : List Member) (distinct : (members.map Member.name).Nodup)
    (undecorated : ∀ member ∈ members, member.decorators = []) :
    Export.members (exportsOf members distinct) = members := by
  rw [Export.members, exportsOf, List.map_map]
  refine (List.map_congr_left ?_).trans (List.map_id members)
  intro member listed
  have plain := undecorated member listed
  obtain ⟨memberName, type, description, memberDecorators⟩ := member
  cases plain
  rfl

theorem of_wildcard_presents (name : String) (decorators : List Decorator) (members : List Member)
    (distinct : (members.map Member.name).Nodup) (undecorated : ∀ member ∈ members, member.decorators = []) :
    Presents (TypeEntry.ofWildcard ⟨name, decorators, some (exportsOf members distinct)⟩)
      (PropertyEntry.ofMembers name members) := by
  rw [← congrArg (PropertyEntry.ofMembers name) (members_of_exports members distinct undecorated)]
  exact presents_documented _ name _ .wildcard

def Template.NamesType (template : Template) (parameter : Parameter) : Prop :=
  ∃ typeName, parameter.declared.RefersTo typeName ∧
    (typeName ∈ template.typeNames ∨ typeName ∈ template.importNames)

theorem of_parameter_unnamed (template : Template) (parameter : Parameter)
    (unnamed : ¬ template.NamesType parameter) :
    ParameterEntry.ofParameter template parameter =
      let property := PropertyEntry.ofType parameter.name parameter.type parameter.decorators
      ⟨ParameterEntry.ofProperty property.value parameter.defaultValue, property.notices⟩ := by
  have none : parameter.declared.referencedName?.filter template.declaresType = none := by
    rw [Option.filter_eq_none_iff]
    intro typeName refers declares
    exact unnamed ⟨typeName, (referenced_name_iff _ typeName).mp refers,
      (declares_type_iff template typeName).mp declares⟩
  rw [ParameterEntry.ofParameter, none]

theorem described_alike_everywhere :
    (∀ (name : String) (type : DataType) (members : List Member), type.HasMembers members →
      let documented := PropertyEntry.ofMembers name members
      (∀ (value : WrittenType) (decorators : List Decorator),
        (∀ alternatives, value.form ≠ .union alternatives) → (∀ literal, value.form ≠ .literal literal) →
        Presents (TypeEntry.ofDecl ⟨name, type, value, decorators⟩) documented) ∧
      (∀ description : Option String,
        Presents (TypeEntry.ofImport ⟨name, description, some type⟩) documented) ∧
      (∀ distinct : (members.map Member.name).Nodup, (∀ member ∈ members, member.decorators = []) →
        ∀ decorators : List Decorator,
          Presents (TypeEntry.ofWildcard ⟨name, decorators, some (exportsOf members distinct)⟩) documented)) ∧
    ∀ (template : Template) (parameter : Parameter),
      let property := PropertyEntry.ofType parameter.name parameter.type parameter.decorators
      let entry := ParameterEntry.ofParameter template parameter
      entry.value.constraints = property.value.constraints ∧
      entry.value.description = property.value.description ∧
      entry.notices = property.notices ∧
      (¬ template.NamesType parameter →
        entry.value.typeText = property.value.typeText ∧ entry.value.allowed = property.value.allowed ∧
          entry.value.largeSet = property.value.largeSet) := by
  refine ⟨?_, ?_⟩
  · intro name type members has
    refine ⟨?_, ?_, ?_⟩
    · intro value decorators noUnion noLiteral
      exact of_decl_presents ⟨name, type, value, decorators⟩ members has noUnion noLiteral
    · intro description
      exact of_import_presents name description type members has
    · intro distinct undecorated decorators
      exact of_wildcard_presents name decorators members distinct undecorated
  · intro template parameter
    refine ⟨?_, ?_, of_parameter_notices template parameter, ?_⟩
    · exact of_parameter_kept ParameterEntry.constraints template parameter fun _ _ => rfl
    · exact of_parameter_kept ParameterEntry.description template parameter fun _ _ => rfl
    · intro unnamed
      rw [of_parameter_unnamed template parameter unnamed]
      exact ⟨rfl, rfl, rfl⟩

def endpointMembers : List Member :=
  [⟨"url", .string, some "Address", []⟩, ⟨"auth", .unresolved "authType", none, []⟩]

def endpoint : DataType := .reference "outer" (.reference "inner" (.objectOf endpointMembers))

def tierParameter : Parameter :=
  ⟨"tier", .union [.stringLiteral "low", .stringLiteral "high"], .reference "tierType", [.describe "Tier"],
    some (.ofString "low")⟩

theorem endpoint_described_alike :
    let declared := TypeEntry.ofDecl ⟨"endpoint", endpoint, .reference "outer", []⟩
    let imported := TypeEntry.ofImport ⟨"endpoint", none, some endpoint⟩
    let exported := TypeEntry.ofWildcard ⟨"endpoint", [], some (exportsOf endpointMembers (by decide))⟩
    let tier := (ParameterEntry.ofParameter Template.empty tierParameter).value
    declared.value.properties = imported.value.properties ∧ declared.notices = imported.notices ∧
      exported.value.properties = imported.value.properties ∧ exported.notices = imported.notices ∧
      tier.description = some "Tier" ∧ tier.typeText = "'low' | 'high'" ∧
      tier.allowed = some ["low", "high"] := by
  obtain ⟨types, parameters⟩ := described_alike_everywhere
  have members : endpoint.HasMembers endpointMembers :=
    .named "outer" _ false _ (.named "inner" _ false _ (.listed endpointMembers false))
  obtain ⟨declared, imported, exported⟩ := types "endpoint" endpoint endpointMembers members
  have fromDecl := declared (.reference "outer") [] (fun _ => WrittenForm.noConfusion)
    (fun _ => WrittenForm.noConfusion)
  have fromImport := imported none
  have fromExports := exported (by decide) (by simp [endpointMembers]) []
  obtain ⟨_, described, _, shown⟩ := parameters Template.empty tierParameter
  have unnamed : ¬ Template.empty.NamesType tierParameter := by
    rintro ⟨_, _, declares | imports⟩
    · cases declares
    · cases imports
  obtain ⟨text, allowed, _⟩ := shown unnamed
  exact ⟨fromDecl.properties.trans fromImport.properties.symm,
    fromDecl.notices.trans fromImport.notices.symm,
    fromExports.properties.trans fromImport.properties.symm,
    fromExports.notices.trans fromImport.notices.symm, described, text.trans (by decide),
    allowed.trans (by decide)⟩

end TemplateManual
