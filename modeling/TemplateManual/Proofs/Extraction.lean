import TemplateManual.Manual.Extract
import TemplateManual.Proofs.Sorting

set_option autoImplicit false

namespace TemplateManual

-- `entries` are what `entry` makes of the first item of each name, by increasing name. Names compare
-- character by character, by code point.
structure Documents {α β : Type} (itemName : α → String) (entryName : β → String) (entry : α → β)
    (items : List α) (entries : List β) : Prop where
  increasing : (entries.map entryName).Pairwise (· < ·)
  complete : ∀ name, name ∈ entries.map entryName ↔ name ∈ items.map itemName
  first : ∀ name, entries.find? (fun item => entryName item == name) =
    (items.find? fun item => itemName item == name).map entry

theorem find_named_is_some {α : Type} (name : α → String) (items : List α) (wanted : String) :
    (items.find? fun item => name item == wanted).isSome = true ↔ wanted ∈ items.map name := by
  simp [List.find?_isSome]

theorem documents_of_find {α β : Type} (itemName : α → String) (entryName : β → String) (entry : α → β)
    (items : List α) (entries : List β) (increasing : entries.Pairwise fun a b => entryName a < entryName b)
    (first : ∀ name, entries.find? (fun item => entryName item == name) =
      (items.find? fun item => itemName item == name).map entry) :
    Documents itemName entryName entry items entries where
  increasing := List.pairwise_map.mpr increasing
  complete := by
    intro name
    rw [← find_named_is_some, ← find_named_is_some, first name, Option.isSome_map]
  first := first

theorem Documents.distinct {α β : Type} {itemName : α → String} {entryName : β → String} {entry : α → β}
    {items : List α} {entries : List β} (documents : Documents itemName entryName entry items entries) :
    (entries.map entryName).Nodup :=
  documents.increasing.imp fun less => less.ne

theorem Documents.found {α β : Type} {itemName : α → String} {entryName : β → String} {entry : α → β}
    {items : List α} {entries : List β} (documents : Documents itemName entryName entry items entries)
    (listed : β) (member : listed ∈ entries) :
    entries.find? (fun other => entryName other == entryName listed) = some listed :=
  find_of_increasing entryName entries (List.pairwise_map.mp documents.increasing) listed member

theorem Documents.source {α β : Type} {itemName : α → String} {entryName : β → String} {entry : α → β}
    {items : List α} {entries : List β} (documents : Documents itemName entryName entry items entries)
    (found : β) (member : found ∈ entries) :
    ∃ item, items.find? (fun item => itemName item == entryName found) = some item ∧
      found = entry item := by
  have lookup := documents.found found member
  rw [documents.first] at lookup
  obtain ⟨item, first, made⟩ := Option.map_eq_some_iff.mp lookup
  exact ⟨item, first, made.symm⟩

theorem extract_all_documents {α β : Type} (scope : String) (itemName : α → String)
    (entryName : β → String) (entry : α → Noted β) (items : List α)
    (named : ∀ item, entryName (entry item).value = itemName item) :
    Documents itemName entryName (fun item => (entry item).value) items
      (extractAll scope entryName entry items).value := by
  apply documents_of_find
  · exact sort_unique_increasing scope entryName _
  · intro name
    change (sortUnique scope entryName (Noted.each entry items).value).value.find? _ = _
    rw [sort_unique_find, Noted.each_value, List.find?_map]
    simp only [Function.comp_def, named]

theorem of_member_name (member : Member) :
    (PropertyEntry.ofMember member).value.name = member.name := rfl

theorem of_members_documents (owner : String) (members : List Member) :
    Documents Member.name PropertyEntry.name (fun member => (PropertyEntry.ofMember member).value)
      members (PropertyEntry.ofMembers owner members).value :=
  extract_all_documents owner Member.name PropertyEntry.name PropertyEntry.ofMember members
    of_member_name

theorem of_parameter_kept {α : Type} (part : ParameterEntry → α) (template : Template)
    (parameter : Parameter)
    (kept : ∀ typeName entry, part (ParameterEntry.nameType typeName entry) = part entry) :
    part (ParameterEntry.ofParameter template parameter).value =
      part (ParameterEntry.ofProperty
        (PropertyEntry.ofType parameter.name parameter.type parameter.decorators).value
        parameter.defaultValue) := by
  unfold ParameterEntry.ofParameter
  split
  · exact kept _ _
  · rfl

theorem of_parameter_name (template : Template) (parameter : Parameter) :
    (ParameterEntry.ofParameter template parameter).value.name = parameter.name :=
  of_parameter_kept ParameterEntry.name template parameter fun _ _ => rfl

theorem of_parameter_notices (template : Template) (parameter : Parameter) :
    (ParameterEntry.ofParameter template parameter).notices =
      (PropertyEntry.ofType parameter.name parameter.type parameter.decorators).notices := by
  unfold ParameterEntry.ofParameter
  split <;> rfl

theorem of_decl_name (decl : TypeDecl) : (TypeEntry.ofDecl decl).value.name = decl.name := by
  unfold TypeEntry.ofDecl
  split <;> rfl

theorem of_import_name (entry : Import) : (TypeEntry.ofImport entry).value.name = entry.name := by
  unfold TypeEntry.ofImport
  cases entry.exported <;> rfl

theorem of_wildcard_name (entry : WildcardImport) :
    (TypeEntry.ofWildcard entry).value.name = entry.name := by
  unfold TypeEntry.ofWildcard
  cases entry.exports <;> rfl

theorem parameter_entries_documents (template : Template) :
    Documents Parameter.name ParameterEntry.name
      (fun parameter => (ParameterEntry.ofParameter template parameter).value) template.parameters
      template.parameterEntries.value :=
  extract_all_documents _ _ _ _ _ (of_parameter_name template)

theorem type_entries_documents (template : Template) :
    Documents TypeDecl.name TypeEntry.name (fun decl => (TypeEntry.ofDecl decl).value) template.types
      template.typeEntries.value :=
  extract_all_documents _ _ _ _ _ of_decl_name

theorem import_entries_documents (template : Template) :
    Documents Import.name TypeEntry.name (fun entry => (TypeEntry.ofImport entry).value)
      template.imports template.importEntries.value :=
  extract_all_documents _ _ _ _ _ of_import_name

theorem wildcard_entries_documents (template : Template) :
    Documents WildcardImport.name TypeEntry.name (fun entry => (TypeEntry.ofWildcard entry).value)
      template.wildcards template.wildcardEntries.value :=
  extract_all_documents _ _ _ _ _ of_wildcard_name

def TypeDecl.members (decl : TypeDecl) : List Member := decl.type.objectMembers?.getD []

def Import.members (entry : Import) : List Member :=
  (entry.exported.bind DataType.objectMembers?).getD []

def WildcardImport.members (entry : WildcardImport) : List Member :=
  (entry.exports.map Export.members).getD []

def Template.membersOf (template : Template) (name : String) : Origin → List Member
  | .declared => ((template.types.find? fun decl => decl.name == name).map TypeDecl.members).getD []
  | .imported => ((template.imports.find? fun entry => entry.name == name).map Import.members).getD []
  | .wildcard =>
    ((template.wildcards.find? fun entry => entry.name == name).map WildcardImport.members).getD []

theorem of_members_nil (owner : String) : (PropertyEntry.ofMembers owner []).value = [] := by
  simp [PropertyEntry.ofMembers, extractAll, Noted.each, Noted.bind, sortUnique, sortByName, keepFirsts]

theorem documented_value (owner : String) (type : DataType) (notice : Notice) :
    (TypeEntry.documented owner type notice).value =
      (PropertyEntry.ofMembers owner (type.objectMembers?.getD [])).value := by
  unfold TypeEntry.documented
  cases type.objectMembers? with
  | none => exact (of_members_nil owner).symm
  | some members => rfl

theorem of_decl_origin (decl : TypeDecl) : (TypeEntry.ofDecl decl).value.origin = .declared := by
  unfold TypeEntry.ofDecl
  split <;> rfl

theorem of_decl_properties (decl : TypeDecl) (properties : List PropertyEntry)
    (shaped : (TypeEntry.ofDecl decl).value.body = .object properties) :
    properties = (PropertyEntry.ofMembers decl.name decl.members).value := by
  unfold TypeEntry.ofDecl at shaped
  split at shaped
  · cases shaped
  · cases shaped
  · have body := TypeBody.object.inj shaped
    exact body.symm.trans (documented_value decl.name decl.type _)

theorem of_import_origin (entry : Import) : (TypeEntry.ofImport entry).value.origin = .imported := by
  unfold TypeEntry.ofImport
  cases entry.exported <;> rfl

theorem of_import_body (entry : Import) : (TypeEntry.ofImport entry).value.body =
    .object (PropertyEntry.ofMembers entry.name entry.members).value := by
  unfold TypeEntry.ofImport Import.members
  cases entry.exported with
  | none => exact congrArg TypeBody.object (of_members_nil entry.name).symm
  | some type => exact congrArg TypeBody.object (documented_value entry.name type _)

theorem of_wildcard_origin (entry : WildcardImport) :
    (TypeEntry.ofWildcard entry).value.origin = .wildcard := by
  unfold TypeEntry.ofWildcard
  cases entry.exports <;> rfl

theorem of_wildcard_body (entry : WildcardImport) : (TypeEntry.ofWildcard entry).value.body =
    .object (PropertyEntry.ofMembers entry.name entry.members).value := by
  unfold TypeEntry.ofWildcard WildcardImport.members
  cases entry.exports with
  | none => exact congrArg TypeBody.object (of_members_nil entry.name).symm
  | some exports => rfl

theorem type_entry_properties (template : Template) (entry : TypeEntry)
    (member : entry ∈ template.manual.value.allTypes) (properties : List PropertyEntry)
    (shaped : entry.body = .object properties) :
    properties =
      (PropertyEntry.ofMembers entry.name (template.membersOf entry.name entry.origin)).value := by
  rcases List.mem_append.mp member with declared | imported
  · obtain ⟨decl, first, rfl⟩ := (type_entries_documents template).source entry declared
    rw [of_decl_origin, of_decl_name] at *
    simpa [Template.membersOf, first] using of_decl_properties decl properties shaped
  · rcases List.mem_append.mp imported with named | wildcard
    · obtain ⟨source, first, rfl⟩ := (import_entries_documents template).source entry named
      rw [of_import_body] at shaped
      rw [of_import_origin, of_import_name] at *
      simpa [Template.membersOf, first] using (TypeBody.object.inj shaped).symm
    · obtain ⟨source, first, rfl⟩ := (wildcard_entries_documents template).source entry wildcard
      rw [of_wildcard_body] at shaped
      rw [of_wildcard_origin, of_wildcard_name] at *
      simpa [Template.membersOf, first] using (TypeBody.object.inj shaped).symm

theorem manual_documents_first_declarations (template : Template) :
    Documents Parameter.name ParameterEntry.name
        (fun parameter => (ParameterEntry.ofParameter template parameter).value) template.parameters
        template.manual.value.parameters ∧
      Documents TypeDecl.name TypeEntry.name (fun decl => (TypeEntry.ofDecl decl).value) template.types
        template.manual.value.declaredTypes ∧
      (∃ named wildcards, template.manual.value.importedTypes = named ++ wildcards ∧
        Documents Import.name TypeEntry.name (fun entry => (TypeEntry.ofImport entry).value)
          template.imports named ∧
        Documents WildcardImport.name TypeEntry.name (fun entry => (TypeEntry.ofWildcard entry).value)
          template.wildcards wildcards) ∧
      ∀ entry ∈ template.manual.value.allTypes, ∀ properties, entry.body = .object properties →
        Documents Member.name PropertyEntry.name (fun member => (PropertyEntry.ofMember member).value)
          (template.membersOf entry.name entry.origin) properties := by
  refine ⟨parameter_entries_documents template, type_entries_documents template,
    ⟨template.importEntries.value, template.wildcardEntries.value, rfl,
      import_entries_documents template, wildcard_entries_documents template⟩, ?_⟩
  intro entry member properties shaped
  rw [type_entry_properties template entry member properties shaped]
  exact of_members_documents entry.name _

def repeatedMembers : Template :=
  ⟨[], [⟨"t", .objectOf [⟨"b", .int, none, []⟩, ⟨"a", .string, none, []⟩, ⟨"b", .bool, none, []⟩],
    .other "object", []⟩], [], []⟩

theorem repeated_member_documented_once :
    ∃ entry ∈ repeatedMembers.manual.value.allTypes, ∃ properties, entry.body = .object properties ∧
      (properties.map PropertyEntry.name).Pairwise (· < ·) ∧
      properties.find? (fun property => property.name == "b") =
        some (PropertyEntry.ofMember ⟨"b", .int, none, []⟩).value := by
  obtain ⟨_, types, _, members⟩ := manual_documents_first_declarations repeatedMembers
  have declared := List.mem_of_find?_eq_some (types.first "t")
  have listed := List.mem_append_left repeatedMembers.manual.value.importedTypes declared
  have documents := members _ listed _ rfl
  exact ⟨_, listed, _, rfl, documents.increasing, documents.first "b"⟩

end TemplateManual
