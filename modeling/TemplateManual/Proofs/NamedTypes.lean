import TemplateManual.Proofs.ImportNames
import TemplateManual.Proofs.Lines
import TemplateManual.Settings.Basic

set_option autoImplicit false

namespace TemplateManual

open Markdown

def Template.typeNames (template : Template) : List String := template.types.map TypeDecl.name

theorem declares_type_iff (template : Template) (name : String) :
    template.declaresType name = true ↔ name ∈ template.typeNames ∨ name ∈ template.importNames := by
  simp [Template.declaresType, Template.typeNames, Template.importNames]

theorem of_parameter_named (template : Template) (parameter : Parameter)
    (named : (ParameterEntry.ofParameter template parameter).value.userDefined = true) :
    template.declaresType (ParameterEntry.ofParameter template parameter).value.typeText = true := by
  unfold ParameterEntry.ofParameter at named ⊢
  cases found : parameter.declared.referencedName?.filter template.declaresType with
  | none =>
      rw [found] at named
      cases named
  | some typeName => exact (Option.filter_eq_some_iff.mp found).2

theorem Documents.lookup {α β : Type} {itemName : α → String} {entryName : β → String} {entry : α → β}
    {items : List α} {entries : List β} (documents : Documents itemName entryName entry items entries)
    (name : String) (declared : name ∈ items.map itemName) :
    ∃ listed ∈ entries, entries.find? (fun other => entryName other == name) = some listed := by
  have present := (find_named_is_some entryName entries name).mpr ((documents.complete name).mpr declared)
  obtain ⟨listed, found⟩ := Option.isSome_iff_exists.mp present
  exact ⟨listed, List.mem_of_find?_eq_some found, found⟩

theorem type_entry_origin (template : Template) (entry : TypeEntry)
    (listed : entry ∈ template.typeEntries.value) : entry.origin = .declared := by
  obtain ⟨source, _, rfl⟩ := (type_entries_documents template).source entry listed
  exact of_decl_origin source

theorem find_type_name (manual : Manual) (name : String) (type : TypeEntry)
    (found : manual.findType? name = some type) : type.name = name := by
  simpa using List.find?_some found

theorem find_type_split (template : Template) (name : String) :
    template.manual.value.findType? name =
      (template.typeEntries.value.find? fun entry => entry.name == name).or
        ((template.importEntries.value.find? fun entry => entry.name == name).or
          (template.wildcardEntries.value.find? fun entry => entry.name == name)) := by
  change (template.typeEntries.value ++
    (template.importEntries.value ++ template.wildcardEntries.value)).find? _ = _
  rw [List.find?_append, List.find?_append]

-- Namespaces come last, so they are never found under the name of a type.
theorem find_type_of_declares (template : Template) (name : String)
    (declares : template.declaresType name = true) :
    ∃ type, template.manual.value.findType? name = some type ∧
      type.origin = if name ∈ template.typeNames then .declared else .imported := by
  have types := type_entries_documents template
  rw [find_type_split]
  by_cases declared : name ∈ template.typeNames
  · obtain ⟨type, listed, found⟩ := types.lookup name declared
    rw [found, if_pos declared]
    exact ⟨type, rfl, type_entry_origin template type listed⟩
  · have imported := ((declares_type_iff template name).mp declares).resolve_left declared
    have absent : template.typeEntries.value.find? (fun entry => entry.name == name) = none := by
      rw [types.first]
      simpa [Template.typeNames] using declared
    obtain ⟨type, listed, found⟩ := (import_entries_documents template).lookup name imported
    rw [absent, found, if_neg declared]
    exact ⟨type, rfl, import_entry_origin template type listed⟩

theorem header_of_type (entry : TypeEntry) : Block.header 3 entry.name ∈ entry.blocks := by
  unfold TypeEntry.blocks
  cases entry.body <;> exact List.mem_cons_self

theorem header_listed (entries : List TypeEntry) (entry : TypeEntry) (listed : entry ∈ entries) :
    Block.header 3 entry.name ∈ typeBlocks entries := by
  cases entries with
  | nil => cases listed
  | cons first rest =>
      rw [typeBlocks, if_neg (by simp)]
      exact List.mem_cons_of_mem _ (List.mem_flatMap.mpr ⟨entry, listed, header_of_type entry⟩)

theorem settings_blocks_types (settings : Settings) (manual : Manual)
    (included : settings.includeTypes = true) :
    ∃ front, settings.blocks manual = front ++ typeBlocks manual.allTypes := by
  refine ⟨settings.titleBlocks ++ settings.descriptionBlocks ++ settings.usageBlocks manual ++
    (if settings.includeParameters then parameterBlocks manual.parameters else []), ?_⟩
  simp [Settings.blocks, Manual.blocks, included]

def TypeEntry.IsObject (entry : TypeEntry) : Prop := ∃ properties, entry.body = .object properties

theorem is_object_iff (entry : TypeEntry) : entry.IsObject ↔ entry.isLiteral = false := by
  unfold TypeEntry.IsObject TypeEntry.isLiteral
  cases entry.body <;> simp

theorem properties_of_literal (entry : TypeEntry) (literal : ¬ entry.IsObject) : entry.properties = [] := by
  unfold TypeEntry.properties
  cases body : entry.body with
  | object properties => exact absurd ⟨properties, body⟩ literal
  | literalUnion rendered => rfl
  | scalarLiteral rendered => rfl

namespace Usage

def opening (publication : Publication) : String :=
  "module " ++ publication.moduleName ++ " '" ++ publication.reference ++ "' = \x7b\n" ++
    "  name: '" ++ publication.moduleName ++ "'\n" ++ "  params: " ++ "\x7b\n"

def closing : String := "  \x7d" ++ "\n\x7d"

def nested (name : String) (properties : List PropertyEntry) : String :=
  "    " ++ name ++ ": \x7b\n" ++
    String.join (properties.map fun property =>
      "      " ++ property.name ++ ": " ++ property.name ++ "\n") ++ "    \x7d\n"

def assigned (name text : String) : String := "    " ++ name ++ ": " ++ text ++ "\n"

theorem arguments_split (manual : Manual) (front back : List ParameterEntry) (entry : ParameterEntry)
    (parameters : manual.parameters = front ++ entry :: back) :
    arguments manual = "\x7b\n" ++ (String.join (front.map (argument manual)) ++
      (argument manual entry ++ String.join (back.map (argument manual)))) ++ "  \x7d" := by
  have some : ¬ manual.parameters.isEmpty = true := by simp [parameters]
  unfold arguments
  rw [if_neg some, parameters, List.map_append, List.map_cons, String.join_append, String.join_cons]

theorem text_split (publication : Publication) (manual : Manual) (front back : List ParameterEntry)
    (entry : ParameterEntry) (parameters : manual.parameters = front ++ entry :: back) :
    text publication manual =
      opening publication ++ String.join (front.map (argument manual)) ++ argument manual entry ++
        String.join (back.map (argument manual)) ++ closing := by
  unfold text opening closing
  simp only [arguments_split manual front back entry parameters, String.append_assoc]

theorem object_type_iff (manual : Manual) (entry : ParameterEntry) (type : TypeEntry)
    (named : entry.userDefined = true) (found : manual.findType? entry.typeText = some type) :
    objectType? manual entry = some type ↔ type.IsObject := by
  rw [objectType?, found, Option.filter_eq_some_iff, is_object_iff]
  simp [named]

theorem argument_of_object (manual : Manual) (entry : ParameterEntry) (type : TypeEntry)
    (object : objectType? manual entry = some type) :
    argument manual entry = nested entry.name type.properties := by
  rw [argument, object]
  rfl

theorem argument_of_unlisted (manual : Manual) (entry : ParameterEntry)
    (unlisted : objectType? manual entry = none) :
    argument manual entry = assigned entry.name (indentValue (value entry)) := by
  rw [argument, unlisted]
  rfl

theorem argument_of_literal (manual : Manual) (entry : ParameterEntry) (type : TypeEntry)
    (found : manual.findType? entry.typeText = some type) (literal : ¬ type.IsObject) :
    argument manual entry = assigned entry.name (indentValue (value entry)) := by
  apply argument_of_unlisted
  rw [is_object_iff, Bool.not_eq_false] at literal
  rw [objectType?, found]
  simp [literal]

theorem indent_value_one_line (text : String) (oneLine : '\n' ∉ text.toList) :
    indentValue text = text := by
  unfold indentValue Text.lines
  rw [Text.line_chars_of_one_line text.toList oneLine]
  by_cases blank : text.toList = []
  · rw [if_pos blank]
    exact (String.toList_eq_nil_iff.mp blank).symm
  · rw [if_neg blank]
    simp

-- The block of a type without properties takes two lines, a value of one line does not.
theorem assigned_ne_nested (name text : String) (oneLine : '\n' ∉ text.toList) :
    assigned name (indentValue text) ≠ nested name [] := by
  rw [indent_value_one_line text oneLine]
  intro same
  have chars := congrArg String.toList same
  simp only [assigned, nested, List.map_nil, String.toList_append, List.append_assoc] at chars
  have block : text.toList ++ ['\n'] = "\x7b\n    \x7d".toList ++ ['\n'] := by simpa using chars
  rw [List.append_cancel_right block] at oneLine
  exact oneLine (by decide)

theorem value_one_line (entry : ParameterEntry) (named : entry.userDefined = true)
    (nameOneLine : '\n' ∉ entry.name.toList) (typeOneLine : '\n' ∉ entry.typeText.toList) :
    '\n' ∉ (value entry).toList := by
  unfold value
  cases entry.defaultText with
  | none =>
      by_cases plain : entry.typeText = "string"
      · simpa [plain, quote] using nameOneLine
      · simpa [plain] using nameOneLine
  | some text => simpa [named] using typeOneLine

theorem argument_nested_iff (manual : Manual) (entry : ParameterEntry) (type : TypeEntry)
    (named : entry.userDefined = true) (found : manual.findType? entry.typeText = some type)
    (nameOneLine : '\n' ∉ entry.name.toList) (typeOneLine : '\n' ∉ entry.typeText.toList) :
    argument manual entry = nested entry.name type.properties ↔ type.IsObject := by
  constructor
  · intro written
    by_contra literal
    rw [argument_of_literal manual entry type found literal, properties_of_literal type literal] at written
    exact assigned_ne_nested _ _ (value_one_line entry named nameOneLine typeOneLine) written
  · intro object
    exact argument_of_object manual entry type ((object_type_iff manual entry type named found).mpr object)

end Usage

structure NamedFor (template : Template) (entry : ParameterEntry) (type : TypeEntry) : Prop where
  found : template.manual.value.findType? entry.typeText = some type
  origin : type.origin = if entry.typeText ∈ template.typeNames then .declared else .imported
  headed : ∀ settings : Settings, settings.includeTypes = true → ∃ front,
    (template.document settings).blocks = front ++ typeBlocks template.manual.value.allTypes ∧
      Block.header 3 entry.typeText ∈ typeBlocks template.manual.value.allTypes
  called : ∀ publication, ∃ front back, template.manual.value.parameters = front ++ entry :: back ∧
    Usage.text publication template.manual.value =
      Usage.opening publication ++ String.join (front.map (Usage.argument template.manual.value)) ++
        Usage.argument template.manual.value entry ++
        String.join (back.map (Usage.argument template.manual.value)) ++ Usage.closing
  expands : Usage.objectType? template.manual.value entry = some type ↔ type.IsObject
  listed : type.IsObject →
    Usage.argument template.manual.value entry = Usage.nested entry.name type.properties
  valued : ¬ type.IsObject → Usage.argument template.manual.value entry =
    Usage.assigned entry.name (Usage.indentValue (Usage.value entry))
  -- A value over two lines can spell the block of a type without properties: with a default value the name of the
  -- type is written, and a literal type may be named by an opening brace, a line feed and a closing brace.
  distinct : '\n' ∉ entry.name.toList → '\n' ∉ entry.typeText.toList →
    (Usage.argument template.manual.value entry = Usage.nested entry.name type.properties ↔ type.IsObject)

theorem named_type_shown (template : Template) (entry : ParameterEntry)
    (listed : entry ∈ template.manual.value.parameters) (named : entry.userDefined = true) :
    ∃ type, NamedFor template entry type := by
  obtain ⟨parameter, _, rfl⟩ := (parameter_entries_documents template).source entry listed
  have declares := of_parameter_named template parameter named
  obtain ⟨type, found, origin⟩ := find_type_of_declares template _ declares
  have expands := Usage.object_type_iff template.manual.value _ type named found
  refine ⟨type, found, origin, ?_, ?_, expands, ?_, ?_, ?_⟩
  · intro settings included
    obtain ⟨front, blocks⟩ := settings_blocks_types settings template.manual.value included
    have header := header_listed _ type (List.mem_of_find?_eq_some found)
    rw [find_type_name _ _ type found] at header
    exact ⟨front, blocks, header⟩
  · intro publication
    obtain ⟨front, back, split⟩ := List.append_of_mem listed
    exact ⟨front, back, split, Usage.text_split publication _ front back _ split⟩
  · exact fun object => Usage.argument_of_object _ _ type (expands.mpr object)
  · exact Usage.argument_of_literal _ _ type found
  · exact Usage.argument_nested_iff _ _ type named found

def boolHolder : Import := ⟨"t", none, some (.objectOf [⟨"m", .bool, none, []⟩])⟩

def sharedTypeName : Template :=
  ⟨[⟨"p", .string, .nullable (.reference "t"), [], none⟩], [], [boolHolder], [⟨"t", [], some .empty⟩]⟩

theorem shared_type_name_imported :
    ∃ entry ∈ sharedTypeName.manual.value.parameters, entry.userDefined = true ∧
      ∃ type, sharedTypeName.manual.value.findType? "t" = some type ∧ type.origin = .imported ∧
        Usage.argument sharedTypeName.manual.value entry = Usage.nested "p" type.properties := by
  have listed := List.mem_of_find?_eq_some ((parameter_entries_documents sharedTypeName).first "p")
  obtain ⟨type, shown⟩ := named_type_shown sharedTypeName _ listed rfl
  have first : sharedTypeName.manual.value.findType? "t" = some (TypeEntry.ofImport boolHolder).value := by
    rw [find_type_split, (type_entries_documents _).first, (import_entries_documents _).first]
    rfl
  obtain rfl := Option.some.inj (first.symm.trans shown.found)
  have origin := shown.origin.trans (if_neg (by decide))
  exact ⟨_, listed, rfl, _, first, origin, shown.listed ⟨_, of_import_body boolHolder⟩⟩

end TemplateManual
