import TemplateManual.Proofs.Json.Record
import TemplateManual.Proofs.Json.Tagged
import TemplateManual.Snapshot.Template

set_option autoImplicit false

namespace TemplateManual

open Json

theorem faithful_literal : Faithful Snapshot.literal Literal.toJson := by
  apply faithful_tagged
  intro room
  simp only [List.forall_mem_cons]
  refine ⟨?_, ?_, ?_, by simp⟩
  · exact value_kept room _ _ _ _ _ faithful_string fun _ => rfl
  · exact value_kept room _ _ _ _ _ faithful_int64 fun _ => rfl
  · exact value_kept room _ _ _ _ _ faithful_bool fun _ => rfl

def Entry.toJson (entry : Entry) : Json :=
  .record [("key", some (.string entry.key)), ("value", some entry.value.toJson)]

theorem entries_to_json_map (entries : List Entry) : entriesToJson entries = entries.map Entry.toJson := by
  induction entries with
  | nil => rfl
  | cons entry rest ih =>
      obtain ⟨key, value⟩ := entry
      rw [entriesToJson, ih]
      rfl

theorem exprs_to_json_map (exprs : List Expr) : exprsToJson exprs = exprs.map Expr.toJson := by
  induction exprs with
  | nil => rfl
  | cons expr rest ih => rw [exprsToJson, ih, List.map_cons]

def textWriter (text : String) : Option Json := some (.string text)

theorem faithful_entry (expr : Decoder Expr) (faithful : Faithful expr Expr.toJson) :
    Faithful (Snapshot.entry expr) Entry.toJson := by
  refine faithful_map _ _ _ _ (faithful_record _ _
    (.cons textWriter (.cons (fun value => some value.toJson) .nil))
    (show ["key", "value"].Nodup by decide) ?_) fun _ => rfl
  intro room
  exact ⟨required_kept room _ _ _ (faithful_string room), required_kept room _ _ _ (faithful room), trivial⟩

theorem string_form_kept (room : Nat) :
    (Case.mk "string" (.record Snapshot.stringForm)).Kept room ExprForm.toJson := by
  refine record_kept room _ _ _ (value_kept room _ _ _ _ _ (faithful_record _ _
    (.cons textWriter (.cons (fun value => some (.bool value)) .nil))
    (show ["value", "interpolated"].Nodup by decide) ?_) fun _ => rfl)
  intro room
  exact ⟨required_kept room _ _ _ (faithful_string room),
    defaulted_kept room _ _ _ _ (faithful_bool room) (.bool false) rfl, trivial⟩

theorem faithful_expr_form (expr : Decoder Expr) (faithful : Faithful expr Expr.toJson) :
    Faithful (Snapshot.exprForm expr) ExprForm.toJson := by
  have entries := faithful_list _ _ (faithful_entry expr faithful)
  have items := faithful_list _ _ faithful
  apply faithful_tagged
  intro room
  simp only [List.forall_mem_cons]
  refine ⟨?_, ?_, string_form_kept room, rfl, ?_, ?_, rfl, rfl, rfl, rfl, by simp⟩
  · exact value_kept room _ _ _ _ _ faithful_bool fun _ => rfl
  · exact value_kept room _ _ _ _ _ faithful_int64 fun _ => rfl
  · refine value_kept room _ _ _ _ _ entries fun part => ?_
    rw [ExprForm.toJson, entries_to_json_map]
    rfl
  · refine value_kept room _ _ _ _ _ items fun part => ?_
    rw [ExprForm.toJson, exprs_to_json_map]
    rfl

theorem faithful_expr : Faithful Snapshot.expr Expr.toJson := by
  apply faithful_nested
  intro inner faithful
  refine faithful_map _ _ _ _ (faithful_record _ _
    (.cons textWriter (.cons (fun form => some form.toJson) .nil))
    (show ["text", "kind"].Nodup by decide) ?_) fun _ => rfl
  intro room
  exact ⟨required_kept room _ _ _ (faithful_string room),
    required_kept room _ _ _ (faithful_expr_form inner faithful room), trivial⟩

theorem faithful_decorator : Faithful Snapshot.decorator Decorator.toJson := by
  refine faithful_map _ _ _ _ (faithful_record _ _ (.cons textWriter (.cons (fun args =>
    if args.isEmpty then none else some (.array (args.map Expr.toJson))) .nil))
    (show ["name", "args"].Nodup by decide) ?_) ?_
  · intro room
    exact ⟨required_kept room _ _ _ (faithful_string room),
      items_kept room _ _ _ faithful_expr, trivial⟩
  · rintro ⟨name, args, ⟨⟩⟩
    simp only [Decorator.toJson, exprs_to_json_map]
    rfl

theorem written_types_to_json_map (types : List WrittenType) :
    writtenTypesToJson types = types.map WrittenType.toJson := by
  induction types with
  | nil => rfl
  | cons type rest ih => rw [writtenTypesToJson, ih, List.map_cons]

theorem faithful_written_form (inner : Decoder WrittenType)
    (faithful : Faithful inner WrittenType.toJson) :
    Faithful (Snapshot.writtenForm inner) WrittenForm.toJson := by
  have alternatives := faithful_list _ _ faithful
  apply faithful_tagged
  intro room
  simp only [List.forall_mem_cons]
  refine ⟨?_, ?_, ?_, ?_, rfl, by simp⟩
  · exact value_kept room _ _ _ _ _ faithful_string fun _ => rfl
  · exact value_kept room _ _ _ _ _ faithful fun _ => rfl
  · refine value_kept room _ _ _ _ _ alternatives fun part => ?_
    rw [WrittenForm.toJson, written_types_to_json_map]
    rfl
  · exact value_kept room _ _ _ _ _ faithful_literal fun _ => rfl

theorem faithful_written_type : Faithful Snapshot.writtenType WrittenType.toJson := by
  apply faithful_nested
  intro inner faithful
  refine faithful_map _ _ _ _ (faithful_record _ _
    (.cons textWriter (.cons (fun form => some form.toJson) .nil))
    (show ["text", "kind"].Nodup by decide) ?_) fun _ => rfl
  intro room
  exact ⟨required_kept room _ _ _ (faithful_string room),
    required_kept room _ _ _ (faithful_written_form inner faithful room), trivial⟩

theorem int_kept (room : Nat) (name : String) : (optionalField name .int64).Kept room intToJson? :=
  optional_kept room name _ _ (faithful_int64 room) (by simp [Json.int])

theorem text_kept (room : Nat) (name : String) : (optionalField name .string).Kept room textToJson? :=
  optional_kept room name _ _ (faithful_string room) (by simp)

theorem decorators_kept (room : Nat) :
    (defaulted "decorators" Snapshot.decorator.list []).Kept room decoratorsToJson :=
  items_kept room _ _ _ faithful_decorator

theorem faithful_bounds (title low high : String) (distinct : low ≠ high) :
    Faithful (Snapshot.bounds title low high) fun bounds =>
      .record [(low, intToJson? bounds.low), (high, intToJson? bounds.high)] := by
  refine faithful_map _ _ _ _ (faithful_record _ _ (.cons intToJson? (.cons intToJson? .nil))
    (show [low, high].Nodup by simpa using distinct) ?_) fun _ => rfl
  intro room
  exact ⟨int_kept room low, int_kept room high, trivial⟩

def Member.toJson (member : Member) : Json :=
  .record [("name", some (.string member.name)), ("type", some member.type.toJson),
    ("description", textToJson? member.description), ("decorators", decoratorsToJson member.decorators)]

theorem members_to_json_map (members : List Member) : membersToJson members = members.map Member.toJson := by
  induction members with
  | nil => rfl
  | cons member rest ih =>
      obtain ⟨name, type, description, decorators⟩ := member
      rw [membersToJson, ih]
      rfl

theorem types_to_json_map (types : List DataType) : typesToJson types = types.map DataType.toJson := by
  induction types with
  | nil => rfl
  | cons type rest ih => rw [typesToJson, ih, List.map_cons]

theorem type_to_json_map (type : Option DataType) : typeToJson? type = type.map DataType.toJson := by
  cases type <;> rfl

theorem data_type_to_json_present (type : DataType) : type.toJson ≠ .null := by
  obtain ⟨shape, secure⟩ := type
  simp [DataType.toJson, Json.record]

theorem type_kept (room : Nat) (name : String) (dataType : Decoder DataType)
    (faithful : Faithful dataType DataType.toJson) :
    (optionalField name dataType).Kept room fun type => type.map DataType.toJson :=
  optional_kept room name _ _ (faithful room) data_type_to_json_present

theorem faithful_member (dataType : Decoder DataType) (faithful : Faithful dataType DataType.toJson) :
    Faithful (Snapshot.member dataType) Member.toJson := by
  refine faithful_map _ _ _ _ (faithful_record _ _
    (.cons textWriter (.cons (fun type => some type.toJson) (.cons textToJson? (.cons decoratorsToJson .nil))))
    (show ["name", "type", "description", "decorators"].Nodup by decide) ?_) fun _ => rfl
  intro room
  exact ⟨required_kept room _ _ _ (faithful_string room), required_kept room _ _ _ (faithful room),
    text_kept room _, decorators_kept room, trivial⟩

theorem object_shape_kept (room : Nat) (dataType : Decoder DataType)
    (faithful : Faithful dataType DataType.toJson) :
    (Case.mk "object" (.record (Snapshot.objectShape dataType))).Kept room Shape.toJson := by
  have members := faithful_list _ _ (faithful_member dataType faithful)
  refine record_kept room _ _ _ (value_kept room _ _ _ _ _ (faithful_record _ _
    (.cons (fun found => found.map fun members => .array (members.map Member.toJson)) .nil)
    (show ["properties"].Nodup by decide) ?_) ?_)
  · intro room
    exact ⟨optional_kept room _ _ _ (members room) (by simp), trivial⟩
  · rintro ⟨found, ⟨⟩⟩
    cases found with
    | none => rfl
    | some members =>
        simp only [Shape.toJson, members_to_json_map]
        rfl

theorem array_shape_kept (room : Nat) (dataType : Decoder DataType)
    (faithful : Faithful dataType DataType.toJson) :
    (Case.mk "array" (.record (Snapshot.arrayShape dataType))).Kept room Shape.toJson := by
  refine record_kept room _ _ _ (value_kept room _ _ _ _ _ (faithful_record _ _
    (.cons (fun item => item.map DataType.toJson) (.cons intToJson? (.cons intToJson? .nil)))
    (show ["item", "minLength", "maxLength"].Nodup by decide) ?_) ?_)
  · intro room
    exact ⟨type_kept room _ dataType faithful, int_kept room _, int_kept room _, trivial⟩
  · rintro ⟨item, low, high, ⟨⟩⟩
    simp only [Shape.toJson, type_to_json_map]
    rfl

theorem reference_shape_kept (room : Nat) (dataType : Decoder DataType)
    (faithful : Faithful dataType DataType.toJson) :
    (Case.mk "reference" (.record (Snapshot.referenceShape dataType))).Kept room Shape.toJson := by
  refine record_kept room _ _ _ (value_kept room _ _ _ _ _ (faithful_record _ _
    (.cons textWriter (.cons (fun target => target.map DataType.toJson) .nil))
    (show ["name", "target"].Nodup by decide) ?_) ?_)
  · intro room
    exact ⟨required_kept room _ _ _ (faithful_string room), type_kept room _ dataType faithful, trivial⟩
  · rintro ⟨name, target, ⟨⟩⟩
    simp only [Shape.toJson, type_to_json_map]
    rfl

theorem faithful_shape (dataType : Decoder DataType) (faithful : Faithful dataType DataType.toJson) :
    Faithful (Snapshot.shape dataType) Shape.toJson := by
  have lengths := faithful_bounds "struct variant TypeKind::String" "minLength" "maxLength" (by decide)
  have ranges := faithful_bounds "struct variant TypeKind::Int" "minValue" "maxValue" (by decide)
  have alternatives := faithful_list _ _ faithful
  apply faithful_tagged
  intro room
  simp only [List.forall_mem_cons]
  refine ⟨?_, ?_, rfl, rfl, object_shape_kept room dataType faithful,
    array_shape_kept room dataType faithful, ?_, ?_, rfl, reference_shape_kept room dataType faithful,
    ?_, by simp⟩
  · exact record_kept room _ _ _ (value_kept room _ _ _ _ _ lengths fun _ => rfl)
  · exact record_kept room _ _ _ (value_kept room _ _ _ _ _ ranges fun _ => rfl)
  · exact value_kept room _ _ _ _ _ faithful_literal fun _ => rfl
  · refine value_kept room _ _ _ _ _ alternatives fun part => ?_
    rw [Shape.toJson, types_to_json_map]
    rfl
  · exact value_kept room _ _ _ _ _ faithful_string fun _ => rfl

theorem faithful_data_type : Faithful Snapshot.dataType DataType.toJson := by
  apply faithful_nested
  intro inner faithful
  refine faithful_map _ _ _ _ (faithful_record _ _
    (.cons (fun shape => some shape.toJson) (.cons (fun secure => some (.bool secure)) .nil))
    (show ["kind", "secure"].Nodup by decide) ?_) fun _ => rfl
  intro room
  exact ⟨required_kept room _ _ _ (faithful_shape inner faithful room),
    defaulted_kept room _ _ _ _ (faithful_bool room) (.bool false) rfl, trivial⟩

theorem faithful_parameter : Faithful Snapshot.parameter Parameter.toJson := by
  refine faithful_map _ _ _ _ (faithful_record _ _
    (.cons textWriter (.cons (fun type => some type.toJson) (.cons (fun type => some type.toJson)
      (.cons decoratorsToJson (.cons (fun value => value.map Expr.toJson) .nil)))))
    (show ["name", "resolvedType", "declaredType", "decorators", "defaultValue"].Nodup by decide) ?_)
    fun _ => rfl
  intro room
  refine ⟨required_kept room _ _ _ (faithful_string room),
    required_kept room _ _ _ (faithful_data_type room),
    required_kept room _ _ _ (faithful_written_type room), decorators_kept room,
    optional_kept room _ _ _ (faithful_expr room) ?_, trivial⟩
  rintro ⟨text, form⟩
  simp [Expr.toJson, Json.record]

theorem faithful_type_decl : Faithful Snapshot.typeDecl TypeDecl.toJson := by
  refine faithful_map _ _ _ _ (faithful_record _ _
    (.cons textWriter (.cons (fun type => some type.toJson) (.cons (fun value => some value.toJson)
      (.cons decoratorsToJson .nil))))
    (show ["name", "resolvedType", "value", "decorators"].Nodup by decide) ?_) fun _ => rfl
  intro room
  exact ⟨required_kept room _ _ _ (faithful_string room),
    required_kept room _ _ _ (faithful_data_type room),
    required_kept room _ _ _ (faithful_written_type room), decorators_kept room, trivial⟩

theorem faithful_import : Faithful Snapshot.importEntry Import.toJson := by
  refine faithful_map _ _ _ _ (faithful_record _ _
    (.cons textWriter (.cons textToJson? (.cons (fun type => type.map DataType.toJson) .nil)))
    (show ["name", "description", "exportType"].Nodup by decide) ?_) fun _ => rfl
  intro room
  exact ⟨required_kept room _ _ _ (faithful_string room), text_kept room _,
    type_kept room _ _ faithful_data_type, trivial⟩

theorem faithful_export : Faithful Snapshot.exportEntry Export.toJson := by
  refine faithful_map _ _ _ _ (faithful_record _ _
    (.cons (fun type => some type.toJson) (.cons textToJson? .nil))
    (show ["type", "description"].Nodup by decide) ?_) fun _ => rfl
  intro room
  exact ⟨required_kept room _ _ _ (faithful_data_type room), text_kept room _, trivial⟩

theorem exports_to_json_members (exports : KeyedList Export) :
    exportsToJson exports = .object (exports.entries.map fun entry => (some entry.1, entry.2.toJson)) := by
  rw [exportsToJson, Json.record, List.filterMap_map]
  exact congrArg Json.object (congrFun List.filterMap_eq_map exports.entries)

theorem faithful_wildcard_import : Faithful Snapshot.wildcardImport WildcardImport.toJson := by
  have exports : Faithful Snapshot.exportEntry.table exportsToJson := by
    have tables := faithful_table _ _ faithful_export
    rwa [← funext exports_to_json_members] at tables
  refine faithful_map _ _ _ _ (faithful_record _ _
    (.cons textWriter (.cons decoratorsToJson (.cons (fun found => found.map exportsToJson) .nil)))
    (show ["name", "decorators", "members"].Nodup by decide) ?_) fun _ => rfl
  intro room
  exact ⟨required_kept room _ _ _ (faithful_string room), decorators_kept room,
    optional_kept room _ _ _ (exports room) (by simp [exports_to_json_members]), trivial⟩

theorem listed_kept {α : Type} (room : Nat) (name : String) (decoder : Decoder α) (write : α → Json)
    (faithful : Faithful decoder write) :
    (defaulted name decoder.list []).Kept (room + 1) fun results => some (.array (results.map write)) :=
  defaulted_kept (room + 1) name _ _ _ (faithful_list decoder write faithful (room + 1)) (.array []) rfl

-- The lists of a template are written also where they are empty and were left out, so there has to
-- be room for one container in another.
theorem faithful_template (room : Nat) : FaithfulAt (room + 2) Snapshot.template Template.toJson := by
  refine faithful_map_at (room + 2) _ _ _ _ (faithful_record_at (room + 1) _ _
    (.cons (fun items => some (.array (items.map Parameter.toJson)))
      (.cons (fun items => some (.array (items.map TypeDecl.toJson)))
        (.cons (fun items => some (.array (items.map Import.toJson)))
          (.cons (fun items => some (.array (items.map WildcardImport.toJson))) .nil))))
    (show ["parameters", "typeDeclarations", "importedTypes", "wildcardImports"].Nodup by decide) ?_)
    fun _ => rfl
  exact ⟨listed_kept room _ _ _ faithful_parameter, listed_kept room _ _ _ faithful_type_decl,
    listed_kept room _ _ _ faithful_import, listed_kept room _ _ _ faithful_wildcard_import, trivial⟩

theorem snapshot_read_back (text : String) (template : Template)
    (accepted : Template.ofText text = .ok template) :
    Template.ofText template.toJson.compact = .ok template ∧
      ∀ depth, Template.ofText (template.toJson.indented depth) = .ok template :=
  faithful_text Snapshot.template Template.toJson (faithful_template 125) text template accepted

theorem except_of_option {α : Type} (found : Except Fault α) (result : α)
    (present : found.toOption = some result) : found = .ok result := by
  cases found with
  | error reason => cases present
  | ok stored => exact congrArg Except.ok (Option.some.inj present)

-- Records by place, a case without content as a key, the least number, and a name exported twice.
def terseSnapshot : String :=
  "[[],[],[],[[\"w\",[],\x7b\"b\":[[\x7b\"any\":null\x7d]],\"a\":[[\"any\"]],\"b\":[[\x7b\"int\":[-9223372036854775808]\x7d]]\x7d]]]"

theorem terse_snapshot_read_back : ∃ template : Template,
    Template.ofText terseSnapshot = .ok template ∧
      template.wildcards.map (fun entry => entry.exports.map KeyedList.keys) = [some ["b", "a"]] ∧
      Template.ofText template.toJson.compact = .ok template ∧
      Template.ofText (template.toJson.indented 0) = .ok template := by
  have named : (Template.ofText terseSnapshot).toOption.map (fun template =>
      template.wildcards.map fun entry => entry.exports.map KeyedList.keys) = some [some ["b", "a"]] := by
    decide +kernel
  obtain ⟨template, found, names⟩ := Option.map_eq_some_iff.mp named
  have accepted := except_of_option _ template found
  obtain ⟨compact, indented⟩ := snapshot_read_back terseSnapshot template accepted
  exact ⟨template, accepted, names, compact, indented 0⟩

end TemplateManual
