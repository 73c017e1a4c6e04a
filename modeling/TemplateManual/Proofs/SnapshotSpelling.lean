import TemplateManual.Proofs.Json.Respelling
import TemplateManual.Proofs.Snapshot

set_option autoImplicit false

namespace TemplateManual

open Json

section Carried

variable {count reach : Nat}

theorem literal_carries : Carries count reach Snapshot.literal Snapshot.literal :=
  carries_weaken <| carries_tagged <|
    .cons (value_carries _ _ (steady_string _ _)) <|
    .cons (value_carries _ _ (steady_int64 _ _)) <|
    .cons (value_carries _ _ (steady_bool _ _)) .nil

theorem entry_carries {expr reader : Decoder Expr} (carries : Carries count reach expr reader) :
    Carries count reach (Snapshot.entry expr) (Snapshot.entry reader) :=
  carries_weaken <| carries_map _ <| carries_record <|
    .cons (steady_string _ _) <| .cons carries .nil

theorem string_form_carries : Carries count reach Snapshot.stringForm Snapshot.stringForm :=
  carries_weaken <| carries_map _ <| carries_record <|
    .cons (steady_string _ _) <| .cons (steady_bool _ _) .nil

theorem expr_form_carries {expr reader : Decoder Expr} (carries : Carries count reach expr reader) :
    Carries count reach (Snapshot.exprForm expr) (Snapshot.exprForm reader) :=
  carries_weaken <| carries_tagged <|
    .cons (value_carries _ _ (steady_bool _ _)) <|
    .cons (value_carries _ _ (steady_int64 _ _)) <|
    .cons (record_carries _ string_form_carries) <|
    .cons (bare_carries _ _) <|
    .cons (value_carries _ _ (carries_weaken (carries_list (entry_carries carries)))) <|
    .cons (value_carries _ _ (carries_weaken (carries_list carries))) <|
    .cons (bare_carries _ _) <| .cons (bare_carries _ _) <| .cons (bare_carries _ _) <|
    .cons (bare_carries _ _) .nil

theorem written_form_carries {written reader : Decoder WrittenType} (carries : Carries count reach written reader) :
    Carries count reach (Snapshot.writtenForm written) (Snapshot.writtenForm reader) :=
  carries_weaken <| carries_tagged <|
    .cons (value_carries _ _ (steady_string _ _)) <|
    .cons (value_carries _ _ carries) <|
    .cons (value_carries _ _ (carries_weaken (carries_list carries))) <|
    .cons (value_carries _ _ literal_carries) <|
    .cons (bare_carries _ _) .nil

end Carried

theorem expr_layer_guarded : Guarded Snapshot.exprLayer := by
  intro count reach decoder reader carries
  exact carries_map _ <| carries_record <| .cons (steady_string _ _) <| .cons (expr_form_carries carries) .nil

theorem written_layer_guarded : Guarded Snapshot.writtenLayer := by
  intro count reach decoder reader carries
  exact carries_map _ <| carries_record <| .cons (steady_string _ _) <| .cons (written_form_carries carries) .nil

theorem steady_expr : Steady Snapshot.expr := steady_nested expr_layer_guarded

theorem steady_written_type : Steady Snapshot.writtenType := steady_nested written_layer_guarded

section Carried

variable {count reach : Nat}

theorem decorators_carry : Carries count reach Snapshot.decorator.list Snapshot.decorator.list := by
  have args := carries_weaken (carries_list (steady_expr count reach))
  exact carries_weaken <| carries_list <| carries_weaken <| carries_map _ <| carries_record <|
    .cons (steady_string _ _) <| .cons args .nil

theorem bounds_carry (title low high : String) :
    Carries count reach (Snapshot.bounds title low high) (Snapshot.bounds title low high) :=
  carries_weaken <| carries_map _ <| carries_record <|
    .cons (carries_optional (steady_int64 _ _)) <| .cons (carries_optional (steady_int64 _ _)) .nil

theorem member_carries {dataType reader : Decoder DataType} (carries : Carries count reach dataType reader) :
    Carries count reach (Snapshot.member dataType) (Snapshot.member reader) :=
  carries_weaken <| carries_map _ <| carries_record <|
    .cons (steady_string _ _) <| .cons carries <| .cons (carries_optional (steady_string _ _)) <|
    .cons decorators_carry .nil

theorem object_shape_carries {dataType reader : Decoder DataType} (carries : Carries count reach dataType reader) :
    Carries count reach (Snapshot.objectShape dataType) (Snapshot.objectShape reader) :=
  carries_weaken <| carries_map _ <| carries_record <|
    .cons (carries_optional (carries_weaken (carries_list (member_carries carries)))) .nil

theorem array_shape_carries {dataType reader : Decoder DataType} (carries : Carries count reach dataType reader) :
    Carries count reach (Snapshot.arrayShape dataType) (Snapshot.arrayShape reader) :=
  carries_weaken <| carries_map _ <| carries_record <|
    .cons (carries_optional carries) <| .cons (carries_optional (steady_int64 _ _)) <|
    .cons (carries_optional (steady_int64 _ _)) .nil

theorem reference_shape_carries {dataType reader : Decoder DataType} (carries : Carries count reach dataType reader) :
    Carries count reach (Snapshot.referenceShape dataType) (Snapshot.referenceShape reader) :=
  carries_weaken <| carries_map _ <| carries_record <|
    .cons (steady_string _ _) <| .cons (carries_optional carries) .nil

theorem shape_carries {dataType reader : Decoder DataType} (carries : Carries count reach dataType reader) :
    Carries count reach (Snapshot.shape dataType) (Snapshot.shape reader) :=
  carries_weaken <| carries_tagged <|
    .cons (record_carries _ (carries_map _ (bounds_carry _ _ _))) <|
    .cons (record_carries _ (carries_map _ (bounds_carry _ _ _))) <|
    .cons (bare_carries _ _) <| .cons (bare_carries _ _) <|
    .cons (record_carries _ (object_shape_carries carries)) <|
    .cons (record_carries _ (array_shape_carries carries)) <|
    .cons (value_carries _ _ literal_carries) <|
    .cons (value_carries _ _ (carries_weaken (carries_list carries))) <|
    .cons (bare_carries _ _) <|
    .cons (record_carries _ (reference_shape_carries carries)) <|
    .cons (value_carries _ _ (steady_string _ _)) .nil

end Carried

theorem type_layer_guarded : Guarded Snapshot.typeLayer := by
  intro count reach decoder reader carries
  exact carries_map _ <| carries_record <| .cons (shape_carries carries) <| .cons (steady_bool _ _) .nil

theorem steady_data_type : Steady Snapshot.dataType := steady_nested type_layer_guarded

theorem steady_parameter : Steady Snapshot.parameter := by
  intro count reach
  exact carries_weaken <| carries_map _ <| carries_record <|
    .cons (steady_string _ _) <| .cons (steady_data_type _ _) <| .cons (steady_written_type _ _) <|
    .cons decorators_carry <| .cons (carries_optional (steady_expr _ _)) .nil

theorem steady_type_decl : Steady Snapshot.typeDecl := by
  intro count reach
  exact carries_weaken <| carries_map _ <| carries_record <|
    .cons (steady_string _ _) <| .cons (steady_data_type _ _) <| .cons (steady_written_type _ _) <|
    .cons decorators_carry .nil

theorem steady_import : Steady Snapshot.importEntry := by
  intro count reach
  exact carries_weaken <| carries_map _ <| carries_record <|
    .cons (steady_string _ _) <| .cons (carries_optional (steady_string _ _)) <|
    .cons (carries_optional (steady_data_type _ _)) .nil

theorem steady_export : Steady Snapshot.exportEntry := by
  intro count reach
  exact carries_weaken <| carries_map _ <| carries_record <|
    .cons (steady_data_type _ _) <| .cons (carries_optional (steady_string _ _)) .nil

theorem steady_wildcard_import : Steady Snapshot.wildcardImport := by
  intro count reach
  have exports := carries_weaken (carries_table (steady_export count reach))
  exact carries_weaken <| carries_map _ <| carries_record <|
    .cons (steady_string _ _) <| .cons decorators_carry <| .cons (carries_optional exports) .nil

theorem steady_template : Steady Snapshot.template := by
  intro count reach
  exact carries_weaken <| carries_map _ <| carries_record <|
    .cons (carries_weaken (carries_list (steady_parameter _ _))) <|
    .cons (carries_weaken (carries_list (steady_type_decl _ _))) <|
    .cons (carries_weaken (carries_list (steady_import _ _))) <|
    .cons (carries_weaken (carries_list (steady_wildcard_import _ _))) .nil

theorem remove_all_concat (keys held : List String) (key : String) :
    keys.removeAll (held ++ [key]) = (keys.removeAll held).filter fun other => !other == key := by
  simp only [List.removeAll, List.filter_filter]
  refine List.filter_congr fun other _ => ?_
  by_cases same : other = key <;> simp [same]

theorem entries_keys {α : Type} (decoder : Decoder α) (room : Nat) (members : List (Option String × Json))
    (done results : KeyedList α) (found : Decoder.entries decoder room done members = .ok results) :
    results.keys = done.keys ++ ((members.filterMap Prod.fst).removeAll done.keys).eraseDups := by
  induction members generalizing done with
  | nil =>
      cases found
      simp [List.removeAll]
  | cons member rest ih =>
      obtain ⟨key, value⟩ := member
      cases key with
      | none => cases found
      | some key =>
          simp only [Decoder.entries] at found
          split at found
          · cases found
          · rename_i first read
            rw [ih _ found]
            by_cases held : key ∈ done.keys
            · rw [done.keys_put_held key first held]
              simp [List.removeAll, held]
            · rw [done.keys_put_new key first held, remove_all_concat]
              simp [List.removeAll, held, List.eraseDups_cons]

theorem table_keys {α : Type} (decoder : Decoder α) (room : Nat) (members : List (Option String × Json))
    (results : KeyedList α) (found : decoder.table room (.object members) = .ok results) :
    results.keys = (members.filterMap Prod.fst).eraseDups := by
  obtain ⟨inner, listed, -, same, read⟩ := (table_iff decoder room _ results).mp found
  cases same
  simpa [List.removeAll, KeyedList.keys, KeyedList.empty] using entries_keys decoder inner members .empty results read

theorem wildcard_keys (room : Nat) (parts members : List (Option String × Json)) (entry : WildcardImport)
    (listed : (some "members", .object members) ∈ parts)
    (found : Snapshot.wildcardImport room (.object parts) = .ok entry) :
    entry.exports.map KeyedList.keys = some (members.filterMap Prod.fst).eraseDups := by
  obtain ⟨⟨name, decorators, exports, row⟩, read, rfl⟩ := map_ok _ _ _ found
  obtain ⟨inner, -, ⟨_, same, filled⟩ | ⟨_, same, _⟩⟩ := (record_iff _ _ _ _ _).mp read
  · cases same
    have value : Json.object members ∈ Fields.valuesOf "members"
        (Fields.without "decorators" (Fields.without "name" parts)) := by
      simp [Fields.mem_values_of, Fields.without, listed]
    rcases filled.2.2.1 with ⟨missing, _⟩ | ⟨only, alone, read⟩
    · exact absurd (List.eq_nil_iff_forall_not_mem.mp missing _ value) (by simp)
    · obtain rfl : Json.object members = only := List.mem_singleton.mp (alone ▸ value)
      change (Snapshot.exportEntry.table inner (.object members)).map some = .ok exports at read
      obtain ⟨entries, taken, rfl⟩ := map_ok some _ _ read
      exact congrArg some (table_keys _ inner members entries taken)
  · cases same

-- A note that no record declares, with more containers in each other than may be open at a time.
def deepNote : Nat → Json
  | 0 => .null
  | depth + 1 => .array [deepNote depth]

def importing (wildcard : Json) : Json := .object [(some "wildcardImports", .array [wildcard])]

def importingWithNote (wildcard : Json) : Json :=
  .object [(some "note", deepNote 200), (some "wildcardImports", .array [wildcard])]

def anyExport : Json := .object [(some "type", .object [(some "kind", .string "any")])]

def keyedImport (flag : Json) : Json :=
  .object [(some "name", .string "shapes"), (some "members", .object [(some "flag", flag), (some "any", anyExport)])]

def fullImport (flag : Json) : Json :=
  .object [(some "name", .string "shapes"), (some "decorators", .array []),
    (some "members", .object [(some "flag", flag), (some "any", anyExport)])]

def placedImport (flag : Json) : Json :=
  .array [.string "shapes", .array [], .object [(some "flag", flag), (some "any", anyExport)]]

def keyedFlag : Json :=
  .object [(some "type", .object [(some "secure", .bool false), (some "kind", .string "bool")])]

def placedFlag : Json := .object [(some "type", .array [.object [(some "bool", .null)], .bool false])]

theorem somewhere_inside {change : (α : Type) → Decoder α → Json → Json → Prop} {α β : Type} {outer : Decoder β}
    {inner : Decoder α} {around : Json → Json} {value other whole changedWhole : Json}
    (encloses : Encloses outer inner around) (changed : Somewhere change inner value other)
    (before : whole = around value) (after : changedWhole = around other) :
    Somewhere change outer whole changedWhole := by
  rw [before, after]
  exact .inside encloses changed

section Places

variable {change : (α : Type) → Decoder α → Json → Json → Prop} {value other : Json}

theorem in_import (changed : Somewhere change Snapshot.wildcardImport value other) :
    Somewhere change Snapshot.template (importing value) (importing other) := by
  have listed := Somewhere.inside (.item Snapshot.wildcardImport [] []) changed
  exact .mapped _ (somewhere_inside (.named _ (.later (by decide) (.later (by decide) (.later (by decide)
    (.first _ _)))) [] []) listed rfl rfl)

theorem in_member (changed : Somewhere change Snapshot.exportEntry value other) :
    Somewhere change Snapshot.wildcardImport (keyedImport value) (keyedImport other) := by
  have named := Somewhere.inside (.entry Snapshot.exportEntry "flag" [] [(some "any", anyExport)]) changed
  exact .mapped _ (somewhere_inside (.named _ (.later (by decide) (.later (by decide) (.first _ _)))
    [(some "name", .string "shapes")] []) (.present named) rfl rfl)

theorem in_type (changed : Somewhere change Snapshot.dataType value other) :
    Somewhere change Snapshot.exportEntry (.object [(some "type", value)]) (.object [(some "type", other)]) :=
  .mapped _ (somewhere_inside (.named _ (.first _ _) [] []) changed rfl rfl)

theorem in_layer (changed : Somewhere change (Snapshot.typeLayer Snapshot.dataType) value other) :
    Somewhere change Snapshot.dataType value other :=
  .layered type_layer_guarded changed

theorem with_note (adds : ∀ {α : Type} {decoder : Decoder α} {value other : Json},
      Adds decoder value other → change α decoder value other) (wildcard : Json) :
    Somewhere change Snapshot.template (importing wildcard) (importingWithNote wildcard) :=
  .mapped _ (.here (adds (.member _ _ [] [(some "wildcardImports", .array [wildcard])] "note" (deepNote 200)
    (by decide) (by decide +kernel))))

end Places

theorem flag_respelled : Respelled Snapshot.template (importing (keyedImport keyedFlag))
    (importing (keyedImport placedFlag)) := by
  have anywhere := fun {value other : Json} changed =>
    Relation.EqvGen.rel _ _ (in_import (in_member (in_type (in_layer (changed :
      Somewhere @Respells (Snapshot.typeLayer Snapshot.dataType) value other)))))
  refine .trans _ _ _ (anywhere (.mapped _ (.here (.reordered _ _ (.swap _ _ _))))) ?_
  refine .trans _ _ _ (anywhere (.mapped _ (.here (.byPlace _ _ (by decide) [.string "bool", .bool false] rfl)))) ?_
  exact anywhere (.mapped _ (somewhere_inside (.placed _ (.first _ _) [] [.bool false] rfl)
    (.here (.bare _ "bool" .bool rfl)) rfl rfl))

theorem import_respelled (flag : Json) : Respelled Snapshot.template (importing (keyedImport flag))
    (importing (placedImport flag)) := by
  have empty : Reads Snapshot.decorator.list (.array []) [] := by
    refine ⟨1, fun room enough => ?_⟩
    cases room with
    | zero => omega
    | succ room => rfl
  have said : Somewhere @Respells Snapshot.wildcardImport (fullImport flag) (keyedImport flag) :=
    .mapped _ (.here (.omitted _ (.later (by decide) (.first _ _)) [(some "name", .string "shapes")]
      [(some "members", .object [(some "flag", flag), (some "any", anyExport)])] (.array []) []
      (by simp [defaulted]) rfl empty))
  have byPlace : Somewhere @Respells Snapshot.wildcardImport (fullImport flag) (placedImport flag) :=
    .mapped _ (.here (.byPlace _ _ (by decide)
      [.string "shapes", .array [], .object [(some "flag", flag), (some "any", anyExport)]] rfl))
  exact .trans _ _ _ (.symm _ _ (.rel _ _ (in_import said))) (.rel _ _ (in_import byPlace))

theorem array_writable_iff (items : List Json) : Writable (.array items) ↔ ∀ item ∈ items, Writable item := by
  constructor
  · intro writable
    cases writable with
    | array _ each => exact each
  · exact .array items

theorem object_writable_iff (members : List (Option String × Json)) :
    Writable (.object members) ↔ ∀ member ∈ members, member.1.isSome = true ∧ Writable member.2 := by
  constructor
  · intro writable
    cases writable with
    | object _ keyed each => exact fun member listed => ⟨keyed member listed, each member listed⟩
  · exact fun each => .object members (fun member listed => (each member listed).1)
      fun member listed => (each member listed).2

theorem deep_note_writable (depth : Nat) : Writable (deepNote depth) := by
  induction depth with
  | zero => exact .null
  | succ depth ih => exact .array _ (by simpa using ih)

theorem import_writable : Writable (importing (keyedImport keyedFlag)) ∧
    Writable (importingWithNote (placedImport placedFlag)) := by
  simp [importing, importingWithNote, keyedImport, placedImport, keyedFlag, placedFlag, anyExport,
    array_writable_iff, object_writable_iff, deep_note_writable, Writable.null, Writable.bool, Writable.string]

-- Read as a value or as a text, however it is spelled; and the one order that is kept.
theorem snapshot_spelling_irrelevant :
    (∀ value other template, Snapshot.template.decode value = .ok template →
      Respelled Snapshot.template value other → Fits Snapshot.template other →
      Snapshot.template.decode other = .ok template) ∧
    (∀ text other template, Template.ofText text = .ok template →
      Respelled Snapshot.template (read text).value (read other).value →
      Fits Snapshot.template (read other).value → (read other).complete = true →
      Template.ofText other = .ok template) ∧
    ∀ room parts members entry, (some "members", .object members) ∈ parts →
      Snapshot.wildcardImport room (.object parts) = .ok entry →
      entry.exports.map KeyedList.keys = some (members.filterMap Prod.fst).eraseDups := by
  have values := decode_respelled Snapshot.template steady_template
  refine ⟨fun value other template found respelled fits => values value other respelled fits template found,
    fun text other template found respelled fits complete => ?_, wildcard_keys⟩
  have whole : read other = ⟨(read other).value, true⟩ := by rw [← complete]
  rw [Template.ofText, decode_spelled Snapshot.template other _ whole]
  exact values _ _ respelled fits template (decode_text_found _ text template found)

theorem respelled_import_read_alike : ∃ (template : Template) (entry : WildcardImport),
    Snapshot.template.decode (importing (keyedImport keyedFlag)) = .ok template ∧
      Respelled Snapshot.template (importing (keyedImport keyedFlag)) (importingWithNote (placedImport placedFlag)) ∧
      Fits Snapshot.template (importingWithNote (placedImport placedFlag)) ∧
      Snapshot.template.decode (importingWithNote (placedImport placedFlag)) = .ok template ∧
      Template.ofText (importingWithNote (placedImport placedFlag)).compact = .ok template ∧
      Snapshot.wildcardImport 125 (keyedImport keyedFlag) = .ok entry ∧
      entry.exports.map KeyedList.keys = some ["flag", "any"] := by
  have respelled : Respelled Snapshot.template (importing (keyedImport keyedFlag))
      (importingWithNote (placedImport placedFlag)) :=
    .trans _ _ _ flag_respelled (.trans _ _ _ (import_respelled placedFlag) (.rel _ _ (with_note .added _)))
  have fits : Fits Snapshot.template (importingWithNote (placedImport placedFlag)) :=
    ⟨importing (placedImport placedFlag), by decide, .single (with_note id _)⟩
  have accepted : (Snapshot.template.decode (importing (keyedImport keyedFlag))).toOption.isSome = true := by
    decide +kernel
  have read : (Snapshot.wildcardImport 125 (keyedImport keyedFlag)).toOption.isSome = true := by
    decide +kernel
  obtain ⟨template, accepted⟩ := Option.isSome_iff_exists.mp accepted
  obtain ⟨entry, read⟩ := Option.isSome_iff_exists.mp read
  have found := except_of_option _ template accepted
  have imported := except_of_option _ entry read
  have keyed := read_compact _ import_writable.1
  have terse := read_compact _ import_writable.2
  obtain ⟨values, texts, orders⟩ := snapshot_spelling_irrelevant
  refine ⟨template, entry, found, respelled, fits, values _ _ template found respelled fits, ?_, imported, ?_⟩
  · apply texts (importing (keyedImport keyedFlag)).compact
    · rw [Template.ofText, decode_spelled _ _ _ keyed, found]
    · rw [keyed, terse]
      exact respelled
    · rw [terse]
      exact fits
    · rw [terse]
  · exact orders 125 _ [(some "flag", keyedFlag), (some "any", anyExport)] entry (by simp) imported

end TemplateManual
