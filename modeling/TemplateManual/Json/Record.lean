import TemplateManual.Json.Decoder

set_option autoImplicit false

namespace TemplateManual.Json

structure Field (α : Type) where
  name : String
  decoder : Decoder α
  absent : Option α

def required {α : Type} (name : String) (decoder : Decoder α) : Field α := ⟨name, decoder, none⟩

def defaulted {α : Type} (name : String) (decoder : Decoder α) (absent : α) : Field α :=
  ⟨name, decoder, some absent⟩

def optionalField {α : Type} (name : String) (decoder : Decoder α) : Field (Option α) :=
  ⟨name, decoder.optional, some none⟩

inductive Fields : List Type → Type 1 where
  | nil : Fields []
  | cons {α : Type} {rest : List Type} (field : Field α) (fields : Fields rest) : Fields (α :: rest)

@[reducible] def Row : List Type → Type
  | [] => Unit
  | α :: rest => α × Row rest

@[reducible] def Draft : List Type → Type
  | [] => Unit
  | α :: rest => Option α × Draft rest

namespace Fields

def count : {types : List Type} → Fields types → Nat
  | _, .nil => 0
  | _, .cons _ fields => fields.count + 1

def names : {types : List Type} → Fields types → List String
  | _, .nil => []
  | _, .cons field fields => field.name :: fields.names

def blank : {types : List Type} → Fields types → Draft types
  | _, .nil => ()
  | _, .cons _ fields => (none, fields.blank)

-- Takes in the value of a named field; nothing if no field has the name. A repeated name is a fault
-- before its value is looked at.
def fill (room : Nat) (name : String) (value : Json) :
    {types : List Type} → Fields types → Draft types → Except Fault (Option (Draft types))
  | _, .nil, () => .ok none
  | _, .cons field fields, (held, rest) =>
    if name = field.name then
      match held with
      | some _ => .error (.repeatedField name)
      | none => (field.decoder room value).map fun found => some (some found, rest)
    else (fields.fill room name value rest).map fun filled => filled.map fun rest => (held, rest)

-- The value of a member that is no field is skipped over, but has to be well formed.
def fillAll (room : Nat) {types : List Type} (fields : Fields types) (draft : Draft types) :
    List (Option String × Json) → Except Fault (Draft types)
  | [] => .ok draft
  | (none, _) :: _ => .error .malformed
  | (some name, value) :: rest =>
    match fields.fill room name value draft with
    | .error reason => .error reason
    | .ok (some filled) => fields.fillAll room filled rest
    | .ok none => if value.wellFormed then fields.fillAll room draft rest else .error .malformed

def finish : {types : List Type} → Fields types → Draft types → Except Fault (Row types)
  | _, .nil, () => .ok ()
  | _, .cons field fields, (held, rest) =>
    match held <|> field.absent with
    | none => .error (.missingField field.name)
    | some value => (fields.finish rest).map fun row => (value, row)

def ofMembers (room : Nat) {types : List Type} (fields : Fields types)
    (members : List (Option String × Json)) : Except Fault (Row types) :=
  match fields.fillAll room fields.blank members with
  | .error reason => .error reason
  | .ok draft => fields.finish draft

-- `index` counts the fields before these and `count` all fields of the record.
def ofItems (room : Nat) (title : String) (count : Nat) (index : Nat) :
    {types : List Type} → Fields types → List Json → Except Fault (Row types)
  | _, .nil, [] => .ok ()
  | _, .nil, _ :: _ => .error .malformed
  | _, .cons field fields, [] =>
    match field.absent with
    | none => .error (.wrongLength index title count)
    | some value =>
      (ofItems room title count (index + 1) fields []).map fun row => (value, row)
  | _, .cons field fields, item :: rest =>
    match field.decoder room item with
    | .error reason => .error reason
    | .ok value => (ofItems room title count (index + 1) fields rest).map fun row => (value, row)

end Fields

namespace Decoder

def record (title : String) {types : List Type} (fields : Fields types) : Decoder (Row types)
  | 0, .object _ => .error .malformed
  | 0, .array _ => .error .malformed
  | room + 1, .object members => fields.ofMembers room members
  | room + 1, .array items => fields.ofItems room title fields.count 0 items
  | _, value => reject (.record title) value

end Decoder

end TemplateManual.Json
