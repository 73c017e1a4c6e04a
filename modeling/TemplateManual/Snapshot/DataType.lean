import TemplateManual.DataType
import TemplateManual.Snapshot.Expr

set_option autoImplicit false

namespace TemplateManual

open Json

def intToJson? (value : Option Int) : Option Json := value.map Json.int

def textToJson? (value : Option String) : Option Json := value.map Json.string

mutual

def DataType.toJson : DataType → Json
  | ⟨shape, secure⟩ => .record [("kind", some shape.toJson), ("secure", some (.bool secure))]

def Shape.toJson : Shape → Json
  | .string length =>
    .record [("string", some (.record
      [("minLength", intToJson? length.low), ("maxLength", intToJson? length.high)]))]
  | .int range =>
    .record [("int", some (.record
      [("minValue", intToJson? range.low), ("maxValue", intToJson? range.high)]))]
  | .bool => .string "bool"
  | .any => .string "any"
  | .object none => .record [("object", some (.record []))]
  | .object (some members) =>
    .record [("object", some (.record [("properties", some (.array (membersToJson members)))]))]
  | .array item length =>
    .record [("array", some (.record [("item", typeToJson? item),
      ("minLength", intToJson? length.low), ("maxLength", intToJson? length.high)]))]
  | .literal value => .record [("literal", some value.toJson)]
  | .union alternatives => .record [("union", some (.array (typesToJson alternatives)))]
  | .null => .string "null"
  | .reference name target =>
    .record [("reference", some (.record
      [("name", some (.string name)), ("target", typeToJson? target)]))]
  | .other name => .record [("other", some (.string name))]

def typeToJson? : Option DataType → Option Json
  | none => none
  | some type => some type.toJson

def typesToJson : List DataType → List Json
  | [] => []
  | type :: rest => type.toJson :: typesToJson rest

def membersToJson : List Member → List Json
  | [] => []
  | ⟨name, type, description, decorators⟩ :: rest =>
    .record [("name", some (.string name)), ("type", some type.toJson),
      ("description", textToJson? description), ("decorators", decoratorsToJson decorators)] ::
      membersToJson rest

end

namespace Snapshot

def bounds (title low high : String) : Decoder Bounds :=
  (Decoder.record title
    (.cons (optionalField low .int64) (.cons (optionalField high .int64) .nil))).map
    fun (low, high, ()) => ⟨low, high⟩

def member (dataType : Decoder DataType) : Decoder Member :=
  (Decoder.record "struct ObjectMember"
    (.cons (required "name" .string) (.cons (required "type" dataType)
      (.cons (optionalField "description" .string)
        (.cons (defaulted "decorators" decorator.list []) .nil))))).map
    fun (name, type, description, decorators, ()) => ⟨name, type, description, decorators⟩

def objectShape (dataType : Decoder DataType) : Decoder Shape :=
  (Decoder.record "struct variant TypeKind::Object"
    (.cons (optionalField "properties" (member dataType).list) .nil)).map
    fun (members, ()) => .object members

def arrayShape (dataType : Decoder DataType) : Decoder Shape :=
  (Decoder.record "struct variant TypeKind::Array"
    (.cons (optionalField "item" dataType) (.cons (optionalField "minLength" .int64)
      (.cons (optionalField "maxLength" .int64) .nil)))).map
    fun (item, low, high, ()) => .array item ⟨low, high⟩

def referenceShape (dataType : Decoder DataType) : Decoder Shape :=
  (Decoder.record "struct variant TypeKind::Reference"
    (.cons (required "name" .string) (.cons (optionalField "target" dataType) .nil))).map
    fun (name, target, ()) => .reference name target

def shape (dataType : Decoder DataType) : Decoder Shape := .tagged [
  ⟨"string",
    .record ((bounds "struct variant TypeKind::String" "minLength" "maxLength").map .string)⟩,
  ⟨"int", .record ((bounds "struct variant TypeKind::Int" "minValue" "maxValue").map .int)⟩,
  ⟨"bool", .bare .bool⟩,
  ⟨"any", .bare .any⟩,
  ⟨"object", .record (objectShape dataType)⟩,
  ⟨"array", .record (arrayShape dataType)⟩,
  ⟨"literal", .value (literal.map .literal)⟩,
  ⟨"union", .value (dataType.list.map .union)⟩,
  ⟨"null", .bare .null⟩,
  ⟨"reference", .record (referenceShape dataType)⟩,
  ⟨"other", .value (Decoder.string.map .other)⟩]

def typeLayer (inner : Decoder DataType) : Decoder DataType :=
  (Decoder.record "struct ResolvedType"
    (.cons (required "kind" (shape inner)) (.cons (defaulted "secure" .bool false) .nil))).map
    fun (shape, secure, ()) => ⟨shape, secure⟩

def dataType : Decoder DataType := .nested typeLayer

end Snapshot

end TemplateManual
