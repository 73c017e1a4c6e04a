import TemplateManual.Snapshot.Expr
import TemplateManual.WrittenType

set_option autoImplicit false

namespace TemplateManual

open Json

mutual

def WrittenType.toJson : WrittenType → Json
  | ⟨text, form⟩ => .record [("text", some (.string text)), ("kind", some form.toJson)]

def WrittenForm.toJson : WrittenForm → Json
  | .reference name => .record [("reference", some (.string name))]
  | .nullable inner => .record [("nullable", some inner.toJson)]
  | .union alternatives => .record [("union", some (.array (writtenTypesToJson alternatives)))]
  | .literal value => .record [("literal", some value.toJson)]
  | .other => .string "other"

def writtenTypesToJson : List WrittenType → List Json
  | [] => []
  | written :: rest => written.toJson :: writtenTypesToJson rest

end

namespace Snapshot

def writtenForm (writtenType : Decoder WrittenType) : Decoder WrittenForm := .tagged [
  ⟨"reference", .value (Decoder.string.map .reference)⟩,
  ⟨"nullable", .value (writtenType.map .nullable)⟩,
  ⟨"union", .value (writtenType.list.map .union)⟩,
  ⟨"literal", .value (literal.map .literal)⟩,
  ⟨"other", .bare .other⟩]

def writtenLayer (inner : Decoder WrittenType) : Decoder WrittenType :=
  (Decoder.record "struct TypeSyntax"
    (.cons (required "text" .string) (.cons (required "kind" (writtenForm inner)) .nil))).map
    fun (text, form, ()) => ⟨text, form⟩

def writtenType : Decoder WrittenType := .nested writtenLayer

end Snapshot

end TemplateManual
