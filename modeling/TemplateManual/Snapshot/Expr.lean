import TemplateManual.Decorator
import TemplateManual.Expr
import TemplateManual.Json.Record
import TemplateManual.Json.Tagged
import TemplateManual.Literal

set_option autoImplicit false

namespace TemplateManual

open Json

def Literal.toJson : Literal → Json
  | .string value => .record [("string", some (.string value))]
  | .int value => .record [("int", some (.int value))]
  | .bool value => .record [("bool", some (.bool value))]

mutual

def Expr.toJson : Expr → Json
  | ⟨text, form⟩ => .record [("text", some (.string text)), ("kind", some form.toJson)]

def ExprForm.toJson : ExprForm → Json
  | .bool value => .record [("boolean", some (.bool value))]
  | .int value => .record [("integer", some (.int value))]
  | .string value interpolated =>
    .record [("string", some (.record
      [("value", some (.string value)), ("interpolated", some (.bool interpolated))]))]
  | .null => .string "null"
  | .object entries => .record [("object", some (.array (entriesToJson entries)))]
  | .array items => .record [("array", some (.array (exprsToJson items)))]
  | .access => .string "propertyAccess"
  | .call => .string "functionCall"
  | .variable => .string "variableAccess"
  | .other => .string "other"

def entriesToJson : List Entry → List Json
  | [] => []
  | ⟨key, value⟩ :: rest =>
    .record [("key", some (.string key)), ("value", some value.toJson)] :: entriesToJson rest

def exprsToJson : List Expr → List Json
  | [] => []
  | expr :: rest => expr.toJson :: exprsToJson rest

end

def Decorator.toJson (decorator : Decorator) : Json :=
  .record [("name", some (.string decorator.name)),
    ("args", if decorator.args.isEmpty then none else some (.array (exprsToJson decorator.args)))]

def decoratorsToJson (decorators : List Decorator) : Option Json :=
  if decorators.isEmpty then none else some (.array (decorators.map Decorator.toJson))

namespace Snapshot

def literal : Decoder Literal := .tagged [
  ⟨"string", .value (Decoder.string.map .string)⟩,
  ⟨"int", .value (Decoder.int64.map .int)⟩,
  ⟨"bool", .value (Decoder.bool.map .bool)⟩]

def entry (expr : Decoder Expr) : Decoder Entry :=
  (Decoder.record "struct ObjectProperty"
    (.cons (required "key" .string) (.cons (required "value" expr) .nil))).map
    fun (key, value, ()) => ⟨key, value⟩

def stringForm : Decoder ExprForm :=
  (Decoder.record "struct variant ExprKind::String"
    (.cons (required "value" .string) (.cons (defaulted "interpolated" .bool false) .nil))).map
    fun (value, interpolated, ()) => .string value interpolated

def exprForm (expr : Decoder Expr) : Decoder ExprForm := .tagged [
  ⟨"boolean", .value (Decoder.bool.map .bool)⟩,
  ⟨"integer", .value (Decoder.int64.map .int)⟩,
  ⟨"string", .record stringForm⟩,
  ⟨"null", .bare .null⟩,
  ⟨"object", .value ((entry expr).list.map .object)⟩,
  ⟨"array", .value (expr.list.map .array)⟩,
  ⟨"propertyAccess", .bare .access⟩,
  ⟨"functionCall", .bare .call⟩,
  ⟨"variableAccess", .bare .variable⟩,
  ⟨"other", .bare .other⟩]

def exprLayer (inner : Decoder Expr) : Decoder Expr :=
  (Decoder.record "struct ExprSyntax"
    (.cons (required "text" .string) (.cons (required "kind" (exprForm inner)) .nil))).map
    fun (text, form, ()) => ⟨text, form⟩

def expr : Decoder Expr := .nested exprLayer

def decorator : Decoder Decorator :=
  (Decoder.record "struct DecoratorDef"
    (.cons (required "name" .string) (.cons (defaulted "args" expr.list []) .nil))).map
    fun (name, args, ()) => ⟨name, args⟩

end Snapshot

end TemplateManual
