import TemplateManual.Json.Value
import TemplateManual.Manual.Entry

set_option autoImplicit false

namespace TemplateManual

open Json

def Constraints.fields (constraints : Constraints) : List (String × Option Json) :=
  [("minLength", constraints.minLength.map Json.int),
    ("maxLength", constraints.maxLength.map Json.int),
    ("minValue", constraints.minValue.map Json.int),
    ("maxValue", constraints.maxValue.map Json.int),
    ("secure", some (.bool constraints.secure))]

def Constraints.toJson (constraints : Constraints) : Json := .record constraints.fields

def stringsToJson (values : List String) : Json := .array (values.map Json.string)

def PropertyEntry.ownFields (entry : PropertyEntry) : List (String × Option Json) :=
  [("name", some (.string entry.name)), ("type", some (.string entry.typeText)),
    ("description", entry.description.map Json.string), ("isRequired", some (.bool entry.required)),
    ("allowedValues", entry.allowed.map stringsToJson),
    ("isComplexAllowedSet", some (.bool entry.largeSet)),
    ("isUserDefinedType", some (.bool entry.userDefined))]

def PropertyEntry.toJson (entry : PropertyEntry) : Json :=
  .record (entry.ownFields ++ entry.constraints.fields)

def ParameterEntry.ownFields (entry : ParameterEntry) : List (String × Option Json) :=
  [("name", some (.string entry.name)), ("type", some (.string entry.typeText)),
    ("description", entry.description.map Json.string), ("isRequired", some (.bool entry.required)),
    ("defaultValue", entry.defaultText.map Json.string),
    ("isComplexDefault", some (.bool entry.complexDefault)),
    ("isInterpolated", some (.bool entry.interpolated)),
    ("isUserDefinedType", some (.bool entry.userDefined)),
    ("allowedValues", entry.allowed.map stringsToJson),
    ("isComplexAllowedSet", some (.bool entry.largeSet))]

def ParameterEntry.toJson (entry : ParameterEntry) : Json :=
  .record (entry.ownFields ++ entry.constraints.fields)

def TypeBody.toJson : TypeBody → Json
  | .object properties =>
    .record [("kind", some (.string "object")),
      ("properties", some (.array (properties.map PropertyEntry.toJson)))]
  | .literalUnion rendered =>
    .record [("kind", some (.string "literalUnion")), ("rendered", some (.string rendered))]
  | .scalarLiteral rendered =>
    .record [("kind", some (.string "scalarLiteral")), ("rendered", some (.string rendered))]

def Origin.text : Origin → String
  | .declared => "local"
  | .imported => "imported"
  | .wildcard => "wildcard"

def TypeEntry.toJson (entry : TypeEntry) : Json :=
  .record [("name", some (.string entry.name)), ("description", some (.string entry.description)),
    ("shape", some entry.body.toJson), ("origin", some (.string entry.origin.text))]

def Manual.toJson (manual : Manual) : Json :=
  .record [("parameters", some (.array (manual.parameters.map ParameterEntry.toJson))),
    ("userTypes", some (.array (manual.declaredTypes.map TypeEntry.toJson))),
    ("importedTypes", some (.array (manual.importedTypes.map TypeEntry.toJson)))]

end TemplateManual
