import TemplateManual.Snapshot.DataType
import TemplateManual.Snapshot.Expr
import TemplateManual.Snapshot.WrittenType
import TemplateManual.Template

set_option autoImplicit false

namespace TemplateManual

open Json

def Parameter.toJson (parameter : Parameter) : Json :=
  .record [("name", some (.string parameter.name)), ("resolvedType", some parameter.type.toJson),
    ("declaredType", some parameter.declared.toJson),
    ("decorators", decoratorsToJson parameter.decorators),
    ("defaultValue", parameter.defaultValue.map Expr.toJson)]

def TypeDecl.toJson (decl : TypeDecl) : Json :=
  .record [("name", some (.string decl.name)), ("resolvedType", some decl.type.toJson),
    ("value", some decl.value.toJson), ("decorators", decoratorsToJson decl.decorators)]

def Import.toJson (entry : Import) : Json :=
  .record [("name", some (.string entry.name)), ("description", textToJson? entry.description),
    ("exportType", entry.exported.map DataType.toJson)]

def Export.toJson (entry : Export) : Json :=
  .record [("type", some entry.type.toJson), ("description", textToJson? entry.description)]

def exportsToJson (exports : KeyedList Export) : Json :=
  .record (exports.entries.map fun (name, entry) => (name, some entry.toJson))

def WildcardImport.toJson (entry : WildcardImport) : Json :=
  .record [("name", some (.string entry.name)), ("decorators", decoratorsToJson entry.decorators),
    ("members", entry.exports.map exportsToJson)]

def Template.toJson (template : Template) : Json :=
  .record [("parameters", some (.array (template.parameters.map Parameter.toJson))),
    ("typeDeclarations", some (.array (template.types.map TypeDecl.toJson))),
    ("importedTypes", some (.array (template.imports.map Import.toJson))),
    ("wildcardImports", some (.array (template.wildcards.map WildcardImport.toJson)))]

namespace Snapshot

def parameter : Decoder Parameter :=
  (Decoder.record "struct ParameterSymbol"
    (.cons (required "name" .string) (.cons (required "resolvedType" dataType)
      (.cons (required "declaredType" writtenType)
        (.cons (defaulted "decorators" decorator.list [])
          (.cons (optionalField "defaultValue" expr) .nil)))))).map
    fun (name, type, declared, decorators, defaultValue, ()) =>
      ⟨name, type, declared, decorators, defaultValue⟩

def typeDecl : Decoder TypeDecl :=
  (Decoder.record "struct TypeAliasSymbol"
    (.cons (required "name" .string) (.cons (required "resolvedType" dataType)
      (.cons (required "value" writtenType)
        (.cons (defaulted "decorators" decorator.list []) .nil))))).map
    fun (name, type, value, decorators, ()) => ⟨name, type, value, decorators⟩

def importEntry : Decoder Import :=
  (Decoder.record "struct ImportedTypeSymbol"
    (.cons (required "name" .string) (.cons (optionalField "description" .string)
      (.cons (optionalField "exportType" dataType) .nil)))).map
    fun (name, description, exported, ()) => ⟨name, description, exported⟩

def exportEntry : Decoder Export :=
  (Decoder.record "struct NamespaceExport"
    (.cons (required "type" dataType) (.cons (optionalField "description" .string) .nil))).map
    fun (type, description, ()) => ⟨type, description⟩

def wildcardImport : Decoder WildcardImport :=
  (Decoder.record "struct WildcardImportSymbol"
    (.cons (required "name" .string) (.cons (defaulted "decorators" decorator.list [])
      (.cons (optionalField "members" exportEntry.table) .nil)))).map
    fun (name, decorators, exports, ()) => ⟨name, decorators, exports⟩

def template : Decoder Template :=
  (Decoder.record "struct SemanticModel"
    (.cons (defaulted "parameters" parameter.list [])
      (.cons (defaulted "typeDeclarations" typeDecl.list [])
        (.cons (defaulted "importedTypes" importEntry.list [])
          (.cons (defaulted "wildcardImports" wildcardImport.list []) .nil))))).map
    fun (parameters, types, imports, wildcards, ()) => ⟨parameters, types, imports, wildcards⟩

end Snapshot

def Template.ofText (text : String) : Except Fault Template := Snapshot.template.decodeText text

end TemplateManual
