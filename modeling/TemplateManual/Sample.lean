import TemplateManual.Template

set_option autoImplicit false

namespace TemplateManual.Sample

def literalUnion (values : List String) : DataType × WrittenType :=
  (.union (values.map .stringLiteral), .union (values.map fun value => .literal (.string value)))

def member (name : String) (type : DataType) : Member := ⟨name, type, none, []⟩

def settingsType : DataType := .objectOf [
  { member "name" (DataType.string.withLength ⟨some 3, some 24⟩) with
    description := some "Resource name" },
  { member "replicas" DataType.int.asNullable with decorators := [.describe "Replica count"] }]

def environments : DataType × WrittenType :=
  literalUnion ["dev", "tst", "acc", "prd", "shared"]

def resourceGroupName : Parameter :=
  Parameter.ofType "resourceGroupName" .string
    |>.decorated (.describe "Name of the resource group")
    |>.decorated (.ofInt "minLength" 3)
    |>.decorated (.ofInt "maxLength" 24)

def location : Parameter :=
  Parameter.ofType "location" .string |>.withDefault (.access "resourceGroup().location")

def environment : Parameter :=
  Parameter.ofType "environment" environments.1 |>.declaredAs (.reference "environmentType")

def settings : Parameter :=
  Parameter.ofType "settings" (DataType.reference "settingsType" settingsType).asNullable
    |>.declaredAs (.nullable (.reference "settingsType"))

def tags : Parameter :=
  Parameter.ofType "tags" .object |>.withDefault (.ofEntries [("owner", .ofString "platform")])

def adminPassword : Parameter := Parameter.ofType "adminPassword" .string |>.decorated .secure

def instances : Parameter :=
  Parameter.ofType "instances" .int
    |>.decorated (.ofInt "minValue" 1)
    |>.decorated (.ofInt "maxValue" 10)
    |>.withDefault (.ofInt 2)

def template : Template where
  parameters := [resourceGroupName, location, environment, settings, tags, adminPassword, instances]
  types := [
    ⟨"settingsType", settingsType, .other "\x7b...\x7d", [.describe "Workload settings"]⟩,
    ⟨"environmentType", environments.1, environments.2, []⟩]
  imports := [
    ⟨"sharedTags", some "Tags shared across templates",
      some (.objectOf [member "costCenter" .string])⟩]
  wildcards := [
    ⟨"network", [], some { entries := [
      ("tagName", ⟨.string, none⟩),
      ("cidr", ⟨DataType.string.withLength ⟨some 9, some 18⟩, some "Address prefix"⟩)] }⟩]

end TemplateManual.Sample
