import TemplateManual.Manual.Survey
import TemplateManual.Template

set_option autoImplicit false

namespace TemplateManual

-- Splits a sorted list into the first entry of each name and the later ones. `last` is the name
-- that was kept last.
def keepFirsts {α : Type} (name : α → String) (last : Option String) : List α → List α × List α
  | [] => ([], [])
  | item :: rest =>
    if last = some (name item) then
      let (kept, dropped) := keepFirsts name last rest
      (kept, item :: dropped)
    else
      let (kept, dropped) := keepFirsts name (some (name item)) rest
      (item :: kept, dropped)

def sortByName {α : Type} (name : α → String) (items : List α) : List α :=
  items.mergeSort fun a b => decide (name a ≤ name b)

def sortUnique {α : Type} (scope : String) (name : α → String) (items : List α) : Noted (List α) :=
  let (kept, dropped) := keepFirsts name none (sortByName name items)
  ⟨kept, dropped.map fun item => .repeatedName scope (name item)⟩

def extractAll {α β : Type} (scope : String) (name : β → String) (entry : α → Noted β)
    (items : List α) : Noted (List β) :=
  (Noted.each entry items).bind (sortUnique scope name)

def PropertyEntry.ofMembers (owner : String) (members : List Member) : Noted (List PropertyEntry) :=
  extractAll owner PropertyEntry.name PropertyEntry.ofMember members

namespace ParameterEntry

-- A parameter that is declared by the name of a type of the template shows that name alone.
def nameType (typeName : String) (entry : ParameterEntry) : ParameterEntry :=
  { entry with typeText := typeName, userDefined := true, allowed := none, largeSet := false }

def ofProperty (property : PropertyEntry) (defaultValue : Option Expr) : ParameterEntry where
  name := property.name
  typeText := property.typeText
  description := property.description
  required := defaultValue.isNone
  defaultText := defaultValue.map Expr.text
  complexDefault := defaultValue.any Expr.isComplex
  interpolated := defaultValue.any Expr.isInterpolated
  userDefined := false
  allowed := property.allowed
  largeSet := property.largeSet
  constraints := property.constraints

def ofParameter (template : Template) (parameter : Parameter) : Noted ParameterEntry :=
  let property := PropertyEntry.ofType parameter.name parameter.type parameter.decorators
  let entry := ofProperty property.value parameter.defaultValue
  match parameter.declared.referencedName?.filter template.declaresType with
  | some typeName => ⟨entry.nameType typeName, property.notices⟩
  | none => ⟨entry, property.notices⟩

end ParameterEntry

namespace TypeEntry

def documented (owner : String) (type : DataType) (notice : Notice) : Noted (List PropertyEntry) :=
  match type.objectMembers? with
  | some members => PropertyEntry.ofMembers owner members
  | none => ⟨[], [notice]⟩

def ofDecl (decl : TypeDecl) : Noted TypeEntry :=
  let description := (Decorator.description? decl.decorators).getD ""
  match decl.value.form with
  | .union _ => ⟨⟨decl.name, description, .literalUnion decl.value.text, .declared⟩, []⟩
  | .literal _ => ⟨⟨decl.name, description, .scalarLiteral decl.value.text, .declared⟩, []⟩
  | _ => do
    let properties ← documented decl.name decl.type (.notAnObject decl.name decl.type.text)
    pure ⟨decl.name, description, .object properties, .declared⟩

def ofImport (entry : Import) : Noted TypeEntry := do
  let properties ← match entry.exported with
    | some type => documented entry.name type (.importNotAnObject entry.name type.text)
    | none => ⟨[], [.unresolvedImport entry.name]⟩
  pure ⟨entry.name, entry.description.getD "", .object properties, .imported⟩

def ofWildcard (entry : WildcardImport) : Noted TypeEntry := do
  let properties ← match entry.exports with
    | some exports => PropertyEntry.ofMembers entry.name (Export.members exports)
    | none => ⟨[], [.unresolvedImport entry.name]⟩
  pure ⟨entry.name, (Decorator.description? entry.decorators).getD "", .object properties,
    .wildcard⟩

end TypeEntry

namespace Template

def parameterEntries (template : Template) : Noted (List ParameterEntry) :=
  extractAll "param" ParameterEntry.name (ParameterEntry.ofParameter template) template.parameters

def typeEntries (template : Template) : Noted (List TypeEntry) :=
  extractAll "type" TypeEntry.name TypeEntry.ofDecl template.types

def importEntries (template : Template) : Noted (List TypeEntry) :=
  extractAll "import" TypeEntry.name TypeEntry.ofImport template.imports

def wildcardEntries (template : Template) : Noted (List TypeEntry) :=
  extractAll "import" TypeEntry.name TypeEntry.ofWildcard template.wildcards

def manual (template : Template) : Noted Manual := do
  let parameters ← template.parameterEntries
  let declared ← template.typeEntries
  let imported ← template.importEntries
  let wildcards ← template.wildcardEntries
  pure ⟨parameters, declared, imported ++ wildcards⟩

end Template

end TemplateManual
