import TemplateManual.DataType
import TemplateManual.Decorator
import TemplateManual.Expr
import TemplateManual.KeyedList
import TemplateManual.WrittenType

set_option autoImplicit false

namespace TemplateManual

structure Parameter where
  name : String
  type : DataType
  declared : WrittenType
  decorators : List Decorator
  defaultValue : Option Expr

def Parameter.ofType (name : String) (type : DataType) : Parameter :=
  ⟨name, type, .other type.text, [], none⟩

namespace Parameter

def declaredAs (parameter : Parameter) (declared : WrittenType) : Parameter :=
  { parameter with declared := declared }

def decorated (parameter : Parameter) (decorator : Decorator) : Parameter :=
  { parameter with decorators := parameter.decorators ++ [decorator] }

def withDefault (parameter : Parameter) (value : Expr) : Parameter :=
  { parameter with defaultValue := some value }

end Parameter

structure TypeDecl where
  name : String
  type : DataType
  value : WrittenType
  decorators : List Decorator

structure Import where
  name : String
  description : Option String
  /-- Absent when the file that exports the type was not found. -/
  exported : Option DataType

structure Export where
  type : DataType
  description : Option String

structure WildcardImport where
  name : String
  decorators : List Decorator
  /-- Absent when the file was not found. -/
  exports : Option (KeyedList Export)

def Export.toMember (name : String) (entry : Export) : Member :=
  ⟨name, entry.type, entry.description, []⟩

def Export.members (exports : KeyedList Export) : List Member :=
  exports.entries.map fun (name, entry) => entry.toMember name

structure Template where
  parameters : List Parameter
  types : List TypeDecl
  imports : List Import
  wildcards : List WildcardImport

namespace Template

def empty : Template := ⟨[], [], [], []⟩

def addParameter (template : Template) (parameter : Parameter) : Template :=
  { template with parameters := template.parameters ++ [parameter] }

def addType (template : Template) (decl : TypeDecl) : Template :=
  { template with types := template.types ++ [decl] }

def addImport (template : Template) (entry : Import) : Template :=
  { template with imports := template.imports ++ [entry] }

def addWildcard (template : Template) (entry : WildcardImport) : Template :=
  { template with wildcards := template.wildcards ++ [entry] }

def declaresType (template : Template) (name : String) : Bool :=
  template.types.any (fun decl => decl.name == name) ||
    template.imports.any fun entry => entry.name == name

end Template

end TemplateManual
