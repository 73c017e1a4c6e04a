import TemplateManual.Files
import TemplateManual.Settings.Basic
import TemplateManual.Toml.Reader

set_option autoImplicit false

namespace TemplateManual.Settings

open Toml

def string : Item → Option String
  | .value (.string value) => some value
  | _ => none

def bool : Item → Option Bool
  | .value (.bool value) => some value
  | _ => none

def optional {α : Type} (table : Table) (key : String) (convert : Item → Option α) :
    Option (Option α) :=
  match table.get? key with
  | none => some none
  | some item => (convert item).map some

def required {α : Type} (table : Table) (key : String) (convert : Item → Option α) : Option α :=
  (table.get? key).bind convert

def publicationOfTable (table : Table) : Option Publication := do
  let moduleName ← required table "module_name" string
  let registry ← required table "module_alias" string
  let scheme ← optional table "module_type" string
  let path ← required table "path" string
  let version ← required table "version" string
  some ⟨moduleName, registry, scheme.getD Publication.defaultScheme, path, version⟩

-- The five texts may also be listed in order.
def publicationOfItems : List Value → Option Publication
  | .string moduleName :: .string registry :: .string scheme :: .string path ::
      .string version :: _ =>
    some ⟨moduleName, registry, scheme, path, version⟩
  | _ => none

def publication : Item → Option Publication
  | .table table => publicationOfTable table
  | .value (.inline table) => publicationOfTable table
  | .value (.array items) => publicationOfItems items
  | _ => none

-- Keys that no setting has are passed over.
def ofTable (table : Table) : Option Settings := do
  let title ← optional table "title" string
  let description ← optional table "description" string
  let types ← optional table "include_user_defined_types" bool
  let parameters ← optional table "include_parameters" bool
  let usage ← optional table "include_usage" bool
  let example? ← optional table "example" publication
  some ⟨title, description, types.getD true, parameters.getD true, usage.getD true, example?⟩

def ofToml (text : String) : Except Failure Settings :=
  match (Toml.read text).bind ofTable with
  | some settings => .ok settings
  | none => .error .settings

def load {m : Type → Type} [Monad m] (disk : Disk m) (path : String) :
    m (Except Failure Settings) := do
  match ← disk.read path with
  | .error .notFound => return .error (.fileNotFound path)
  | .error reason => return .error (.unreadable reason)
  | .ok text => return ofToml text

end TemplateManual.Settings
