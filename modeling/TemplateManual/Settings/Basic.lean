import TemplateManual.Json.Record
import TemplateManual.Manual.Extract
import TemplateManual.Manual.Layout
import TemplateManual.Manual.Usage

set_option autoImplicit false

namespace TemplateManual

open Json Markdown

structure Settings where
  title : Option String
  description : Option String
  includeTypes : Bool
  includeParameters : Bool
  includeUsage : Bool
  example? : Option Publication
deriving DecidableEq, Repr

namespace Settings

def initial : Settings := ⟨none, none, true, true, true, none⟩

def titled (settings : Settings) (title : String) : Settings :=
  { settings with title := some title }

def described (settings : Settings) (description : String) : Settings :=
  { settings with description := some description }

def includingTypes (settings : Settings) (includeTypes : Bool) : Settings :=
  { settings with includeTypes := includeTypes }

def published (settings : Settings) (publication : Publication) : Settings :=
  { settings with example? := some publication }

def toJson (settings : Settings) : Json :=
  let orNull (value : Option Json) : Option Json := some (value.getD .null)
  .record [("title", orNull (settings.title.map .string)),
    ("description", orNull (settings.description.map .string)),
    ("include_user_defined_types", some (.bool settings.includeTypes)),
    ("include_parameters", some (.bool settings.includeParameters)),
    ("include_usage", some (.bool settings.includeUsage)),
    ("example", orNull (settings.example?.map fun publication => .record [
      ("module_name", some (.string publication.moduleName)),
      ("module_alias", some (.string publication.registry)),
      ("module_type", some (.string publication.scheme)),
      ("path", some (.string publication.path)),
      ("version", some (.string publication.version))]))]

def titleBlocks (settings : Settings) : List Block :=
  (settings.title.map (heading 1)).toList

def descriptionBlocks (settings : Settings) : List Block :=
  (settings.description.map Block.paragraph).toList

def usageBlocks (settings : Settings) (manual : Manual) : List Block :=
  match settings.includeUsage, settings.example? with
  | true, some publication =>
    [heading 2 "Usage", .code codeLanguage (Usage.text publication manual)]
  | _, _ => []

def blocks (settings : Settings) (manual : Manual) : List Block :=
  settings.titleBlocks ++ settings.descriptionBlocks ++ settings.usageBlocks manual ++
    manual.blocks settings.includeParameters settings.includeTypes

end Settings

structure Document where
  manual : Manual
  blocks : List Block
  markdown : String
  notices : List Notice

def Template.document (template : Template) (settings : Settings) : Document :=
  let noted := template.manual
  let blocks := settings.blocks noted.value
  ⟨noted.value, blocks, Markdown.document blocks, noted.notices⟩

namespace Snapshot

def publication : Decoder Publication :=
  (Decoder.record "struct ExampleConfig"
    (.cons (required "module_name" .string) (.cons (required "module_alias" .string)
      (.cons (defaulted "module_type" .string Publication.defaultScheme)
        (.cons (required "path" .string) (.cons (required "version" .string) .nil)))))).map
    fun (moduleName, registry, scheme, path, version, ()) =>
      ⟨moduleName, registry, scheme, path, version⟩

def settings : Decoder Settings :=
  (Decoder.record "struct EtchConfig"
    (.cons (optionalField "title" .string) (.cons (optionalField "description" .string)
      (.cons (defaulted "include_user_defined_types" .bool true)
        (.cons (defaulted "include_parameters" .bool true)
          (.cons (defaulted "include_usage" .bool true)
            (.cons (optionalField "example" publication) .nil))))))).map
    fun (title, description, types, parameters, usage, example?, ()) =>
      ⟨title, description, types, parameters, usage, example?⟩

end Snapshot

end TemplateManual
