import TemplateManual.Manual.Cell
import TemplateManual.Manual.Entry
import TemplateManual.Markdown.Block

set_option autoImplicit false

namespace TemplateManual

open Markdown

def codeLanguage : String := "bicep"

def parameterColumns : List String := ["Parameter", "Description", "Type", "Required", "Default"]

def propertyColumns : List String := ["Property", "Description", "Type", "Required"]

def ParameterEntry.row (entry : ParameterEntry) : List String :=
  [Cell.code entry.name, Cell.escape (entry.description.getD ""), Cell.parameterType entry,
    Cell.truth entry.required, Cell.defaultValue entry]

def PropertyEntry.row (entry : PropertyEntry) : List String :=
  [Cell.code entry.name, Cell.escape (entry.description.getD ""),
    Cell.type entry.typeText entry.constraints, Cell.truth entry.required]

def ParameterEntry.defaultBlocks (entry : ParameterEntry) : List Block :=
  match entry.complexDefault, entry.defaultText with
  | true, some text => [heading 3 entry.name, .code codeLanguage text]
  | _, _ => []

def parameterBlocks (entries : List ParameterEntry) : List Block :=
  if entries.isEmpty then []
  else
    heading 2 "Parameters" :: .table parameterColumns (entries.map ParameterEntry.row) ::
      entries.flatMap ParameterEntry.defaultBlocks

def TypeEntry.blocks (entry : TypeEntry) : List Block :=
  match entry.body with
  | .object properties =>
    heading 3 entry.name ::
      ((if entry.description = "" then [] else [.quote entry.description]) ++
        [.table propertyColumns (properties.map PropertyEntry.row)])
  | .literalUnion _ | .scalarLiteral _ => [heading 3 entry.name]

def typeBlocks (entries : List TypeEntry) : List Block :=
  if entries.isEmpty then []
  else heading 2 "User Defined Types" :: entries.flatMap TypeEntry.blocks

def Manual.blocks (manual : Manual) (withParameters withTypes : Bool) : List Block :=
  (if withParameters then parameterBlocks manual.parameters else []) ++
    (if withTypes then typeBlocks manual.allTypes else [])

end TemplateManual
