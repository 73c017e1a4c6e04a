import TemplateManual.Literal
import TemplateManual.Manual.Entry
import TemplateManual.Text.Basic

set_option autoImplicit false

namespace TemplateManual

structure Publication where
  moduleName : String
  registry : String
  scheme : String
  path : String
  version : String
deriving DecidableEq, Repr

namespace Publication

def defaultScheme : String := "br"

def reference (publication : Publication) : String :=
  publication.scheme ++ "/" ++ publication.registry ++ ":" ++ publication.path ++ ":" ++
    publication.version

end Publication

namespace Usage

def isQuoted (text : String) : Bool :=
  match text.toList with
  | '\'' :: rest => rest.getLast? == some '\''
  | _ => false

def value (entry : ParameterEntry) : String :=
  match entry.defaultText with
  | none => if entry.typeText = "string" then quote entry.name else entry.name
  | some text =>
    if entry.userDefined then entry.typeText
    else if entry.typeText ≠ "string" || isQuoted text || entry.interpolated then text
    else quote text

def indentLine (line : String) : String := if line = "" then "\n" else "\n    " ++ line

def indentValue (text : String) : String :=
  match Text.lines text with
  | [] => ""
  | first :: rest => first ++ String.join (rest.map indentLine)

-- The type whose properties an argument lists: the type of that name, unless it is a literal.
def objectType? (manual : Manual) (entry : ParameterEntry) : Option TypeEntry :=
  (manual.findType? entry.typeText).filter fun type => entry.userDefined && !type.isLiteral

def argument (manual : Manual) (entry : ParameterEntry) : String :=
  match objectType? manual entry with
  | some type =>
    "    " ++ entry.name ++ ": \x7b\n" ++
      String.join (type.properties.map fun property =>
        "      " ++ property.name ++ ": " ++ property.name ++ "\n") ++ "    \x7d\n"
  | none => "    " ++ entry.name ++ ": " ++ indentValue (value entry) ++ "\n"

def arguments (manual : Manual) : String :=
  if manual.parameters.isEmpty then "\x7b\x7d"
  else "\x7b\n" ++ String.join (manual.parameters.map (argument manual)) ++ "  \x7d"

def text (publication : Publication) (manual : Manual) : String :=
  "module " ++ publication.moduleName ++ " '" ++ publication.reference ++ "' = \x7b\n" ++
    "  name: '" ++ publication.moduleName ++ "'\n" ++
    "  params: " ++ arguments manual ++ "\n\x7d"

end Usage

end TemplateManual
