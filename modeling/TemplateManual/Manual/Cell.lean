import TemplateManual.Manual.Entry
import TemplateManual.Text.Basic

set_option autoImplicit false

namespace TemplateManual.Cell

-- A bar inside a cell is escaped, since it would end the cell.
def escape (text : String) : String := Text.replace '|' "\\|" text

def code (text : String) : String := "`" ++ text ++ "`"

def truth (value : Bool) : String := if value then "True" else "False"

def bound : Option Int → String
  | some value => toString value
  | none => "X"

def lengthClause? (constraints : Constraints) : Option String :=
  if constraints.hasLength then
    some ("Character limit: " ++ bound constraints.minLength ++ "-" ++ bound constraints.maxLength)
  else none

def valueClause? (constraints : Constraints) : Option String :=
  match constraints.minValue, constraints.maxValue with
  | some low, some high =>
    some ("Accepted values: from " ++ toString low ++ " to " ++ toString high ++ ".")
  | some low, none => some ("Accepted values: from " ++ toString low ++ ".")
  | none, some high => some ("Accepted values: to " ++ toString high ++ ".")
  | none, none => none

def secrecy (secure : Bool) : String := if secure then " (secure)" else ""

def type (typeText : String) (constraints : Constraints) : String :=
  Text.join "<br><br>"
    ((escape typeText ++ secrecy constraints.secure) ::
      ((lengthClause? constraints).toList ++ (valueClause? constraints).toList))

def allowedValues (values : List String) (secure : Bool) : String :=
  "Allowed values:" ++ String.join (values.map fun value => "<br>" ++ escape (code value)) ++
    secrecy secure

-- A large set of allowed values takes the place of the type.
def parameterType (entry : ParameterEntry) : String :=
  match entry.allowed, entry.largeSet with
  | some values, true => allowedValues values entry.constraints.secure
  | _, _ => type entry.typeText entry.constraints

def defaultValue (entry : ParameterEntry) : String :=
  match entry.defaultText with
  | none => ""
  | some text => if entry.complexDefault then "See below" else escape (code text)

end TemplateManual.Cell
