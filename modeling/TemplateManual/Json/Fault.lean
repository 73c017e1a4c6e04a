import TemplateManual.Decimal.Shortest
import TemplateManual.Json.Value
import TemplateManual.Text.Basic
import TemplateManual.Text.Quoted

set_option autoImplicit false

namespace TemplateManual.Json

inductive Found where
  | null
  | bool (value : Bool)
  | number (value : Number)
  | string (value : String)
  | sequence
  | map
  | bareTag
deriving DecidableEq, Repr

namespace Found

def describe : Found → String
  | .null => "null"
  | .bool value => "boolean `" ++ (if value then "true" else "false") ++ "`"
  | .number (.whole value) => "integer `" ++ toString value ++ "`"
  | .number (.real value) => "floating point `" ++ value.text ++ "`"
  | .string value => "string " ++ Text.quoted value
  | .sequence => "sequence"
  | .map => "map"
  | .bareTag => "unit variant"

end Found

inductive Wanted where
  | string
  | bool
  | int64
  | byte
  | sequence
  | map
  | unit
  | record (title : String)
  | tag
  | taggedValue
  | taggedRecord
deriving DecidableEq, Repr

def Wanted.describe : Wanted → String
  | .string => "a string"
  | .bool => "a boolean"
  | .int64 => "i64"
  | .byte => "u8"
  | .sequence => "a sequence"
  | .map => "a map"
  | .unit => "unit"
  | .record title => title
  | .tag => "variant identifier"
  | .taggedValue => "newtype variant"
  | .taggedRecord => "struct variant"

inductive Fault where
  | malformed
  | wrongKind (found : Found) (wanted : Wanted)
  | outOfRange (found : Found) (wanted : Wanted)
  | wrongLength (index : Nat) (title : String) (count : Nat)
  | missingField (name : String)
  | repeatedField (name : String)
  | unknownTag (name : String) (known : List String)
deriving DecidableEq, Repr

namespace Fault

def ticked (name : String) : String := "`" ++ name ++ "`"

def message? : Fault → Option String
  | .malformed => none
  | .wrongKind found wanted =>
    some ("invalid type: " ++ found.describe ++ ", expected " ++ wanted.describe)
  | .outOfRange found wanted =>
    some ("invalid value: " ++ found.describe ++ ", expected " ++ wanted.describe)
  | .wrongLength index title count =>
    some ("invalid length " ++ toString index ++ ", expected " ++ title ++ " with " ++
      toString count ++ (if count = 1 then " element" else " elements"))
  | .missingField name => some ("missing field " ++ ticked name)
  | .repeatedField name => some ("duplicate field " ++ ticked name)
  | .unknownTag name known =>
    some ("unknown variant " ++ ticked name ++ ", expected one of " ++
      Text.join ", " (known.map ticked))

end Fault

end TemplateManual.Json
