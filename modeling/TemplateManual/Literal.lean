set_option autoImplicit false

namespace TemplateManual

inductive Literal where
  | string (value : String)
  | int (value : Int)
  | bool (value : Bool)
deriving DecidableEq, Repr

def quote (text : String) : String := "'" ++ text ++ "'"

def boolText (value : Bool) : String := if value then "true" else "false"

namespace Literal

def text : Literal → String
  | .string value => quote value
  | .int value => toString value
  | .bool value => boolText value

def valueText : Literal → String
  | .string value => value
  | .int value => toString value
  | .bool value => boolText value

end Literal

end TemplateManual
