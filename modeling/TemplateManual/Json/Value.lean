import TemplateManual.Decimal.Double

set_option autoImplicit false

namespace TemplateManual

-- A number is whole if it is written without point and exponent and fits a 64-bit word.
inductive Number where
  | whole (value : Int)
  | real (value : Double)
deriving DecidableEq, Repr

-- A text is always read to a value. Where it stops being well formed the value holds a `fault`, so whoever walks
-- the value in the order of the text meets the fault exactly where the text goes wrong.
inductive Json where
  | null
  | bool (value : Bool)
  | number (value : Number)
  | string (value : String)
  | array (items : List Json)
  /-- A member without a key is one whose key stands for no string. -/
  | object (members : List (Option String × Json))
  /-- A well formed string or number that stands for no value: a string with half a surrogate
  pair, a number beyond the range of floating point. -/
  | unusable
  /-- A value that stands where a key is due; the text stops being well formed there. -/
  | misplaced (found : Json)
  | fault
deriving Repr

namespace Json

def int (value : Int) : Json := .number (.whole value)

def record (fields : List (String × Option Json)) : Json :=
  .object (fields.filterMap fun (name, value) => value.map fun v => (some name, v))

mutual

def wellFormed : Json → Bool
  | .array items => allWellFormed items
  | .object members => membersWellFormed members
  | .misplaced _ => false
  | .fault => false
  | _ => true

def allWellFormed : List Json → Bool
  | [] => true
  | item :: rest => item.wellFormed && allWellFormed rest

def membersWellFormed : List (Option String × Json) → Bool
  | [] => true
  | (_, value) :: rest => value.wellFormed && membersWellFormed rest

end

def get? (key : String) : Json → Option Json
  | .object members => (members.find? fun member => member.1 == some key).map Prod.snd
  | _ => none

end Json

end TemplateManual
