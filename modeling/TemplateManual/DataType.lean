import TemplateManual.Decorator
import TemplateManual.Literal
import TemplateManual.Text.Basic

set_option autoImplicit false

namespace TemplateManual

structure Bounds where
  low : Option Int
  high : Option Int
deriving DecidableEq, Repr

def Bounds.unbounded : Bounds := ⟨none, none⟩

mutual

structure DataType where
  shape : Shape
  secure : Bool

inductive Shape where
  | string (length : Bounds)
  | int (range : Bounds)
  | bool
  | any
  /-- Without members, an object of any content. -/
  | object (members : Option (List Member))
  | array (item : Option DataType) (length : Bounds)
  | literal (value : Literal)
  | union (alternatives : List DataType)
  | null
  /-- Without a target, a name that nothing was found for. -/
  | reference (name : String) (target : Option DataType)
  | other (name : String)

structure Member where
  name : String
  type : DataType
  description : Option String
  decorators : List Decorator

end

namespace DataType

def ofShape (shape : Shape) : DataType := ⟨shape, false⟩

def string : DataType := ofShape (.string .unbounded)
def int : DataType := ofShape (.int .unbounded)
def bool : DataType := ofShape .bool
def object : DataType := ofShape (.object none)
def objectOf (members : List Member) : DataType := ofShape (.object (some members))
def array : DataType := ofShape (.array none .unbounded)
def arrayOf (item : DataType) : DataType := ofShape (.array (some item) .unbounded)
def literal (value : Literal) : DataType := ofShape (.literal value)
def stringLiteral (value : String) : DataType := literal (.string value)
def union (alternatives : List DataType) : DataType := ofShape (.union alternatives)
def null : DataType := ofShape .null
def reference (name : String) (target : DataType) : DataType :=
  ofShape (.reference name (some target))
def unresolved (name : String) : DataType := ofShape (.reference name none)

def unknown : DataType := ofShape (.other "unknown")

def isNull (type : DataType) : Bool :=
  match type.shape with
  | .null => true
  | _ => false

def isLiteral (type : DataType) : Bool :=
  match type.shape with
  | .literal _ => true
  | _ => false

def isUnion (type : DataType) : Bool :=
  match type.shape with
  | .union _ => true
  | _ => false

def isNullable (type : DataType) : Bool :=
  match type.shape with
  | .union alternatives => alternatives.any isNull
  | _ => false

-- Adds null to the alternatives. What already admits null stays as it is.
def asNullable (type : DataType) : DataType :=
  match type.shape with
  | .union alternatives =>
    if alternatives.any isNull then type
    else { type with shape := .union (alternatives ++ [null]) }
  | _ => union [type, null]

def asSecure (type : DataType) : DataType := { type with secure := true }

def withLength (type : DataType) (length : Bounds) : DataType :=
  match type.shape with
  | .string _ => { type with shape := .string length }
  | .array item _ => { type with shape := .array item length }
  | _ => type

def withRange (type : DataType) (range : Bounds) : DataType :=
  match type.shape with
  | .int _ => { type with shape := .int range }
  | _ => type

def objectMembers? : DataType → Option (List Member)
  | ⟨.object members, _⟩ => some (members.getD [])
  | ⟨.reference _ (some target), _⟩ => target.objectMembers?
  | _ => none

end DataType

mutual

def DataType.text : DataType → String
  | ⟨shape, _⟩ => shape.text

def Shape.text : Shape → String
  | .string _ => "string"
  | .int _ => "int"
  | .bool => "bool"
  | .any => "any"
  | .object none => "object"
  | .object (some []) => "\x7b\x7d"
  | .object (some (member :: rest)) =>
    "\x7b " ++ Text.join ", " (memberTexts (member :: rest)) ++ " \x7d"
  | .array none _ => "array"
  | .array (some item) _ => if item.isUnion then "(" ++ item.text ++ ")[]" else item.text ++ "[]"
  | .literal value => value.text
  | .union alternatives => Text.join " | " (typeTexts alternatives)
  | .null => "null"
  | .reference name _ => name
  | .other name => name

def memberTexts : List Member → List String
  | [] => []
  | ⟨name, type, _, _⟩ :: rest => (name ++ ": " ++ type.text) :: memberTexts rest

def typeTexts : List DataType → List String
  | [] => []
  | type :: rest => type.text :: typeTexts rest

end

theorem type_texts_eq_map (types : List DataType) : typeTexts types = types.map DataType.text := by
  induction types with
  | nil => rfl
  | cons type rest ih => simp [typeTexts, ih]

theorem member_texts_eq_map (members : List Member) :
    memberTexts members = members.map fun member => member.name ++ ": " ++ member.type.text := by
  induction members with
  | nil => rfl
  | cons member rest ih =>
      obtain ⟨name, type, description, decorators⟩ := member
      simp [memberTexts, ih]

end TemplateManual
