set_option autoImplicit false

namespace TemplateManual

structure Constraints where
  minLength : Option Int
  maxLength : Option Int
  minValue : Option Int
  maxValue : Option Int
  secure : Bool
deriving DecidableEq, Repr

namespace Constraints

def blank : Constraints := ⟨none, none, none, none, false⟩

def hasLength (constraints : Constraints) : Bool :=
  constraints.minLength.isSome || constraints.maxLength.isSome

end Constraints

def isLargeSet (count : Nat) : Bool := 2 < count

@[ext] structure PropertyEntry where
  name : String
  typeText : String
  description : Option String
  required : Bool
  allowed : Option (List String)
  largeSet : Bool
  userDefined : Bool
  constraints : Constraints
deriving DecidableEq, Repr

@[ext] structure ParameterEntry where
  name : String
  typeText : String
  description : Option String
  required : Bool
  defaultText : Option String
  complexDefault : Bool
  interpolated : Bool
  userDefined : Bool
  allowed : Option (List String)
  largeSet : Bool
  constraints : Constraints
deriving DecidableEq, Repr

inductive TypeBody where
  | object (properties : List PropertyEntry)
  | literalUnion (rendered : String)
  | scalarLiteral (rendered : String)
deriving DecidableEq, Repr

inductive Origin where
  | declared
  | imported
  | wildcard
deriving DecidableEq, Repr

structure TypeEntry where
  name : String
  description : String
  body : TypeBody
  origin : Origin
deriving DecidableEq, Repr

namespace TypeEntry

def isLiteral (entry : TypeEntry) : Bool :=
  match entry.body with
  | .object _ => false
  | .literalUnion _ | .scalarLiteral _ => true

def properties (entry : TypeEntry) : List PropertyEntry :=
  match entry.body with
  | .object properties => properties
  | .literalUnion _ | .scalarLiteral _ => []

def displayDescription (entry : TypeEntry) : String :=
  match entry.body with
  | .object _ => entry.description
  | .literalUnion rendered | .scalarLiteral rendered => rendered

end TypeEntry

structure Manual where
  parameters : List ParameterEntry
  declaredTypes : List TypeEntry
  importedTypes : List TypeEntry
deriving DecidableEq, Repr

namespace Manual

def allTypes (manual : Manual) : List TypeEntry := manual.declaredTypes ++ manual.importedTypes

-- Declared types are found before imported ones of the same name.
def findType? (manual : Manual) (name : String) : Option TypeEntry :=
  manual.allTypes.find? fun entry => entry.name == name

def isEmpty (manual : Manual) : Bool :=
  manual.parameters.isEmpty && manual.declaredTypes.isEmpty && manual.importedTypes.isEmpty

end Manual

end TemplateManual
