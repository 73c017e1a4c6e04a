import TemplateManual.Expr
import TemplateManual.Text.Basic

set_option autoImplicit false

namespace TemplateManual

structure Decorator where
  name : String
  args : List Expr

namespace Decorator

def ofInt (name : String) (value : Int) : Decorator := ⟨name, [.ofInt value]⟩

def describe (text : String) : Decorator := ⟨"description", [.ofString text]⟩

def secure : Decorator := ⟨"secure", []⟩

def lastSegment? (chars : List Char) : Option (List Char) :=
  if '.' ∈ chars then some (chars.reverse.takeWhile (· != '.')).reverse else none

-- A name is matched with or without the namespaces before it.
def isNamed (decorator : Decorator) (name : String) : Bool :=
  decorator.name == name || lastSegment? decorator.name.toList == some name.toList

def text (decorator : Decorator) : String :=
  "@" ++ decorator.name ++ "(" ++ Text.join ", " (decorator.args.map Expr.text) ++ ")"

-- Of several decorators with one name only the first is looked at.
def find? (decorators : List Decorator) (name : String) : Option Decorator :=
  decorators.find? fun decorator => decorator.isNamed name

def firstArg? (decorators : List Decorator) (name : String) : Option Expr :=
  (find? decorators name).bind fun decorator => decorator.args.head?

def has (decorators : List Decorator) (name : String) : Bool :=
  decorators.any fun decorator => decorator.isNamed name

def int? (decorators : List Decorator) (name : String) : Option Int :=
  (firstArg? decorators name).bind Expr.int?

-- A description of its own comes before one among the metadata.
def description? (decorators : List Decorator) : Option String :=
  (firstArg? decorators "description").bind Expr.plainString? <|>
    ((firstArg? decorators "metadata").bind fun arg => arg.property? "description").bind
      Expr.plainString?

def isSecure (decorators : List Decorator) : Bool := has decorators "secure"

end Decorator

end TemplateManual
