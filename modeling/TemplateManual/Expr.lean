import TemplateManual.Literal
import TemplateManual.Text.Basic

set_option autoImplicit false

namespace TemplateManual

mutual

structure Expr where
  text : String
  form : ExprForm

inductive ExprForm where
  | bool (value : Bool)
  | int (value : Int)
  | string (value : String) (interpolated : Bool)
  | null
  | object (entries : List Entry)
  | array (items : List Expr)
  | access
  | call
  | variable
  | other

structure Entry where
  key : String
  value : Expr

end

namespace Expr

def ofBool (value : Bool) : Expr := ⟨boolText value, .bool value⟩

def ofInt (value : Int) : Expr := ⟨toString value, .int value⟩

def ofString (value : String) : Expr := ⟨quote value, .string value false⟩

def interpolated (value : String) : Expr := ⟨quote value, .string value true⟩

def access (text : String) : Expr := ⟨text, .access⟩

def call (text : String) : Expr := ⟨text, .call⟩

def ofEntries (entries : List (String × Expr)) : Expr :=
  let body := String.join
    (entries.map fun (key, value) => "  " ++ key ++ ": " ++ value.text ++ "\n")
  ⟨if entries.isEmpty then "\x7b\x7d" else "\x7b\n" ++ body ++ "\x7d",
    .object (entries.map fun (key, value) => ⟨key, value⟩)⟩

def ofItems (items : List Expr) : Expr :=
  let body := String.join (items.map fun item => "  " ++ item.text ++ "\n")
  ⟨if items.isEmpty then "[]" else "[\n" ++ body ++ "]", .array items⟩

def int? (expr : Expr) : Option Int :=
  match expr.form with
  | .int value => some value
  | _ => none

def plainString? (expr : Expr) : Option String :=
  match expr.form with
  | .string value false => some value
  | _ => none

def property? (expr : Expr) (key : String) : Option Expr :=
  match expr.form with
  | .object entries => (entries.find? fun entry => entry.key == key).map Entry.value
  | _ => none

def isScalarLiteral (expr : Expr) : Bool :=
  match expr.form with
  | .bool _ | .int _ | .string _ _ => true
  | _ => false

-- A value that needs more room than a table cell: an object with entries, an array of more than
-- two items, an array that holds anything but scalar literals.
def isComplex (expr : Expr) : Bool :=
  match expr.form with
  | .object entries => !entries.isEmpty
  | .array items => 2 < items.length || items.any fun item => !item.isScalarLiteral
  | _ => false

-- A value whose text is never put between quotes.
def isInterpolated (expr : Expr) : Bool :=
  match expr.form with
  | .string _ interpolated => interpolated
  | .access => true
  | _ => false

end Expr

end TemplateManual
