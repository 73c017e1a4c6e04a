import TemplateManual.Literal
import TemplateManual.Text.Basic

set_option autoImplicit false

namespace TemplateManual

mutual

structure WrittenType where
  text : String
  form : WrittenForm

inductive WrittenForm where
  | reference (name : String)
  | nullable (inner : WrittenType)
  | union (alternatives : List WrittenType)
  | literal (value : Literal)
  | other

end

namespace WrittenType

def reference (name : String) : WrittenType := ⟨name, .reference name⟩

def nullable (inner : WrittenType) : WrittenType := ⟨inner.text ++ "?", .nullable inner⟩

def literal (value : Literal) : WrittenType := ⟨value.text, .literal value⟩

def union (alternatives : List WrittenType) : WrittenType :=
  ⟨Text.join " | " (alternatives.map WrittenType.text), .union alternatives⟩

def other (text : String) : WrittenType := ⟨text, .other⟩

def referencedName? (written : WrittenType) : Option String :=
  match written.form with
  | .reference name => some name
  | .nullable ⟨_, .reference name⟩ => some name
  | _ => none

end WrittenType

end TemplateManual
