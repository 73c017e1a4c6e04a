import TemplateManual.Json.Decoder

set_option autoImplicit false

namespace TemplateManual.Json

inductive Content (α : Type) where
  | bare (value : α)
  | value (decoder : Decoder α)
  | record (decoder : Decoder α)

structure Case (α : Type) where
  tag : String
  content : Content α

namespace Decoder

def withoutContent {α : Type} : Content α → Except Fault α
  | .bare value => .ok value
  | .value _ => .error (.wrongKind .bareTag .taggedValue)
  | .record _ => .error (.wrongKind .bareTag .taggedRecord)

def withContent {α : Type} (room : Nat) (value : Json) : Content α → Except Fault α
  | .bare result => (unit room value).map fun _ => result
  | .value decoder => decoder room value
  | .record decoder => decoder room value

def findCase {α : Type} (cases : List (Case α)) (tag : String) : Except Fault (Content α) :=
  match cases.find? fun candidate => candidate.tag = tag with
  | some found => .ok found.content
  | none => .error (.unknownTag tag (cases.map Case.tag))

-- A second member is a fault, found after the content of the first. A value in the place of the
-- name is of a wrong kind, not malformed.
def tagged {α : Type} (cases : List (Case α)) : Decoder α
  | _, .string tag =>
    match findCase cases tag with
    | .error reason => .error reason
    | .ok content => withoutContent content
  | room + 1, .object ((some tag, value) :: rest) =>
    match findCase cases tag with
    | .error reason => .error reason
    | .ok content =>
      match withContent room value content with
      | .error reason => .error reason
      | .ok result => if rest.isEmpty then .ok result else .error .malformed
  | _ + 1, .object ((none, .misplaced found) :: _) => reject .tag found
  | _, _ => .error .malformed

end Decoder

end TemplateManual.Json
