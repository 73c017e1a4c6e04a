import TemplateManual.Json.Fault
import TemplateManual.Json.Reader
import TemplateManual.Json.Value
import TemplateManual.KeyedList

set_option autoImplicit false

namespace TemplateManual.Json

-- The number is the room that is left: how many containers may still be opened. A container that is only skipped
-- over takes none.
def Decoder (α : Type) : Type := Nat → Json → Except Fault α

namespace Decoder

def reject {α : Type} (wanted : Wanted) : Json → Except Fault α
  | .null => .error (.wrongKind .null wanted)
  | .bool value => .error (.wrongKind (.bool value) wanted)
  | .number value => .error (.wrongKind (.number value) wanted)
  | .string value => .error (.wrongKind (.string value) wanted)
  | .array _ => .error (.wrongKind .sequence wanted)
  | .object _ => .error (.wrongKind .map wanted)
  | .unusable => .error .malformed
  | .misplaced _ => .error .malformed
  | .fault => .error .malformed

def map {α β : Type} (f : α → β) (decoder : Decoder α) : Decoder β :=
  fun room value => (decoder room value).map f

def string : Decoder String
  | _, .string value => .ok value
  | _, value => reject .string value

def bool : Decoder Bool
  | _, .bool value => .ok value
  | _, value => reject .bool value

def unit : Decoder Unit
  | _, .null => .ok ()
  | _, value => reject .unit value

def whole (low high : Int) (wanted : Wanted) : Decoder Int
  | _, .number (.whole value) =>
    if low ≤ value ∧ value ≤ high then .ok value
    else .error (.outOfRange (.number (.whole value)) wanted)
  | _, value => reject wanted value

def int64 : Decoder Int := whole (-9223372036854775808) 9223372036854775807 .int64

def byte : Decoder Nat := map Int.toNat (whole 0 255 .byte)

def optional {α : Type} (decoder : Decoder α) : Decoder (Option α)
  | _, .null => .ok none
  | room, value => (decoder room value).map some

def all {α : Type} (decoder : Decoder α) (room : Nat) : List Json → Except Fault (List α)
  | [] => .ok []
  | item :: rest =>
    match decoder room item with
    | .error reason => .error reason
    | .ok first => (all decoder room rest).map (first :: ·)

def list {α : Type} (decoder : Decoder α) : Decoder (List α)
  | 0, .array _ => .error .malformed
  | room + 1, .array items => all decoder room items
  | _, value => reject .sequence value

def entries {α : Type} (decoder : Decoder α) (room : Nat) (done : KeyedList α) :
    List (Option String × Json) → Except Fault (KeyedList α)
  | [] => .ok done
  | (none, _) :: _ => .error .malformed
  | (some key, value) :: rest =>
    match decoder room value with
    | .error reason => .error reason
    | .ok first => entries decoder room (done.put key first) rest

def table {α : Type} (decoder : Decoder α) : Decoder (KeyedList α)
  | 0, .object _ => .error .malformed
  | room + 1, .object members => entries decoder room .empty members
  | _, value => reject .map value

def upTo {α : Type} (layer : Decoder α → Decoder α) : Nat → Decoder α
  | 0 => fun _ _ => .error .malformed
  | count + 1 => layer (upTo layer count)

-- The decoder of a type that holds values of its own. Each layer opens a container, so there are
-- never more layers than there is room.
def nested {α : Type} (layer : Decoder α → Decoder α) : Decoder α :=
  fun room value => upTo layer (room + 1) room value

def depthLimit : Nat := 127

def decode {α : Type} (decoder : Decoder α) (value : Json) : Except Fault α :=
  decoder depthLimit value

-- A fault inside the value is found before one after it.
def decodeText {α : Type} (decoder : Decoder α) (text : String) : Except Fault α :=
  let reading := read text
  match decoder.decode reading.value with
  | .error reason => .error reason
  | .ok result => if reading.complete then .ok result else .error .malformed

end Decoder

end TemplateManual.Json
