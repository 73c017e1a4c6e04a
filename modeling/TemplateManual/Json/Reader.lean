import TemplateManual.Json.Token
import TemplateManual.Json.Value

set_option autoImplicit false

namespace TemplateManual.Json

-- The open containers are kept innermost first, each with what was read of it so far, the last first. A token
-- that fits none of them puts a fault into the innermost one, and all are closed around it.
inductive Frame where
  | array (items : List Json)
  | object (members : List (Option String × Json)) (key : Option String)

structure Reading where
  value : Json
  complete : Bool

def Frame.close (value : Json) : Frame → Json
  | .array items => .array (value :: items).reverse
  | .object members key => .object ((key, value) :: members).reverse

def closeAll (value : Json) : List Frame → Json
  | [] => value
  | frame :: outer => closeAll (frame.close value) outer

def stop (frames : List Frame) : Reading := ⟨closeAll .fault frames, false⟩

def Token.value? : Token → Option Json
  | .null => some .null
  | .bool value => some (.bool value)
  | .number (some value) => some (.number value)
  | .number none => some .unusable
  | .openArray => some (.array [])
  | .openObject => some (.object [])
  | _ => none

def stopAtKey (members : List (Option String × Json)) (outer : List Frame) : Reading :=
  stop (.object members none :: outer)

def stopAtToken (members : List (Option String × Json)) (outer : List Frame) (token : Token) :
    Reading :=
  let found := (token.value?.map Json.misplaced).getD .fault
  ⟨closeAll found (.object members none :: outer), false⟩

def stopAfter (value : Json) : List Frame → Reading
  | [] => ⟨value, false⟩
  | .array items :: outer => stop (.array (value :: items) :: outer)
  | .object members key :: outer => stopAtKey ((key, value) :: members) outer

mutual

def readValue (frames : List Frame) : List Token → Reading
  | .null :: rest => readAfter frames .null rest
  | .bool value :: rest => readAfter frames (.bool value) rest
  | .number (some value) :: rest => readAfter frames (.number value) rest
  | .text (some value) :: rest => readAfter frames (.string value) rest
  | .number none :: rest => readAfter frames .unusable rest
  | .text none :: rest => readAfter frames .unusable rest
  | .openArray :: .closeArray :: rest => readAfter frames (.array []) rest
  | .openArray :: rest => readValue (.array [] :: frames) rest
  | .openObject :: .closeObject :: rest => readAfter frames (.object []) rest
  | .openObject :: rest => readKey [] frames rest
  | _ => stop frames

def readKey (members : List (Option String × Json)) (outer : List Frame) : List Token → Reading
  | .text key :: .colon :: rest => readValue (.object members key :: outer) rest
  | .text key :: _ => stop (.object members key :: outer)
  | token :: _ => stopAtToken members outer token
  | [] => stopAtKey members outer

def readAfter (frames : List Frame) (value : Json) : List Token → Reading
  | [] =>
    match frames with
    | [] => ⟨value, true⟩
    | _ => stopAfter value frames
  | token :: rest =>
    match frames, token with
    | .array items :: outer, .comma => readValue (.array (value :: items) :: outer) rest
    | .array items :: outer, .closeArray => readAfter outer (.array (value :: items).reverse) rest
    | .object members key :: outer, .comma => readKey ((key, value) :: members) outer rest
    | .object members key :: outer, .closeObject =>
      readAfter outer (.object ((key, value) :: members).reverse) rest
    | _, _ => stopAfter value frames

end

def readTokens (tokens : List Token) : Reading := readValue [] tokens

def read (text : String) : Reading := readTokens (Token.ofChars text.toList)

end TemplateManual.Json
