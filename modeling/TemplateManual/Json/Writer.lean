import TemplateManual.Decimal.Shortest
import TemplateManual.Json.Value
import TemplateManual.Text.Basic

set_option autoImplicit false

namespace TemplateManual.Json

def hexDigit (value : Nat) : Char := (Nat.digitChar (value % 16))

-- A quote, a backslash and the control characters below the space are escaped, nothing else.
def escapeChar (c : Char) : List Char :=
  if c = '"' then ['\\', '"']
  else if c = '\\' then ['\\', '\\']
  else if c = '\x08' then ['\\', 'b']
  else if c = '\x0c' then ['\\', 'f']
  else if c = '\n' then ['\\', 'n']
  else if c = '\r' then ['\\', 'r']
  else if c = '\t' then ['\\', 't']
  else if c < ' ' then ['\\', 'u', '0', '0', hexDigit (c.toNat / 16), hexDigit c.toNat]
  else [c]

def writeString (text : String) : String :=
  "\"" ++ String.ofList (text.toList.flatMap escapeChar) ++ "\""

def writeNumber : Number → String
  | .whole value => toString value
  | .real value => value.text

-- What stands for no value is written as null.
def writeScalar : Json → String
  | .bool true => "true"
  | .bool false => "false"
  | .number value => writeNumber value
  | .string value => writeString value
  | _ => "null"

def writeKey (key : Option String) : String := writeString (key.getD "")

mutual

def compact : Json → String
  | .array items => "[" ++ compactItems items ++ "]"
  | .object members => "\x7b" ++ compactMembers members ++ "\x7d"
  | scalar => writeScalar scalar

def compactItems : List Json → String
  | [] => ""
  | [item] => item.compact
  | item :: next :: rest => item.compact ++ "," ++ compactItems (next :: rest)

def compactMembers : List (Option String × Json) → String
  | [] => ""
  | [(key, value)] => writeKey key ++ ":" ++ value.compact
  | (key, value) :: next :: rest =>
    writeKey key ++ ":" ++ value.compact ++ "," ++ compactMembers (next :: rest)

end

def newLine (depth : Nat) : String := "\n" ++ Text.times "  " depth

mutual

def indented (depth : Nat) : Json → String
  | .array [] => "[]"
  | .array (item :: rest) => "[" ++ indentedItems (depth + 1) (item :: rest) ++ newLine depth ++ "]"
  | .object [] => "\x7b\x7d"
  | .object (member :: rest) =>
    "\x7b" ++ indentedMembers (depth + 1) (member :: rest) ++ newLine depth ++ "\x7d"
  | scalar => writeScalar scalar

def indentedItems (depth : Nat) : List Json → String
  | [] => ""
  | [item] => newLine depth ++ item.indented depth
  | item :: next :: rest =>
    newLine depth ++ item.indented depth ++ "," ++ indentedItems depth (next :: rest)

def indentedMembers (depth : Nat) : List (Option String × Json) → String
  | [] => ""
  | [(key, value)] => newLine depth ++ writeKey key ++ ": " ++ value.indented depth
  | (key, value) :: next :: rest =>
    newLine depth ++ writeKey key ++ ": " ++ value.indented depth ++ "," ++
      indentedMembers depth (next :: rest)

end

end TemplateManual.Json
