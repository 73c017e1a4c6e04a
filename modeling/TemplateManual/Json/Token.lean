import TemplateManual.Json.Number
import TemplateManual.Json.Value

set_option autoImplicit false

namespace TemplateManual.Json

inductive Token where
  | null
  | bool (value : Bool)
  /-- Without a value where the number is beyond the range. -/
  | number (value : Option Number)
  /-- Without a value where half a surrogate pair stands in the string. -/
  | text (value : Option String)
  | openArray
  | closeArray
  | openObject
  | closeObject
  | comma
  | colon
  | bad
deriving DecidableEq, Repr

namespace Token

def isBlank (c : Char) : Bool := c = ' ' || c = '\t' || c = '\n' || c = '\r'

def hexValue (c : Char) : Option Nat :=
  if '0' ≤ c && c ≤ '9' then some (c.toNat - '0'.toNat)
  else if 'a' ≤ c && c ≤ 'f' then some (c.toNat - 'a'.toNat + 10)
  else if 'A' ≤ c && c ≤ 'F' then some (c.toNat - 'A'.toNat + 10)
  else none

def codeUnit (a b c d : Char) : Option Nat := do
  some (((← hexValue a) * 16 + (← hexValue b)) * 256 + (← hexValue c) * 16 + (← hexValue d))

def isHighSurrogate (unit : Nat) : Bool := 0xD800 ≤ unit && unit ≤ 0xDBFF

def isLowSurrogate (unit : Nat) : Bool := 0xDC00 ≤ unit && unit ≤ 0xDFFF

def combine (high low : Nat) : Char :=
  Char.ofNat (0x10000 + (high - 0xD800) * 0x400 + (low - 0xDC00))

def lowSurrogate : List Char → Option Nat
  | '\\' :: 'u' :: a :: b :: c :: d :: _ =>
    match codeUnit a b c d with
    | some unit => if isLowSurrogate unit then some unit else none
    | none => none
  | _ => none

def shortEscape : Char → Option Char
  | '"' => some '"'
  | '\\' => some '\\'
  | '/' => some '/'
  | 'b' => some '\x08'
  | 'f' => some '\x0c'
  | 'n' => some '\n'
  | 'r' => some '\r'
  | 't' => some '\t'
  | _ => none

-- Reads on in a string after its opening quote. `done` holds the characters so far, the last
-- first, and nothing once half a surrogate pair was met; `high` is the first half of a pair whose
-- second half is due. Nothing if the string is not well formed.
def readText (done : Option (List Char)) (high : Option Nat) :
    List Char → Option (Option String × List Char)
  | [] => none
  | '"' :: rest => some (done.map fun chars => String.ofList chars.reverse, rest)
  | '\\' :: 'u' :: a :: b :: c :: d :: rest =>
    match codeUnit a b c d with
    | none => none
    | some unit =>
      match high with
      | some first => readText (done.map (combine first unit :: ·)) none rest
      | none =>
        if isHighSurrogate unit then
          if (lowSurrogate rest).isSome then readText done (some unit) rest
          else readText none none rest
        else if isLowSurrogate unit then readText none none rest
        else readText (done.map (Char.ofNat unit :: ·)) none rest
  | '\\' :: letter :: rest =>
    match shortEscape letter with
    | none => none
    | some c => readText (done.map (c :: ·)) none rest
  | c :: rest => if c < ' ' then none else readText (done.map (c :: ·)) none rest

def readLetters : List Char → List Char → Option (List Char)
  | [], chars => some chars
  | _ :: _, [] => none
  | letter :: letters, c :: chars => if c = letter then readLetters letters chars else none

def readNext (c : Char) (rest : List Char) : Option (Token × List Char) :=
  match c with
  | '[' => some (.openArray, rest)
  | ']' => some (.closeArray, rest)
  | '\x7b' => some (.openObject, rest)
  | '\x7d' => some (.closeObject, rest)
  | ',' => some (.comma, rest)
  | ':' => some (.colon, rest)
  | '"' => (readText (some []) none rest).map fun (value, rest) => (.text value, rest)
  | 'n' => (readLetters ['u', 'l', 'l'] rest).map fun rest => (.null, rest)
  | 't' => (readLetters ['r', 'u', 'e'] rest).map fun rest => (.bool true, rest)
  | 'f' => (readLetters ['a', 'l', 's', 'e'] rest).map fun rest => (.bool false, rest)
  | _ => (Numeral.read (c :: rest)).map fun (numeral, rest) => (.number numeral.value, rest)

def readUpTo : Nat → List Char → List Token
  | 0, _ => []
  | _ + 1, [] => []
  | count + 1, c :: rest =>
    if isBlank c then readUpTo count rest
    else
      match readNext c rest with
      | none => [.bad]
      | some (token, rest) => token :: readUpTo count rest

-- The tokens of a text. Every token and blank takes a character, so the length bounds their
-- number.
def ofChars (chars : List Char) : List Token := readUpTo chars.length chars

end Token

end TemplateManual.Json
