import TemplateManual.Toml.Scalar
import TemplateManual.Toml.String
import TemplateManual.Toml.Table

set_option autoImplicit false

namespace TemplateManual.Toml

def isBareKey (c : Char) : Bool :=
  isDigit c || ('a' ≤ c && c ≤ 'z') || ('A' ≤ c && c ≤ 'Z') || c = '-' || c = '_'

def simpleKey (chars : List Char) : Option (String × List Char) :=
  match chars with
  | '"' :: _ | '\'' :: _ => shortString chars
  | _ =>
    match chars.takeWhile isBareKey with
    | [] => none
    | key => some (String.ofList key, chars.dropWhile isBareKey)

-- The greatest number of keys in a path and of containers inside one another.
def limit : Nat := 79

def keyPath : Nat → List Char → Option ((List String × String) × List Char)
  | 0, _ => none
  | count + 1, chars => do
    let (key, rest) ← simpleKey (chars.dropWhile isBlank)
    match rest.dropWhile isBlank with
    | '.' :: rest => do
      let ((path, last), rest) ← keyPath count rest
      some ((key :: path, last), rest)
    | rest => some (([], key), rest)

def keyEquals (chars : List Char) : Option ((List String × String) × List Char) := do
  let (path, rest) ← keyPath limit chars
  let rest ← expect '=' rest
  some (path, rest.dropWhile isBlank)

def comment : List Char → List Char
  | '#' :: rest => rest.dropWhile fun c => isPrintable c || c = '\x7f'
  | chars => chars

def skipLines : Nat → List Char → List Char
  | 0, chars => chars
  | count + 1, chars =>
    let chars := comment (chars.dropWhile isBlank)
    match newLine? chars with
    | some rest => skipLines count rest
    | none => chars

def skipAll (chars : List Char) : List Char := skipLines (chars.length + 1) chars

def arrayItems (value : List Char → Option (Value × List Char)) :
    Nat → List Char → Option (List Value × List Char)
  | 0, _ => none
  | count + 1, chars =>
    match skipAll chars with
    | ']' :: rest => some ([], rest)
    | chars => do
      let (first, rest) ← value chars
      match skipAll rest with
      | ',' :: rest => do
        let (others, rest) ← arrayItems value count rest
        some (first :: others, rest)
      | ']' :: rest => some ([first], rest)
      | _ => none

def inlineEntries (value : List Char → Option (Value × List Char)) :
    Nat → Table → List Char → Option (Table × List Char)
  | 0, _, _ => none
  | count + 1, table, chars => do
    let ((path, key), rest) ← keyEquals chars
    let (found, rest) ← value rest
    let table ← table.addAt path key found
    match rest.dropWhile isBlank with
    | ',' :: rest => inlineEntries value count table rest
    | '\x7d' :: rest => some (table, rest)
    | _ => none

def inlineTable (value : List Char → Option (Value × List Char)) (chars : List Char) :
    Option (Table × List Char) :=
  match chars.dropWhile isBlank with
  | '\x7d' :: rest => some (.empty, rest)
  | _ => inlineEntries value (chars.length + 1) .empty chars

-- A value with at most `room` containers inside one another.
def value : Nat → List Char → Option (Value × List Char)
  | _, 't' :: 'r' :: 'u' :: 'e' :: rest => some (.bool true, rest)
  | _, 'f' :: 'a' :: 'l' :: 's' :: 'e' :: rest => some (.bool false, rest)
  | 0, '[' :: _ => none
  | 0, '\x7b' :: _ => none
  | room + 1, '[' :: rest =>
    (arrayItems (value room) (rest.length + 1) rest).map fun (items, rest) => (.array items, rest)
  | room + 1, '\x7b' :: rest =>
    (inlineTable (value room) rest).map fun (table, rest) => (.inline table, rest)
  | _, chars =>
    match string chars with
    | some (text, rest) => some (.string text, rest)
    | none => (scalar chars).map fun rest => (.other, rest)

def endOfLine (chars : List Char) : Option (List Char) :=
  match comment (chars.dropWhile isBlank) with
  | [] => some []
  | chars => newLine? chars

def header (draft : Draft) (chars : List Char) : Option (Draft × List Char) := do
  let ((path, key), rest) ← keyPath limit chars
  let rest ← expect ']' rest
  let draft ← draft.beginTable path key
  some (draft, ← endOfLine rest)

def doubledHeader (draft : Draft) (chars : List Char) : Option (Draft × List Char) := do
  let ((path, key), rest) ← keyPath limit chars
  let rest ← expect ']' rest
  let rest ← expect ']' rest
  let draft ← draft.beginElement path key
  some (draft, ← endOfLine rest)

def assignment (draft : Draft) (chars : List Char) : Option (Draft × List Char) := do
  let ((path, key), rest) ← keyEquals chars
  let (found, rest) ← value limit rest
  let draft ← draft.add path key found
  some (draft, ← endOfLine rest)

def line (draft : Draft) (chars : List Char) : Option (Draft × List Char) :=
  match chars with
  | '[' :: '[' :: rest => doubledHeader draft rest
  | '[' :: rest => header draft rest
  | _ => assignment draft chars

def lines : Nat → Draft → List Char → Option Draft
  | 0, _, _ => none
  | count + 1, draft, chars =>
    match skipAll chars with
    | [] => some draft
    | chars => do
      let (draft, rest) ← line draft chars
      lines count draft rest

def withoutMark : List Char → List Char
  | '\ufeff' :: rest => rest
  | chars => chars

def read (text : String) : Option Table := do
  let chars := withoutMark text.toList
  let draft ← lines (chars.length + 1) .empty chars
  draft.finish

end TemplateManual.Toml
