import TemplateManual.Toml.Scalar

set_option autoImplicit false

namespace TemplateManual.Toml

def isBlank (c : Char) : Bool := c = ' ' || c = '\t'

def isPrintable (c : Char) : Bool := c = '\t' || (' ' ≤ c && c ≠ '\x7f')

def newLine? : List Char → Option (List Char)
  | '\n' :: rest => some rest
  | '\r' :: '\n' :: rest => some rest
  | _ => none

def isCharacter (value : Nat) : Bool := value < 0xD800 || (0xDFFF < value && value < 0x110000)

def codePoint (count : Nat) (chars : List Char) : Option (Char × List Char) :=
  let digits := chars.take count
  if digits.length = count && digits.all isHexDigit && isCharacter (valueOf 16 digits) then
    some (Char.ofNat (valueOf 16 digits), chars.drop count)
  else none

def escape : List Char → Option (Char × List Char)
  | 'b' :: rest => some ('\x08', rest)
  | 't' :: rest => some ('\t', rest)
  | 'n' :: rest => some ('\n', rest)
  | 'f' :: rest => some ('\x0c', rest)
  | 'r' :: rest => some ('\r', rest)
  | '"' :: rest => some ('"', rest)
  | '\\' :: rest => some ('\\', rest)
  | 'u' :: rest => codePoint 4 rest
  | 'U' :: rest => codePoint 8 rest
  | _ => none

def skipBlankLines : Nat → List Char → List Char
  | 0, chars => chars
  | count + 1, chars =>
    let chars := chars.dropWhile isBlank
    match newLine? chars with
    | some rest => skipBlankLines count rest
    | none => chars

def lineEscape? (chars : List Char) : Option (List Char) :=
  (newLine? (chars.dropWhile isBlank)).map fun rest => skipBlankLines (rest.length + 1) rest

-- Each of the four readers below takes at most `count` steps; `done` holds the characters so far,
-- the last first.
def basicBody : Nat → List Char → List Char → Option (String × List Char)
  | 0, _, _ => none
  | _ + 1, _, [] => none
  | count + 1, done, c :: rest =>
    if c = '"' then some (String.ofList done.reverse, rest)
    else if c = '\\' then do
      let (found, rest) ← escape rest
      basicBody count (found :: done) rest
    else if isPrintable c then basicBody count (c :: done) rest
    else none

def literalBody : Nat → List Char → List Char → Option (String × List Char)
  | 0, _, _ => none
  | _ + 1, _, [] => none
  | count + 1, done, c :: rest =>
    if c = '\'' then some (String.ofList done.reverse, rest)
    else if isPrintable c then literalBody count (c :: done) rest
    else none

-- The end of a string of several lines: three marks, with up to two more before them.
def closing? (mark : Char) (done chars : List Char) : Option (String × List Char) :=
  let marks := (chars.takeWhile (· = mark)).length
  if marks < 3 then none
  else
    let extra := min (marks - 3) 2
    some (String.ofList (List.replicate extra mark ++ done).reverse, chars.drop (extra + 3))

def basicLines : Nat → List Char → List Char → Option (String × List Char)
  | 0, _, _ => none
  | _ + 1, _, [] => none
  | count + 1, done, c :: rest =>
    match closing? '"' done (c :: rest), newLine? (c :: rest) with
    | some found, _ => some found
    | none, some rest => basicLines count ('\n' :: done) rest
    | none, none =>
      if c = '\\' then
        match lineEscape? rest with
        | some rest => basicLines count done rest
        | none => do
          let (found, rest) ← escape rest
          basicLines count (found :: done) rest
      else if isPrintable c then basicLines count (c :: done) rest
      else none

def literalLines : Nat → List Char → List Char → Option (String × List Char)
  | 0, _, _ => none
  | _ + 1, _, [] => none
  | count + 1, done, c :: rest =>
    match closing? '\'' done (c :: rest), newLine? (c :: rest) with
    | some found, _ => some found
    | none, some rest => literalLines count ('\n' :: done) rest
    | none, none => if isPrintable c then literalLines count (c :: done) rest else none

def shortString : List Char → Option (String × List Char)
  | '"' :: rest => basicBody (rest.length + 1) [] rest
  | '\'' :: rest => literalBody (rest.length + 1) [] rest
  | _ => none

def afterMarks (rest : List Char) : List Char := (newLine? rest).getD rest

def string : List Char → Option (String × List Char)
  | '"' :: '"' :: '"' :: rest => basicLines (rest.length + 1) [] (afterMarks rest)
  | '\'' :: '\'' :: '\'' :: rest => literalLines (rest.length + 1) [] (afterMarks rest)
  | chars => shortString chars

end TemplateManual.Toml
