import TemplateManual.Decimal.Double

set_option autoImplicit false

namespace TemplateManual.Toml

-- The values of numbers, dates and times are never used, so reading one gives only what follows it; but it has to
-- be written right and be in range.
def isDigit (c : Char) : Bool := '0' ≤ c && c ≤ '9'

def isHexDigit (c : Char) : Bool :=
  isDigit c || ('a' ≤ c && c ≤ 'f') || ('A' ≤ c && c ≤ 'F')

def isOctalDigit (c : Char) : Bool := '0' ≤ c && c ≤ '7'

def isBinaryDigit (c : Char) : Bool := c = '0' || c = '1'

def digitValue (c : Char) : Nat :=
  if isDigit c then c.toNat - '0'.toNat
  else if 'a' ≤ c && c ≤ 'f' then c.toNat - 'a'.toNat + 10
  else c.toNat - 'A'.toNat + 10

def valueOf (base : Nat) (digits : List Char) : Nat :=
  digits.foldl (fun value c => value * base + digitValue c) 0

def moreDigits (isDigit : Char → Bool) : List Char → Option (List Char × List Char)
  | [] => some ([], [])
  | '_' :: c :: rest =>
    if isDigit c then (moreDigits isDigit rest).map fun (digits, rest) => (c :: digits, rest)
    else none
  | c :: rest =>
    if isDigit c then (moreDigits isDigit rest).map fun (digits, rest) => (c :: digits, rest)
    else if c = '_' then none
    else some ([], c :: rest)

def digits (isDigit : Char → Bool) : List Char → Option (List Char × List Char)
  | c :: rest =>
    if isDigit c then (moreDigits isDigit rest).map fun (digits, rest) => (c :: digits, rest)
    else none
  | [] => none

def sign : List Char → Bool × List Char
  | '+' :: rest => (false, rest)
  | '-' :: rest => (true, rest)
  | rest => (false, rest)

def whole (chars : List Char) : Option ((Bool × List Char) × List Char) :=
  let (negative, chars) := sign chars
  match chars with
  | '0' :: rest => some ((negative, ['0']), rest)
  | chars => (digits isDigit chars).map fun (digits, rest) => ((negative, digits), rest)

def inWord (negative : Bool) (size : Nat) : Bool :=
  if negative then size ≤ 9223372036854775808 else size < 9223372036854775808

def based (base : Nat) (isDigit : Char → Bool) (chars : List Char) : Option (List Char) :=
  match digits isDigit chars with
  | some (digits, rest) => if inWord false (valueOf base digits) then some rest else none
  | none => none

def integer : List Char → Option (List Char)
  | '0' :: 'x' :: rest => based 16 isHexDigit rest
  | '0' :: 'o' :: rest => based 8 isOctalDigit rest
  | '0' :: 'b' :: rest => based 2 isBinaryDigit rest
  | chars =>
    match whole chars with
    | some ((negative, digits), rest) =>
      if inWord negative (valueOf 10 digits) then some rest else none
    | none => none

def fraction : List Char → Option (List Char × List Char)
  | '.' :: rest => digits isDigit rest
  | _ => none

def exponent : List Char → Option (Int × List Char)
  | c :: rest =>
    if c = 'e' || c = 'E' then
      let (negative, rest) := sign rest
      (digits isDigit rest).map fun (digits, rest) =>
        (if negative then -(valueOf 10 digits : Int) else valueOf 10 digits, rest)
    else none
  | [] => none

-- Whether `size · 10 ^ power` is within the range of floating point. The number of places decides,
-- but for those at the edge.
def isFinite (size : Nat) (power : Int) : Bool :=
  if size = 0 then true
  else
    let places := (Nat.toDigits 10 size).length + power
    if places < 309 then true
    else if 310 < places then false
    else if power < 0 then (Double.ofFraction size (Double.powerOfTen power.natAbs)).isSome
    else (Double.ofNat (size * Double.powerOfTen power.toNat)).isSome

-- A number above the range is refused; one below minus the range counts as minus infinity.
def real (chars : List Char) : Option (List Char) := do
  let ((negative, whole), rest) ← whole chars
  let (decimals, rest) ← match fraction rest with
    | some (decimals, rest) => some (decimals, rest)
    | none => (exponent rest).map fun _ => ([], rest)
  let (power, rest) := (exponent rest).getD (0, rest)
  if negative || isFinite (valueOf 10 (whole ++ decimals)) (power - decimals.length) then some rest
  else none

def special (chars : List Char) : Option (List Char) :=
  match (sign chars).2 with
  | 'i' :: 'n' :: 'f' :: rest => some rest
  | 'n' :: 'a' :: 'n' :: rest => some rest
  | _ => none

def fixed : Nat → Nat → List Char → Option (Nat × List Char)
  | 0, value, rest => some (value, rest)
  | places + 1, value, c :: rest =>
    if isDigit c then fixed places (value * 10 + digitValue c) rest else none
  | _ + 1, _, [] => none

def between (places low high : Nat) (chars : List Char) : Option (Nat × List Char) :=
  match fixed places 0 chars with
  | some (value, rest) => if low ≤ value && value ≤ high then some (value, rest) else none
  | none => none

def expect (c : Char) : List Char → Option (List Char)
  | first :: rest => if first = c then some rest else none
  | [] => none

def daysIn (year month : Nat) : Nat :=
  if month = 2 then
    if (year % 4 = 0 && year % 100 ≠ 0) || year % 400 = 0 then 29 else 28
  else if month = 4 || month = 6 || month = 9 || month = 11 then 30
  else 31

def date (chars : List Char) : Option (List Char) := do
  let (year, rest) ← fixed 4 0 chars
  let rest ← expect '-' rest
  let (month, rest) ← between 2 1 12 rest
  let rest ← expect '-' rest
  let (_, rest) ← between 2 1 (daysIn year month) rest
  some rest

-- A second of 60 is a leap second.
def time (chars : List Char) : Option (List Char) := do
  let (_, rest) ← between 2 0 23 chars
  let rest ← expect ':' rest
  let (_, rest) ← between 2 0 59 rest
  let rest ← expect ':' rest
  let (_, rest) ← between 2 0 60 rest
  match rest with
  | '.' :: c :: more => if isDigit c then some (more.dropWhile isDigit) else none
  | '.' :: [] => none
  | rest => some rest

def offset : List Char → Option (List Char)
  | [] => none
  | c :: rest =>
    if c = 'Z' || c = 'z' then some rest
    else if c = '+' || c = '-' then do
      let (_, rest) ← between 2 0 23 rest
      let rest ← expect ':' rest
      let (_, rest) ← between 2 0 59 rest
      some rest
    else none

def dateTime (chars : List Char) : Option (List Char) :=
  match date chars with
  | none => time chars
  | some rest =>
    match rest with
    | [] => some []
    | c :: more =>
      if c = 'T' || c = 't' || c = ' ' then
        match time more with
        | some rest => some ((offset rest).getD rest)
        | none => some (c :: more)
      else some (c :: more)

def scalar (chars : List Char) : Option (List Char) :=
  dateTime chars <|> real chars <|> special chars <|> integer chars

end TemplateManual.Toml
