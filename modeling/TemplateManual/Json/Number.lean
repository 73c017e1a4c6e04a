import TemplateManual.Json.Value
import TemplateManual.Decimal.Double

set_option autoImplicit false

namespace TemplateManual

structure Numeral where
  negative : Bool
  digits : List Char
  decimals : Option (List Char)
  exponent : Option (Bool × List Char)
deriving DecidableEq, Repr

namespace Numeral

def maxSignificand : Nat := 18446744073709551615

def maxExponent : Nat := 2147483647

def digitValue (c : Char) : Nat := c.toNat - '0'.toNat

structure Scaled where
  significand : Nat
  power : Int

-- Reads integer digits; once one does not fit, it and all later ones only count as places.
def addDigits (state : Scaled) : List Char → Scaled
  | [] => state
  | c :: rest =>
    let next := state.significand * 10 + digitValue c
    if next ≤ maxSignificand then addDigits { state with significand := next } rest
    else { state with power := state.power + (rest.length + 1 : Nat) }

-- Reads decimals; the first that does not fit and all later ones are dropped.
def addDecimals (state : Scaled) : List Char → Scaled
  | [] => state
  | c :: rest =>
    let next := state.significand * 10 + digitValue c
    if next ≤ maxSignificand then addDecimals ⟨next, state.power - 1⟩ rest else state

def tenTo (power : Nat) : Option Double := Double.ofNat (Double.powerOfTen power)

-- The floating point number that a scaled significand stands for: the significand is rounded,
-- the power of ten is rounded, and their product or quotient is rounded once more. Powers below
-- `10 ^ -308` are divided out in two steps. Nothing if the number is beyond the range.
def Scaled.toDouble (scaled : Scaled) : Option Double := do
  let significand ← Double.ofNat scaled.significand
  if scaled.significand = 0 then some significand
  else if 308 < scaled.power then none
  else if 0 ≤ scaled.power then significand.mul (← tenTo scaled.power.toNat)
  else if -308 ≤ scaled.power then significand.div (← tenTo scaled.power.natAbs)
  else if -616 ≤ scaled.power then
    let first ← significand.div (← tenTo 308)
    first.div (← tenTo (scaled.power + 308).natAbs)
  else some Double.zero

def size (numeral : Numeral) : Option Double :=
  let whole := addDigits ⟨0, 0⟩ numeral.digits
  let scaled := addDecimals whole (numeral.decimals.getD [])
  match numeral.exponent with
  | none => scaled.toDouble
  | some (negative, digits) =>
    let exponent := Nat.ofDigitChars 10 digits 0
    if maxExponent < exponent then
      if scaled.significand ≠ 0 && !negative then none else some Double.zero
    else if negative then Scaled.toDouble { scaled with power := scaled.power - exponent }
    else Scaled.toDouble { scaled with power := scaled.power + exponent }

def signed (negative : Bool) (size : Double) : Double :=
  if negative then size.negate else size

-- The number that a numeral stands for, if it is in range. Minus zero is a real number, and so
-- is a whole number that does not fit its word.
def value (numeral : Numeral) : Option Number :=
  let size := numeral.size.map fun size => Number.real (signed numeral.negative size)
  match numeral.decimals, numeral.exponent with
  | none, none =>
    let whole := Nat.ofDigitChars 10 numeral.digits 0
    if numeral.negative then
      if 0 < whole && whole ≤ 9223372036854775808 then some (.whole (-(whole : Int))) else size
    else if whole ≤ maxSignificand then some (.whole whole) else size
  | _, _ => size

def isDigit (c : Char) : Bool := '0' ≤ c && c ≤ '9'

def readDigits (chars : List Char) : Option (List Char × List Char) :=
  match chars.takeWhile isDigit with
  | [] => none
  | digits => some (digits, chars.dropWhile isDigit)

def readWhole (chars : List Char) : Option (List Char × List Char) :=
  match readDigits chars with
  | some ('0' :: _ :: _, _) => none
  | found => found

def readDecimals : List Char → Option (Option (List Char) × List Char)
  | '.' :: rest => (readDigits rest).map fun (digits, rest) => (some digits, rest)
  | rest => some (none, rest)

def readSign : List Char → Bool × List Char
  | '+' :: rest => (false, rest)
  | '-' :: rest => (true, rest)
  | rest => (false, rest)

def readExponent : List Char → Option (Option (Bool × List Char) × List Char)
  | c :: rest =>
    if c = 'e' || c = 'E' then
      let (negative, rest) := readSign rest
      (readDigits rest).map fun (digits, rest) => (some (negative, digits), rest)
    else some (none, c :: rest)
  | [] => some (none, [])

def read (chars : List Char) : Option (Numeral × List Char) := do
  let (negative, chars) := match chars with
    | '-' :: rest => (true, rest)
    | rest => (false, rest)
  let (digits, chars) ← readWhole chars
  let (decimals, chars) ← readDecimals chars
  let (exponent, chars) ← readExponent chars
  some (⟨negative, digits, decimals, exponent⟩, chars)

end Numeral

end TemplateManual
