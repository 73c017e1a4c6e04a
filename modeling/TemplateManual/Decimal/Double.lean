set_option autoImplicit false

namespace TemplateManual

-- The number `± mantissa · 2 ^ exponent`.
structure Double where
  negative : Bool
  mantissa : Nat
  exponent : Int
deriving DecidableEq, Repr

namespace Double

def leastExponent : Int := -1074

def greatestExponent : Int := 971

def powerOfTwo (power : Nat) : Nat := Nat.pow 2 power

def powerOfTen (power : Nat) : Nat := Nat.pow 10 power

def leastMantissa : Nat := powerOfTwo 52

def zero : Double := ⟨false, 0, leastExponent⟩

def negate (value : Double) : Double := { value with negative := !value.negative }

-- Divides and rounds to the nearest natural number; a half goes to the even neighbour.
def roundDiv (num den : Nat) : Nat :=
  let quotient := num / den
  let twice := 2 * (num % den)
  if twice < den then quotient
  else if den < twice then quotient + 1
  else if quotient % 2 = 0 then quotient else quotient + 1

def scale (num den : Nat) (power : Int) : Nat × Nat :=
  if power < 0 then (num, den * powerOfTwo power.natAbs)
  else (num * powerOfTwo power.toNat, den)

def magnitude (num den : Nat) : Int :=
  let guess : Int := (num.log2 : Int) - (den.log2 : Int)
  let (scaledNum, scaledDen) := scale num den (-guess)
  if scaledNum < scaledDen then guess - 1 else guess

-- The nearest number to a fraction, or nothing where it lies beyond the greatest one.
def ofFraction (num den : Nat) : Option Double :=
  if num = 0 then some zero
  else
    let exponent := max (magnitude num den - 52) leastExponent
    let (scaledNum, scaledDen) := scale num den (-exponent)
    let mantissa := roundDiv scaledNum scaledDen
    let rounded : Double :=
      if mantissa = 2 * leastMantissa then ⟨false, leastMantissa, exponent + 1⟩
      else ⟨false, mantissa, exponent⟩
    if greatestExponent < rounded.exponent then none else some rounded

def ofNat (value : Nat) : Option Double := ofFraction value 1

def mul (a b : Double) : Option Double :=
  let (num, den) := scale (a.mantissa * b.mantissa) 1 (a.exponent + b.exponent)
  ofFraction num den

def div (a b : Double) : Option Double :=
  let (num, den) := scale a.mantissa b.mantissa (a.exponent - b.exponent)
  ofFraction num den

end Double

end TemplateManual
