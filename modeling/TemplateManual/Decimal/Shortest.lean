import TemplateManual.Decimal.Double

set_option autoImplicit false

namespace TemplateManual.Double

structure Decimal where
  digits : Nat
  power : Int
deriving DecidableEq, Repr

-- The numbers that round to a given one, counted in quarters of its last place.
structure Neighbourhood where
  low : Nat
  value : Nat
  high : Nat
  closed : Bool
  exponent : Int

-- A number halfway to a neighbour rounds to the even mantissa, and the neighbour below a power
-- of two is nearer.
def neighbourhood (value : Double) : Neighbourhood :=
  let narrow := value.mantissa = leastMantissa && leastExponent < value.exponent
  { low := 4 * value.mantissa - (if narrow then 1 else 2)
    value := 4 * value.mantissa
    high := 4 * value.mantissa + 2
    closed := value.mantissa % 2 = 0
    exponent := value.exponent - 2 }

-- Brings a count of `2 ^ exponent` and a count of `10 ^ power` to one unit.
def align (exponent power : Int) : Nat × Nat :=
  let binary :=
    if exponent < 0 then (1, powerOfTwo exponent.natAbs) else (powerOfTwo exponent.toNat, 1)
  let decimal := if power < 0 then (1, powerOfTen power.natAbs) else (powerOfTen power.toNat, 1)
  (binary.1 * decimal.2, decimal.1 * binary.2)

def onGrid (near : Neighbourhood) (power : Int) : Option Decimal :=
  let (binary, decimal) := align near.exponent power
  let inside (digits : Nat) : Bool :=
    let point := digits * decimal
    if near.closed then near.low * binary ≤ point && point ≤ near.high * binary
    else near.low * binary < point && point < near.high * binary
  let target := near.value * binary
  let below := target / decimal
  let nearest :=
    let left := target - below * decimal
    let right := (below + 1) * decimal - target
    if left < right then below
    else if right < left then below + 1
    else if below % 2 = 0 then below else below + 1
  let other := if nearest = below then below + 1 else below
  if inside nearest then some ⟨nearest, power⟩
  else if inside other then some ⟨other, power⟩
  else none

def leadingZeros (num den : Nat) : Nat :=
  ((List.range 330).takeWhile fun count => num * powerOfTen (count + 1) / den = 0).length

def integerPlaces (near : Neighbourhood) : Int :=
  let (binary, decimal) := align near.exponent 0
  let whole := near.value * binary / decimal
  if 0 < whole then (Nat.toDigits 10 whole).length
  else -(leadingZeros (near.value * binary) decimal : Int)

-- The decimal with the fewest digits, seventeen at most, that reads back. The search starts where a
-- number can only be rounded up to the next power of ten, so the last digit is never a zero.
def shortest (value : Double) : Decimal :=
  let near := value.neighbourhood
  let places := integerPlaces near
  match (List.range 18).findSome? fun count => onGrid near (places - (count : Nat)) with
  | some decimal => decimal
  | none => ⟨0, 0⟩

def zeros (count : Nat) : String := String.ofList (List.replicate count '0')

def exponentText (exponent : Int) : String :=
  "e" ++ (if exponent < 0 then "-" else "+") ++ toString exponent.natAbs

-- Sixteen integer places and four zeros after the point are written out; everything else has an exponent.
def Decimal.text (decimal : Decimal) : String :=
  let digits := (Nat.toDigits 10 decimal.digits)
  let length : Int := digits.length
  let places := length + decimal.power
  if 0 ≤ decimal.power && places ≤ 16 then
    String.ofList digits ++ zeros decimal.power.toNat ++ ".0"
  else if 0 < places && places ≤ 16 then
    String.ofList (digits.take places.toNat) ++ "." ++ String.ofList (digits.drop places.toNat)
  else if -5 < places && places ≤ 0 then
    "0." ++ zeros places.natAbs ++ String.ofList digits
  else
    let fraction := digits.drop 1
    String.ofList (digits.take 1) ++
      (if fraction.isEmpty then "" else "." ++ String.ofList fraction) ++
      exponentText (places - 1)

def text (value : Double) : String :=
  (if value.negative then "-" else "") ++
    (if value.mantissa = 0 then "0.0" else value.shortest.text)

end TemplateManual.Double
