/-! The finite double-precision numbers. A magnitude is its index among the finite magnitudes in
increasing order, so the index and the sign are the bits of the number. All arithmetic is exact on
ratios of natural numbers with one rounding at the end: to the nearest double, a tie to the even
index. -/
namespace WireModel

def magnitudeCount : Nat := 2047 * Nat.pow 2 52

structure Double where
  negative : Bool
  magnitude : Fin magnitudeCount
deriving DecidableEq, Repr

namespace Double

def zero : Double := ⟨false, ⟨0, by decide⟩⟩

def bits (x : Double) : Nat :=
  (if x.negative then Nat.pow 2 63 else 0) + x.magnitude.val

/-- Equality of numbers: the two zeros are equal. -/
def same (x y : Double) : Bool :=
  x.magnitude = y.magnitude && (x.negative = y.negative || x.magnitude.val = 0)

def neg (x : Double) : Double :=
  { x with negative := !x.negative }

/-- The magnitude as a numerator and a denominator. -/
def ratio (magnitude : Fin magnitudeCount) : Nat × Nat :=
  let exponent := magnitude.val / Nat.pow 2 52
  let fraction := magnitude.val % Nat.pow 2 52
  if exponent = 0 then (fraction, Nat.pow 2 1074)
  else if exponent < 1075 then (Nat.pow 2 52 + fraction, Nat.pow 2 (1075 - exponent))
  else ((Nat.pow 2 52 + fraction) * Nat.pow 2 (exponent - 1075), 1)

/-- The quotient rounded to the nearest integer, a tie to the even one. -/
def roundQuotient (numerator denominator : Nat) : Nat :=
  let quotient := numerator / denominator
  let twice := 2 * (numerator % denominator)
  if twice < denominator then quotient
  else if denominator < twice then quotient + 1
  else quotient + quotient % 2

/-- The exponent of two below a ratio: `2 ^ e ≤ numerator / denominator < 2 ^ (e + 1)`. -/
def floorLog (numerator denominator : Nat) : Int :=
  let guess : Int := (numerator.log2 : Int) - (denominator.log2 : Int)
  let reached :=
    if 0 ≤ guess then denominator * Nat.pow 2 guess.toNat ≤ numerator
    else denominator ≤ numerator * Nat.pow 2 (-guess).toNat
  if reached then guess else guess - 1

/-- A ratio in steps of `2 ^ unit`, rounded. -/
def roundSteps (numerator denominator : Nat) (unit : Int) : Nat :=
  if 0 ≤ unit then roundQuotient numerator (denominator * Nat.pow 2 unit.toNat)
  else roundQuotient (numerator * Nat.pow 2 (-unit).toNat) denominator

def ofIndex? (index : Nat) : Option (Fin magnitudeCount) :=
  if h : index < magnitudeCount then some ⟨index, h⟩ else none

/-- The nearest magnitude of a ratio, if it is finite. -/
def round? (numerator denominator : Nat) : Option (Fin magnitudeCount) :=
  if numerator = 0 then some ⟨0, by decide⟩
  else
    let unit := max (floorLog numerator denominator - 52) (-1074)
    ofIndex? ((unit + 1074).toNat * Nat.pow 2 52 + roundSteps numerator denominator unit)

def mul? (x y : Fin magnitudeCount) : Option (Fin magnitudeCount) :=
  round? ((ratio x).1 * (ratio y).1) ((ratio x).2 * (ratio y).2)

def div? (x y : Fin magnitudeCount) : Option (Fin magnitudeCount) :=
  round? ((ratio x).1 * (ratio y).2) ((ratio x).2 * (ratio y).1)

def ofInt (value : Int) : Double :=
  match round? value.natAbs 1 with
  | some magnitude => ⟨value < 0, magnitude⟩
  | none => zero

/-- The greatest power of ten that is a double, as an exponent. -/
def greatestPower : Nat := 308

/-- `significand * 10 ^ exponent` for a significand of at most 64 bits, if it is finite: the
significand and the power of ten are each rounded before they are combined. A power below the
doubles is taken in steps. -/
def scale? (significand : Nat) (exponent : Int) : Option (Fin magnitudeCount) := do
  down 3 (← round? significand 1) exponent
where
  down : Nat → Fin magnitudeCount → Int → Option (Fin magnitudeCount)
    | 0, x, _ => some x
    | steps + 1, x, exponent =>
      if exponent.natAbs ≤ greatestPower then do
        let power ← round? (Nat.pow 10 exponent.natAbs) 1
        if 0 ≤ exponent then mul? x power else div? x power
      else if x.val = 0 then some x
      else if 0 ≤ exponent then none
      else do
        let power ← round? (Nat.pow 10 greatestPower) 1
        down steps (← div? x power) (exponent + greatestPower)

/-- The digits of the shortest decimal that rounds to a magnitude, and the exponent of its last
digit; of several shortest the nearest. -/
def shortest (magnitude : Fin magnitudeCount) : Nat × Int :=
  let (numerator, denominator) := ratio magnitude
  (List.range 17).findSome? (attempt numerator denominator) |>.getD (0, 0)
where
  attempt (numerator denominator places : Nat) : Option (Nat × Int) :=
    let leading := decimalLog numerator denominator
    let unit := leading - places
    let digits :=
      if 0 ≤ unit then roundQuotient numerator (denominator * Nat.pow 10 unit.toNat)
      else roundQuotient (numerator * Nat.pow 10 (-unit).toNat) denominator
    let back :=
      if 0 ≤ unit then round? (digits * Nat.pow 10 unit.toNat) 1
      else round? digits (Nat.pow 10 (-unit).toNat)
    if back = some magnitude then some (digits, unit) else none
  /-- The exponent of ten below a ratio. -/
  decimalLog (numerator denominator : Nat) : Int :=
    let guess : Int := floorLog numerator denominator * 30103 / 100000
    let reached := fun (e : Int) =>
      if 0 ≤ e then denominator * Nat.pow 10 e.toNat ≤ numerator
      else denominator ≤ numerator * Nat.pow 10 (-e).toNat
    if decide (reached (guess + 1)) then guess + 1 else if decide (reached guess) then guess
    else guess - 1

/-- The shortest digits with an exponent, in a form that reads as a number that is no integer. -/
def text (x : Double) : String :=
  let sign := if x.negative then "-" else ""
  if x.magnitude.val = 0 then sign ++ "0.0"
  else
    let (digits, exponent) := shortest x.magnitude
    sign ++ toString digits ++ "e" ++ toString exponent

end Double

end WireModel
