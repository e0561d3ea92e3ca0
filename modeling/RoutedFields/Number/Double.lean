/-!
# Double precision numbers

A 64-bit binary floating-point number, held exactly: a finite one is a whole number of units of
`2 ^ -1074`, the smallest positive double.

* `Double.ofRatio`: the double nearest to a quotient, halves to even, with overflow to infinity.
* `Double.units`: the exact value of a finite double, in units.
* `Double.toInt?`: the integer that a whole double is equal to.
-/

namespace RoutedFields

/-- A power of two. -/
def twoPow (exponent : Nat) : Nat := Nat.pow 2 exponent

/-- A power of ten. -/
def tenPow (exponent : Nat) : Nat := Nat.pow 10 exponent

/-- A 64-bit floating-point number. `finite negative m s` is `± m * 2 ^ s` units; the functions of
this library build it with `m < 2 ^ 53`, and with `2 ^ 52 ≤ m` unless `s = 0`. -/
inductive Double
  | finite (negative : Bool) (significand scale : Nat)
  | infinite (negative : Bool)
  | notANumber
deriving DecidableEq

namespace Double

/-- How many units make one: the exponent of the power of two. -/
def unitBits : Nat := 1074

/-- The significand has 53 bits. -/
def precision : Nat := 53

/-- The largest scale of a finite double. -/
def maxScale : Nat := 2045

/-- The number zero, which keeps its sign. -/
def zero (negative : Bool) : Double :=
  .finite negative 0 0

/-- The quotient rounded to the nearest whole number, halves to the even neighbour. -/
def roundDiv (num den : Nat) : Nat :=
  let q := num / den
  let r := num % den
  if 2 * r < den then q
  else if den < 2 * r then q + 1
  else q + q % 2

/-- The double nearest to `± num / den`. -/
def ofRatio (negative : Bool) (num den : Nat) : Double :=
  let units := num * twoPow unitBits
  let scale := (units / den).log2 + 1 - precision
  let significand := roundDiv units (den * twoPow scale)
  let (significand, scale) :=
    if significand = twoPow precision then (twoPow (precision - 1), scale + 1)
    else (significand, scale)
  if maxScale < scale then .infinite negative else .finite negative significand scale

/-- The exact value of a finite double, in units. -/
def units (negative : Bool) (significand scale : Nat) : Int :=
  let size : Int := (significand * twoPow scale : Nat)
  if negative then -size else size

/-- The integer that a whole double is equal to. -/
def toInt? : Double → Option Int
  | .finite negative significand scale =>
    let size := significand * twoPow scale
    if size % twoPow unitBits = 0 then
      let whole : Int := (size / twoPow unitBits : Nat)
      some (if negative then -whole else whole)
    else none
  | _ => none

/-- Whether a double is neither an infinity nor not a number. -/
def isFinite : Double → Bool
  | .finite .. => true
  | _ => false

/-- Whether a double is zero, of either sign. -/
def isZero : Double → Bool
  | .finite _ significand _ => significand == 0
  | _ => false

/-- The double of the other sign. -/
def negate : Double → Double
  | .finite negative significand scale => .finite (!negative) significand scale
  | .infinite negative => .infinite (!negative)
  | .notANumber => .notANumber

end Double
end RoutedFields
