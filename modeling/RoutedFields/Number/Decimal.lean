import RoutedFields.Limits
import RoutedFields.Number.Double

/-!
# Decimal numerals

Reading decimal digits as natural numbers and decimal numerals as doubles.

* `natOfDigits`: the number that a row of digit values spells in a base.
* `decimalText`, `intText`: the decimal spelling of a number.
* `Double.ofDecimal`: the double nearest to `digits * 10 ^ exponent`.
-/

namespace RoutedFields

/-- The number that a row of digit values spells in a base, most significant digit first. -/
def natOfDigits (base : Nat) (digits : List Nat) : Nat :=
  digits.foldl (fun n d => n * base + d) 0

/-- The values of a row of ASCII decimal digits. -/
def asciiDigits (s : List Char) : List Nat :=
  s.map fun c => c.toNat - '0'.toNat

/-- The decimal spelling of a natural number. -/
def decimalText (n : Nat) : List Char :=
  Nat.toDigits 10 n

/-- The decimal spelling of an integer. -/
def intText (n : Int) : String :=
  String.ofList (if n < 0 then '-' :: decimalText n.natAbs else decimalText n.natAbs)

/-- A number with its digits padded on the left with zeros to a width. -/
def padded (width n : Nat) : List Char :=
  let digits := decimalText n
  List.replicate (width - digits.length) '0' ++ digits

namespace Double

/-- Decimal magnitudes from this one on are infinite. -/
def tooManyDigits : Int := 310

/-- Decimal magnitudes below this one are zero. -/
def tooFewDigits : Int := -330

/-- The double nearest to `± digits * 10 ^ exponent`. Magnitudes far outside the range of doubles
are decided by the number of digits alone, so the powers stay small. -/
def ofDecimal (negative : Bool) (digits : Nat) (exponent : Int) : Double :=
  if digits = 0 then zero negative
  else
    let magnitude := (decimalText digits).length + exponent
    if tooManyDigits < magnitude then .infinite negative
    else if magnitude < tooFewDigits then zero negative
    else if 0 ≤ exponent then ofRatio negative (digits * tenPow exponent.toNat) 1
    else ofRatio negative digits (tenPow (-exponent).toNat)

end Double
end RoutedFields
