import RoutedFields.Number.Decimal

/-!
# The text of a double

A double is written with the fewest digits that read back to it, and among those with the digits
nearest to its exact value.

* `Double.shortest`: those digits and the power of ten of the last one.
* `Double.text`: positional from `10 ^ -4` up to `10 ^ 16`, with `.0` after a whole number;
  with an exponent of at least two digits elsewhere.
-/

namespace RoutedFields.Double

/-- The most digits that a double ever needs. -/
def mostDigits : Nat := 17

/-- An exponent of ten below that of every double. -/
def exponentOffset : Nat := 400

/-- The power of ten of the leading digit of `m * 2 ^ s` units. -/
def leadingExponent (m s : Nat) : Int :=
  let scaled := m * twoPow s * tenPow exponentOffset
  (decimalText (scaled / twoPow unitBits)).length - 1 - (exponentOffset : Int)

/-- The two neighbours of `m * 2 ^ s` units among the multiples of `10 ^ k`, the nearer one first; a
tie goes to the even one. -/
def neighbours (m s : Nat) (k : Int) : List Nat :=
  let num := m * twoPow s * tenPow (-k).toNat
  let den := twoPow unitBits * tenPow k.toNat
  let below := num / den
  if roundDiv num den = below then [below, below + 1] else [below + 1, below]

/-- Whether `digits * 10 ^ k` reads as `m * 2 ^ s` units. -/
def readsBack (m s digits : Nat) (k : Int) : Bool :=
  ofDecimal false digits k == .finite false m s

/-- A number without its trailing zeros, and with the power of ten adjusted. At most `fuel` zeros
are dropped. -/
def dropZeros : Nat → Nat → Int → Nat × Int
  | 0, digits, k => (digits, k)
  | fuel + 1, digits, k =>
    if digits % 10 = 0 then dropZeros fuel (digits / 10) (k + 1) else (digits, k)

/-- The fewest digits that read back to `m * 2 ^ s` units, from `count` digits on, with the power
of ten of the last digit. -/
def shortestFrom (m s : Nat) (top : Int) : Nat → Nat → Nat × Int
  | 0, count => ((neighbours m s (top + 1 - count)).headD 0, top + 1 - count)
  | fuel + 1, count =>
    let k := top + 1 - count
    match (neighbours m s k).find? (readsBack m s · k) with
    | some digits => (digits, k)
    | none => shortestFrom m s top fuel (count + 1)

/-- The fewest digits that read back to `m * 2 ^ s` units, without trailing zeros, and the power of
ten of the last digit. -/
def shortest (m s : Nat) : Nat × Int :=
  let found := shortestFrom m s (leadingExponent m s) (mostDigits - 1) 1
  dropZeros mostDigits found.1 found.2

/-- Where numbers are written without an exponent: from this power of ten on. -/
def positionalFrom : Int := -4

/-- Where numbers are written without an exponent: below this power of ten. -/
def positionalBelow : Int := 16

/-- The digits with a point, and zeros where the digits do not reach it. -/
def positional (digits : List Char) (k top : Int) : List Char :=
  if 0 ≤ k then digits ++ List.replicate k.toNat '0' ++ ['.', '0']
  else if 0 ≤ top then digits.take (top + 1).toNat ++ '.' :: digits.drop (top + 1).toNat
  else '0' :: '.' :: (List.replicate (-top - 1).toNat '0' ++ digits)

/-- The digits with a point after the first one, and the power of ten. -/
def scientific (digits : List Char) (top : Int) : List Char :=
  let fraction := match digits.tail with
    | [] => []
    | rest => '.' :: rest
  digits.take 1 ++ fraction ++ 'e' :: (if top < 0 then '-' else '+') :: padded 2 top.natAbs

/-- The text of a double without its sign. -/
def magnitudeText (m s : Nat) : List Char :=
  if m = 0 then ['0', '.', '0']
  else
    let found := shortest m s
    let digits := decimalText found.1
    let top := digits.length - 1 + found.2
    if positionalFrom ≤ top ∧ top < positionalBelow then positional digits found.2 top
    else scientific digits top

/-- The text of a double. -/
def text : Double → String
  | .finite negative m s =>
    String.ofList (if negative then '-' :: magnitudeText m s else magnitudeText m s)
  | .infinite negative => if negative then "-inf" else "inf"
  | .notANumber => "nan"

end RoutedFields.Double
