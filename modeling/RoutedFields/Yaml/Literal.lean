import RoutedFields.Document.Node
import RoutedFields.Number.Decimal
import RoutedFields.Text.Split
import RoutedFields.Yaml.Cursor

/-!
# Plain literals

What a scalar without quotes stands for: null, a truth value, an integer, a double or a date, else
the text itself. Numerals may have underscores among their digits. Integers are decimal, binary
(`0b`), octal (a leading zero), hexadecimal (`0x`) or of base 60 with colons between the places;
doubles have a point, and their exponent has a sign.

* `Literal`: what a plain scalar stands for.
* `Literal.ofText`: the reading of a plain scalar.
-/

namespace RoutedFields.Yaml

/-- What a plain scalar stands for. -/
inductive Literal
  | scalar (value : Scalar)
  /-- The key whose value is merged into the map around it. -/
  | merge
  /-- The key for a default value. -/
  | default

/-! ## Parts of numerals -/

/-- The sign in front of a numeral, and the rest. -/
def unsigned (s : List Char) : Bool × List Char :=
  match s with
  | '-' :: rest => (true, rest)
  | '+' :: rest => (false, rest)
  | _ => (false, s)

/-- A text without its underscores. -/
def bare (s : List Char) : List Char :=
  s.filter (· != '_')

/-- A decimal digit or an underscore. -/
def isPlace (c : Char) : Bool :=
  c.isDigit || c == '_'

/-- Whether a text is a decimal digit with decimal digits and underscores behind it. -/
def isDecimal (s : List Char) : Bool :=
  match s with
  | c :: rest => c.isDigit && rest.all isPlace
  | [] => false

/-- Whether a text is a place of base 60 behind a colon. -/
def isSixtieth (s : List Char) : Bool :=
  match s with
  | [c] => c.isDigit
  | [c, d] => '0' ≤ c && c ≤ '5' && d.isDigit
  | _ => false

/-- The value of a hexadecimal digit, and of every smaller base's. -/
def placeValue (c : Char) : Nat :=
  if c.isDigit then c.toNat - '0'.toNat
  else if 'a' ≤ c then c.toNat - 'a'.toNat + 10
  else c.toNat - 'A'.toNat + 10

/-- The number that digits of a base spell, underscores aside. -/
def number (base : Nat) (s : List Char) : Nat :=
  natOfDigits base ((bare s).map placeValue)

/-- The number that decimal digits spell, underscores aside, unless they are too many. -/
def decimal (s : List Char) : Except YamlError Nat :=
  if longestInteger < (bare s).length then .error .integerTooLong else .ok (number 10 s)

/-! ## Integers -/

/-- The size of an integer behind the mark of its base; without a digit it has none. -/
def marked (base : Nat) (s : List Char) : Except YamlError Nat :=
  if (bare s).isEmpty then .error .badLiteral else .ok (number base s)

/-- A binary digit or an underscore. -/
def isBinaryPlace (c : Char) : Bool :=
  c == '0' || c == '1' || c == '_'

/-- An octal digit or an underscore. -/
def isOctalPlace (c : Char) : Bool :=
  ('0' ≤ c && c ≤ '7') || c == '_'

/-- A hexadecimal digit or an underscore. -/
def isHexPlace (c : Char) : Bool :=
  c.isDigit || ('a' ≤ c && c ≤ 'f') || ('A' ≤ c && c ≤ 'F') || c == '_'

/-- The size of the integer that a text without a sign spells. -/
def size? (s : List Char) : Option (Except YamlError Nat) :=
  match s with
  | ['0'] => some (.ok 0)
  | '0' :: 'b' :: c :: rest =>
    if (c :: rest).all isBinaryPlace then some (marked 2 (c :: rest)) else none
  | '0' :: 'x' :: c :: rest =>
    if (c :: rest).all isHexPlace then some (marked 16 (c :: rest)) else none
  | '0' :: rest => if rest.all isOctalPlace then some (.ok (number 8 rest)) else none
  | _ =>
    match Text.splitOn ':' s with
    | head :: places =>
      if isDecimal head && places.all isSixtieth then
        some (((head :: places).mapM decimal).map (natOfDigits 60))
      else none
    | [] => none

/-- The integer that a text spells. -/
def integer? (s : List Char) : Option (Except YamlError Int) :=
  let (negative, s) := unsigned s
  (size? s).map fun r => r.map fun n => if negative then -n else n

/-! ## Doubles -/

/-- The exponent of a double: nothing, or its letter, a sign and digits. -/
def exponent? (s : List Char) : Option Int :=
  match s with
  | [] => some 0
  | letter :: sign :: d :: rest =>
    if (letter == 'e' || letter == 'E') && (d :: rest).all Char.isDigit then
      let n : Int := number 10 (d :: rest)
      if sign == '+' then some n else if sign == '-' then some (-n) else none
    else none
  | _ => none

/-- The product of two doubles that are not negative, rounded; the second one is finite and not
zero. -/
def times (x y : Double) : Double :=
  match x, y with
  | .finite _ m s, .finite _ n t =>
    .ofRatio false (m * twoPow s * (n * twoPow t)) (twoPow (2 * Double.unitBits))
  | x, _ => x

/-- The sum of two doubles that are not negative, rounded. -/
def plus (x y : Double) : Double :=
  match x, y with
  | .finite _ m s, .finite _ n t =>
    .ofRatio false (m * twoPow s + n * twoPow t) (twoPow Double.unitBits)
  | .finite .., y => y
  | x, _ => x

/-- The double that places of base 60 add up to, the last place first, with each unit, each product
and each sum rounded; `unit` is the unit of the first place. A unit beyond all doubles is refused.
-/
def sixtieths (total : Double) (unit : Nat) : List Double → Except YamlError Double
  | [] => .ok total
  | x :: rest =>
    match Double.ofRatio false unit 1 with
    | .infinite _ => .error .numberTooLarge
    | y => sixtieths (plus total (times x y)) (unit * 60) rest

/-- The double that digits before and behind a point spell. -/
def pointed (negative : Bool) (whole fraction : List Char) (exponent : Int) : Double :=
  .ofDecimal negative (number 10 (whole ++ fraction)) (exponent - (bare fraction).length)

/-- The double that a text with a point spells, split at the point. -/
def double? (signed negative : Bool) (whole rest : List Char) :
    Option (Except YamlError Double) := do
  let fraction := rest.takeWhile isPlace
  let rest := rest.dropWhile isPlace
  if whole.isEmpty then
    if String.ofList rest ∈ ["inf", "Inf", "INF"] ∧ fraction.isEmpty then
      return .ok (.infinite negative)
    else if String.ofList rest ∈ ["nan", "NaN", "NAN"] ∧ fraction.isEmpty ∧ !signed then
      return .ok .notANumber
    else if isDecimal fraction && !signed then
      return .ok (pointed negative [] fraction (← exponent? rest))
    else none
  else if isDecimal whole then
    return .ok (pointed negative whole fraction (← exponent? rest))
  else
    match Text.splitOn ':' whole with
    | head :: places =>
      if isDecimal head && places.all isSixtieth && rest.isEmpty then
        let last := pointed false (places.getLastD head) fraction 0
        let others := (head :: places).dropLast.map fun p => pointed false p [] 0
        return (sixtieths (.zero false) 1 (last :: others.reverse)).map fun total =>
          if negative then total.negate else total
      else none
    | [] => none

/-- The double that a text spells. -/
def float? (s : List Char) : Option (Except YamlError Double) :=
  let (negative, body) := unsigned s
  match body.dropWhile (· != '.') with
  | '.' :: rest => double? (body.length != s.length) negative (body.takeWhile (· != '.')) rest
  | _ => none

/-! ## Dates -/

/-- How many days a month has. -/
def daysIn (year month : Nat) : Nat :=
  if month = 2 then
    if year % 4 = 0 ∧ (year % 100 ≠ 0 ∨ year % 400 = 0) then 29 else 28
  else if month ∈ [4, 6, 9, 11] then 30
  else 31

/-- The date of some numbers, if there is one. -/
def dateOf (year month day : Nat) : Except YamlError Date :=
  if 1 ≤ year ∧ 1 ≤ month ∧ month ≤ 12 ∧ 1 ≤ day ∧ day ≤ daysIn year month then
    .ok ⟨year, month, day⟩
  else .error .badLiteral

/-- The date that a text spells: four digits, two and two, with hyphens between them. -/
def date? (s : List Char) : Option (Except YamlError Date) :=
  match s with
  | [a, b, c, d, '-', e, f, '-', g, h] =>
    if [a, b, c, d, e, f, g, h].all Char.isDigit then
      some (dateOf (number 10 [a, b, c, d]) (number 10 [e, f]) (number 10 [g, h]))
    else none
  | _ => none

/-! ## Literals -/

/-- The words that stand for values. -/
def words : List (List String × Literal) :=
  [(["", "~", "null", "Null", "NULL"], .scalar .null),
    (["yes", "Yes", "YES", "true", "True", "TRUE", "on", "On", "ON"], .scalar (.bool true)),
    (["no", "No", "NO", "false", "False", "FALSE", "off", "Off", "OFF"], .scalar (.bool false)),
    (["<<"], .merge),
    (["="], .default)]

/-- What a plain scalar stands for. -/
def Literal.ofText (text : String) : Except YamlError Literal :=
  let s := text.toList
  match words.find? (·.1.contains text), float? s, integer? s, date? s with
  | some (_, literal), _, _, _ => .ok literal
  | none, some x, _, _ => x.map (.scalar <| .float ·)
  | none, none, some n, _ => n.map (.scalar <| .int ·)
  | none, none, none, some d => d.map (.scalar <| .date ·)
  | none, none, none, none => .ok (.scalar (.str text))

end RoutedFields.Yaml
