import RoutedFields.Number.Decimal

/-!
# Torn texts

The escapes of a JSON or a YAML text name codes, and the halves of a surrogate pair have codes of
their own. A half without the other one is no character, and yet it is read, kept and compared like
one. Only as bytes it cannot be written. A text with such halves is a torn one.

* `TextPart`, `TornText`: the parts of a text, and a text with at least one half among them.
* `TornText.masked`: a torn text with U+FFFD in place of its halves, for tests that no half passes.
* `TornText.shown`: a torn text with escapes in place of its halves, as messages show it.
-/

namespace RoutedFields

/-- A number in lower-case hexadecimal, padded with zeros to a width. -/
def hexText (width n : Nat) : List Char :=
  let digits := Nat.toDigits 16 n
  List.replicate (width - digits.length) '0' ++ digits

/-- The least code of a half of a surrogate pair. -/
def leastHalf : Nat := 0xD800

/-- A part of a text: a character, or half of a surrogate pair, counted from the least one. -/
inductive TextPart
  | char (c : Char)
  | half (h : Fin 0x800)
deriving DecidableEq

namespace TextPart

/-- A part as a character. -/
def masked : TextPart → Char
  | .char c => c
  | .half _ => '\ufffd'

/-- A half as an escape. -/
def escape (h : Fin 0x800) : List Char :=
  '\\' :: 'u' :: hexText 4 (leastHalf + h)

/-- A part as characters. -/
def shown : TextPart → List Char
  | .char c => [c]
  | .half h => escape h

/-- The characters in front of the first half. -/
def leadingChars : List TextPart → List Char
  | .char c :: parts => c :: leadingChars parts
  | _ => []

/-- The first half, and the parts after it. -/
def fromHalf? : List TextPart → Option (Fin 0x800 × List TextPart)
  | [] => none
  | .char _ :: parts => fromHalf? parts
  | .half h :: parts => some (h, parts)

end TextPart

/-- A text with at least one half: the characters before the first one, that one, and what comes
after it. -/
structure TornText where
  front : List Char
  half : Fin 0x800
  rest : List TextPart
deriving DecidableEq

namespace TornText

/-- All parts of a torn text. -/
def parts (text : TornText) : List TextPart :=
  text.front.map .char ++ .half text.half :: text.rest

/-- A torn text with U+FFFD in place of its halves. -/
def masked (text : TornText) : String :=
  String.ofList (text.parts.map TextPart.masked)

/-- A torn text with escapes in place of its halves. -/
def shown (text : TornText) : String :=
  String.ofList (text.parts.flatMap TextPart.shown)

end TornText
end RoutedFields
