import RoutedFields.Failure

/-!
# Field names

Names of fields hold no dots, because a dot would read as a path into a nested value; hyphens stand
in their place. Names of parameters are percent-encoded besides.

* `hyphenated`: a name with hyphens for dots.
* `percentEncoded`: a text as a component of an address.
* `propertyFieldName`, `parameterFieldName`: the names of fields.
* `propertyName`, `nameText`: names in a document, which have to be texts.
-/

namespace RoutedFields

/-- A name with hyphens for dots. -/
def hyphenated (name : List Char) : List Char :=
  name.map fun c => if c = '.' then '-' else c

/-- Whether a character stands for itself in a component of an address. -/
def isUnreserved (c : Char) : Bool :=
  c.isAlphanum || "_.-~!*'()".toList.contains c

/-- An upper-case hexadecimal digit. -/
def upperHexDigit (n : Nat) : Char :=
  (Nat.digitChar n).toUpper

/-- A byte as a percent sign and two digits. -/
def escapedByte (byte : UInt8) : List Char :=
  ['%', upperHexDigit (byte.toNat / 16), upperHexDigit (byte.toNat % 16)]

/-- A character in a component of an address: itself, or the bytes of its UTF-8 form. -/
def percentEncodedChar (c : Char) : List Char :=
  if isUnreserved c then [c] else (String.utf8EncodeChar c).flatMap escapedByte

/-- A text as a component of an address. -/
def percentEncoded (s : List Char) : List Char :=
  s.flatMap percentEncodedChar

/-- The field name of a property of a request body. -/
def propertyFieldName (name : String) : String :=
  String.ofList (hyphenated name.toList)

/-- The field name of a parameter. -/
def parameterFieldName (name : String) : String :=
  String.ofList (percentEncoded (hyphenated name.toList))

/-- The field name of a property, torn if the name of the property is. Dots in a torn name make no
difference, because no field has one. -/
def propertyName : Node → Except Fault Node
  | .str name => .ok (.str (propertyFieldName name))
  | .torn name => .ok (.torn name)
  | _ => .error .nameNotText

/-- The name of a parameter, which has to be a text, and one that can be written as bytes. -/
def nameText : Node → Except Fault String
  | .str name => .ok name
  | .torn _ => .error .notEncodable
  | _ => .error .nameNotText

end RoutedFields
