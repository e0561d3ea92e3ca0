import RoutedFields.Json.Reader
import RoutedFields.Naming.FieldName

/-!
# Field names are read back

The field name of a parameter is the percent-encoded form of its name with hyphens for dots. What is
left in it stands for itself or is an escape, and decoding it gives the bytes of the name again. A
percent sign in a name is escaped itself, so that a name that looks like an escaped one is not taken
for it.

* `percentDecoded`: the bytes that a percent-encoded text stands for.
* `percentDecoded_percentEncoded`: encoding is undone by decoding.
* `IsEscaped`, `isEscaped_percentEncoded`: what the encoded form of a text without dots looks like.
* `fromUTF8?_parameterFieldName`: the name is read back from the field name.
* `parameterFieldName_exact`: all of this in one statement; names are told apart by their field names
  as far as dots and hyphens are.
-/

namespace RoutedFields

/-! ## Decoding -/

/-- The bytes that a percent-encoded text stands for: an escape for its byte, any other character for
those of its UTF-8 form. A percent sign without two hexadecimal digits behind it stands for itself. -/
def percentDecoded : List Char → List UInt8
  | [] => []
  | '%' :: a :: b :: rest =>
    match Json.hexValue? a, Json.hexValue? b with
    | some high, some low => UInt8.ofNat (16 * high + low) :: percentDecoded rest
    | _, _ => String.utf8EncodeChar '%' ++ percentDecoded (a :: b :: rest)
  | c :: rest => String.utf8EncodeChar c ++ percentDecoded rest

section Decoding

variable {c : Char} {rest : List Char}

theorem percentDecoded_cons_of_ne (h : c ≠ '%') :
    percentDecoded (c :: rest) = String.utf8EncodeChar c ++ percentDecoded rest := by
  rw [percentDecoded]
  rintro a b more rfl
  exact absurd rfl h

theorem hexValue?_upperHexDigit : ∀ n < 16, Json.hexValue? (upperHexDigit n) = some n := by
  decide

theorem percentDecoded_escapedByte (byte : UInt8) (rest : List Char) :
    percentDecoded (escapedByte byte ++ rest) = byte :: percentDecoded rest := by
  have hbyte : byte.toNat < 256 := byte.toNat_lt
  rw [escapedByte, List.cons_append, List.cons_append, List.cons_append, List.nil_append,
    percentDecoded, hexValue?_upperHexDigit _ (by omega), hexValue?_upperHexDigit _ (by omega)]
  dsimp only
  rw [Nat.div_add_mod, UInt8.ofNat_toNat]

theorem percentDecoded_escapedBytes (bytes : List UInt8) (rest : List Char) :
    percentDecoded (bytes.flatMap escapedByte ++ rest) = bytes ++ percentDecoded rest := by
  induction bytes with
  | nil => rfl
  | cons byte bytes ih =>
    rw [List.flatMap_cons, List.append_assoc, percentDecoded_escapedByte, ih, List.cons_append]

theorem percentDecoded_percentEncodedChar (c : Char) (rest : List Char) :
    percentDecoded (percentEncodedChar c ++ rest) =
      String.utf8EncodeChar c ++ percentDecoded rest := by
  rw [percentEncodedChar]
  split
  · rename_i hunreserved
    refine percentDecoded_cons_of_ne ?_
    rintro rfl
    revert hunreserved
    decide
  · exact percentDecoded_escapedBytes _ rest

/-- A percent-encoded text stands for the bytes of the text. -/
theorem percentDecoded_percentEncoded (s : List Char) :
    percentDecoded (percentEncoded s) = s.flatMap String.utf8EncodeChar := by
  rw [percentEncoded]
  induction s with
  | nil => rfl
  | cons c s ih =>
    rw [List.flatMap_cons, percentDecoded_percentEncodedChar, ih, List.flatMap_cons]

end Decoding

/-! ## The form of encoded names -/

/-- Whether a character stands for itself in an encoded name. -/
def isLiteral (c : Char) : Bool :=
  c.isAlphanum || "_-~!*'()".toList.contains c

/-- Whether a character is a hexadecimal digit as escapes have them. -/
def isEscapeDigit (c : Char) : Bool :=
  "0123456789ABCDEF".toList.contains c

/-- A text of characters that stand for themselves and of escapes. -/
inductive IsEscaped : List Char → Prop
  | nil : IsEscaped []
  | literal {c : Char} {rest : List Char} : isLiteral c = true → IsEscaped rest →
      IsEscaped (c :: rest)
  | escape {a b : Char} {rest : List Char} : isEscapeDigit a = true → isEscapeDigit b = true →
      IsEscaped rest → IsEscaped ('%' :: a :: b :: rest)

section Escaped

variable {s : List Char}

theorem isEscapeDigit_upperHexDigit : ∀ n < 16, isEscapeDigit (upperHexDigit n) = true := by
  decide

theorem IsEscaped.escapedBytes (bytes : List UInt8) (h : IsEscaped s) :
    IsEscaped (bytes.flatMap escapedByte ++ s) := by
  induction bytes with
  | nil => exact h
  | cons byte bytes ih =>
    have hbyte : byte.toNat < 256 := byte.toNat_lt
    rw [List.flatMap_cons, List.append_assoc]
    exact .escape (isEscapeDigit_upperHexDigit _ (by omega))
      (isEscapeDigit_upperHexDigit _ (by omega)) ih

theorem isLiteral_of_isUnreserved {c : Char} (h : isUnreserved c = true) (hdot : c ≠ '.') :
    isLiteral c = true := by
  simpa [isUnreserved, isLiteral, hdot] using h

/-- Without dots, the encoded form of a text has literal characters and escapes only. -/
theorem isEscaped_percentEncoded (h : '.' ∉ s) : IsEscaped (percentEncoded s) := by
  rw [percentEncoded]
  induction s with
  | nil => exact .nil
  | cons c s ih =>
    rw [List.mem_cons, not_or] at h
    rw [List.flatMap_cons, percentEncodedChar]
    split
    · rename_i hunreserved
      exact .literal (isLiteral_of_isUnreserved hunreserved (Ne.symm h.1)) (ih h.2)
    · exact (ih h.2).escapedBytes _

/-- Neither literal characters nor escapes have dots. -/
theorem IsEscaped.not_mem_dot (h : IsEscaped s) : '.' ∉ s := by
  have hne {p : Char → Bool} {c : Char} (hp : p '.' = false) (hc : p c = true) : '.' ≠ c := by
    rintro rfl
    rw [hp] at hc
    exact Bool.false_ne_true hc
  induction h with
  | nil => exact List.not_mem_nil
  | literal hc _ ih =>
    exact List.not_mem_cons_of_ne_of_not_mem (hne (by decide) hc) ih
  | escape ha hb _ ih =>
    exact List.not_mem_cons_of_ne_of_not_mem (by decide) <|
      List.not_mem_cons_of_ne_of_not_mem (hne (by decide) ha) <|
      List.not_mem_cons_of_ne_of_not_mem (hne (by decide) hb) ih

end Escaped

/-! ## Field names -/

theorem dot_not_mem_hyphenated (s : List Char) : '.' ∉ hyphenated s := by
  rw [hyphenated, List.mem_map]
  rintro ⟨c, -, hc⟩
  split at hc
  · exact absurd hc (by decide)
  · rename_i hne
    exact hne hc

/-- The name of a parameter, with hyphens for dots, is read back from its field name. -/
theorem fromUTF8?_parameterFieldName (name : String) :
    String.fromUTF8? (percentDecoded (parameterFieldName name).toList).toByteArray =
      some (propertyFieldName name) := by
  have hbytes : (percentDecoded (parameterFieldName name).toList).toByteArray =
      (propertyFieldName name).toByteArray := by
    rw [parameterFieldName, String.toList_ofList, percentDecoded_percentEncoded, propertyFieldName,
      String.toByteArray_ofList]
    rfl
  rw [hbytes, String.fromUTF8?, dif_pos (propertyFieldName name).isValidUTF8]
  rfl

/-- **Field names of parameters.** The field name of a parameter has letters, digits, a few other
literal characters and escapes, and no dot. Decoded and read as UTF-8, it is the name with hyphens
for dots. So two parameters have the same field name exactly if their names are the same with hyphens
for dots. -/
theorem parameterFieldName_exact (name : String) :
    IsEscaped (parameterFieldName name).toList ∧ '.' ∉ (parameterFieldName name).toList ∧
    String.fromUTF8? (percentDecoded (parameterFieldName name).toList).toByteArray =
      some (propertyFieldName name) ∧
    (propertyFieldName name).toList = name.toList.map (fun c => if c = '.' then '-' else c) ∧
    ∀ other, parameterFieldName name = parameterFieldName other ↔
      propertyFieldName name = propertyFieldName other := by
  have hescaped : IsEscaped (parameterFieldName name).toList := by
    rw [parameterFieldName, String.toList_ofList]
    exact isEscaped_percentEncoded (dot_not_mem_hyphenated name.toList)
  refine ⟨hescaped, hescaped.not_mem_dot, fromUTF8?_parameterFieldName name,
    String.toList_ofList, fun other => ⟨fun h => ?_, fun h => ?_⟩⟩
  · have hname := fromUTF8?_parameterFieldName name
    rw [h, fromUTF8?_parameterFieldName other] at hname
    exact (Option.some.inj hname).symm
  · rw [propertyFieldName, propertyFieldName, String.ofList_inj] at h
    rw [parameterFieldName, parameterFieldName, h]

end RoutedFields
