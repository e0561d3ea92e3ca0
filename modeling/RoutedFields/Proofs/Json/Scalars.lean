import Mathlib.Data.List.TakeDrop
import RoutedFields.Json.Printer
import RoutedFields.Json.Reader
import RoutedFields.Proofs.Number.DecimalText
import RoutedFields.Proofs.Results

/-!
# Scalars that are written and read back

* `EndsNumber`: texts that do not go on with a number that stands in front of them.
* `unsigned?_text`: a number in parts is read with all its parts.
* `string_stringText`: a text that is written as a string is read back.
* `atom_bareText`: so is a scalar that is no text, a double as the double that its text spells.
-/

namespace RoutedFields.Json

/-! ## Numbers -/

/-- Whether a text does not go on with a number in front of it. -/
def EndsNumber (rest : List Char) : Prop :=
  ∀ c, rest.head? = some c → c.isDigit = false ∧ c ≠ '.' ∧ c ≠ 'e' ∧ c ≠ 'E'

theorem endsNumber_nil : EndsNumber [] :=
  nofun

theorem digits_append {ds rest : List Char} (hds : ∀ c ∈ ds, c.isDigit = true)
    (hrest : ∀ c, rest.head? = some c → c.isDigit = false) : digits (ds ++ rest) = (ds, rest) := by
  rw [digits, List.span_eq_takeWhile_dropWhile]
  have htake : rest.takeWhile Char.isDigit = [] := by
    cases rest with
    | nil => rfl
    | cons c cs => rw [List.takeWhile_cons, hrest c rfl, if_neg Bool.false_ne_true]
  have hdrop : rest.dropWhile Char.isDigit = rest := by
    cases rest with
    | nil => rfl
    | cons c cs => rw [List.dropWhile_cons, hrest c rfl, if_neg Bool.false_ne_true]
  rw [List.takeWhile_append_of_pos hds, List.dropWhile_append_of_pos hds, htake, hdrop,
    List.append_nil]

theorem wholeDigits?_append {whole rest : List Char} (hdigits : ∀ c ∈ whole, c.isDigit = true)
    (hne : whole ≠ []) (hhead : whole = ['0'] ∨ whole.head? ≠ some '0')
    (hrest : ∀ c, rest.head? = some c → c.isDigit = false) :
    wholeDigits? (whole ++ rest) = some (whole, rest) := by
  rcases hhead with rfl | hhead
  · rfl
  · obtain ⟨c, cs, rfl⟩ := List.exists_cons_of_ne_nil hne
    have hdigit := hdigits c List.mem_cons_self
    have hzero : c ≠ '0' := fun h => hhead (congrArg some h)
    rw [List.cons_append, wholeDigits?, if_pos hdigit, ← List.cons_append,
      digits_append hdigits hrest]
    exact hzero

theorem fractionDigits_of_head? {s : List Char} (h : s.head? ≠ some '.') :
    fractionDigits s = ([], s) := by
  unfold fractionDigits
  split
  · exact absurd rfl h
  · rfl

theorem exponent?_of_head? {s : List Char} (h : s.head? ≠ some 'e' ∧ s.head? ≠ some 'E') :
    exponent? s = none := by
  cases s with
  | nil => rfl
  | cons c cs =>
    simp only [List.head?_cons, ne_eq, Option.some.injEq] at h
    unfold exponent?
    exact if_neg (by simp [h.1, h.2])

section Parts

variable {parts : Parts} {rest : List Char}

theorem head?_powerText_append {c : Char} (hrest : EndsNumber rest)
    (h : (parts.powerText ++ rest).head? = some c) : c.isDigit = false ∧ c ≠ '.' := by
  unfold Parts.powerText at h
  split at h
  · obtain rfl := Option.some.inj h
    decide
  · exact ⟨(hrest c h).1, (hrest c h).2.1⟩

theorem fractionDigits_fractionText (hparts : parts.Valid) (hrest : EndsNumber rest) :
    fractionDigits (parts.fractionText ++ (parts.powerText ++ rest)) =
      (parts.fraction, parts.powerText ++ rest) := by
  have hend {c : Char} (h : (parts.powerText ++ rest).head? = some c) :=
    head?_powerText_append hrest h
  cases hfraction : parts.fraction with
  | nil =>
    rw [Parts.fractionText, hfraction, List.nil_append]
    exact fractionDigits_of_head? fun h => (hend h).2 rfl
  | cons c cs =>
    have hdigits := hparts.fraction_digits
    rw [hfraction] at hdigits
    rw [Parts.fractionText, hfraction]
    simp only [List.cons_append, fractionDigits]
    rw [if_pos (hdigits c List.mem_cons_self), ← List.cons_append]
    exact digits_append hdigits fun c hc => (hend hc).1

theorem exponent?_powerText (hparts : parts.Valid) (hrest : EndsNumber rest) :
    exponent? (parts.powerText ++ rest) = parts.exponent.map (·, rest) := by
  cases hpower : parts.power with
  | none =>
    rw [Parts.powerText, hpower, Parts.exponent, hpower]
    exact exponent?_of_head? ⟨fun h => (hrest _ h).2.2.1 rfl, fun h => (hrest _ h).2.2.2 rfl⟩
  | some power =>
    obtain ⟨negative, ds⟩ := power
    obtain ⟨hne, hds⟩ := hparts.power_digits negative ds hpower
    have hdigits := digits_append hds fun c hc => (hrest c hc).1
    obtain ⟨d, ds, rfl⟩ := List.exists_cons_of_ne_nil hne
    rw [Parts.powerText, hpower, Parts.exponent, hpower]
    cases negative <;> simp only [List.cons_append] at hdigits ⊢ <;> simp [exponent?, hdigits]

/-- What a number in parts stands for: an integer, or the double nearest to it. -/
def numeralOf (negative : Bool) (parts : Parts) : Numeral :=
  if parts.isInteger then .integer negative parts.whole
  else .double (.ofDecimal negative (natOfDigits 10 (asciiDigits (parts.whole ++ parts.fraction)))
    (parts.exponent.getD 0 - parts.fraction.length))

/-- A number in parts is read with all its parts. -/
theorem unsigned?_text (negative : Bool) (hparts : parts.Valid) (hrest : EndsNumber rest) :
    unsigned? negative (parts.text ++ rest) = some (numeralOf negative parts, rest) := by
  have hafter (c : Char) (h : (parts.fractionText ++ (parts.powerText ++ rest)).head? = some c) :
      c.isDigit = false := by
    unfold Parts.fractionText at h
    split at h
    · exact (head?_powerText_append hrest h).1
    · obtain rfl := Option.some.inj h
      rfl
  have hwhole :=
    wholeDigits?_append hparts.whole_digits hparts.whole_ne_nil hparts.whole_head hafter
  rw [Parts.text, List.append_assoc, List.append_assoc, unsigned?, hwhole]
  dsimp only
  rw [fractionDigits_fractionText hparts hrest, exponent?_powerText hparts hrest, numeralOf,
    Parts.isInteger]
  cases hpower : parts.power with
  | none =>
    cases hfraction : parts.fraction with
    | nil => simp [Parts.exponent, hpower, Parts.fractionText, Parts.powerText, hfraction]
    | cons c cs => simp [Parts.exponent, hpower, Parts.powerText]
  | some power => simp [Parts.exponent, hpower]

end Parts

/-! ## Strings -/

theorem stringChar_ne_nil (c : Char) : stringChar c ≠ [] := by
  unfold stringChar
  repeat' split
  all_goals exact List.cons_ne_nil _ _

/-- The code that four hexadecimal digits at the front of a text spell. -/
def hexFront? : List Char → Option Nat
  | a :: b :: c :: d :: _ => hexCode? a b c d
  | _ => none

theorem hexFront?_hexText {n : Nat} (h : n < 32) :
    (hexText 4 n).length = 4 ∧ hexFront? (hexText 4 n) = some n := by
  have hall : ∀ n < 32, (hexText 4 n).length = 4 ∧ hexFront? (hexText 4 n) = some n := by decide
  exact hall n h

/-- A control character that is escaped by its code is read back, if a character follows. -/
theorem codeEscape_hexText {c : Char} (h : c.toNat < 32) (next : Char) (more : List Char) :
    codeEscape (hexText 4 c.toNat ++ next :: more) = .ok (.char c, next :: more) := by
  obtain ⟨hlength, hcode⟩ := hexFront?_hexText h
  obtain ⟨a, b, d, e, hdigits⟩ := List.length_eq_four.mp hlength
  rw [hdigits] at hcode ⊢
  have hhigh : isHighSurrogate c.toNat = false := by simp [isHighSurrogate]; omega
  have hlow : isLowSurrogate c.toNat = false := by simp [isLowSurrogate]; omega
  have hchar : partOfCode c.toNat = .char c := by
    rw [partOfCode, hhigh, hlow, Bool.or_false, if_neg Bool.false_ne_true, Char.ofNat_toNat]
  simp only [List.cons_append, List.nil_append, codeEscape]
  rw [show hexCode? a b d e = some c.toNat from hcode]
  dsimp only
  split
  · rw [hhigh, if_neg Bool.false_ne_true, hchar]
  · rw [hchar]

/-- The characters that are escaped by a letter or by themselves. -/
def shortEscapes : List Char :=
  ['"', '\\', '\n', '\r', '\t', '\x08', '\x0c']

theorem stringChar_of_not_mem {c : Char} (h : c ∉ shortEscapes) :
    stringChar c = if c.toNat < 32 then '\\' :: 'u' :: hexText 4 c.toNat else [c] := by
  simp only [shortEscapes, List.mem_cons, List.not_mem_nil, or_false, not_or] at h
  simp [stringChar, h]

/-- A character of a string is read back, if a character follows. -/
theorem piece_stringChar (opening : List Char) (c next : Char) (more : List Char) :
    piece opening (stringChar c ++ next :: more) = .ok (some (.char c), next :: more) := by
  by_cases hescaped : c ∈ shortEscapes
  · simp only [shortEscapes, List.mem_cons, List.not_mem_nil, or_false] at hescaped
    rcases hescaped with rfl | rfl | rfl | rfl | rfl | rfl | rfl <;> rfl
  · rw [stringChar_of_not_mem hescaped]
    split
    · rename_i hcontrol
      rw [List.cons_append, List.cons_append, piece, codeEscape_hexText hcontrol]
      rfl
    · rename_i hcontrol
      have hquote : c ≠ '"' := fun h => hescaped (h ▸ by decide)
      have hbackslash : c ≠ '\\' := fun h => hescaped (h ▸ by decide)
      rw [List.singleton_append, piece.eq_def]
      split
      · rename_i heq
        cases heq
      · rename_i heq
        cases heq
      · rename_i heq
        exact absurd (List.cons.inj heq).1 hquote
      · rename_i heq
        exact absurd (List.cons.inj heq).1 hbackslash
      · rename_i heq
        exact absurd (List.cons.inj heq).1 hbackslash
      · rename_i heq
        obtain ⟨rfl, rfl⟩ := List.cons.inj heq
        exact if_neg hcontrol

theorem stringBody_flatMap (opening : List Char) {s : List Char} {fuel : Nat}
    (hfuel : s.length < fuel) (rest : List Char) :
    stringBody opening fuel (s.flatMap stringChar ++ '"' :: rest) = .ok (s.map .char, rest) := by
  induction s generalizing fuel with
  | nil =>
    obtain ⟨fuel, rfl⟩ := Nat.exists_eq_succ_of_ne_zero (Nat.ne_of_gt hfuel)
    rfl
  | cons c cs ih =>
    obtain ⟨fuel, rfl⟩ := Nat.exists_eq_succ_of_ne_zero (Nat.ne_of_gt (Nat.zero_lt_of_lt hfuel))
    obtain ⟨next, more, hnext⟩ : ∃ next more, cs.flatMap stringChar ++ '"' :: rest = next :: more :=
      List.exists_cons_of_ne_nil (List.append_ne_nil_of_right_ne_nil _ (List.cons_ne_nil _ _))
    have hrest := ih (Nat.lt_of_succ_lt_succ hfuel)
    rw [List.flatMap_cons, List.append_assoc, hnext, stringBody, piece_stringChar]
    rw [hnext] at hrest
    change (stringBody opening fuel (next :: more)).bind _ = _
    rw [hrest]
    rfl

theorem length_le_flatMap (s : List Char) : s.length ≤ (s.flatMap stringChar).length := by
  induction s with
  | nil => exact Nat.le_refl 0
  | cons c cs ih =>
    have hpos := List.length_pos_iff.mpr (stringChar_ne_nil c)
    rw [List.flatMap_cons, List.length_append, List.length_cons]
    omega

theorem leadingChars_map_char (s : List Char) : TextPart.leadingChars (s.map .char) = s := by
  induction s with
  | nil => rfl
  | cons c cs ih => rw [List.map_cons, TextPart.leadingChars, ih]

theorem fromHalf?_map_char (s : List Char) : TextPart.fromHalf? (s.map .char) = none := by
  induction s with
  | nil => rfl
  | cons c cs ih => rw [List.map_cons, TextPart.fromHalf?, ih]

/-- A text of characters alone is not torn. -/
theorem ofParts_map_char (s : List Char) :
    Scalar.ofParts (s.map .char) = .str (String.ofList s) := by
  rw [Scalar.ofParts, fromHalf?_map_char, leadingChars_map_char]

/-- A text that is written as a string is read back. -/
theorem string_stringText (s : String) (rest : List Char) :
    string (stringText s ++ rest) = .ok (.str s, rest) := by
  have hopening : (stringText s ++ rest).tail = s.toList.flatMap stringChar ++ '"' :: rest := by
    simp [stringText]
  have hfuel : s.toList.length < (stringText s ++ rest).length := by
    have hle := length_le_flatMap s.toList
    simp only [stringText, List.length_append, List.length_cons]
    omega
  rw [string, hopening, stringBody_flatMap _ hfuel]
  change Except.ok (Scalar.ofParts (s.toList.map .char), rest) = _
  rw [ofParts_map_char, String.ofList_toList]

/-! ## Scalars that are no texts -/

/-- The text of a number in parts with its sign. -/
def signedText (negative : Bool) (parts : Parts) : List Char :=
  if negative then '-' :: parts.text else parts.text

section Numbers

variable {parts : Parts} {rest : List Char} (negative : Bool) (hparts : parts.Valid)
include hparts

theorem exists_digit_text : ∃ c cs, parts.text = c :: cs ∧ c.isDigit = true := by
  obtain ⟨c, cs, hwhole⟩ := List.exists_cons_of_ne_nil hparts.whole_ne_nil
  have hdigit := hparts.whole_digits c (hwhole ▸ List.mem_cons_self)
  exact ⟨c, _, by rw [Parts.text, hwhole, List.cons_append], hdigit⟩

theorem number?_signedText (hrest : EndsNumber rest) :
    number? (signedText negative parts ++ rest) = some (numeralOf negative parts, rest) := by
  have hunsigned := unsigned?_text negative hparts hrest
  cases negative with
  | true => exact hunsigned
  | false =>
    obtain ⟨c, cs, htext, hdigit⟩ := exists_digit_text hparts
    rw [signedText, if_neg Bool.false_ne_true]
    rw [htext] at hunsigned ⊢
    rw [List.cons_append] at hunsigned ⊢
    rw [number?, hunsigned]
    intro more hminus
    rw [(List.cons.inj hminus).1] at hdigit
    cases hdigit

/-- A number is not mistaken for one of the named values. -/
theorem findSome?_literals_signedText :
    literals.findSome? (fun l => (after? l.1 (signedText negative parts ++ rest)).map (l.2, ·)) =
      none := by
  obtain ⟨c, cs, htext, hdigit⟩ := exists_digit_text hparts
  have hall : ∀ l ∈ literals, (∀ word, l.1.toList = '-' :: word → word.head? = some 'I') ∧
      l.1.toList.head?.map Char.isDigit = some false := by
    simp [literals]
  rw [List.findSome?_eq_none_iff]
  intro l hl
  obtain ⟨hminus, hhead⟩ := hall l hl
  rw [Option.map_eq_none_iff, after?, if_neg]
  rw [Bool.not_eq_true, signedText, htext]
  cases hword : l.1.toList with
  | nil =>
    rw [hword] at hhead
    cases hhead
  | cons d ds =>
    rw [hword] at hminus hhead
    cases negative with
    | false =>
      have hne : (d == c) = false := by
        rw [beq_eq_false_iff_ne]
        rintro rfl
        rw [List.head?_cons, Option.map_some, hdigit] at hhead
        cases hhead
      simp [List.isPrefixOf, hne]
    | true =>
      by_cases hd : d = '-'
      · obtain ⟨ds, rfl⟩ : ∃ more, ds = 'I' :: more := by
          have hI := hminus ds (by rw [hd])
          cases ds with
          | nil => cases hI
          | cons e es => exact ⟨es, by rw [Option.some.inj hI]⟩
        have hne : ('I' == c) = false := by
          rw [beq_eq_false_iff_ne]
          rintro rfl
          cases hdigit
        simp [List.isPrefixOf, hne]
      · simp [List.isPrefixOf, hd]

theorem atom_signedText (limits : Limits) (hrest : EndsNumber rest) :
    atom limits (signedText negative parts ++ rest) =
      ((numeralOf negative parts).value limits).map (·, rest) := by
  rw [atom, findSome?_literals_signedText negative hparts]
  dsimp only
  rw [number?_signedText negative hparts hrest]

end Numbers

/-- The double that the text of a double spells. -/
def rereadDouble (x : Double) : Double :=
  match number? (doubleText x) with
  | some (.double y, _) => y
  | _ => x

/-- What is read of a scalar that is written with U+FFFD in place of halves. -/
def rereadScalar : Scalar → Scalar
  | .float x => .float (rereadDouble x)
  | .torn t => .str t.masked
  | s => s

/-- How many digits are read of a scalar, if it is an integer. -/
def numeralLength : Scalar → Nat
  | .int n => (decimalText n.natAbs).length
  | _ => 0

theorem exists_parts_doubleText (negative : Bool) (m s : Nat) :
    ∃ parts : Parts, parts.Valid ∧ parts.isInteger = false ∧
      doubleText (.finite negative m s) = signedText negative parts := by
  obtain ⟨parts, hparts, hinteger, htext⟩ := Double.exists_parts_magnitudeText m s
  refine ⟨parts, hparts, hinteger, ?_⟩
  rw [doubleText, Double.text, signedText, htext, String.toList_ofList]
  · rintro ⟨⟩
  · rintro _ ⟨⟩

theorem atom_doubleText (limits : Limits) (x : Double) {rest : List Char}
    (hrest : EndsNumber rest) :
    atom limits (doubleText x ++ rest) = .ok (.float (rereadDouble x), rest) := by
  cases x with
  | notANumber => rfl
  | infinite negative => cases negative <;> rfl
  | finite negative m s =>
    obtain ⟨parts, hparts, hinteger, htext⟩ := exists_parts_doubleText negative m s
    have hnumber := number?_signedText negative hparts endsNumber_nil
    rw [List.append_nil, ← htext] at hnumber
    rw [rereadDouble, hnumber, htext, atom_signedText negative hparts limits hrest, numeralOf,
      hinteger]
    rfl

theorem toList_intText (n : Int) : (intText n).toList =
    signedText (decide (n < 0)) (Parts.mk (decimalText n.natAbs) [] none) := by
  simp [intText, signedText, Parts.text, Parts.fractionText, Parts.powerText]

theorem atom_intText (limits : Limits) (n : Int) {rest : List Char} (hrest : EndsNumber rest)
    (hlength : (decimalText n.natAbs).length ≤ limits.digits) :
    atom limits ((intText n).toList ++ rest) = .ok (.int n, rest) := by
  have hvalue : (if decide (n < 0) = true then -(n.natAbs : Int) else n.natAbs) = n := by
    simp only [decide_eq_true_eq]
    omega
  rw [toList_intText, atom_signedText _ (valid_decimalText _) limits hrest]
  change ((Numeral.integer (decide (n < 0)) (decimalText n.natAbs)).value limits).map _ = _
  rw [Numeral.value, if_neg (Nat.not_lt_of_le hlength), natOfDigits_decimalText]
  dsimp only
  rw [hvalue]
  rfl

theorem integerText_eq_ok_iff {n : Int} {text : List Char} :
    integerText n = .ok text ↔
      (decimalText n.natAbs).length ≤ longestInteger ∧ (intText n).toList = text := by
  unfold integerText
  split
  · rename_i hlong
    exact iff_of_false nofun fun h => Nat.not_lt_of_le h.1 hlong
  · rename_i hlong
    simp [Nat.le_of_not_lt hlong]

/-- A scalar that is no text is read back, an integer if it is not too long. -/
theorem atom_bareText {limits : Limits} {s : Scalar} {text rest : List Char}
    (htext : bareText s = .ok text) (hlength : numeralLength s ≤ limits.digits)
    (hrest : EndsNumber rest) :
    atom limits (text ++ rest) = .ok (.scalar (rereadScalar s), rest) := by
  cases s with
  | null =>
    cases htext
    rfl
  | bool b =>
    cases htext
    cases b <;> rfl
  | int n =>
    obtain ⟨_, rfl⟩ := integerText_eq_ok_iff.mp htext
    exact atom_intText limits n hrest hlength
  | float x =>
    cases htext
    exact atom_doubleText limits x hrest
  | str s => cases htext
  | torn t => cases htext
  | date d => cases htext

end RoutedFields.Json
