import Mathlib.Data.List.Induction
import Mathlib.Data.Nat.Digits.Defs
import RoutedFields.Number.Shortest

/-!
# The digits of a number

* `natOfDigits_decimalText`: the decimal spelling of a number spells that number.
* `isDigit_of_mem_decimalText`, `head?_decimalText_ne`: it is made of digits, the first of which is
  zero for zero only.
* `length_decimalText_le`: no row of digits that spells a number is shorter than it.
* `shortest_ne_zero`: a double that is not zero has digits that are not zero.
* `Parts`, `Parts.Valid`: the parts of a number, digits before and behind the point and an exponent,
  and when they are those of a number in JSON.
* `exists_parts_magnitudeText`: a double is written in such parts, and not as an integer.
-/

namespace RoutedFields

/-! ## Whole numbers -/

theorem natOfDigits_decimalText (n : Nat) : natOfDigits 10 (asciiDigits (decimalText n)) = n := by
  have h : natOfDigits 10 (asciiDigits (decimalText n)) =
      Nat.ofDigitChars 10 (decimalText n) 0 := by
    rw [natOfDigits, asciiDigits, List.foldl_map, Nat.ofDigitChars]
    simp only [Nat.mul_comm]
  rw [h, decimalText, Nat.ofDigitChars_toDigits (by decide) (by decide)]

theorem isDigit_of_mem_decimalText {n : Nat} {c : Char} (h : c ∈ decimalText n) :
    c.isDigit = true :=
  Nat.isDigit_of_mem_toDigits (by decide) (by decide) h

theorem decimalText_ne_nil (n : Nat) : decimalText n ≠ [] :=
  Nat.toDigits_ne_nil

theorem head?_decimalText_ne {n : Nat} (h : n ≠ 0) : (decimalText n).head? ≠ some '0' := by
  induction n using Nat.strongRecOn with
  | ind n ih =>
    rw [decimalText, Nat.toDigits_eq_if (by decide)]
    split
    · rename_i hlt
      have hall : ∀ d < 10, d ≠ 0 → [d.digitChar].head? ≠ some '0' := by decide
      exact hall n hlt h
    · rename_i hge
      have hhead := ih (n / 10) (by omega) (by omega)
      rw [List.head?_append]
      cases hdigits : Nat.toDigits 10 (n / 10) with
      | nil => exact absurd hdigits Nat.toDigits_ne_nil
      | cons c cs =>
        rw [decimalText, hdigits] at hhead
        exact hhead

theorem isDigit_of_mem_padded {width n : Nat} {c : Char} (h : c ∈ padded width n) :
    c.isDigit = true := by
  rcases List.mem_append.mp h with h | h
  · rw [List.eq_of_mem_replicate h]
    rfl
  · exact isDigit_of_mem_decimalText h

theorem padded_ne_nil (width n : Nat) : padded width n ≠ [] :=
  List.append_ne_nil_of_right_ne_nil _ (decimalText_ne_nil n)

/-- A number is not below the power of ten that its first digit stands for. -/
theorem tenPow_le_of_length_decimalText {n : Nat} (h : n ≠ 0) :
    tenPow ((decimalText n).length - 1) ≤ n := by
  by_cases hone : (decimalText n).length - 1 = 0
  · rw [hone]
    exact Nat.pos_of_ne_zero h
  · rw [← Nat.not_lt]
    intro hlt
    have hle := (Nat.length_toDigits_le_iff (by decide) (Nat.pos_of_ne_zero hone)).mpr hlt
    rw [decimalText] at *
    omega

theorem asciiDigit_lt {c : Char} (h : c.isDigit = true) : c.toNat - '0'.toNat < 10 := by
  simp only [Char.isDigit, Bool.and_eq_true, decide_eq_true_eq, UInt32.le_iff_toNat_le] at h
  have hle : c.toNat ≤ 57 := h.2
  have hzero : '0'.toNat = 48 := rfl
  omega

theorem natOfDigits_lt {ds : List Char} (h : ∀ c ∈ ds, c.isDigit = true) :
    natOfDigits 10 (asciiDigits ds) < 10 ^ ds.length := by
  induction ds using List.reverseRecOn with
  | nil => exact Nat.one_pos
  | append_singleton ds c ih =>
    obtain ⟨hds, hc⟩ := List.forall_mem_append.mp h
    have hlt := ih hds
    have hdigit := asciiDigit_lt (hc c (List.mem_singleton_self c))
    have hsplit : natOfDigits 10 (asciiDigits (ds ++ [c])) =
        natOfDigits 10 (asciiDigits ds) * 10 + (c.toNat - '0'.toNat) := by
      simp [natOfDigits, asciiDigits, List.foldl_append]
    rw [hsplit, List.length_append, List.length_singleton, Nat.pow_succ]
    omega

/-- A number that some digits spell has no more digits itself. -/
theorem length_decimalText_le {ds : List Char} (hne : ds ≠ [])
    (h : ∀ c ∈ ds, c.isDigit = true) :
    (decimalText (natOfDigits 10 (asciiDigits ds))).length ≤ ds.length :=
  (Nat.length_toDigits_le_iff (by decide) (List.length_pos_iff.mpr hne)).mpr (natOfDigits_lt h)

/-! ## The digits of a double -/

namespace Double

theorem ofDecimal_zero (negative : Bool) (k : Int) : ofDecimal negative 0 k = zero negative :=
  if_pos rfl

/-- Digits that read back to a double that is not zero are not zero. -/
theorem ne_zero_of_readsBack {m s digits : Nat} {k : Int} (hm : m ≠ 0)
    (h : readsBack m s digits k = true) : digits ≠ 0 := by
  rintro rfl
  rw [readsBack, ofDecimal_zero, beq_iff_eq, zero] at h
  injection h with _ hzero
  exact hm hzero.symm

theorem dropZeros_ne_zero {fuel digits : Nat} {k : Int} (h : digits ≠ 0) :
    (dropZeros fuel digits k).1 ≠ 0 := by
  induction fuel generalizing digits k with
  | zero => exact h
  | succ fuel ih =>
    rw [dropZeros]
    split
    · exact ih (by omega)
    · exact h

theorem twoPow_pos (n : Nat) : 0 < twoPow n :=
  Nat.pow_pos (by decide)

theorem tenPow_pos (n : Nat) : 0 < tenPow n :=
  Nat.pow_pos (by decide)

theorem tenPow_add (n k : Nat) : tenPow (n + k) = tenPow n * tenPow k :=
  Nat.pow_add 10 n k

theorem tenPow_le_tenPow {n k : Nat} (h : n ≤ k) : tenPow n ≤ tenPow k :=
  Nat.pow_le_pow_right (by decide) h

/-- A number of units is not below the power of ten that stands some digits behind its first one.
The offset makes the number large enough to have a first digit before the point. -/
theorem le_mul_of_leading {number units length offset width : Nat} (hnumber : number ≠ 0)
    (hpos : 0 < units) (hunits : units ≤ tenPow offset)
    (hlength : length = (decimalText (number * tenPow offset / units)).length) (hwidth : 0 < width)
    {k : Int} (hk : k = length - 1 - offset + 1 - width) :
    units * tenPow k.toNat ≤ number * tenPow (-k).toNat := by
  have hquotient : number * tenPow offset / units ≠ 0 := by
    have hle : units ≤ number * tenPow offset :=
      hunits.trans (Nat.le_mul_of_pos_left _ (Nat.pos_of_ne_zero hnumber))
    exact (Nat.div_pos hle hpos).ne'
  have hfirst : tenPow (length - 1) * units ≤ number * tenPow offset := by
    rw [hlength]
    exact (Nat.le_div_iff_mul_le hpos).mp (tenPow_le_of_length_decimalText hquotient)
  have hlengthPos : 0 < length := by
    rw [hlength]
    exact List.length_pos_iff.mpr (decimalText_ne_nil _)
  rcases Nat.le_total length (offset + width) with hle | hge
  · obtain ⟨hnonneg, hneg⟩ : k.toNat = 0 ∧ (-k).toNat = offset + width - length := by omega
    rw [hnonneg, hneg, show tenPow 0 = 1 from rfl, Nat.mul_one]
    refine Nat.le_of_mul_le_mul_right ?_ (tenPow_pos (length - 1))
    calc units * tenPow (length - 1)
        = tenPow (length - 1) * units := Nat.mul_comm _ _
      _ ≤ number * tenPow offset := hfirst
      _ ≤ number * tenPow (offset + width - length + (length - 1)) :=
        Nat.mul_le_mul_left _ (tenPow_le_tenPow (by omega))
      _ = number * tenPow (offset + width - length) * tenPow (length - 1) := by
        rw [Nat.mul_assoc, ← tenPow_add]
  · obtain ⟨hnonneg, hneg⟩ : k.toNat = length - (offset + width) ∧ (-k).toNat = 0 := by omega
    rw [hnonneg, hneg, show tenPow 0 = 1 from rfl, Nat.mul_one]
    refine Nat.le_of_mul_le_mul_right ?_ (tenPow_pos offset)
    calc units * tenPow (length - (offset + width)) * tenPow offset
        = units * tenPow (length - (offset + width) + offset) := by rw [Nat.mul_assoc, tenPow_add]
      _ ≤ units * tenPow (length - 1) := Nat.mul_le_mul_left _ (tenPow_le_tenPow (by omega))
      _ = tenPow (length - 1) * units := Nat.mul_comm _ _
      _ ≤ number * tenPow offset := hfirst

theorem twoPow_unitBits_le : twoPow unitBits ≤ tenPow exponentOffset := by
  decide +kernel

-- powers of two are not to be worked out where the digits of a double are looked for
seal twoPow

theorem head_neighbours_ne_zero {m s : Nat} (hm : m ≠ 0) :
    (neighbours m s (leadingExponent m s + 1 - mostDigits)).headD 0 ≠ 0 := by
  have hk : leadingExponent m s + 1 - mostDigits = (decimalText (m * twoPow s *
      tenPow exponentOffset / twoPow unitBits)).length - 1 - exponentOffset + 1 - mostDigits := by
    rw [leadingExponent]
  have hle := le_mul_of_leading (Nat.mul_ne_zero hm (twoPow_pos s).ne') (twoPow_pos unitBits)
    twoPow_unitBits_le rfl (show 0 < mostDigits by decide) hk
  have hbelow := Nat.div_pos hle (Nat.mul_pos (twoPow_pos unitBits) (tenPow_pos _))
  unfold neighbours
  dsimp only
  split
  · rw [List.headD_cons]
    exact hbelow.ne'
  · rw [List.headD_cons]
    exact Nat.succ_ne_zero _

theorem shortestFrom_succ (m s : Nat) (top : Int) (fuel count : Nat) :
    shortestFrom m s top (fuel + 1) count =
      match (neighbours m s (top + 1 - count)).find? (readsBack m s · (top + 1 - count)) with
      | some digits => (digits, top + 1 - count)
      | none => shortestFrom m s top fuel (count + 1) :=
  rfl

theorem shortestFrom_ne_zero {m s fuel count : Nat} (hm : m ≠ 0)
    (hcount : count + fuel = mostDigits) :
    (shortestFrom m s (leadingExponent m s) fuel count).1 ≠ 0 := by
  induction fuel generalizing count with
  | zero =>
    rw [Nat.add_zero] at hcount
    rw [hcount]
    exact head_neighbours_ne_zero hm
  | succ fuel ih =>
    rw [shortestFrom_succ]
    split
    · rename_i digits hfind
      exact ne_zero_of_readsBack hm (List.find?_some (p := (readsBack m s · _)) hfind)
    · exact ih (by omega)

/-- A double that is not zero has digits that are not zero. -/
theorem shortest_ne_zero {m s : Nat} (hm : m ≠ 0) : (shortest m s).1 ≠ 0 := by
  have hdigits : (shortestFrom m s (leadingExponent m s) (mostDigits - 1) 1).1 ≠ 0 :=
    shortestFrom_ne_zero hm (by decide)
  rw [shortest]
  exact dropZeros_ne_zero hdigits

end Double

/-! ## The parts of a number -/

/-- The parts of a number without its sign: digits before the point and behind it, and the exponent,
if there is one, with its sign. -/
structure Parts where
  whole : List Char
  fraction : List Char
  power : Option (Bool × List Char)

namespace Parts

/-- The text of the exponent. -/
def powerText (parts : Parts) : List Char :=
  match parts.power with
  | some (negative, digits) => 'e' :: (if negative then '-' else '+') :: digits
  | none => []

/-- The exponent, if there is one. -/
def exponent (parts : Parts) : Option Int :=
  parts.power.map fun power =>
    let size : Int := natOfDigits 10 (asciiDigits power.2)
    if power.1 then -size else size

/-- The text of the digits behind the point. -/
def fractionText (parts : Parts) : List Char :=
  match parts.fraction with
  | [] => []
  | digits => '.' :: digits

/-- The text of a number. -/
def text (parts : Parts) : List Char :=
  parts.whole ++ (parts.fractionText ++ parts.powerText)

/-- Whether the parts are those of a number in JSON: the digits before the point are one zero or
start with another digit, and there are digits in the exponent. -/
structure Valid (parts : Parts) : Prop where
  whole_digits : ∀ c ∈ parts.whole, c.isDigit = true
  whole_ne_nil : parts.whole ≠ []
  whole_head : parts.whole = ['0'] ∨ parts.whole.head? ≠ some '0'
  fraction_digits : ∀ c ∈ parts.fraction, c.isDigit = true
  power_digits : ∀ negative digits, parts.power = some (negative, digits) →
    digits ≠ [] ∧ ∀ c ∈ digits, c.isDigit = true

/-- Whether the number is written as an integer: without digits behind the point and without an
exponent. -/
def isInteger (parts : Parts) : Bool :=
  parts.fraction.isEmpty && parts.power.isNone

theorem fractionText_of_ne_nil {parts : Parts} (h : parts.fraction ≠ []) :
    parts.fractionText = '.' :: parts.fraction := by
  obtain ⟨c, cs, hfraction⟩ := List.exists_cons_of_ne_nil h
  rw [fractionText, hfraction]

/-- Parts with digits behind the point and without an exponent. -/
theorem valid_pointed {whole fraction : List Char} (hwhole : ∀ c ∈ whole, c.isDigit = true)
    (hne : whole ≠ []) (hhead : whole = ['0'] ∨ whole.head? ≠ some '0')
    (hfraction : ∀ c ∈ fraction, c.isDigit = true) (hfractionNe : fraction ≠ []) :
    (Parts.mk whole fraction none).Valid ∧ (Parts.mk whole fraction none).isInteger = false ∧
      (Parts.mk whole fraction none).text = whole ++ '.' :: fraction := by
  refine ⟨⟨hwhole, hne, hhead, hfraction, fun _ _ h => by cases h⟩, ?_, ?_⟩
  · rw [isInteger, List.isEmpty_eq_false_iff.mpr hfractionNe]
    rfl
  · rw [text, fractionText_of_ne_nil hfractionNe, powerText, List.append_nil]

end Parts

theorem valid_decimalText (n : Nat) : (Parts.mk (decimalText n) [] none).Valid where
  whole_digits _ := isDigit_of_mem_decimalText
  whole_ne_nil := decimalText_ne_nil n
  whole_head := by
    by_cases h : n = 0
    · exact .inl (h ▸ rfl)
    · exact .inr (head?_decimalText_ne h)
  fraction_digits _ hc := absurd hc List.not_mem_nil
  power_digits _ _ h := by cases h

namespace Double

section Spelling

variable {digits : List Char} (hdigits : ∀ c ∈ digits, c.isDigit = true) (hne : digits ≠ [])
  (hhead : digits.head? ≠ some '0')
include hdigits hne hhead

/-- Digits with a point among them, in front of them or behind them. -/
theorem exists_parts_positional {k top : Int} (htop : top = digits.length - 1 + k) :
    ∃ parts : Parts, parts.Valid ∧ parts.isInteger = false ∧
      parts.text = positional digits k top := by
  have hzeros (n : Nat) : ∀ c ∈ List.replicate n '0', c.isDigit = true := by
    intro c hc
    rw [List.eq_of_mem_replicate hc]
    rfl
  obtain ⟨first, rest, rfl⟩ := List.exists_cons_of_ne_nil hne
  rw [List.length_cons] at htop
  unfold positional
  split
  · refine ⟨_, Parts.valid_pointed (List.forall_mem_append.mpr ⟨hdigits, hzeros _⟩) ?_ (.inr hhead)
      (List.forall_mem_singleton.mpr rfl) (List.cons_ne_nil '0' [])⟩
    exact List.append_ne_nil_of_left_ne_nil hne _
  · split
    · obtain ⟨n, hn⟩ : ∃ n, (top + 1).toNat = n + 1 := ⟨top.toNat, by omega⟩
      have hlength : n < rest.length := by omega
      rw [hn, List.take_succ_cons, List.drop_succ_cons]
      refine ⟨_, Parts.valid_pointed (fun c hc => ?_) (List.cons_ne_nil _ _) (.inr hhead)
        (fun c hc => ?_) ?_⟩
      · exact hdigits c ((List.take_sublist (n + 1) (first :: rest)).subset hc)
      · exact hdigits c (List.mem_cons_of_mem _ (List.mem_of_mem_drop hc))
      · exact fun hnil => by
          rw [List.drop_eq_nil_iff] at hnil
          omega
    · exact ⟨_, Parts.valid_pointed (List.forall_mem_singleton.mpr rfl) (List.cons_ne_nil '0' [])
        (.inl rfl) (List.forall_mem_append.mpr ⟨hzeros _, hdigits⟩)
        (List.append_ne_nil_of_right_ne_nil _ hne)⟩

/-- Digits with a point behind the first one, and an exponent. -/
theorem exists_parts_scientific (top : Int) :
    ∃ parts : Parts, parts.Valid ∧ parts.isInteger = false ∧
      parts.text = scientific digits top := by
  obtain ⟨first, rest, rfl⟩ := List.exists_cons_of_ne_nil hne
  refine ⟨⟨[first], rest, some (decide (top < 0), padded 2 top.natAbs)⟩, ?_, ?_, ?_⟩
  · refine ⟨?_, List.cons_ne_nil _ _, .inr hhead, ?_, ?_⟩
    · exact List.forall_mem_singleton.mpr (hdigits first List.mem_cons_self)
    · exact fun c hc => hdigits c (List.mem_cons_of_mem _ hc)
    · rintro negative ds hpower
      obtain ⟨_, rfl⟩ := Prod.mk.inj (Option.some.inj hpower)
      exact ⟨padded_ne_nil _ _, fun c => isDigit_of_mem_padded⟩
  · exact Bool.and_false _
  · rw [scientific, Parts.text, Parts.fractionText, Parts.powerText]
    cases rest <;> simp

end Spelling

/-- A double is written in the parts of a number, and not as an integer. -/
theorem exists_parts_magnitudeText (m s : Nat) :
    ∃ parts : Parts, parts.Valid ∧ parts.isInteger = false ∧ parts.text = magnitudeText m s := by
  unfold magnitudeText
  split
  · exact ⟨_, Parts.valid_pointed (List.forall_mem_singleton.mpr rfl) (List.cons_ne_nil '0' [])
      (.inl rfl) (List.forall_mem_singleton.mpr rfl) (List.cons_ne_nil '0' [])⟩
  · rename_i hm
    have hdigits (c : Char) := isDigit_of_mem_decimalText (n := (shortest m s).1) (c := c)
    have hne := decimalText_ne_nil (shortest m s).1
    have hhead := head?_decimalText_ne (shortest_ne_zero (s := s) hm)
    dsimp only
    split
    · exact exists_parts_positional hdigits hne hhead rfl
    · exact exists_parts_scientific hdigits hne hhead _

end Double

end RoutedFields
