import RoutedFields.Proofs.Reference.Segments

/-!
# Segments that are read as integers

An integer is written in its decimal spelling, but it is read from many more texts: signs, blanks
around it, underscores and zeros in front of it are accepted, and the digits of other scripts.

* `DigitRow`, `SpellsSigned`, `Spells`: the texts that spell integers.
* `numeral?_eq_some_iff`: exactly these are read as integers.
* `numeral?_unescape_iff`: none of them needs an escape.
* `spells_decimalText_iff`: the decimal spelling of a number spells it, if it is not too long.
-/

namespace RoutedFields.Pointer

/-! ## Texts that spell integers -/

/-- Digits of any script, with single underscores between them, and their values. -/
inductive DigitRow : List Char → List Nat → Prop
  | last {c : Char} {d : Nat} (hdigit : Text.digitValue? c = some d) : DigitRow [c] [d]
  | next {c : Char} {d : Nat} {s : List Char} {ds : List Nat}
    (hdigit : Text.digitValue? c = some d) (hrest : DigitRow s ds) : DigitRow (c :: s) (d :: ds)
  | underscore {c : Char} {d : Nat} {s : List Char} {ds : List Nat}
    (hdigit : Text.digitValue? c = some d) (hrest : DigitRow s ds) :
    DigitRow (c :: '_' :: s) (d :: ds)

/-- Whether a text spells an integer by its digits, of which there may not be more than an integer
may have, and perhaps a sign in front of them. -/
inductive SpellsSigned : List Char → Int → Prop
  | bare {s : List Char} {ds : List Nat} (hrow : DigitRow s ds)
    (hlength : ds.length ≤ longestInteger) : SpellsSigned s (natOfDigits 10 ds)
  | plus {s : List Char} {ds : List Nat} (hrow : DigitRow s ds)
    (hlength : ds.length ≤ longestInteger) : SpellsSigned ('+' :: s) (natOfDigits 10 ds)
  | minus {s : List Char} {ds : List Nat} (hrow : DigitRow s ds)
    (hlength : ds.length ≤ longestInteger) : SpellsSigned ('-' :: s) (-natOfDigits 10 ds)

/-- Whether a text spells an integer, with blanks around it or not. -/
def Spells (s : List Char) (n : Int) : Prop :=
  ∃ before word after, s = before ++ (word ++ after) ∧ (∀ c ∈ before, isNumeralBlank c = true) ∧
    (∀ c ∈ after, isNumeralBlank c = true) ∧ SpellsSigned word n

section Digits

variable {c : Char} {d : Nat} {s : List Char} {ds : List Nat} {n : Int}

theorem digitValue?_of_isDigit (h : c.isDigit = true) :
    Text.digitValue? c = some (c.toNat - '0'.toNat) := by
  have hascii : c.toNat < 128 := by
    rw [Char.isDigit, Bool.and_eq_true, decide_eq_true_iff, decide_eq_true_iff] at h
    have hhigh : c.toNat ≤ 57 := h.2
    omega
  rw [Text.digitValue?, if_pos hascii, if_pos h]

/-- No digit of any script is a blank. -/
theorem isNumeralBlank_of_digitValue? (h : Text.digitValue? c = some d) :
    isNumeralBlank c = false := by
  have hblank : Text.isBlank c = false := by
    rw [Text.digitValue?] at h
    split at h
    · rename_i hascii
      split at h
      · rename_i hdigit
        rw [Char.isDigit, Bool.and_eq_true, decide_eq_true_iff, decide_eq_true_iff] at hdigit
        have hlow : 48 ≤ c.toNat := hdigit.1
        simp [Text.isBlank, hascii]
        omega
      · cases h
    · rename_i hascii
      obtain ⟨start, hfound, _⟩ := Option.map_eq_some_iff.mp h
      have hmem := List.mem_of_find?_eq_some hfound
      have hrange := List.find?_some hfound
      have hall : ∀ start ∈ Text.decimalZeros, ∀ i < 10,
          Text.inRanges Text.blankRanges (start + i) = false := by decide
      have hcode := hall start hmem (c.toNat - start) (by simp at hrange; omega)
      rw [Nat.add_sub_cancel' (by simp at hrange; omega)] at hcode
      simp [Text.isBlank, hascii, hcode]
  rw [isNumeralBlank, hblank, Bool.false_and]

theorem DigitRow.exists_cons (h : DigitRow s ds) :
    ∃ c rest d, s = c :: rest ∧ Text.digitValue? c = some d := by
  cases h with
  | last hdigit => exact ⟨_, _, _, rfl, hdigit⟩
  | next hdigit _ => exact ⟨_, _, _, rfl, hdigit⟩
  | underscore hdigit _ => exact ⟨_, _, _, rfl, hdigit⟩

theorem DigitRow.of_mem (h : DigitRow s ds) (hc : c ∈ s) :
    c = '_' ∨ ∃ d, Text.digitValue? c = some d := by
  induction h with
  | last hdigit => exact .inr ⟨_, List.mem_singleton.mp hc ▸ hdigit⟩
  | next hdigit _ ih =>
    rcases List.mem_cons.mp hc with rfl | hc
    · exact .inr ⟨_, hdigit⟩
    · exact ih hc
  | underscore hdigit _ ih =>
    rcases List.mem_cons.mp hc with rfl | hc
    · exact .inr ⟨_, hdigit⟩
    · rcases List.mem_cons.mp hc with rfl | hc
      · exact .inl rfl
      · exact ih hc

theorem digitRow_asciiDigits (hne : s ≠ []) (h : ∀ c ∈ s, c.isDigit = true) :
    DigitRow s (asciiDigits s) := by
  induction s with
  | nil => exact absurd rfl hne
  | cons c s ih =>
    obtain ⟨hc, hs⟩ := List.forall_mem_cons.mp h
    cases s with
    | nil => exact .last (digitValue?_of_isDigit hc)
    | cons d s => exact .next (digitValue?_of_isDigit hc) (ih (List.cons_ne_nil d s) hs)

/-- A row of ASCII digits has the values of these. -/
theorem DigitRow.eq_asciiDigits (h : DigitRow s ds) (hascii : ∀ c ∈ s, c.isDigit = true) :
    ds = asciiDigits s := by
  induction h with
  | last hdigit =>
    rw [digitValue?_of_isDigit (hascii _ List.mem_cons_self)] at hdigit
    rw [← Option.some.inj hdigit]
    rfl
  | next hdigit _ ih =>
    obtain ⟨hc, hs⟩ := List.forall_mem_cons.mp hascii
    rw [digitValue?_of_isDigit hc] at hdigit
    rw [ih hs, ← Option.some.inj hdigit]
    rfl
  | underscore _ _ _ =>
    obtain ⟨_, hs⟩ := List.forall_mem_cons.mp hascii
    exact absurd (hs _ List.mem_cons_self) (by decide)

theorem digitValues?_eq_some_iff : digitValues? s = some ds ↔ DigitRow s ds := by
  constructor
  · intro h
    induction s using digitValues?.induct generalizing ds with
    | case1 => cases h
    | case2 c =>
      obtain ⟨d, hd, rfl⟩ := Option.map_eq_some_iff.mp h
      exact .last hd
    | case3 c rest ih =>
      obtain ⟨d, hd, h⟩ := Option.bind_eq_some_iff.mp h
      obtain ⟨values, hvalues, hpure⟩ := Option.bind_eq_some_iff.mp h
      obtain rfl := Option.some.inj hpure
      exact .underscore hd (ih hvalues)
    | case4 c rest hne hnot ih =>
      rw [digitValues?.eq_4 c rest hne hnot] at h
      obtain ⟨d, hd, h⟩ := Option.bind_eq_some_iff.mp h
      obtain ⟨values, hvalues, hpure⟩ := Option.bind_eq_some_iff.mp h
      obtain rfl := Option.some.inj hpure
      exact .next hd (ih hvalues)
  · intro h
    induction h with
    | last hdigit =>
      rw [digitValues?, hdigit]
      rfl
    | next hdigit hrest ih =>
      -- the next character is a digit, and so no underscore
      obtain ⟨first, rest, value, rfl, hfirst⟩ := hrest.exists_cons
      have hnot (more : List Char) : first :: rest = '_' :: more → False := by
        rintro ⟨⟩
        cases hfirst
      rw [digitValues?.eq_4 _ _ (List.cons_ne_nil first rest) hnot, hdigit, ih]
      rfl
    | underscore hdigit _ ih =>
      rw [digitValues?, hdigit, ih]
      rfl

theorem DigitRow.digitValue?_ne_none {rest : List Char} (h : DigitRow (c :: rest) ds) :
    Text.digitValue? c ≠ none := by
  obtain ⟨first, more, d, heq, hdigit⟩ := h.exists_cons
  rw [(List.cons.inj heq).1, hdigit]
  exact Option.some_ne_none d

theorem map_digitValues?_iff {value : List Nat → Int} :
    ((digitValues? s).filter (·.length ≤ longestInteger)).map value = some n ↔
      ∃ ds, DigitRow s ds ∧ ds.length ≤ longestInteger ∧ value ds = n := by
  simp only [Option.map_eq_some_iff, Option.filter_eq_some_iff, digitValues?_eq_some_iff,
    decide_eq_true_iff, and_assoc]

/-- What stands between the blanks is read as an integer exactly if it spells it. -/
theorem numeral?_of_word {word : List Char}
    (hword : ((s.dropWhile isNumeralBlank).reverse.dropWhile isNumeralBlank).reverse = word) :
    numeral? s = some n ↔ SpellsSigned word n := by
  unfold numeral?
  rw [hword]
  dsimp only
  split
  · rw [map_digitValues?_iff]
    constructor
    · rintro ⟨ds, hrow, hlength, rfl⟩
      exact .minus hrow hlength
    · rintro (⟨hrow, _⟩ | _ | ⟨hrow, hlength⟩)
      · exact absurd rfl hrow.digitValue?_ne_none
      · exact ⟨_, hrow, hlength, rfl⟩
  · rw [map_digitValues?_iff]
    constructor
    · rintro ⟨ds, hrow, hlength, rfl⟩
      exact .plus hrow hlength
    · rintro (⟨hrow, _⟩ | ⟨hrow, hlength⟩ | _)
      · exact absurd rfl hrow.digitValue?_ne_none
      · exact ⟨_, hrow, hlength, rfl⟩
  · rename_i hminus hplus
    rw [map_digitValues?_iff]
    constructor
    · rintro ⟨ds, hrow, hlength, rfl⟩
      exact .bare hrow hlength
    · rintro (⟨hrow, hlength⟩ | _ | _)
      · exact ⟨_, hrow, hlength, rfl⟩
      · exact absurd rfl (hplus _)
      · exact absurd rfl (hminus _)

theorem SpellsSigned.of_mem (h : SpellsSigned s n) (hc : c ∈ s) :
    c ∈ ['_', '+', '-'] ∨ ∃ d, Text.digitValue? c = some d := by
  have hrow {digits : List Char} {ds : List Nat} (hrow : DigitRow digits ds) (hc : c ∈ digits) :
      c ∈ ['_', '+', '-'] ∨ ∃ d, Text.digitValue? c = some d :=
    (hrow.of_mem hc).imp_left fun heq => by
      rw [heq]
      decide
  cases h with
  | bare h _ => exact hrow h hc
  | plus h _ =>
    rcases List.mem_cons.mp hc with rfl | hc
    · exact .inl (by decide)
    · exact hrow h hc
  | minus h _ =>
    rcases List.mem_cons.mp hc with rfl | hc
    · exact .inl (by decide)
    · exact hrow h hc

/-- What spells an integer has no blanks in it. -/
theorem SpellsSigned.isNumeralBlank_eq_false (h : SpellsSigned s n) (hc : c ∈ s) :
    isNumeralBlank c = false := by
  rcases h.of_mem hc with hother | ⟨d, hdigit⟩
  · simp only [List.mem_cons, List.not_mem_nil, or_false] at hother
    rcases hother with rfl | rfl | rfl <;> decide
  · exact isNumeralBlank_of_digitValue? hdigit

/-- A text is read as an integer exactly if it spells it. -/
theorem numeral?_eq_some_iff : numeral? s = some n ↔ Spells s n := by
  constructor
  · intro h
    obtain ⟨before, after, hs, hbefore, hafter⟩ := Text.exists_margins isNumeralBlank s
    exact ⟨before, _, after, hs, hbefore, hafter, (numeral?_of_word rfl).mp h⟩
  · rintro ⟨before, word, after, rfl, hbefore, hafter, hword⟩
    have hnoBlank (c : Char) (hc : c ∈ word) : isNumeralBlank c = false :=
      hword.isNumeralBlank_eq_false hc
    exact (numeral?_of_word (Text.strip_of_margins hbefore hnoBlank hafter)).mpr hword

theorem Spells.of_mem (h : Spells s n) (hc : c ∈ s) :
    isNumeralBlank c = true ∨ c ∈ ['_', '+', '-'] ∨ ∃ d, Text.digitValue? c = some d := by
  obtain ⟨before, word, after, rfl, hbefore, hafter, hword⟩ := h
  rcases List.mem_append.mp hc with hc | hc
  · exact .inl (hbefore c hc)
  · rcases List.mem_append.mp hc with hc | hc
    · exact .inr (hword.of_mem hc)
    · exact .inl (hafter c hc)

theorem not_mem_of_spells (h : Spells s n) (hblank : isNumeralBlank c = false)
    (hother : c ∉ ['_', '+', '-']) (hdigit : Text.digitValue? c = none) : c ∉ s := by
  intro hc
  rcases h.of_mem hc with hc | hc | ⟨d, hd⟩
  · rw [hblank] at hc
    cases hc
  · exact hother hc
  · rw [hdigit] at hd
    cases hd

/-- What spells an integer needs no escapes, and a segment is read as an integer exactly if it
spells the integer itself. -/
theorem numeral?_unescape_iff : numeral? (unescape s) = some n ↔ Spells s n := by
  rw [numeral?_eq_some_iff]
  constructor
  · intro h
    have hslash : '/' ∉ unescape s := not_mem_of_spells h (by decide) (by decide) (by decide)
    have htilde : '~' ∉ unescape s := not_mem_of_spells h (by decide) (by decide) (by decide)
    rwa [← eq_of_unescape rfl hslash htilde] at h
  · intro h
    rwa [unescape_of_not_mem (not_mem_of_spells h (by decide) (by decide) (by decide))]

/-- A text without blanks that spells an integer does so by itself. -/
theorem Spells.signed (h : Spells s n) (hblank : ∀ c ∈ s, isNumeralBlank c = false) :
    SpellsSigned s n := by
  obtain ⟨before, word, after, rfl, hbefore, hafter, hword⟩ := h
  have hnil {margin : List Char} (hsub : ∀ c ∈ margin, c ∈ before ++ (word ++ after))
      (hmargin : ∀ c ∈ margin, isNumeralBlank c = true) : margin = [] := by
    refine List.eq_nil_iff_forall_not_mem.mpr fun c hc => ?_
    have hnot := hblank c (hsub c hc)
    rw [hmargin c hc] at hnot
    cases hnot
  rw [hnil (fun c hc => List.mem_append_left _ hc) hbefore,
    hnil (fun c hc => List.mem_append_right _ (List.mem_append_right _ hc)) hafter,
    List.nil_append, List.append_nil]
  exact hword

/-- ASCII digits without anything else spell the number that they are the digits of. -/
theorem SpellsSigned.of_isDigit (h : SpellsSigned s n) (hs : ∀ c ∈ s, c.isDigit = true) :
    n = natOfDigits 10 (asciiDigits s) ∧ s.length ≤ longestInteger := by
  cases h with
  | bare hrow hlength =>
    obtain rfl := hrow.eq_asciiDigits hs
    rw [asciiDigits, List.length_map] at hlength
    exact ⟨rfl, hlength⟩
  | plus _ _ => exact absurd (hs '+' List.mem_cons_self) (by decide)
  | minus _ _ => exact absurd (hs '-' List.mem_cons_self) (by decide)

/-- The decimal spelling of a number spells that number and no other one, unless it is too long. -/
theorem spells_decimalText_iff {i : Nat} :
    Spells (decimalText i) n ↔ n = i ∧ (decimalText i).length ≤ longestInteger := by
  have hdigits : ∀ c ∈ decimalText i, c.isDigit = true := fun c => isDigit_of_mem_decimalText
  constructor
  · intro h
    have hblank (c : Char) (hc : c ∈ decimalText i) : isNumeralBlank c = false :=
      isNumeralBlank_of_digitValue? (digitValue?_of_isDigit (hdigits c hc))
    have hspells := (h.signed hblank).of_isDigit hdigits
    rwa [natOfDigits_decimalText] at hspells
  · rintro ⟨rfl, hlength⟩
    have hrow := digitRow_asciiDigits (decimalText_ne_nil i) hdigits
    refine ⟨[], decimalText i, [], (List.append_nil _).symm, nofun, nofun, ?_⟩
    have hspells := SpellsSigned.bare hrow (by rwa [asciiDigits, List.length_map])
    rwa [natOfDigits_decimalText] at hspells

end Digits

end RoutedFields.Pointer
