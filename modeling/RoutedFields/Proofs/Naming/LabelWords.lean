import RoutedFields.Proofs.Naming.WordBoundaries
import RoutedFields.Proofs.Text.Ascii

/-!
# The words of labels

The label of an ASCII text shows its words with a blank between them: the longest runs of letters and
digits, cut where a lower-case letter meets an upper-case one, before an upper-case letter between an
upper-case and a lower-case one, and where digits meet letters.

* `endsWord`, `asciiWords`: the rule and the words.
* `wordsBy_of_isAscii`: on ASCII texts, words end by this rule.
* `IsWord`, `asciiWords_spec`: what the words of a text have in common.
* `asciiWords_intercalate`: words with blanks between them are read again as these words.
* `LabelWord`, `labelWord_of_isWord`: what the words of a label look like.
* `label_of_isAscii`: all of this in one statement; the label of a label is that label.
-/

namespace RoutedFields

/-! ## Words of ASCII texts -/

/-- Whether a word ends between a letter or digit and what follows it. -/
def endsWord (c : Char) : List Char → Bool
  | [] => false
  | d :: after =>
    c.isLower && d.isUpper || c.isUpper && d.isUpper && after.head?.any Char.isLower ||
      c.isDigit != d.isDigit

/-- The words of an ASCII text. -/
def asciiWords (s : List Char) : List (List Char) :=
  wordsBy Char.isAlphanum endsWord s

section Rule

variable {c d : Char} {rest after : List Char}

theorem isLower_eq (c : Char) : isLower c = c.isLower := by
  simp [isLower, Char.isLower, Char.le_def]

theorem isUpper_eq (c : Char) : isUpper c = c.isUpper := by
  simp [isUpper, Char.isUpper, Char.le_def]

/-- Between letters and digits of ASCII, the ends of words are those of the general rule. -/
theorem isBoundary_of_isAlphanum (hc : c.isAlphanum = true) (hd : d.isAlphanum = true) :
    isBoundary c (d :: after) = endsWord c (d :: after) := by
  have hletter {x : Char} (hx : x.isAlphanum = true) :
      Text.isLetter x = !x.isDigit ∧ Text.isDecimalDigit x = x.isDigit := by
    have hascii := Text.toNat_lt_of_isAlphanum hx
    rw [Text.isLetter, Text.isDecimalDigit_of_ascii hascii, Text.isAlphanumeric_of_ascii hascii, hx]
    exact ⟨Bool.true_and _, rfl⟩
  have hcapital : beforeLastCapital c (d :: after) =
      (c.isUpper && d.isUpper && after.head?.any Char.isLower) := by
    cases after <;> simp [beforeLastCapital, isLower_eq, isUpper_eq]
  rw [isBoundary, hcapital, endsWord]
  simp only [betweenPair, List.head?_cons, Option.any_some, isLower_eq, isUpper_eq,
    (hletter hc).1, (hletter hc).2, (hletter hd).1, (hletter hd).2]
  cases c.isDigit <;> cases d.isDigit <;> simp

theorem wordsBy_of_isAscii {s : List Char} (h : Text.IsAscii s) :
    wordsBy (fun c => !isSeparator c) isBoundary s = asciiWords s := by
  rw [asciiWords]
  induction s with
  | nil => rfl
  | cons c rest ih =>
    obtain ⟨hc, hrest⟩ := Text.isAscii_cons_iff.mp h
    have hpart {x : Char} (hx : x.toNat < 128) : (!isSeparator x) = x.isAlphanum := by
      rw [Text.isSeparator_of_ascii hx, Bool.not_not]
    have hnext : rest.head?.any (fun c => !isSeparator c) = rest.head?.any Char.isAlphanum := by
      cases rest with
      | nil => rfl
      | cons d after => exact hpart (Text.isAscii_cons_iff.mp hrest).1
    rw [wordsBy, wordsBy, ih hrest, hpart hc, hnext]
    cases hword : c.isAlphanum with
    | false => rfl
    | true =>
      cases rest with
      | nil => rfl
      | cons d after =>
        cases hd : d.isAlphanum with
        | false => simp [hd]
        | true => rw [isBoundary_of_isAlphanum hword hd]

/-- On an ASCII text, words get a capital in ASCII. -/
theorem capitalize_of_isAscii {word : List Char} (h : Text.IsAscii word) :
    capitalize word = word.modifyHead Char.toUpper := by
  cases word with
  | nil => rfl
  | cons c rest =>
    rw [capitalize, Text.upperChar, if_pos (Text.isAscii_cons_iff.mp h).1]
    rfl

end Rule

/-! ## Words -/

/-- Whether no word ends within a text. -/
def isUncut : List Char → Bool
  | [] => true
  | c :: rest => !endsWord c rest && isUncut rest

/-- A text that is one word. -/
structure IsWord (word : List Char) : Prop where
  ne_nil : word ≠ []
  parts : ∀ c ∈ word, c.isAlphanum = true
  uncut : isUncut word = true

section Words

variable {c : Char} {rest s word : List Char}

/-- Whether a word ends may hang on the text behind it, but less text means fewer ends. -/
theorem endsWord_of_isPrefix (hstarts : rest <+: s) (h : endsWord c s = false) :
    endsWord c rest = false := by
  obtain ⟨more, rfl⟩ := hstarts
  cases rest with
  | nil => rfl
  | cons d after =>
    cases after with
    | nil =>
      change endsWord c (d :: more) = false at h
      simp only [endsWord, Bool.or_eq_false_iff] at h ⊢
      exact ⟨⟨h.1.1, Bool.and_false _⟩, h.2⟩
    | cons e after => exact h

theorem isWord_cons_iff {d : Char} :
    IsWord (c :: d :: rest) ↔
      c.isAlphanum = true ∧ endsWord c (d :: rest) = false ∧ IsWord (d :: rest) := by
  constructor
  · rintro ⟨-, hparts, huncut⟩
    obtain ⟨hc, hrest⟩ := List.forall_mem_cons.mp hparts
    rw [isUncut, Bool.and_eq_true, Bool.not_eq_true'] at huncut
    exact ⟨hc, huncut.1, List.cons_ne_nil d rest, hrest, huncut.2⟩
  · rintro ⟨hc, hends, -, hparts, huncut⟩
    refine ⟨List.cons_ne_nil c _, List.forall_mem_cons.mpr ⟨hc, hparts⟩, ?_⟩
    rw [isUncut, hends, huncut]
    rfl

theorem isWord_singleton (h : c.isAlphanum = true) : IsWord [c] :=
  ⟨List.cons_ne_nil c [], by simpa using h, rfl⟩

/-- The words of a text are words. The first one stands at the start if a letter or digit does. -/
theorem asciiWords_spec (s : List Char) :
    (∀ word ∈ asciiWords s, IsWord word) ∧
      (s.head?.any Char.isAlphanum = true → ∃ word words, asciiWords s = word :: words ∧
        word <+: s) := by
  unfold asciiWords
  induction s with
  | nil => exact ⟨List.forall_mem_nil _, nofun⟩
  | cons c rest ih =>
    obtain ⟨hall, hfirst⟩ := ih
    rw [wordsBy]
    cases hc : c.isAlphanum with
    | false => exact ⟨hall, fun h => by simp [hc] at h⟩
    | true =>
      rw [if_neg (by simp)]
      split
      · rename_i hnext
        rw [Bool.and_eq_true, Bool.not_eq_true'] at hnext
        obtain ⟨word, words, hwords, hstarts⟩ := hfirst hnext.1
        rw [hwords] at hall ⊢
        obtain ⟨hword, hwords⟩ := List.forall_mem_cons.mp hall
        refine ⟨List.forall_mem_cons.mpr ⟨?_, hwords⟩, fun _ =>
          ⟨c :: word, words, rfl, List.cons_prefix_cons.mpr ⟨rfl, hstarts⟩⟩⟩
        obtain ⟨d, more, rfl⟩ := List.exists_cons_of_ne_nil hword.ne_nil
        exact isWord_cons_iff.mpr ⟨hc, endsWord_of_isPrefix hstarts hnext.2, hword⟩
      · exact ⟨List.forall_mem_cons.mpr ⟨isWord_singleton hc, hall⟩, fun _ =>
          ⟨[c], _, rfl, List.cons_prefix_cons.mpr ⟨rfl, List.nil_prefix⟩⟩⟩

/-- A word with no letter or digit behind it is read as that word. -/
theorem asciiWords_append (hword : IsWord word) (hs : s.head?.any Char.isAlphanum = false) :
    asciiWords (word ++ s) = word :: asciiWords s := by
  unfold asciiWords
  induction word with
  | nil => exact absurd rfl hword.ne_nil
  | cons c rest ih =>
    have hc := hword.parts c List.mem_cons_self
    rw [List.cons_append, wordsBy, if_neg (by simp [hc])]
    cases rest with
    | nil => simp [hs]
    | cons d more =>
      obtain ⟨-, hends, hmore⟩ := isWord_cons_iff.mp hword
      have hd := hmore.parts d List.mem_cons_self
      have hcut : endsWord c (d :: more ++ s) = false := by
        cases more with
        | nil =>
          cases s with
          | nil => exact hends
          | cons e s =>
            have he : e.isLower = false := by
              simp [Char.isAlphanum, Char.isAlpha] at hs
              exact hs.1.2
            simpa [endsWord, he] using hends
        | cons e more => exact hends
      rw [if_pos (by rw [hcut]; simp [hd]), ih hmore]
      rfl

/-- Words with blanks between them are read as these words. -/
theorem asciiWords_intercalate {words : List (List Char)} (h : ∀ word ∈ words, IsWord word) :
    asciiWords ([' '].intercalate words) = words := by
  induction words with
  | nil => rfl
  | cons word words ih =>
    obtain ⟨hword, hwords⟩ := List.forall_mem_cons.mp h
    cases words with
    | nil =>
      have hread := asciiWords_append hword (s := []) rfl
      rw [List.append_nil] at hread
      rw [List.intercalate_singleton, hread]
      rfl
    | cons next words =>
      rw [List.intercalate_cons_cons, List.append_assoc, asciiWords_append hword rfl]
      exact congrArg (word :: ·) (ih hwords)

end Words

/-! ## Words with a capital -/

/-- A word of a label: upper-case letters, a capital and lower-case letters, or digits. -/
inductive LabelWord : List Char → Prop
  | capitals (c : Char) (rest : List Char) : (∀ x ∈ c :: rest, x.isUpper = true) →
      LabelWord (c :: rest)
  | capitalized (c : Char) (rest : List Char) : c.isUpper = true →
      (∀ x ∈ rest, x.isLower = true) → LabelWord (c :: rest)
  | digits (c : Char) (rest : List Char) : (∀ x ∈ c :: rest, x.isDigit = true) →
      LabelWord (c :: rest)

section Capitals

variable {c : Char} {rest word : List Char}

theorem isAlphanum_iff : c.isAlphanum = true ↔
    c.isLower = true ∧ c.isUpper = false ∧ c.isDigit = false ∨
      c.isUpper = true ∧ c.isLower = false ∧ c.isDigit = false ∨
      c.isDigit = true ∧ c.isLower = false ∧ c.isUpper = false := by
  by_cases h : c.toNat < 128
  · revert h
    apply Text.forall_ascii
    decide +kernel
  · refine iff_of_false (fun halphanum => h (Text.toNat_lt_of_isAlphanum halphanum)) ?_
    rintro (⟨hc, -⟩ | ⟨hc, -⟩ | ⟨hc, -⟩) <;>
      exact h (Text.toNat_lt_of_isAlphanum (by simp [Char.isAlphanum, Char.isAlpha, hc]))

/-- Letters and digits stay what they are behind a first one: only capitals go on in either case. -/
theorem classes_of_isWord (h : IsWord (c :: rest)) :
    (c.isDigit = true ∧ ∀ x ∈ rest, x.isDigit = true) ∨
    (c.isLower = true ∧ ∀ x ∈ rest, x.isLower = true) ∨
    (c.isUpper = true ∧ ((∀ x ∈ rest, x.isLower = true) ∨ ∀ x ∈ rest, x.isUpper = true)) := by
  induction rest generalizing c with
  | nil =>
    have hc := isAlphanum_iff.mp (h.parts c List.mem_cons_self)
    rcases hc with ⟨hc, -⟩ | ⟨hc, -⟩ | ⟨hc, -⟩
    · exact .inr (.inl ⟨hc, List.forall_mem_nil _⟩)
    · exact .inr (.inr ⟨hc, .inl (List.forall_mem_nil _)⟩)
    · exact .inl ⟨hc, List.forall_mem_nil _⟩
  | cons d more ih =>
    obtain ⟨hc, hends, hmore⟩ := isWord_cons_iff.mp h
    have hclass := isAlphanum_iff.mp hc
    have hclass' := isAlphanum_iff.mp (hmore.parts d List.mem_cons_self)
    simp only [endsWord, Bool.or_eq_false_iff, bne_eq_false_iff_eq] at hends
    simp only [List.forall_mem_cons]
    rcases ih hmore with ⟨hd, hall⟩ | ⟨hd, hall⟩ | ⟨hd, hall⟩
    · grind
    · grind
    · -- behind a capital no lower-case letter may follow, unless that is the last capital
      rcases hall with hall | hall
      · cases more with
        | nil => grind
        | cons e more => grind
      · grind

/-- With a capital, a word is a word of a label. -/
theorem labelWord_of_isWord (h : IsWord word) : LabelWord (word.modifyHead Char.toUpper) := by
  obtain ⟨c, rest, rfl⟩ := List.exists_cons_of_ne_nil h.ne_nil
  rw [List.modifyHead_cons]
  have hclass := isAlphanum_iff.mp (h.parts c List.mem_cons_self)
  rcases classes_of_isWord h with ⟨hc, hall⟩ | ⟨hc, hall⟩ | ⟨hc, hall⟩
  · rw [Char.toUpper_eq_of_not_isLower (by grind)]
    exact .digits c rest (List.forall_mem_cons.mpr ⟨hc, hall⟩)
  · refine .capitalized _ rest ?_ hall
    rw [Char.isUpper_toUpper_eq_isAlpha, Char.isAlpha, hc, Bool.or_true]
  · rw [Char.toUpper_eq_of_not_isLower (by grind)]
    rcases hall with hlower | hupper
    · exact .capitalized c rest hc hlower
    · exact .capitals c rest (List.forall_mem_cons.mpr ⟨hc, hupper⟩)

/-- Characters of one class are a word, if words do not end between them. -/
theorem isWord_of_class {p : Char → Bool} (hpart : ∀ c, p c = true → c.isAlphanum = true)
    (hends : ∀ c d after, p c = true → p d = true → (∀ e ∈ after, p e = true) →
      endsWord c (d :: after) = false)
    (h : ∀ x ∈ c :: rest, p x = true) : IsWord (c :: rest) := by
  induction rest generalizing c with
  | nil => exact isWord_singleton (hpart c (h c List.mem_cons_self))
  | cons d more ih =>
    obtain ⟨hc, hrest⟩ := List.forall_mem_cons.mp h
    obtain ⟨hd, hmore⟩ := List.forall_mem_cons.mp hrest
    exact isWord_cons_iff.mpr ⟨hpart c hc, hends c d more hc hd hmore, ih hrest⟩

/-- A word of a label is a word. -/
theorem isWord_of_labelWord (h : LabelWord word) : IsWord word := by
  have hupper {c : Char} (hc : c.isUpper = true) : c.isLower = false ∧ c.isDigit = false := by
    have := isAlphanum_iff (c := c)
    grind [Char.isAlphanum, Char.isAlpha]
  have hlower {c : Char} (hc : c.isLower = true) : c.isUpper = false ∧ c.isDigit = false := by
    have := isAlphanum_iff (c := c)
    grind [Char.isAlphanum, Char.isAlpha]
  have hdigit {c : Char} (hc : c.isDigit = true) : c.isLower = false ∧ c.isUpper = false := by
    have := isAlphanum_iff (c := c)
    grind [Char.isAlphanum, Char.isAlpha]
  cases h with
  | capitals c rest hall =>
    refine isWord_of_class (fun c hc => by simp [Char.isAlphanum, Char.isAlpha, hc]) ?_ hall
    intro c d after hc hd hafter
    have hnext : after.head?.any Char.isLower = false := by
      cases after with
      | nil => rfl
      | cons e after => exact (hupper (hafter e List.mem_cons_self)).1
    simp [endsWord, hupper hc, hupper hd, hnext]
  | capitalized c rest hc hall =>
    have halphanum : c.isAlphanum = true := by simp [Char.isAlphanum, Char.isAlpha, hc]
    cases rest with
    | nil => exact isWord_singleton halphanum
    | cons d more =>
      have hd := hlower (hall d List.mem_cons_self)
      refine isWord_cons_iff.mpr ⟨halphanum, by simp [endsWord, hupper hc, hd], ?_⟩
      refine isWord_of_class (fun c hc => by simp [Char.isAlphanum, Char.isAlpha, hc]) ?_ hall
      intro c d after hc hd _
      simp [endsWord, hlower hc, hlower hd]
  | digits c rest hall =>
    refine isWord_of_class (fun c hc => by simp [Char.isAlphanum, hc]) ?_ hall
    intro c d after hc hd _
    simp [endsWord, hdigit hc, hdigit hd, hc, hd]

theorem modifyHead_of_labelWord (h : LabelWord word) : word.modifyHead Char.toUpper = word := by
  have hkept {c : Char} {rest : List Char} (hc : c.isUpper = true ∨ c.isDigit = true) :
      (c :: rest).modifyHead Char.toUpper = c :: rest := by
    have hclass : c.isAlphanum = true := by
      rcases hc with hc | hc <;> simp [Char.isAlphanum, Char.isAlpha, hc]
    rw [List.modifyHead_cons, Char.toUpper_eq_of_not_isLower (by grind [isAlphanum_iff])]
  cases h with
  | capitals c rest hall => exact hkept (.inl (hall c List.mem_cons_self))
  | capitalized c rest hc hall => exact hkept (.inl hc)
  | digits c rest hall => exact hkept (.inr (hall c List.mem_cons_self))

end Capitals

/-! ## Labels -/

/-- The words of a label. -/
def capitalizedWords (s : List Char) : List (List Char) :=
  (asciiWords s).map (·.modifyHead Char.toUpper)

section Labels

variable {s : List Char} {word : List Char}

theorem labelWord_of_mem (h : word ∈ capitalizedWords s) : LabelWord word := by
  obtain ⟨original, hmem, rfl⟩ := List.mem_map.mp h
  exact labelWord_of_isWord ((asciiWords_spec s).1 original hmem)

theorem isAscii_of_isWord (h : IsWord word) : Text.IsAscii word :=
  fun c hc => Text.toNat_lt_of_isAlphanum (h.parts c hc)

theorem labelWords_of_isAscii (h : Text.IsAscii s) : labelWords s = capitalizedWords s := by
  rw [labelWords_eq, wordsBy_of_isAscii h, capitalizedWords]
  refine List.map_congr_left fun word hword => ?_
  exact capitalize_of_isAscii (isAscii_of_isWord ((asciiWords_spec s).1 word hword))

/-- The words of a label are read again as its words. -/
theorem asciiWords_label (s : List Char) :
    asciiWords ([' '].intercalate (capitalizedWords s)) = capitalizedWords s :=
  asciiWords_intercalate fun _ hword => isWord_of_labelWord (labelWord_of_mem hword)

theorem capitalizedWords_label (s : List Char) :
    capitalizedWords ([' '].intercalate (capitalizedWords s)) = capitalizedWords s := by
  rw [capitalizedWords, asciiWords_label]
  exact (List.map_congr_left fun _ hword =>
    modifyHead_of_labelWord (labelWord_of_mem hword)).trans (List.map_id' _)

theorem label_of_capitalizedWords {text : String} (h : Text.IsAscii text.toList) :
    label (.str text) = String.ofList ([' '].intercalate (capitalizedWords text.toList)) := by
  change labelText text = _
  rw [labelText, labelWords_of_isAscii h]

/-- **Labels of ASCII texts.** The label of an ASCII text is its words, each with its first letter in
upper case, with single blanks between them. Each of these is upper-case letters, a capital with
lower-case letters, or digits. The words of the text hold its letters and digits in their order, and
those of the label hold the letters and digits of the label. The label of a label is that label. -/
theorem label_of_isAscii {text : String} (h : Text.IsAscii text.toList) :
    label (.str text) = String.ofList ([' '].intercalate
      ((asciiWords text.toList).map (·.modifyHead Char.toUpper))) ∧
    (∀ word ∈ asciiWords text.toList, LabelWord (word.modifyHead Char.toUpper)) ∧
    (asciiWords text.toList).flatten = text.toList.filter Char.isAlphanum ∧
    ((asciiWords text.toList).map (·.modifyHead Char.toUpper)).flatten =
      (label (.str text)).toList.filter Char.isAlphanum ∧
    label (.str (label (.str text))) = label (.str text) := by
  have hlabel := label_of_capitalizedWords h
  have hletters : (capitalizedWords text.toList).flatten =
      (label (.str text)).toList.filter Char.isAlphanum := by
    rw [hlabel, String.toList_ofList, ← @flatten_wordsBy _ endsWord, ← asciiWords,
      asciiWords_label]
  have hascii : Text.IsAscii (label (.str text)).toList := by
    rw [hlabel, String.toList_ofList]
    exact Text.isAscii_intercalate fun word hword =>
      isAscii_of_isWord (isWord_of_labelWord (labelWord_of_mem hword))
  refine ⟨hlabel, ?_, flatten_wordsBy _, hletters, ?_⟩
  · exact fun word hword => labelWord_of_isWord ((asciiWords_spec _).1 word hword)
  · rw [label_of_capitalizedWords hascii, hlabel, String.toList_ofList, capitalizedWords_label]

/-- Words that end in all three ways, between separators of several kinds. -/
theorem label_of_isAscii_page :
    label (.str "getHTTPServer_page2size") = "Get HTTP Server Page 2 Size" ∧
      label (.str (label (.str "getHTTPServer_page2size"))) = "Get HTTP Server Page 2 Size" := by
  have h : Text.IsAscii "getHTTPServer_page2size".toList := by decide
  obtain ⟨hlabel, -, -, -, hagain⟩ := label_of_isAscii h
  have htext : label (.str "getHTTPServer_page2size") = "Get HTTP Server Page 2 Size" := by
    rw [hlabel]
    decide +kernel
  exact ⟨htext, hagain.trans htext⟩

end Labels

end RoutedFields
