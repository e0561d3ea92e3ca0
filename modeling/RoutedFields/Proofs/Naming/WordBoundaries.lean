import RoutedFields.Naming.Label

/-!
# Where words end

Words are set apart in four passes, each of which works on what the one before has made of a text.
Together they do what one pass does with one rule, which looks at no more than three neighbours of
the text as it was: a blank that a pass sets changes nothing for those that follow.

* `setBlanks`: a blank behind each character where a rule says so.
* `splitPairs_eq`, `splitAcronyms_eq`: the passes follow rules, although they skip what they have
  matched.
* `setBlanks_setBlanks`: two passes as one.
* `setApart_eq`: all passes as one, by the rule `isBoundary`.
* `wordsBy`, `flatten_wordsBy`: the words of a text by a rule; no part of a word is lost.
* `labelWords_eq`: the words of a label are the words of the text by that rule.
-/

namespace RoutedFields

/-! ## Blanks by a rule -/

/-- A text with a blank behind each character at which a rule cuts it. The rule sees the character and
what follows it. -/
def setBlanks (cuts : Char → List Char → Bool) : List Char → List Char
  | [] => []
  | c :: rest =>
    if cuts c rest then c :: ' ' :: setBlanks cuts rest else c :: setBlanks cuts rest

/-- Cutting between two neighbours that satisfy a test each. -/
def betweenPair (first second : Char → Bool) (c : Char) (rest : List Char) : Bool :=
  first c && rest.head?.any second

/-- Cutting before the last of several upper-case letters that a lower-case one follows. -/
def beforeLastCapital (c : Char) : List Char → Bool
  | d :: e :: _ => isUpper c && isUpper d && isLower e
  | _ => false

section Rules

variable {cuts cuts' : Char → List Char → Bool} {first second : Char → Bool}

theorem setBlanks_of_not {c : Char} {rest : List Char} (h : cuts c rest = false) :
    setBlanks cuts (c :: rest) = c :: setBlanks cuts rest := by
  rw [setBlanks, h]
  exact if_neg Bool.false_ne_true

@[simp] theorem head?_setBlanks (s : List Char) : (setBlanks cuts s).head? = s.head? := by
  cases s with
  | nil => rfl
  | cons c rest =>
    rw [setBlanks]
    split <;> rfl

/-- A pass over pairs skips the second of a pair, which is the first of no other. -/
theorem splitPairs_eq (h : ∀ c, second c = true → first c = false) (s : List Char) :
    splitPairs first second s = setBlanks (betweenPair first second) s := by
  fun_induction splitPairs first second s with
  | case1 c d rest hpair ih =>
    rw [Bool.and_eq_true] at hpair
    have hnext : betweenPair first second d rest = false := by
      rw [betweenPair, h d hpair.2, Bool.false_and]
    rw [setBlanks, if_pos (by simp [betweenPair, hpair]), setBlanks_of_not hnext, ih]
  | case2 c d rest hpair ih =>
    rw [setBlanks_of_not (by simpa [betweenPair] using hpair), ih]
  | case3 s hshort =>
    match s, hshort with
    | [], _ => rfl
    | [c], _ => rw [setBlanks_of_not (by simp [betweenPair])]; rfl
    | c :: d :: rest, hshort => exact absurd rfl (hshort c d rest)

theorem isUpper_of_isLower {c : Char} (h : isLower c = true) : isUpper c = false := by
  simp only [isLower, Bool.and_eq_true, decide_eq_true_eq, Char.le_def, UInt32.le_iff_toNat_le] at h
  simp only [isUpper, Bool.and_eq_false_iff, decide_eq_false_iff_not, Char.le_def,
    UInt32.le_iff_toNat_le]
  have ha : 'a'.val.toNat = 97 := rfl
  have hZ : 'Z'.val.toNat = 90 := rfl
  omega

/-- The pass over acronyms skips the last capital, before which there is no other end of a word. -/
theorem splitAcronyms_eq (s : List Char) : splitAcronyms s = setBlanks beforeLastCapital s := by
  fun_induction splitAcronyms s with
  | case1 c d e rest hcapital ih =>
    have hnext : beforeLastCapital d (e :: rest) = false := by
      simp only [Bool.and_eq_true] at hcapital
      cases rest <;> simp [beforeLastCapital, isUpper_of_isLower hcapital.2]
    rw [setBlanks, if_pos (by rw [beforeLastCapital, hcapital]), setBlanks_of_not hnext, ih]
  | case2 c d e rest hcapital ih =>
    rw [setBlanks_of_not (by simpa [beforeLastCapital] using hcapital), ih]
  | case3 s hshort =>
    match s, hshort with
    | [], _ => rfl
    | [c], _ => rfl
    | [c, d], _ => rfl
    | c :: d :: e :: rest, hshort => exact absurd rfl (hshort c d e rest)

/-- Two passes do what one does, if the second rule cuts at no blank and does not see the blanks that
the first one sets further on. -/
theorem setBlanks_setBlanks (hblank : ∀ rest, cuts' ' ' rest = false)
    (hbefore : ∀ c rest, cuts' c (' ' :: rest) = false)
    (hsame : ∀ c rest, cuts' c (setBlanks cuts rest) = cuts' c rest) (s : List Char) :
    setBlanks cuts' (setBlanks cuts s) =
      setBlanks (fun c rest => cuts c rest || cuts' c rest) s := by
  induction s with
  | nil => rfl
  | cons c rest ih =>
    cases hcuts : cuts c rest with
    | true =>
      rw [setBlanks, if_pos hcuts, setBlanks_of_not (hbefore c _), setBlanks_of_not (hblank _), ih]
      simp [setBlanks, hcuts]
    | false =>
      rw [setBlanks_of_not hcuts, setBlanks, hsame, ih]
      simp [setBlanks, hcuts]

end Rules

/-! ## All passes as one -/

/-- Where words end: where a lower-case letter meets an upper-case one, before the last capital of an
acronym, and where letters meet digits. -/
def isBoundary (c : Char) (rest : List Char) : Bool :=
  betweenPair isLower isUpper c rest || beforeLastCapital c rest ||
    betweenPair Text.isLetter Text.isDecimalDigit c rest ||
    betweenPair Text.isDecimalDigit Text.isLetter c rest

theorem setBlanks_betweenPair {cuts : Char → List Char → Bool} {first second : Char → Bool}
    (hfirst : first ' ' = false) (hsecond : second ' ' = false) (s : List Char) :
    setBlanks (betweenPair first second) (setBlanks cuts s) =
      setBlanks (fun c rest => cuts c rest || betweenPair first second c rest) s := by
  apply setBlanks_setBlanks
  · intro rest
    rw [betweenPair, hfirst, Bool.false_and]
  · intro c rest
    simp [betweenPair, hsecond]
  · intro c rest
    rw [betweenPair, head?_setBlanks, betweenPair]

theorem beforeLastCapital_setBlanks (c : Char) (rest : List Char) :
    beforeLastCapital c (setBlanks (betweenPair isLower isUpper) rest) =
      beforeLastCapital c rest := by
  match rest with
  | [] => rfl
  | [d] => rw [setBlanks_of_not (by simp [betweenPair])]; rfl
  | d :: e :: more =>
    cases hpair : betweenPair isLower isUpper d (e :: more) with
    | true =>
      -- a lower-case letter with a blank behind it is no capital before a lower-case letter
      have hd : isUpper d = false := by
        simp only [betweenPair, Bool.and_eq_true] at hpair
        exact isUpper_of_isLower hpair.1
      rw [setBlanks, if_pos hpair]
      simp [beforeLastCapital, hd]
    | false =>
      rw [setBlanks_of_not hpair, setBlanks]
      split <;> rfl

theorem setBlanks_beforeLastCapital (s : List Char) :
    setBlanks beforeLastCapital (setBlanks (betweenPair isLower isUpper) s) =
      setBlanks (fun c rest =>
        betweenPair isLower isUpper c rest || beforeLastCapital c rest) s := by
  refine setBlanks_setBlanks (fun rest => ?_) (fun c rest => ?_) beforeLastCapital_setBlanks s
  · unfold beforeLastCapital
    split <;> rfl
  · cases rest with
    | nil => rfl
    | cons d rest => simp [beforeLastCapital, show isUpper ' ' = false from rfl]

/-- The four passes set a blank wherever a word ends. -/
theorem setApart_eq (s : List Char) : setApart s = setBlanks isBoundary s := by
  have hlower (c : Char) (h : isUpper c = true) : isLower c = false := by
    refine Bool.eq_false_iff.mpr fun hc => ?_
    rw [isUpper_of_isLower hc] at h
    exact Bool.false_ne_true h
  have hletter (c : Char) (h : Text.isDecimalDigit c = true) : Text.isLetter c = false := by
    simp [Text.isLetter, h]
  have hdigit (c : Char) (h : Text.isLetter c = true) : Text.isDecimalDigit c = false := by
    simpa [Text.isLetter] using (Bool.and_eq_true_iff.mp h).2
  calc setApart s
    _ = setBlanks (betweenPair Text.isDecimalDigit Text.isLetter)
          (setBlanks (betweenPair Text.isLetter Text.isDecimalDigit)
            (setBlanks beforeLastCapital (setBlanks (betweenPair isLower isUpper) s))) := by
      rw [setApart, splitPairs_eq hlower, splitAcronyms_eq, splitPairs_eq hletter,
        splitPairs_eq hdigit]
    _ = setBlanks isBoundary s := by
      rw [setBlanks_beforeLastCapital]
      rw [@setBlanks_betweenPair _ Text.isLetter _ rfl rfl, setBlanks_betweenPair rfl rfl]
      rfl

/-! ## Words by a rule -/

/-- The words of a text: the runs of characters that are part of words, cut by a rule. -/
def wordsBy (isPart : Char → Bool) (cuts : Char → List Char → Bool) : List Char → List (List Char)
  | [] => []
  | c :: rest =>
    if !isPart c then wordsBy isPart cuts rest
    else if rest.head?.any isPart && !cuts c rest then
      (wordsBy isPart cuts rest).modifyHead (c :: ·)
    else [c] :: wordsBy isPart cuts rest

section Words

variable {isPart : Char → Bool} {cuts : Char → List Char → Bool}

theorem wordsBy_ne_nil {s : List Char} (h : s.head?.any isPart = true) :
    wordsBy isPart cuts s ≠ [] := by
  induction s with
  | nil => cases h
  | cons c rest ih =>
    rw [wordsBy, if_neg (by simpa using h)]
    split
    · rename_i hnext
      simpa using ih (Bool.and_eq_true_iff.mp hnext).1
    · exact List.cons_ne_nil _ _

/-- The words hold all characters that are part of words, in their order. -/
theorem flatten_wordsBy (s : List Char) : (wordsBy isPart cuts s).flatten = s.filter isPart := by
  induction s with
  | nil => rfl
  | cons c rest ih =>
    rw [wordsBy]
    cases hpart : isPart c with
    | false => rw [List.filter_cons_of_neg (by simp [hpart]), ← ih]; rfl
    | true =>
      rw [List.filter_cons_of_pos hpart, ← ih, if_neg (by simp)]
      split
      · rename_i hnext
        have hne := @wordsBy_ne_nil _ cuts _ (Bool.and_eq_true_iff.mp hnext).1
        obtain ⟨word, words, hwords⟩ := List.exists_cons_of_ne_nil hne
        rw [hwords]
        rfl
      · rfl

end Words

section SplitWords

variable {isSep : Char → Bool}

/-- Behind some characters of a word, either it goes on or the next one starts. -/
theorem splitWordsFrom_eq {current : List Char} (h : current ≠ []) (s : List Char) :
    Text.splitWordsFrom isSep current s =
      if s.head?.any (!isSep ·) then (Text.splitWords isSep s).modifyHead (current.reverse ++ ·)
      else current.reverse :: Text.splitWords isSep s := by
  induction s generalizing current with
  | nil => simp [Text.splitWordsFrom, Text.splitWords, h]
  | cons c s ih =>
    rw [Text.splitWords, Text.splitWordsFrom, Text.splitWordsFrom]
    cases hsep : isSep c with
    | true => simp [hsep, h]
    | false =>
      rw [ih (List.cons_ne_nil c current), ih (List.cons_ne_nil c [])]
      simp only [Bool.false_eq_true, if_false, List.head?_cons, Option.any_some, hsep,
        Bool.not_false, if_true]
      cases s.head?.any (!isSep ·) with
      | true => simp [List.modifyHead_modifyHead, Function.comp_def]
      | false => simp

theorem splitWords_cons (c : Char) (s : List Char) :
    Text.splitWords isSep (c :: s) =
      if isSep c then Text.splitWords isSep s
      else if s.head?.any (!isSep ·) then (Text.splitWords isSep s).modifyHead (c :: ·)
      else [c] :: Text.splitWords isSep s := by
  rw [Text.splitWords, Text.splitWordsFrom, splitWordsFrom_eq (List.cons_ne_nil c [])]
  rfl

/-- A text with blanks set by a rule has the words by that rule. -/
theorem splitWords_setBlanks {cuts : Char → List Char → Bool} (hblank : isSep ' ' = true)
    (s : List Char) :
    Text.splitWords isSep (setBlanks cuts s) = wordsBy (fun c => !isSep c) cuts s := by
  induction s with
  | nil => rfl
  | cons c rest ih =>
    rw [setBlanks, wordsBy]
    cases hcuts : cuts c rest with
    | true =>
      rw [if_pos rfl, splitWords_cons, splitWords_cons, ih]
      cases hsep : isSep c <;> simp [hblank]
    | false =>
      rw [if_neg Bool.false_ne_true, splitWords_cons, head?_setBlanks, ih]
      cases hsep : isSep c <;> simp

/-- The words of a label are those of the text by the one rule. -/
theorem labelWords_eq (s : List Char) :
    labelWords s = (wordsBy (fun c => !isSeparator c) isBoundary s).map capitalize := by
  rw [labelWords, setApart_eq, splitWords_setBlanks (by decide)]

end SplitWords

end RoutedFields
