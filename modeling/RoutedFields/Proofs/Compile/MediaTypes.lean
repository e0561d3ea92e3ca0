import RoutedFields.MediaType
import RoutedFields.Proofs.Text.Ascii

/-!
# The grammar of media types

A JSON media type and a wildcard are a head, alone or with a semicolon and parameters behind it. On
a line of ASCII characters the two tests find just these. No media type is of both kinds.

* `IsJsonType`, `IsWildcardType`: the grammar.
* `isJsonMedia_iff`, `isWildcardMedia_iff`: the tests decide it.
* `IsJsonType.not_isWildcardType`: the two kinds exclude each other, whatever the text.
-/

namespace RoutedFields

/-! ## The grammar -/

/-- A word of letters, digits and some characters more. -/
def IsWordWith (more : String) (word : List Char) : Prop :=
  word ≠ [] ∧ ∀ c ∈ word, c.isAlphanum = true ∨ c ∈ more.toList

/-- `application/json` or `application/…+json`, in any case. -/
def IsJsonHead (head : List Char) : Prop :=
  head.map Char.toLower = "application/json".toList ∨
  ∃ word, IsWordWith "_.-" word ∧
    head.map Char.toLower = "application/".toList ++ word ++ "+json".toList

/-- `*/*` or `…/*`. -/
def IsWildcardHead (head : List Char) : Prop :=
  head = "*/*".toList ∨ ∃ word, IsWordWith "_.+-" word ∧ head = word ++ "/*".toList

/-- Nothing, or a semicolon, which may have blanks before it and anything behind it. -/
def IsParameterPart (part : List Char) : Prop :=
  part = [] ∨ ∃ blanks rest, part = blanks ++ ';' :: rest ∧ ∀ c ∈ blanks, Text.isBlank c = true

/-- A head of some kind, alone or with parameters. -/
def HasHead (Head : List Char → Prop) (s : List Char) : Prop :=
  ∃ head part, s = head ++ part ∧ Head head ∧ IsParameterPart part

/-- The JSON media types. -/
def IsJsonType (mediaType : String) : Prop :=
  HasHead IsJsonHead mediaType.toList

/-- The wildcards. -/
def IsWildcardType (mediaType : String) : Prop :=
  HasHead IsWildcardHead mediaType.toList

/-- A line of ASCII characters. -/
structure IsAsciiLine (s : List Char) : Prop where
  isAscii : Text.IsAscii s
  oneLine : '\n' ∉ s

instance (s : List Char) : Decidable (IsAsciiLine s) :=
  decidable_of_iff (Text.IsAscii s ∧ '\n' ∉ s) ⟨fun h => ⟨h.1, h.2⟩, fun h => ⟨h.1, h.2⟩⟩

theorem IsAsciiLine.behind {front rest : List Char} (h : IsAsciiLine (front ++ rest)) :
    IsAsciiLine rest :=
  ⟨fun c hc => h.isAscii c (List.mem_append_right front hc),
    fun hc => h.oneLine (List.mem_append_right front hc)⟩

/-- What is asked of the rest of a line may be put in other words for lines. -/
theorem exists_front_congr {s : List Char} {Front Rest Rest' : List Char → Prop}
    (hs : IsAsciiLine s) (h : ∀ rest, IsAsciiLine rest → (Rest rest ↔ Rest' rest)) :
    (∃ front rest, s = front ++ rest ∧ Front front ∧ Rest rest) ↔
      ∃ front rest, s = front ++ rest ∧ Front front ∧ Rest' rest := by
  refine exists_congr fun front => exists_congr fun rest => ?_
  refine and_congr_right fun hcut => and_congr_right fun _ => ?_
  exact h rest (hcut ▸ hs).behind

/-! ## Heads -/

section Heads

variable {s : List Char} {Front Head Head' : List Char → Prop}

/-- A head behind some front is a longer head. -/
theorem exists_hasHead_iff : (∃ front rest, s = front ++ rest ∧ Front front ∧ HasHead Head rest) ↔
    HasHead (fun head => ∃ front tail, head = front ++ tail ∧ Front front ∧ Head tail) s := by
  constructor
  · rintro ⟨front, _, rfl, hfront, tail, part, rfl, htail, hpart⟩
    exact ⟨front ++ tail, part, (List.append_assoc ..).symm, ⟨front, tail, rfl, hfront, htail⟩,
      hpart⟩
  · rintro ⟨_, part, rfl, ⟨front, tail, rfl, hfront, htail⟩, hpart⟩
    exact ⟨front, tail ++ part, List.append_assoc .., hfront, tail, part, rfl, htail, hpart⟩

theorem hasHead_congr (h : ∀ head, Head head ↔ Head' head) : HasHead Head s ↔ HasHead Head' s := by
  simp only [HasHead, h]

theorem hasHead_or_iff :
    HasHead (fun head => Head head ∨ Head' head) s ↔ HasHead Head s ∨ HasHead Head' s := by
  simp only [HasHead, or_and_right, and_or_left, exists_or]

end Heads

/-! ## Fronts of texts -/

section Fronts

variable {p : Char → Bool} {s front rest word : List Char}

/-- A text is cut where a test fails for the first time. -/
theorem takeWhile_dropWhile_iff (hrest : ∀ c ∈ rest.head?, p c = false) :
    (s.takeWhile p = front ∧ s.dropWhile p = rest) ↔
      s = front ++ rest ∧ ∀ c ∈ front, p c = true := by
  constructor
  · rintro ⟨rfl, rfl⟩
    exact ⟨List.takeWhile_append_dropWhile.symm, fun _ hc => List.mem_takeWhile_imp hc⟩
  · rintro ⟨rfl, hfront⟩
    rw [List.takeWhile_append_of_pos hfront, List.dropWhile_append_of_pos hfront]
    cases rest with
    | nil => simp
    | cons c rest =>
      have hc : p c = false := hrest c rfl
      simp [hc]

theorem sameLetter_of_ascii {letter c : Char} (hc : c.toNat < 128) :
    sameLetter letter c = (c.toLower == letter) := by
  have hne (other : Char) (hother : 128 ≤ other.toNat) : (c == other) = false :=
    beq_false_of_ne fun h => by
      rw [h] at hc
      omega
  rw [sameLetter, hne 'ı' (by decide), hne 'İ' (by decide), hne 'ſ' (by decide)]
  simp

/-- What stands behind a word in an ASCII text. -/
theorem afterWord?_eq_some_iff (hs : Text.IsAscii s) :
    afterWord? word s = some rest ↔ ∃ front, s = front ++ rest ∧ front.map Char.toLower = word := by
  induction word generalizing s with
  | nil => simp [afterWord?, List.map_eq_nil_iff]
  | cons letter word ih =>
    cases s with
    | nil => simp [afterWord?]
    | cons c s =>
      obtain ⟨hc, hs⟩ := Text.isAscii_cons_iff.mp hs
      have hword : (∃ front, c :: s = front ++ rest ∧ front.map Char.toLower = letter :: word) ↔
          c.toLower = letter ∧ ∃ front, s = front ++ rest ∧ front.map Char.toLower = word := by
        constructor
        · rintro ⟨front, hfront, hmap⟩
          obtain ⟨first, more, rfl, hfirst, hmore⟩ := List.map_eq_cons_iff.mp hmap
          obtain ⟨rfl, rfl⟩ := List.cons_eq_cons.mp hfront
          exact ⟨hfirst, more, rfl, hmore⟩
        · rintro ⟨rfl, more, rfl, rfl⟩
          exact ⟨c :: more, rfl, rfl⟩
      rw [afterWord?, sameLetter_of_ascii hc, hword, ← ih hs]
      by_cases hletter : c.toLower = letter <;> simp [hletter]

theorem any_afterWord?_iff {test : List Char → Bool} (hs : Text.IsAscii s) :
    (afterWord? word s).any test = true ↔
      ∃ front rest, s = front ++ rest ∧ front.map Char.toLower = word ∧ test rest = true := by
  rw [Option.any_eq_true, exists_comm]
  exact exists_congr fun rest => by
    rw [afterWord?_eq_some_iff hs, ← exists_and_right]
    simp only [and_assoc]

end Fronts

/-! ## Parameters -/

section Parameters

variable {s : List Char}

theorem atEnd_iff (hline : '\n' ∉ s) : atEnd s = true ↔ s = [] := by
  have hne : s ≠ ['\n'] := by
    rintro rfl
    exact hline List.mem_cons_self
  simp [atEnd, hne]

theorem isOneLine_of_not_mem (hline : '\n' ∉ s) : isOneLine s = true := by
  have hall : s.dropWhile (· != '\n') = [] :=
    List.dropWhile_eq_nil_iff.mpr fun c hc => bne_iff_ne.mpr fun h => hline (h ▸ hc)
  rw [isOneLine, hall]
  rfl

theorem isParameters_iff (hline : '\n' ∉ s) : isParameters s = true ↔ IsParameterPart s := by
  rw [isParameters, Bool.or_eq_true, atEnd_iff hline]
  refine or_congr_right ?_
  constructor
  · intro h
    split at h
    · rename_i rest hrest
      exact ⟨s.takeWhile Text.isBlank, rest, by rw [← hrest, List.takeWhile_append_dropWhile],
        fun _ hc => List.mem_takeWhile_imp hc⟩
    · cases h
  · rintro ⟨blanks, rest, rfl, hblanks⟩
    have hdrop : (blanks ++ ';' :: rest).dropWhile Text.isBlank = ';' :: rest :=
      ((takeWhile_dropWhile_iff (by rintro _ ⟨⟩; rfl)).mpr ⟨rfl, hblanks⟩).2
    rw [hdrop]
    exact isOneLine_of_not_mem fun h =>
      hline (List.mem_append_right blanks (List.mem_cons_of_mem _ h))

end Parameters

/-! ## JSON media types -/

section Json

variable {s : List Char}

theorem isJsonTail_iff (hs : IsAsciiLine s) :
    isJsonTail s = true ↔ HasHead (fun head => head.map Char.toLower = "json".toList) s := by
  have htail : isJsonTail s = (afterWord? "json".toList s).any isParameters := by
    rw [isJsonTail]
    cases afterWord? "json".toList s <;> rfl
  rw [htail, any_afterWord?_iff hs.isAscii]
  exact exists_front_congr hs fun rest hrest => isParameters_iff hrest.oneLine

/-- The characters before `+json` are those of the words of the grammar, in any case. -/
theorem isSuffixedChar_iff {c : Char} (hc : c.toNat < 128) : isSuffixedChar c = true ↔
    c.toLower.isAlphanum = true ∨ c.toLower ∈ "_.-".toList := by
  revert hc
  apply Text.forall_ascii
  decide +kernel

theorem isWordWith_map_toLower_iff (hs : Text.IsAscii s) :
    IsWordWith "_.-" (s.map Char.toLower) ↔ s ≠ [] ∧ ∀ c ∈ s, isSuffixedChar c = true := by
  rw [IsWordWith, List.forall_mem_map, ne_eq, List.map_eq_nil_iff]
  refine and_congr_right fun _ => forall₂_congr fun c hc => ?_
  exact (isSuffixedChar_iff (hs c hc)).symm

/-- The part of a head up to its plus sign. -/
def IsSuffixed (front : List Char) : Prop :=
  ∃ word, front = word ++ ['+'] ∧ IsWordWith "_.-" (word.map Char.toLower)

theorem isSuffixedJson_eq_true_iff (hs : Text.IsAscii s) : isSuffixedJson s = true ↔
    ∃ front rest, s = front ++ rest ∧ IsSuffixed front ∧ isJsonTail rest = true := by
  constructor
  · intro h
    rw [isSuffixedJson] at h
    split at h
    · rename_i c word rest hword hrest
      obtain ⟨rfl, hall⟩ := (takeWhile_dropWhile_iff (by rintro _ ⟨⟩; rfl)).mp ⟨hword, hrest⟩
      refine ⟨c :: word ++ ['+'], rest, List.append_cons .., ⟨c :: word, rfl, ?_⟩, h⟩
      exact (isWordWith_map_toLower_iff (List.forall_mem_append.mp hs).1).mpr
        ⟨List.cons_ne_nil c word, hall⟩
    · cases h
  · rintro ⟨_, rest, rfl, ⟨word, rfl, hword⟩, h⟩
    rw [List.append_assoc] at hs ⊢
    obtain ⟨hne, hall⟩ := (isWordWith_map_toLower_iff (List.forall_mem_append.mp hs).1).mp hword
    obtain ⟨htake, hdrop⟩ := (@takeWhile_dropWhile_iff _ _ word ('+' :: rest)
      (by rintro _ ⟨⟩; rfl)).mpr ⟨rfl, hall⟩
    obtain ⟨c, word, rfl⟩ := List.exists_cons_of_ne_nil hne
    rw [isSuffixedJson, List.singleton_append, htake, hdrop]
    exact h

theorem isSuffixedJson_iff (hs : IsAsciiLine s) : isSuffixedJson s = true ↔
    HasHead (fun head => ∃ front tail, head = front ++ tail ∧ IsSuffixed front ∧
      tail.map Char.toLower = "json".toList) s := by
  rw [isSuffixedJson_eq_true_iff hs.isAscii, ← exists_hasHead_iff]
  exact exists_front_congr hs fun rest hrest => isJsonTail_iff hrest

theorem isSuffixed_iff {front : List Char} : IsSuffixed front ↔
    ∃ word, IsWordWith "_.-" word ∧ front.map Char.toLower = word ++ ['+'] := by
  constructor
  · rintro ⟨word, rfl, hword⟩
    exact ⟨_, hword, List.map_append⟩
  · rintro ⟨_, hword, h⟩
    obtain ⟨word, last, rfl, rfl, hlast⟩ := List.map_eq_append_iff.mp h
    obtain ⟨plus, rfl, hplus⟩ := List.map_eq_singleton_iff.mp hlast
    have hself : plus.toLower = plus := Text.toLower_eq_self (by rw [hplus]; decide)
    exact ⟨word, by rw [← hplus, hself], hword⟩

/-- The heads of JSON media types, put together from what is read one after the other. -/
theorem isJsonHead_iff (head : List Char) : IsJsonHead head ↔
    ∃ front tail, head = front ++ tail ∧ front.map Char.toLower = "application/".toList ∧
      (tail.map Char.toLower = "json".toList ∨
        ∃ before last, tail = before ++ last ∧ IsSuffixed before ∧
          last.map Char.toLower = "json".toList) := by
  have hjson : "application/json".toList = "application/".toList ++ "json".toList := by decide
  have hsuffix (word : List Char) : "application/".toList ++ word ++ "+json".toList =
      "application/".toList ++ ((word ++ ['+']) ++ "json".toList) := by simp
  constructor
  · rintro (h | ⟨word, hword, h⟩)
    · rw [hjson] at h
      obtain ⟨front, tail, rfl, hfront, htail⟩ := List.map_eq_append_iff.mp h
      exact ⟨front, tail, rfl, hfront, .inl htail⟩
    · rw [hsuffix] at h
      obtain ⟨front, tail, rfl, hfront, h⟩ := List.map_eq_append_iff.mp h
      obtain ⟨before, last, rfl, hbefore, hlast⟩ := List.map_eq_append_iff.mp h
      have hsuffixed : IsSuffixed before := isSuffixed_iff.mpr ⟨word, hword, hbefore⟩
      exact ⟨front, _, rfl, hfront, .inr ⟨before, last, rfl, hsuffixed, hlast⟩⟩
  · rintro ⟨front, tail, rfl, hfront, htail | ⟨before, last, rfl, hbefore, hlast⟩⟩
    · exact .inl (by rw [List.map_append, hfront, htail, hjson])
    · obtain ⟨word, hword, hbefore⟩ := isSuffixed_iff.mp hbefore
      refine .inr ⟨word, hword, ?_⟩
      rw [List.map_append, List.map_append, hfront, hbefore, hlast, hsuffix]

/-- On a line of ASCII characters the test for JSON media types decides the grammar. -/
theorem isJsonMedia_iff {mediaType : String} (h : IsAsciiLine mediaType.toList) :
    isJsonMedia mediaType = true ↔ IsJsonType mediaType := by
  have hmedia : isJsonMedia mediaType = (afterWord? "application/".toList mediaType.toList).any
      fun rest => isJsonTail rest || isSuffixedJson rest := by
    rw [isJsonMedia]
    cases afterWord? "application/".toList mediaType.toList <;> rfl
  rw [hmedia, any_afterWord?_iff h.isAscii, IsJsonType, hasHead_congr isJsonHead_iff,
    ← exists_hasHead_iff]
  refine exists_front_congr h fun rest hrest => ?_
  rw [Bool.or_eq_true, isJsonTail_iff hrest, isSuffixedJson_iff hrest, hasHead_or_iff]

end Json

/-! ## Wildcards -/

section Wildcards

variable {s : List Char}

theorem isStarTail_eq_true_iff : isStarTail s = true ↔
    ∃ front rest, s = front ++ rest ∧ front = "/*".toList ∧ isParameters rest = true := by
  constructor
  · intro h
    rw [isStarTail.eq_def] at h
    split at h
    · rename_i rest
      exact ⟨_, rest, rfl, rfl, h⟩
    · cases h
  · rintro ⟨_, rest, rfl, rfl, h⟩
    exact h

theorem isStarTail_iff (hs : IsAsciiLine s) :
    isStarTail s = true ↔ HasHead (fun head => head = "/*".toList) s := by
  rw [isStarTail_eq_true_iff]
  exact exists_front_congr hs fun rest hrest => isParameters_iff hrest.oneLine

theorem isRangeChar_iff {c : Char} (hc : c.toNat < 128) :
    isRangeChar c = true ↔ c.isAlphanum = true ∨ c ∈ "_.+-".toList := by
  revert hc
  apply Text.forall_ascii
  decide +kernel

/-- What the front of a wildcard is followed by. -/
theorem isWildcardHead_iff (head : List Char) : IsWildcardHead head ↔
    ∃ front tail, head = front ++ tail ∧ (front = ['*'] ∨ IsWordWith "_.+-" front) ∧
      tail = "/*".toList := by
  constructor
  · rintro (rfl | ⟨word, hword, rfl⟩)
    · exact ⟨['*'], _, rfl, .inl rfl, rfl⟩
    · exact ⟨word, _, rfl, .inr hword, rfl⟩
  · rintro ⟨front, _, rfl, rfl | hword, rfl⟩
    · exact .inl rfl
    · exact .inr ⟨front, hword, rfl⟩

theorem isWordWith_iff (hs : Text.IsAscii s) :
    IsWordWith "_.+-" s ↔ s ≠ [] ∧ ∀ c ∈ s, isRangeChar c = true :=
  and_congr_right fun _ => forall₂_congr fun c hc => (isRangeChar_iff (hs c hc)).symm

/-- The test for wildcards reads an asterisk or a word and what is behind. -/
theorem isWildcardMedia_eq_true_iff {mediaType : String} (h : Text.IsAscii mediaType.toList) :
    isWildcardMedia mediaType = true ↔
      ∃ front rest, mediaType.toList = front ++ rest ∧
        (front = ['*'] ∨ IsWordWith "_.+-" front) ∧ isStarTail rest = true := by
  constructor
  · intro htest
    rw [isWildcardMedia] at htest
    split at htest
    · rename_i rest hs
      exact ⟨['*'], rest, hs, .inl rfl, htest⟩
    · split at htest
      · cases htest
      · rename_i c word hword
        refine ⟨_, _, List.takeWhile_append_dropWhile.symm, .inr ?_, htest⟩
        refine (isWordWith_iff fun c hc => h c ((List.takeWhile_sublist _).subset hc)).mpr ⟨?_, ?_⟩
        · rw [hword]
          exact List.cons_ne_nil c word
        · exact fun _ hc => List.mem_takeWhile_imp hc
  · rintro ⟨front, rest, hs, rfl | hword, hstar⟩
    · rw [isWildcardMedia, hs]
      exact hstar
    · obtain ⟨c, word, rfl⟩ := List.exists_cons_of_ne_nil hword.1
      obtain ⟨_, more, rfl, rfl, _⟩ := isStarTail_eq_true_iff.mp hstar
      rw [hs] at h
      have hall := ((isWordWith_iff (List.forall_mem_append.mp h).1).mp hword).2
      obtain ⟨htake, hdrop⟩ := (takeWhile_dropWhile_iff (p := isRangeChar)
        (by rintro _ ⟨⟩; rfl)).mpr ⟨hs, hall⟩
      have hc : c ≠ '*' := by
        rintro rfl
        exact absurd (hall '*' List.mem_cons_self) (by decide)
      rw [isWildcardMedia]
      split
      · rename_i hstart
        rw [hs] at hstart
        exact absurd (List.cons_eq_cons.mp hstart).1 hc
      · rw [htake, hdrop]
        exact hstar

/-- On a line of ASCII characters the test for wildcards decides the grammar. -/
theorem isWildcardMedia_iff {mediaType : String} (h : IsAsciiLine mediaType.toList) :
    isWildcardMedia mediaType = true ↔ IsWildcardType mediaType := by
  rw [isWildcardMedia_eq_true_iff h.isAscii, IsWildcardType, hasHead_congr isWildcardHead_iff,
    ← exists_hasHead_iff]
  exact exists_front_congr h fun rest hrest => isStarTail_iff hrest

end Wildcards

/-! ## Both kinds -/

section Kinds

variable {s : List Char}

theorem IsWordWith.ne {more : String} {word : List Char} {c : Char} (h : IsWordWith more word)
    (hc : c ∈ word) (other : Char) (hclass : other.isAlphanum = false)
    (hmore : other ∉ more.toList) : c ≠ other := by
  rintro rfl
  rcases h.2 c hc with hclass' | hmore'
  · rw [hclass] at hclass'
    exact Bool.false_ne_true hclass'
  · exact hmore hmore'

/-- In lower case, a JSON media type has no asterisk behind its first slash. -/
theorem dropWhile_of_isJson (h : HasHead IsJsonHead s) :
    ∃ c rest, (s.map Char.toLower).dropWhile (· != '/') = '/' :: c :: rest ∧ c ≠ '*' := by
  obtain ⟨head, part, rfl, hhead, -⟩ := h
  rw [List.map_append]
  rcases hhead with hhead | ⟨word, hword, hhead⟩
  · rw [hhead]
    exact ⟨'j', _, rfl, by decide⟩
  · rw [hhead]
    obtain ⟨c, word, rfl⟩ := List.exists_cons_of_ne_nil hword.1
    exact ⟨c, _, rfl, hword.ne List.mem_cons_self '*' (by decide) (by decide)⟩

/-- A wildcard has an asterisk there. -/
theorem dropWhile_of_isWildcard (h : HasHead IsWildcardHead s) :
    ∃ rest, (s.map Char.toLower).dropWhile (· != '/') = '/' :: '*' :: rest := by
  obtain ⟨head, part, rfl, rfl | ⟨word, hword, rfl⟩, -⟩ := h
  · exact ⟨_, rfl⟩
  · refine ⟨part.map Char.toLower, ?_⟩
    rw [List.append_assoc, List.map_append]
    refine ((takeWhile_dropWhile_iff (by simp)).mpr ⟨rfl, ?_⟩).2
    refine List.forall_mem_map.mpr fun c hc => bne_iff_ne.mpr fun hslash => ?_
    have hself : c.toLower = c := Text.toLower_eq_self (by rw [hslash]; decide)
    exact hword.ne hc '/' (by decide) (by decide) (hself ▸ hslash)

theorem IsJsonType.not_isWildcardType {mediaType : String} (h : IsJsonType mediaType) :
    ¬IsWildcardType mediaType := by
  intro hwildcard
  obtain ⟨c, rest, hjson, hc⟩ := dropWhile_of_isJson h
  obtain ⟨rest', hstar⟩ := dropWhile_of_isWildcard hwildcard
  rw [hjson] at hstar
  exact hc (List.cons_eq_cons.mp (List.cons_eq_cons.mp hstar).2).1

end Kinds

end RoutedFields
