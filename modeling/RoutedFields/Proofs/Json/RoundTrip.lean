import RoutedFields.Document.Depth
import RoutedFields.Proofs.Json.Scalars

/-!
# Values that are written and read back

The text of a value is JSON, and what is read of it is the value again, up to two things: a double
becomes the double that its text spells, and keys become texts.

* `reread`: what is read of a value that is written.
* `longestNumeral`, `nesting`: what limits have to allow for a value.
* `value_write`: a value at the front of a text is read back, and what stands behind it is left.
* `readWithin_pretty`, `read_pretty`: so is a whole text, within limits that the value keeps.
* `IsText`: whether a text is JSON, whatever the limits.
* `isText_of_pretty`: the text of a value is JSON.
-/

namespace RoutedFields.Json

/-! ## What is read of a value -/

/-- The text of a key. -/
def nameOf : Scalar → String
  | .str s => s
  | .torn t => t.masked
  | key => String.ofList ((bareText key).toOption.getD [])

mutual

/-- What is read of a value that is written. -/
def reread : Node → Node
  | .scalar s => .scalar (rereadScalar s)
  | .list xs => .list (rereadItems xs)
  | .map es => .map (rereadMembers [] es)

/-- What is read of the items of a list. -/
def rereadItems : List Node → List Node
  | [] => []
  | x :: xs => reread x :: rereadItems xs

/-- What is read of entries, after some that are read already. -/
def rereadMembers (before : Entries) : List (Scalar × Node) → Entries
  | [] => before
  | (k, v) :: rest => rereadMembers (before.insert (nameOf k) (reread v)) rest

end

mutual

/-- How many digits the longest integer in a value has, its keys apart. -/
def longestNumeral : Node → Nat
  | .scalar s => numeralLength s
  | .list xs => longestNumeralOfItems xs
  | .map es => longestNumeralOfEntries es

/-- How many digits the longest integer in the items of a list has. -/
def longestNumeralOfItems : List Node → Nat
  | [] => 0
  | x :: xs => max (longestNumeral x) (longestNumeralOfItems xs)

/-- How many digits the longest integer in the values of some entries has. -/
def longestNumeralOfEntries : List (Scalar × Node) → Nat
  | [] => 0
  | (_, v) :: rest => max (longestNumeral v) (longestNumeralOfEntries rest)

end

mutual

/-- How many lists and maps stand one inside another in a value. -/
def nesting : Node → Nat
  | .scalar _ => 0
  | .list xs => nestingOfItems xs + 1
  | .map es => nestingOfEntries es + 1

/-- How many lists and maps stand one inside another in the items of a list. -/
def nestingOfItems : List Node → Nat
  | [] => 0
  | x :: xs => max (nesting x) (nestingOfItems xs)

/-- How many lists and maps stand one inside another in the values of some entries. -/
def nestingOfEntries : List (Scalar × Node) → Nat
  | [] => 0
  | (_, v) :: rest => max (nesting v) (nestingOfEntries rest)

end

mutual

theorem nesting_le_depth : ∀ v : Node, nesting v ≤ v.depth
  | .scalar _ => Nat.zero_le 1
  | .list xs => Nat.succ_le_succ (nestingOfItems_le_depth xs)
  | .map es => Nat.succ_le_succ (nestingOfEntries_le_depth es)

theorem nestingOfItems_le_depth : ∀ xs : List Node, nestingOfItems xs ≤ Node.depthOfItems xs
  | [] => Nat.le_refl 0
  | x :: xs => max_le_max (nesting_le_depth x) (nestingOfItems_le_depth xs)

theorem nestingOfEntries_le_depth :
    ∀ es : List (Scalar × Node), nestingOfEntries es ≤ Node.depthOfEntries es
  | [] => Nat.le_refl 0
  | (_, v) :: rest => max_le_max (nesting_le_depth v) (nestingOfEntries_le_depth rest)

end

/-! ## Keys -/

/-- The signs that stand in numbers beside digits. -/
def numberSigns : List Char := ['.', 'e', '+', '-']

theorem stringChar_of_isDigit {c : Char} (h : c.isDigit = true) : stringChar c = [c] := by
  have hescapes : ∀ d ∈ shortEscapes, d.isDigit = false := by simp [shortEscapes]
  have hmem : c ∉ shortEscapes := fun hmem => by
    rw [hescapes c hmem] at h
    cases h
  rw [stringChar_of_not_mem hmem, if_neg]
  simp only [Char.isDigit, Bool.and_eq_true, decide_eq_true_eq, UInt32.le_iff_toNat_le] at h
  have hle : 48 ≤ c.toNat := h.1
  omega

theorem stringChar_of_mem_text {parts : Parts} (hparts : parts.Valid) {c : Char}
    (h : c ∈ parts.text) : stringChar c = [c] := by
  have hsigns : ∀ d ∈ numberSigns, stringChar d = [d] := by simp [numberSigns, stringChar]
  unfold Parts.text Parts.fractionText Parts.powerText at h
  rcases List.mem_append.mp h with h | h
  · exact stringChar_of_isDigit (hparts.whole_digits c h)
  rcases List.mem_append.mp h with h | h
  · split at h
    · cases h
    · rcases List.mem_cons.mp h with rfl | h
      · exact hsigns _ (by decide)
      · exact stringChar_of_isDigit (hparts.fraction_digits c h)
  · split at h
    · rename_i negative digits hpower
      rcases List.mem_cons.mp h with rfl | h
      · exact hsigns _ (by decide)
      rcases List.mem_cons.mp h with rfl | h
      · cases negative <;> exact hsigns _ (by decide)
      · exact stringChar_of_isDigit ((hparts.power_digits _ _ hpower).2 c h)
    · cases h

theorem flatMap_stringChar_eq {text : List Char} (h : ∀ c ∈ text, stringChar c = [c]) :
    text.flatMap stringChar = text := by
  induction text with
  | nil => rfl
  | cons c cs ih =>
    obtain ⟨hc, hcs⟩ := List.forall_mem_cons.mp h
    rw [List.flatMap_cons, hc, ih hcs, List.singleton_append]

theorem flatMap_stringChar_signedText (negative : Bool) {parts : Parts} (hparts : parts.Valid) :
    (signedText negative parts).flatMap stringChar = signedText negative parts := by
  have htext := flatMap_stringChar_eq fun c hc => stringChar_of_mem_text hparts hc
  unfold signedText
  split
  · rw [List.flatMap_cons, htext]
    rfl
  · exact htext

/-- A scalar that is no text is written in a string as it is. -/
theorem flatMap_stringChar_bareText {s : Scalar} {text : List Char} (h : bareText s = .ok text) :
    text.flatMap stringChar = text := by
  cases s with
  | null =>
    cases h
    rfl
  | bool b =>
    cases h
    cases b <;> rfl
  | int n =>
    obtain ⟨_, rfl⟩ := integerText_eq_ok_iff.mp h
    rw [toList_intText]
    exact flatMap_stringChar_signedText _ (valid_decimalText _)
  | float x =>
    cases h
    cases x with
    | notANumber => rfl
    | infinite negative => cases negative <;> rfl
    | finite negative m s =>
      obtain ⟨parts, hparts, _, hdouble⟩ := exists_parts_doubleText negative m s
      rw [hdouble]
      exact flatMap_stringChar_signedText negative hparts
  | str s => cases h
  | torn t => cases h
  | date d => cases h

/-- Every key is written as a string. -/
theorem memberName_eq {key : Scalar} {text : List Char} (h : memberName key = .ok text) :
    text = stringText (nameOf key) := by
  have hbare (hname : memberName key = (bareText key).map fun cs => '"' :: (cs ++ ['"']))
      (hof : nameOf key = String.ofList ((bareText key).toOption.getD [])) :
      text = stringText (nameOf key) := by
    obtain ⟨cs, hcs, rfl⟩ := map_eq_ok_iff.mp (hname.symm.trans h)
    rw [stringText, hof, hcs, Except.toOption, Option.getD_some, String.toList_ofList,
      flatMap_stringChar_bareText hcs]
  cases key with
  | str s => exact (Except.ok.inj h).symm
  | torn t => exact (Except.ok.inj h).symm
  | _ => exact hbare rfl rfl

/-! ## Where a value starts and ends -/

/-- Whether a text starts as a value does: not with white space, a closing bracket or a byte order
mark. -/
def StartsValue (text : List Char) : Prop :=
  ∃ c cs, text = c :: cs ∧ isSpace c = false ∧ c ≠ ']' ∧ c ≠ '\ufeff'

theorem StartsValue.append {text : List Char} (h : StartsValue text) (rest : List Char) :
    StartsValue (text ++ rest) := by
  obtain ⟨c, cs, rfl, hc⟩ := h
  exact ⟨c, cs ++ rest, rfl, hc⟩

theorem StartsValue.skip {text : List Char} (h : StartsValue text) : skip text = text := by
  obtain ⟨c, cs, rfl, hspace, _⟩ := h
  rw [Json.skip, List.dropWhile_cons, hspace, if_neg Bool.false_ne_true]

theorem skip_space {text : List Char} (h : StartsValue text) : skip (' ' :: text) = text :=
  (List.dropWhile_cons_of_pos rfl).trans h.skip

theorem skip_lineBreak (level : Nat) (s : List Char) : skip (lineBreak level ++ s) = skip s := by
  have hspace : ∀ c ∈ lineBreak level, isSpace c = true := by
    intro c hc
    rcases List.mem_cons.mp hc with rfl | hc
    · rfl
    · rw [List.eq_of_mem_replicate hc]
      rfl
  exact List.dropWhile_append_of_pos hspace

theorem endsNumber_lineBreak (level : Nat) (s : List Char) : EndsNumber (lineBreak level ++ s) := by
  intro c hc
  obtain rfl := Option.some.inj hc
  decide

theorem endsNumber_comma (s : List Char) : EndsNumber (',' :: s) := by
  intro c hc
  obtain rfl := Option.some.inj hc
  decide

/-- The characters with which no number and no named value starts. -/
def otherStarts : List Char :=
  ['"', '[', '\x7b', ' ', '\t', '\n', '\r', ']', '\ufeff']

/-- A scalar that is no text starts with a digit, a sign or a letter. -/
theorem exists_head_bareText {s : Scalar} {text : List Char} (h : bareText s = .ok text) :
    ∃ c cs, text = c :: cs ∧ c ∉ otherStarts := by
  have hdigit (c : Char) (hc : c.isDigit = true) : c ∉ otherStarts := by
    have hall : ∀ d ∈ otherStarts, d.isDigit = false := by simp [otherStarts]
    intro hmem
    rw [hall c hmem] at hc
    cases hc
  have hsigned (negative : Bool) (parts : Parts) (hparts : parts.Valid) :
      ∃ c cs, signedText negative parts = c :: cs ∧ c ∉ otherStarts := by
    unfold signedText
    split
    · exact ⟨'-', parts.text, rfl, by decide⟩
    · obtain ⟨c, cs, htext, hc⟩ := exists_digit_text hparts
      exact ⟨c, cs, htext, hdigit c hc⟩
  cases s with
  | null =>
    cases h
    exact ⟨_, _, rfl, by decide⟩
  | bool b =>
    cases h
    cases b <;> exact ⟨_, _, rfl, by decide⟩
  | int n =>
    obtain ⟨_, rfl⟩ := integerText_eq_ok_iff.mp h
    rw [toList_intText]
    exact hsigned _ _ (valid_decimalText _)
  | float x =>
    cases h
    cases x with
    | notANumber => exact ⟨_, _, rfl, by decide⟩
    | infinite negative => cases negative <;> exact ⟨_, _, rfl, by decide⟩
    | finite negative m s =>
      obtain ⟨parts, hparts, _, hdouble⟩ := exists_parts_doubleText negative m s
      rw [hdouble]
      exact hsigned negative parts hparts
  | str s => cases h
  | torn t => cases h
  | date d => cases h

theorem startsValue_bareText {s : Scalar} {text : List Char} (h : bareText s = .ok text) :
    StartsValue text := by
  obtain ⟨c, cs, rfl, hc⟩ := exists_head_bareText h
  simp only [otherStarts, List.mem_cons, List.not_mem_nil, or_false, not_or] at hc
  exact ⟨c, cs, rfl, by simp [isSpace, hc], by simp [hc], by simp [hc]⟩

theorem atLevel_eq_ok_iff {level : Nat} {written : Except Fault (List Char)} {text : List Char} :
    atLevel level written = .ok text ↔ level < deepestCalls ∧ written = .ok text := by
  unfold atLevel
  split
  · rename_i hlevel
    rw [and_iff_right hlevel]
  · rename_i hlevel
    exact iff_of_false nofun fun h => hlevel h.1

theorem write_scalar {level : Nat} {s : Scalar} {text : List Char}
    (h : write level (.scalar s) = .ok text) :
    (∃ t, rereadScalar s = .str t ∧ text = stringText t) ∨ bareText s = .ok text := by
  rw [write] at h
  cases s with
  | str t => exact .inl ⟨t, rfl, (Except.ok.inj h).symm⟩
  | torn t => exact .inl ⟨t.masked, rfl, (Except.ok.inj h).symm⟩
  | _ => exact .inr h

/-- The text of a list with items, in its brackets. -/
theorem write_list {level : Nat} {x : Node} {xs : List Node} {text : List Char}
    (h : write level (.list (x :: xs)) = .ok text) :
    ∃ inner, writeItems (level + 1) (x :: xs) = .ok inner ∧
      '[' :: (lineBreak (level + 1) ++ inner ++ lineBreak level ++ [']']) = text := by
  rw [write] at h
  obtain ⟨inner, hinner, hpure⟩ := bind_eq_ok_iff.mp (atLevel_eq_ok_iff.mp h).2
  exact ⟨inner, hinner, Except.ok.inj hpure⟩

/-- The text of a map with entries, in its braces. -/
theorem write_map {level : Nat} {e : Scalar × Node} {es : List (Scalar × Node)} {text : List Char}
    (h : write level (.map (e :: es)) = .ok text) :
    ∃ inner, writeMembers (level + 1) (e :: es) = .ok inner ∧
      '\x7b' :: (lineBreak (level + 1) ++ inner ++ lineBreak level ++ ['\x7d']) = text := by
  rw [write] at h
  obtain ⟨inner, hinner, hpure⟩ := bind_eq_ok_iff.mp (atLevel_eq_ok_iff.mp h).2
  exact ⟨inner, hinner, Except.ok.inj hpure⟩

theorem startsValue_write {level : Nat} {v : Node} {text : List Char}
    (h : write level v = .ok text) : StartsValue text := by
  cases v with
  | scalar s =>
    rcases write_scalar h with ⟨t, _, rfl⟩ | hbare
    · exact ⟨_, _, rfl, by decide⟩
    · exact startsValue_bareText hbare
  | list xs =>
    cases xs with
    | nil =>
      obtain ⟨_, ⟨⟩⟩ := atLevel_eq_ok_iff.mp h
      exact ⟨_, _, rfl, by decide⟩
    | cons x xs =>
      obtain ⟨_, _, rfl⟩ := write_list h
      exact ⟨_, _, rfl, by decide⟩
  | map es =>
    cases es with
    | nil =>
      obtain ⟨_, ⟨⟩⟩ := atLevel_eq_ok_iff.mp h
      exact ⟨_, _, rfl, by decide⟩
    | cons e es =>
      obtain ⟨_, _, rfl⟩ := write_map h
      exact ⟨_, _, rfl, by decide⟩

theorem startsValue_writeItems {level : Nat} {x : Node} {xs : List Node} {text : List Char}
    (h : writeItems level (x :: xs) = .ok text) : StartsValue text := by
  cases xs with
  | nil => exact startsValue_write h
  | cons y ys =>
    obtain ⟨first, hfirst, h⟩ := bind_eq_ok_iff.mp h
    obtain ⟨others, _, hpure⟩ := bind_eq_ok_iff.mp h
    cases hpure
    exact (startsValue_write hfirst).append _

theorem exists_quote_writeMembers {level : Nat} {e : Scalar × Node} {es : List (Scalar × Node)}
    {text : List Char} (h : writeMembers level (e :: es) = .ok text) :
    ∃ cs, text = '"' :: cs := by
  obtain ⟨k, v⟩ := e
  cases es with
  | nil =>
    obtain ⟨name, hname, h⟩ := bind_eq_ok_iff.mp h
    obtain ⟨value, _, hpure⟩ := bind_eq_ok_iff.mp h
    cases hpure
    rw [memberName_eq hname]
    exact ⟨_, rfl⟩
  | cons f fs =>
    obtain ⟨name, hname, h⟩ := bind_eq_ok_iff.mp h
    obtain ⟨value, _, h⟩ := bind_eq_ok_iff.mp h
    obtain ⟨others, _, hpure⟩ := bind_eq_ok_iff.mp h
    cases hpure
    rw [memberName_eq hname]
    exact ⟨_, rfl⟩

theorem startsValue_writeMembers {level : Nat} {e : Scalar × Node} {es : List (Scalar × Node)}
    {text : List Char} (h : writeMembers level (e :: es) = .ok text) : StartsValue text := by
  obtain ⟨cs, rfl⟩ := exists_quote_writeMembers h
  exact ⟨_, _, rfl, by decide⟩

/-! ## One step of reading -/

section Steps

variable {limits : Limits} {fuel depth : Nat} {s rest : List Char}

theorem value_string (text : String) :
    value limits (fuel + 1) depth (stringText text ++ rest) = .ok (.str text, rest) := by
  have h := string_stringText text rest
  rw [stringText, List.cons_append] at h ⊢
  rw [value, h]
  rfl

theorem value_atom {c : Char} (h : c ∉ otherStarts) :
    value limits (fuel + 1) depth (c :: s) = atom limits (c :: s) := by
  simp only [otherStarts, List.mem_cons, List.not_mem_nil, or_false, not_or] at h
  unfold value
  split
  · rename_i heq
    exact absurd (List.cons.inj heq).1 h.1
  · rename_i heq
    exact absurd (List.cons.inj heq).1 h.2.1
  · rename_i heq
    exact absurd (List.cons.inj heq).1 h.2.2.1
  · rename_i heq
    exact absurd (List.cons.inj heq).1 h.2.1
  · rename_i heq
    exact absurd (List.cons.inj heq).1 h.2.2.1
  · rfl

theorem value_list {xs : List Node} (hstart : StartsValue s)
    (hitems : items limits fuel depth s = .ok (xs, rest)) (level : Nat) :
    value limits (fuel + 1) (depth + 1) ('[' :: (lineBreak level ++ s)) = .ok (.list xs, rest) := by
  rw [value, skip_lineBreak, hstart.skip]
  obtain ⟨c, cs, rfl, _, hbracket, _⟩ := hstart
  split
  · rename_i heq
    exact absurd (List.cons.inj heq).1 hbracket
  · rw [hitems]
    rfl

theorem value_map {es : Entries}
    (hmembers : members limits fuel depth [] ('"' :: s) = .ok (es, rest)) (level : Nat) :
    value limits (fuel + 1) (depth + 1) ('\x7b' :: (lineBreak level ++ '"' :: s)) =
      .ok (.map es, rest) := by
  rw [value, skip_lineBreak, show skip ('"' :: s) = '"' :: s from rfl]
  change (members limits fuel depth [] ('"' :: s)).bind _ = _
  rw [hmembers]
  rfl

theorem items_last {x : Node} {after : List Char}
    (hvalue : value limits fuel depth s = .ok (x, after)) (hskip : skip after = ']' :: rest) :
    items limits (fuel + 1) depth s = .ok ([x], rest) := by
  rw [items, hvalue]
  dsimp only [bind, Except.bind]
  rw [hskip]
  rfl

theorem items_more {x : Node} {xs : List Node} {after more : List Char}
    (hvalue : value limits fuel depth s = .ok (x, after)) (hskip : skip after = ',' :: more)
    (hitems : items limits fuel depth (skip more) = .ok (xs, rest)) :
    items limits (fuel + 1) depth s = .ok (x :: xs, rest) := by
  rw [items, hvalue]
  dsimp only [bind, Except.bind]
  rw [hskip]
  change (items limits fuel depth (skip more)).bind _ = _
  rw [hitems]
  rfl

theorem members_last {before : Entries} {name : String} {v : Node} {after : List Char}
    (hvalue : value limits fuel depth (skip s) = .ok (v, after))
    (hskip : skip after = '\x7d' :: rest) :
    members limits (fuel + 1) depth before (stringText name ++ ':' :: s) =
      .ok (before.insert name v, rest) := by
  have hname := string_stringText name (':' :: s)
  rw [stringText, List.cons_append] at hname ⊢
  rw [members, hname]
  dsimp only [bind, Except.bind]
  rw [show skip (':' :: s) = ':' :: s from rfl]
  change (value limits fuel depth (skip s)).bind _ = _
  rw [hvalue]
  dsimp only [Except.bind]
  rw [hskip, ← Entries.put_str]
  rfl

theorem members_more {before es : Entries} {name : String} {v : Node} {after more : List Char}
    (hvalue : value limits fuel depth (skip s) = .ok (v, after)) (hskip : skip after = ',' :: more)
    (hmembers : members limits fuel depth (before.insert name v) (skip more) = .ok (es, rest)) :
    members limits (fuel + 1) depth before (stringText name ++ ':' :: s) = .ok (es, rest) := by
  have hname := string_stringText name (':' :: s)
  rw [stringText, List.cons_append] at hname ⊢
  rw [members, hname]
  dsimp only [bind, Except.bind]
  rw [show skip (':' :: s) = ':' :: s from rfl]
  change (value limits fuel depth (skip s)).bind _ = _
  rw [hvalue]
  dsimp only [Except.bind]
  rw [← Entries.put_str] at hmembers
  rw [hskip]
  exact hmembers

end Steps

/-! ## Values -/

section Values

variable {limits : Limits}

mutual

/-- A value at the front of a text is read back. -/
theorem value_write : ∀ {v : Node} {level fuel depth : Nat} {text rest : List Char},
    write level v = .ok text → nesting v ≤ depth → longestNumeral v ≤ limits.digits →
    2 * text.length ≤ fuel → EndsNumber rest →
    value limits fuel depth (text ++ rest) = .ok (reread v, rest)
  | .scalar s, level, fuel, depth, text, rest, htext, _, hlength, hfuel, hrest => by
    obtain ⟨c, cs, rfl, _⟩ := startsValue_write htext
    obtain ⟨fuel, rfl⟩ := Nat.exists_eq_add_of_le' (Nat.one_le_of_lt hfuel)
    rcases write_scalar htext with ⟨t, hread, ht⟩ | hbare
    · rw [ht, reread, hread]
      exact value_string t
    · obtain ⟨d, ds, hstart, hd⟩ := exists_head_bareText hbare
      obtain ⟨rfl, rfl⟩ := List.cons.inj hstart
      rw [List.cons_append, value_atom hd, ← List.cons_append, atom_bareText hbare hlength hrest]
      rfl
  | .list [], level, fuel, depth, text, rest, htext, hdepth, _, hfuel, _ => by
    obtain ⟨_, ⟨⟩⟩ := atLevel_eq_ok_iff.mp htext
    obtain ⟨fuel, rfl⟩ := Nat.exists_eq_add_of_le' (Nat.one_le_of_lt hfuel)
    obtain ⟨depth, rfl⟩ := Nat.exists_eq_add_of_le' (Nat.one_le_of_lt hdepth)
    rfl
  | .list (x :: xs), level, fuel, depth, text, rest, htext, hdepth, hlength, hfuel, _ => by
    obtain ⟨inner, hinner, rfl⟩ := write_list htext
    obtain ⟨fuel, rfl⟩ := Nat.exists_eq_add_of_le' (Nat.one_le_of_lt hfuel)
    obtain ⟨depth, rfl⟩ := Nat.exists_eq_add_of_le' (Nat.one_le_of_lt hdepth)
    simp only [List.length_cons, List.length_append] at hfuel
    have hitems : items limits fuel depth (inner ++ (lineBreak level ++ ']' :: rest)) =
        .ok (rereadItems (x :: xs), rest) :=
      items_write nofun hinner (Nat.le_of_succ_le_succ hdepth) hlength (by omega)
    have hstart := (startsValue_writeItems hinner).append (lineBreak level ++ ']' :: rest)
    simpa [reread] using value_list hstart hitems (level + 1)
  | .map [], level, fuel, depth, text, rest, htext, hdepth, _, hfuel, _ => by
    obtain ⟨_, ⟨⟩⟩ := atLevel_eq_ok_iff.mp htext
    obtain ⟨fuel, rfl⟩ := Nat.exists_eq_add_of_le' (Nat.one_le_of_lt hfuel)
    obtain ⟨depth, rfl⟩ := Nat.exists_eq_add_of_le' (Nat.one_le_of_lt hdepth)
    rfl
  | .map (e :: es), level, fuel, depth, text, rest, htext, hdepth, hlength, hfuel, _ => by
    obtain ⟨inner, hinner, rfl⟩ := write_map htext
    obtain ⟨fuel, rfl⟩ := Nat.exists_eq_add_of_le' (Nat.one_le_of_lt hfuel)
    obtain ⟨depth, rfl⟩ := Nat.exists_eq_add_of_le' (Nat.one_le_of_lt hdepth)
    simp only [List.length_cons, List.length_append] at hfuel
    have hmembers : members limits fuel depth [] (inner ++ (lineBreak level ++ '\x7d' :: rest)) =
        .ok (rereadMembers [] (e :: es), rest) :=
      members_write [] nofun hinner (Nat.le_of_succ_le_succ hdepth) hlength (by omega)
    obtain ⟨inner, rfl⟩ := exists_quote_writeMembers hinner
    simpa [reread] using value_map hmembers (level + 1)

/-- Items at the front of a text are read back, up to the bracket behind them. -/
theorem items_write : ∀ {xs : List Node} {level outer fuel depth : Nat} {inner rest : List Char},
    xs ≠ [] → writeItems level xs = .ok inner → nestingOfItems xs ≤ depth →
    longestNumeralOfItems xs ≤ limits.digits → 2 * inner.length + 1 ≤ fuel →
    items limits fuel depth (inner ++ (lineBreak outer ++ ']' :: rest)) = .ok (rereadItems xs, rest)
  | [], _, _, _, _, _, _, hne, _, _, _, _ => absurd rfl hne
  | [x], level, outer, fuel, depth, inner, rest, _, hinner, hdepth, hlength, hfuel => by
    obtain ⟨fuel, rfl⟩ := Nat.exists_eq_add_of_le' (Nat.one_le_of_lt hfuel)
    have hx := value_write hinner ((Nat.le_max_left ..).trans hdepth)
      ((Nat.le_max_left ..).trans hlength) (Nat.le_of_succ_le_succ hfuel)
      (endsNumber_lineBreak outer (']' :: rest))
    exact items_last hx (skip_lineBreak outer (']' :: rest))
  | x :: y :: ys, level, outer, fuel, depth, inner, rest, _, hinner, hdepth, hlength, hfuel => by
    obtain ⟨first, hfirst, hinner⟩ := bind_eq_ok_iff.mp hinner
    obtain ⟨others, hothers, hpure⟩ := bind_eq_ok_iff.mp hinner
    cases hpure
    obtain ⟨fuel, rfl⟩ := Nat.exists_eq_add_of_le' (Nat.one_le_of_lt hfuel)
    simp only [List.length_cons, List.length_append] at hfuel
    obtain ⟨hxdepth, hxsdepth⟩ := Nat.max_le.mp hdepth
    obtain ⟨hxlength, hxslength⟩ := Nat.max_le.mp hlength
    have hxs : items limits fuel depth (others ++ (lineBreak outer ++ ']' :: rest)) =
        .ok (rereadItems (y :: ys), rest) :=
      items_write nofun hothers hxsdepth hxslength (by omega)
    have hstart := (startsValue_writeItems hothers).append (lineBreak outer ++ ']' :: rest)
    rw [← hstart.skip, ← skip_lineBreak level] at hxs
    have hx (more) : value limits fuel depth (first ++ ',' :: more) = .ok (reread x, ',' :: more) :=
      value_write hfirst hxdepth hxlength (by omega) (endsNumber_comma more)
    simpa [rereadItems] using items_more (hx _) rfl hxs

/-- Members at the front of a text are read back, up to the brace behind them. -/
theorem members_write : ∀ (before : Entries) {es : List (Scalar × Node)}
    {level outer fuel depth : Nat} {inner rest : List Char},
    es ≠ [] → writeMembers level es = .ok inner → nestingOfEntries es ≤ depth →
    longestNumeralOfEntries es ≤ limits.digits → 2 * inner.length + 1 ≤ fuel →
    members limits fuel depth before (inner ++ (lineBreak outer ++ '\x7d' :: rest)) =
      .ok (rereadMembers before es, rest)
  | _, [], _, _, _, _, _, _, hne, _, _, _, _ => absurd rfl hne
  | before, [(k, v)], level, outer, fuel, depth, inner, rest, _, hinner, hdepth, hlength,
      hfuel => by
    obtain ⟨name, hname, hinner⟩ := bind_eq_ok_iff.mp hinner
    obtain ⟨text, htext, hpure⟩ := bind_eq_ok_iff.mp hinner
    cases hpure
    obtain ⟨fuel, rfl⟩ := Nat.exists_eq_add_of_le' (Nat.one_le_of_lt hfuel)
    simp only [List.length_cons, List.length_append] at hfuel
    have hv : value limits fuel depth (text ++ (lineBreak outer ++ '\x7d' :: rest)) =
        .ok (reread v, lineBreak outer ++ '\x7d' :: rest) :=
      value_write htext ((Nat.le_max_left ..).trans hdepth) ((Nat.le_max_left ..).trans hlength)
        (by omega) (endsNumber_lineBreak outer _)
    rw [← skip_space ((startsValue_write htext).append _)] at hv
    rw [memberName_eq hname]
    simpa [rereadMembers] using members_last hv (skip_lineBreak outer ('\x7d' :: rest))
  | before, (k, v) :: e :: es, level, outer, fuel, depth, inner, rest, _, hinner, hdepth, hlength,
      hfuel => by
    obtain ⟨name, hname, hinner⟩ := bind_eq_ok_iff.mp hinner
    obtain ⟨text, htext, hinner⟩ := bind_eq_ok_iff.mp hinner
    obtain ⟨others, hothers, hpure⟩ := bind_eq_ok_iff.mp hinner
    cases hpure
    obtain ⟨fuel, rfl⟩ := Nat.exists_eq_add_of_le' (Nat.one_le_of_lt hfuel)
    simp only [List.length_cons, List.length_append] at hfuel
    obtain ⟨hvdepth, hesdepth⟩ := Nat.max_le.mp hdepth
    obtain ⟨hvlength, heslength⟩ := Nat.max_le.mp hlength
    have hes : members limits fuel depth (before.insert (nameOf k) (reread v))
        (others ++ (lineBreak outer ++ '\x7d' :: rest)) =
        .ok (rereadMembers (before.insert (nameOf k) (reread v)) (e :: es), rest) :=
      members_write _ nofun hothers hesdepth heslength (by omega)
    have hstart := (startsValue_writeMembers hothers).append (lineBreak outer ++ '\x7d' :: rest)
    rw [← hstart.skip, ← skip_lineBreak level] at hes
    have hv (more) : value limits fuel depth (skip (' ' :: (text ++ ',' :: more))) =
        .ok (reread v, ',' :: more) := by
      rw [skip_space ((startsValue_write htext).append _)]
      exact value_write htext hvdepth hvlength (by omega) (endsNumber_comma more)
    rw [memberName_eq hname]
    simpa [rereadMembers] using members_more (hv _) rfl hes

end

end Values

/-! ## Whole texts -/

/-- Whether a text is JSON: some limits are wide enough to read it. -/
def IsText (text : String) : Prop :=
  ∃ limits v, readWithin limits text = .ok v

/-- The text of a value is read back within all limits that the value keeps. -/
theorem readWithin_pretty {limits : Limits} {v : Node} {text : String} (h : pretty v = .ok text)
    (hdepth : nesting v ≤ limits.depth) (hlength : longestNumeral v ≤ limits.digits) :
    readWithin limits text = .ok (reread v) := by
  obtain ⟨cs, hcs, rfl⟩ := map_eq_ok_iff.mp h
  have hstart := startsValue_write hcs
  have hvalue : value limits (2 * cs.length + 2) limits.depth cs = .ok (reread v, []) := by
    have hread := value_write hcs hdepth hlength (Nat.le_add_right _ 2) endsNumber_nil
    rwa [List.append_nil] at hread
  have hall : readAll limits cs = .ok (reread v) := by
    rw [readAll, hstart.skip, hvalue]
    rfl
  obtain ⟨c, rest, rfl, _, _, hmark⟩ := hstart
  rw [readWithin, String.toList_ofList]
  split
  · rename_i heq
    exact absurd (List.cons.inj heq).1 hmark
  · rw [hall]
    rfl

/-- A value within the usual limits that is its own reading is read back as it is. -/
theorem read_pretty {v : Node} {text : String} (h : pretty v = .ok text)
    (hdepth : v.depth ≤ Limits.standard.depth) (hlength : longestNumeral v ≤ Limits.standard.digits)
    (hsame : reread v = v) : read text = .ok v := by
  rw [read, readWithin_pretty h ((nesting_le_depth v).trans hdepth) hlength, hsame]

theorem isText_of_pretty {v : Node} {text : String} (h : pretty v = .ok text) : IsText text :=
  ⟨⟨longestNumeral v, nesting v⟩, reread v, readWithin_pretty h (Nat.le_refl _) (Nat.le_refl _)⟩

end RoutedFields.Json
