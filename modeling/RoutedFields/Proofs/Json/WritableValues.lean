import RoutedFields.Proofs.Document.UnicodeValues
import RoutedFields.Proofs.Json.RoundTrip

/-!
# Values that have a JSON form

A value has a JSON form unless a date or an integer of too many digits occurs in it, or lists and maps
stand too deep in it. The text is torn only if the value has torn texts.

* `Node.isWritable`: whether no such scalar occurs in a value.
* `longInteger`: the least integer without a text.
* `Json.exists_pretty_iff`: which values are written.
* `Json.prettyText_of_isUnicode`: the text of a value of Unicode texts.
* `Json.maskedText?_of_prettyText`: the text of any value.
-/

namespace RoutedFields

/-- Whether a scalar has a JSON form: it is no date, and no integer of too many digits. -/
def Scalar.isWritable : Scalar → Bool
  | .int n => (decimalText n.natAbs).length ≤ longestInteger
  | .date _ => false
  | _ => true

namespace Node

mutual

/-- Whether all scalars in a value have a JSON form. -/
def isWritable : Node → Bool
  | .scalar s => s.isWritable
  | .list xs => isWritableItems xs
  | .map es => isWritableEntries es

/-- Whether all scalars in the items of a list have a JSON form. -/
def isWritableItems : List Node → Bool
  | [] => true
  | x :: xs => isWritable x && isWritableItems xs

/-- Whether all scalars in the entries of a map have a JSON form. -/
def isWritableEntries : List (Scalar × Node) → Bool
  | [] => true
  | (k, v) :: rest => k.isWritable && isWritable v && isWritableEntries rest

end

theorem isWritableItems_iff {xs : List Node} :
    isWritableItems xs = true ↔ ∀ x ∈ xs, x.isWritable = true := by
  induction xs with
  | nil => simp [isWritableItems]
  | cons x xs ih => simp [isWritableItems, ih]

theorem isWritableEntries_iff {es : Entries} :
    isWritableEntries es = true ↔ ∀ e ∈ es, e.1.isWritable = true ∧ e.2.isWritable = true := by
  induction es with
  | nil => simp [isWritableEntries]
  | cons e es ih =>
    rw [isWritableEntries, Bool.and_eq_true_iff, Bool.and_eq_true_iff, ih, List.forall_mem_cons]

theorem isWritable_list_iff {xs : List Node} :
    (Node.list xs).isWritable = true ↔ ∀ x ∈ xs, x.isWritable = true := by
  rw [isWritable, isWritableItems_iff]

theorem isWritable_map_iff {es : Entries} :
    (Node.map es).isWritable = true ↔
      ∀ e ∈ es, e.1.isWritable = true ∧ e.2.isWritable = true := by
  rw [isWritable, isWritableEntries_iff]

end Node

/-- The least integer with too many digits. -/
def longInteger : Int :=
  (10 ^ longestInteger : Nat)

theorem integerText_longInteger : integerText longInteger = .error .integerTooLong := by
  refine if_pos ?_
  by_contra hshort
  have hlt : 10 ^ longestInteger < 10 ^ longestInteger :=
    (Nat.length_toDigits_le_iff (by decide) (by decide)).mp (Nat.le_of_not_lt hshort)
  exact absurd hlt (Nat.lt_irrefl _)

/-! ## Writing -/

namespace Json

theorem integerText_isOk (n : Int) : (integerText n).isOk = (Scalar.int n).isWritable := by
  rw [integerText, Scalar.isWritable]
  split
  · rename_i hlong
    exact (decide_eq_false (Nat.not_le_of_lt hlong)).symm
  · rename_i hlong
    exact (decide_eq_true (Nat.le_of_not_lt hlong)).symm

theorem scalarText_isOk (s : Scalar) : (scalarText s).isOk = s.isWritable := by
  cases s with
  | int n => exact integerText_isOk n
  | _ => rfl

theorem memberName_isOk (s : Scalar) : (memberName s).isOk = s.isWritable := by
  cases s with
  | int n =>
    have hname : memberName (.int n) = (integerText n).map fun cs => '"' :: (cs ++ ['"']) := rfl
    rw [hname, ← integerText_isOk]
    cases integerText n <;> rfl
  | _ => rfl

theorem atLevel_of_lt {level : Nat} (h : level < deepestCalls) (text : Except Fault (List Char)) :
    atLevel level text = text :=
  if_pos h

theorem isOk_bind_pure {α β ε : Type} (x : Except ε α) (f : α → β) :
    (x >>= fun a => pure (f a)).isOk = x.isOk := by
  cases x <;> rfl

theorem isOk_atLevel_iff {level : Nat} {text : Except Fault (List Char)} :
    (atLevel level text).isOk = true ↔ level < deepestCalls ∧ text.isOk = true := by
  unfold atLevel
  split
  · rename_i hlevel
    exact (and_iff_right hlevel).symm
  · rename_i hlevel
    exact iff_of_false nofun fun h => hlevel h.1

/-- What stands at a level fits if all that stands in it fits at the next one. -/
theorem fits_succ_iff {level depth : Nat} {P : Prop} :
    level < deepestCalls ∧ P ∧ level + 1 + depth ≤ deepestCalls ↔
      P ∧ level + (depth + 1) ≤ deepestCalls :=
  ⟨fun ⟨_, hP, hdepth⟩ => ⟨hP, by omega⟩, fun ⟨hP, hdepth⟩ => ⟨by omega, hP, by omega⟩⟩

theorem add_max_le_iff {level m n : Nat} :
    level + max m n ≤ deepestCalls ↔ level + m ≤ deepestCalls ∧ level + n ≤ deepestCalls := by
  omega

mutual

theorem write_isOk_iff {level : Nat} (hlevel : level ≤ deepestCalls) : ∀ node : Node,
    (write level node).isOk = true ↔ node.isWritable = true ∧ level + nesting node ≤ deepestCalls
  | .scalar s => by
    rw [write, scalarText_isOk, Node.isWritable, nesting]
    exact (and_iff_left hlevel).symm
  | .list [] => by
    rw [write, isOk_atLevel_iff]
    exact (and_iff_left rfl).trans (and_iff_right rfl).symm
  | .list (x :: xs) => by
    rw [write, isOk_atLevel_iff, isOk_bind_pure, Node.isWritable, nesting, ← fits_succ_iff]
    exact and_congr_right fun hlt => writeItems_isOk_iff hlt (x :: xs)
  | .map [] => by
    rw [write, isOk_atLevel_iff]
    exact (and_iff_left rfl).trans (and_iff_right rfl).symm
  | .map (e :: es) => by
    rw [write, isOk_atLevel_iff, isOk_bind_pure, Node.isWritable, nesting, ← fits_succ_iff]
    exact and_congr_right fun hlt => writeMembers_isOk_iff hlt (e :: es)

theorem writeItems_isOk_iff {level : Nat} (hlevel : level ≤ deepestCalls) : ∀ xs : List Node,
    (writeItems level xs).isOk = true ↔
      Node.isWritableItems xs = true ∧ level + nestingOfItems xs ≤ deepestCalls
  | [] => (and_iff_left hlevel).symm
  | [x] => by
    rw [writeItems, write_isOk_iff hlevel x]
    simp [Node.isWritableItems, nestingOfItems]
  | x :: y :: ys => by
    have hx := write_isOk_iff hlevel x
    have hys := writeItems_isOk_iff hlevel (y :: ys)
    have hboth : (writeItems level (x :: y :: ys)).isOk =
        ((write level x).isOk && (writeItems level (y :: ys)).isOk) := by
      rw [writeItems]
      cases write level x <;> cases writeItems level (y :: ys) <;> rfl
    rw [hboth, Bool.and_eq_true, hx, hys, Node.isWritableItems.eq_2 x, Bool.and_eq_true,
      nestingOfItems.eq_2 x, add_max_le_iff, and_and_and_comm]

theorem writeMembers_isOk_iff {level : Nat} (hlevel : level ≤ deepestCalls) :
    ∀ es : List (Scalar × Node), (writeMembers level es).isOk = true ↔
      Node.isWritableEntries es = true ∧ level + nestingOfEntries es ≤ deepestCalls
  | [] => (and_iff_left hlevel).symm
  | [(k, v)] => by
    have hboth : (writeMembers level [(k, v)]).isOk =
        ((memberName k).isOk && (write level v).isOk) := by
      rw [writeMembers]
      cases memberName k <;> cases write level v <;> rfl
    rw [hboth, Bool.and_eq_true, write_isOk_iff hlevel v, memberName_isOk]
    simp [Node.isWritableEntries, nestingOfEntries, and_assoc]
  | (k, v) :: e :: es => by
    have hv := write_isOk_iff hlevel v
    have hes := writeMembers_isOk_iff hlevel (e :: es)
    have hall : (writeMembers level ((k, v) :: e :: es)).isOk =
        ((memberName k).isOk && (write level v).isOk && (writeMembers level (e :: es)).isOk) := by
      rw [writeMembers]
      cases memberName k <;> cases write level v <;> cases writeMembers level (e :: es) <;> rfl
    rw [hall, Bool.and_eq_true, Bool.and_eq_true, hv, hes, memberName_isOk,
      Node.isWritableEntries.eq_2 k v, Bool.and_eq_true, Bool.and_eq_true,
      nestingOfEntries.eq_2 k v, add_max_le_iff, ← and_assoc (a := k.isWritable = true),
      and_and_and_comm]

end

/-- A value is written exactly if all its scalars are and nothing in it stands too deep. -/
theorem exists_pretty_iff {node : Node} :
    (∃ text, pretty node = .ok text) ↔ node.isWritable = true ∧ nesting node ≤ deepestCalls := by
  have h := write_isOk_iff (Nat.zero_le deepestCalls) node
  rw [Nat.zero_add] at h
  rw [← h, pretty]
  cases write 0 node with
  | ok cs => exact iff_of_true ⟨_, rfl⟩ rfl
  | error fault => exact iff_of_false nofun nofun


/-! ## Halves -/

/-- Each mark stands for a U+FFFD of the masked form. -/
theorem masked_of_mem_scalarMarks {s : Scalar} {mark : TextPart} (hmark : mark ∈ scalarMarks s) :
    mark.masked = '\ufffd' := by
  cases s with
  | str text =>
    obtain ⟨c, hc, rfl⟩ := List.mem_map.mp hmark
    exact beq_iff_eq.mp (List.mem_filter.mp hc).2
  | torn text => exact beq_iff_eq.mp (List.mem_filter.mp hmark).2
  | _ => cases hmark

/-- In a text that is not torn each U+FFFD stands for itself. -/
theorem eq_of_mem_scalarMarks {s : Scalar} (h : s.isTorn = false) {mark : TextPart}
    (hmark : mark ∈ scalarMarks s) : mark = .char '\ufffd' := by
  cases s with
  | str text =>
    obtain ⟨c, hc, rfl⟩ := List.mem_map.mp hmark
    exact congrArg TextPart.char (beq_iff_eq.mp (List.mem_filter.mp hc).2)
  | torn text => cases h
  | _ => cases hmark

theorem mem_marksOfItems_iff {xs : List Node} {mark : TextPart} :
    mark ∈ marksOfItems xs ↔ ∃ x ∈ xs, mark ∈ marks x := by
  induction xs with
  | nil => simp [marksOfItems]
  | cons x xs ih => simp [marksOfItems, ih]

theorem mem_marksOfMembers_iff {es : Entries} {mark : TextPart} :
    mark ∈ marksOfMembers es ↔ ∃ e ∈ es, mark ∈ scalarMarks e.1 ∨ mark ∈ marks e.2 := by
  induction es with
  | nil => simp [marksOfMembers]
  | cons e es ih => simp [marksOfMembers, ih, or_assoc]

/-- Each mark is one of a scalar, which is not torn if the value holds no torn text. -/
theorem exists_scalar_of_mem_marks {node : Node} {mark : TextPart} (hmark : mark ∈ marks node) :
    ∃ scalar, mark ∈ scalarMarks scalar ∧ (node.isUnicode = true → scalar.isTorn = false) := by
  induction node using Node.induction_on_parts with
  | scalar s => exact ⟨s, hmark, fun h => by simpa [Node.isUnicode] using h⟩
  | list xs ih =>
    obtain ⟨x, hx, hmark⟩ := mem_marksOfItems_iff.mp hmark
    obtain ⟨scalar, hscalar, htorn⟩ := ih x hx hmark
    exact ⟨scalar, hscalar, fun h => htorn (Node.isUnicode_list_iff.mp h x hx)⟩
  | map es ih =>
    obtain ⟨e, he, hkey | hvalue⟩ := mem_marksOfMembers_iff.mp hmark
    · exact ⟨e.1, hkey, fun h => (Node.isUnicode_map_iff.mp h e he).1⟩
    · obtain ⟨scalar, hscalar, htorn⟩ := ih e he hvalue
      exact ⟨scalar, hscalar, fun h => htorn (Node.isUnicode_map_iff.mp h e he).2⟩

theorem unmasked_of_chars {marks : List TextPart} (h : ∀ mark ∈ marks, mark = .char '\ufffd')
    (s : List Char) : unmasked marks s = s.map .char := by
  induction s generalizing marks with
  | nil => cases marks <;> rfl
  | cons c s ih =>
    cases marks with
    | nil => rfl
    | cons mark marks =>
      obtain ⟨hmark, hmarks⟩ := List.forall_mem_cons.mp h
      rw [unmasked]
      split
      · rename_i hc
        rw [ih hmarks, hmark, List.map_cons, hc]
      · rw [ih h, List.map_cons]

theorem prettyText_eq (node : Node) :
    prettyText node = (write 0 node).map fun cs => .ofParts (unmasked (marks node) cs) := by
  unfold prettyText pretty
  cases write 0 node with
  | error fault => rfl
  | ok cs =>
    change Except.ok (Scalar.ofParts (unmasked (marks node) (String.ofList cs).toList)) = _
    rw [String.toList_ofList]
    rfl

/-- The text of a value of Unicode texts is not torn. -/
theorem prettyText_of_isUnicode {node : Node} (h : node.isUnicode = true) :
    prettyText node = (pretty node).map .str := by
  unfold prettyText
  congr 1
  funext text
  rw [unmasked_of_chars, ofParts_map_char, String.ofList_toList]
  intro mark hmark
  obtain ⟨scalar, hscalar, htorn⟩ := exists_scalar_of_mem_marks hmark
  exact eq_of_mem_scalarMarks (htorn h) hscalar

/-! ## Torn texts that are JSON -/

/-- A text with U+FFFD in place of its halves, if a value is a text. -/
def maskedText? : Node → Option String
  | .str s => some s
  | .torn t => some t.masked
  | _ => none

theorem map_masked_map_char (s : List Char) : (s.map TextPart.char).map TextPart.masked = s := by
  rw [List.map_map]
  exact List.map_id s

theorem masked_unmasked {marks : List TextPart} (h : ∀ mark ∈ marks, mark.masked = '\ufffd')
    (s : List Char) : (unmasked marks s).map TextPart.masked = s := by
  induction s generalizing marks with
  | nil => cases marks <;> rfl
  | cons c s ih =>
    cases marks with
    | nil => exact map_masked_map_char (c :: s)
    | cons mark marks =>
      obtain ⟨hmark, hmarks⟩ := List.forall_mem_cons.mp h
      rw [unmasked]
      split
      · rename_i hc
        rw [List.map_cons, ih hmarks, hmark, hc]
      · rw [List.map_cons, ih h]
        rfl

theorem map_leadingChars_append (parts : List TextPart) :
    (TextPart.leadingChars parts).map .char ++
      ((TextPart.fromHalf? parts).map fun p => .half p.1 :: p.2).getD [] = parts := by
  induction parts with
  | nil => rfl
  | cons part parts ih =>
    cases part with
    | char c => exact congrArg (TextPart.char c :: ·) ih
    | half h => rfl

/-- Parts make up a text that has them. -/
theorem maskedText?_ofParts (parts : List TextPart) :
    maskedText? (.scalar (.ofParts parts)) = some (String.ofList (parts.map TextPart.masked)) := by
  have hparts := map_leadingChars_append parts
  rw [Scalar.ofParts]
  cases hfrom : TextPart.fromHalf? parts with
  | none =>
    rw [hfrom, Option.map_none, Option.getD_none, List.append_nil] at hparts
    have hmasked := map_masked_map_char (TextPart.leadingChars parts)
    rw [hparts] at hmasked
    rw [hmasked]
    rfl
  | some split =>
    rw [hfrom, Option.map_some, Option.getD_some] at hparts
    rw [← congrArg (List.map TextPart.masked) hparts]
    rfl

/-- The text of a value is a text, torn or not. -/
theorem exists_pretty_of_prettyText {node : Node} {text : Scalar}
    (h : prettyText node = .ok text) :
    ∃ masked, pretty node = .ok masked ∧ maskedText? (.scalar text) = some masked := by
  obtain ⟨masked, hmasked, rfl⟩ := map_eq_ok_iff.mp h
  refine ⟨masked, hmasked, ?_⟩
  rw [maskedText?_ofParts, masked_unmasked, String.ofList_toList]
  intro mark hmark
  obtain ⟨scalar, hscalar, _⟩ := exists_scalar_of_mem_marks hmark
  exact masked_of_mem_scalarMarks hscalar

/-- The text of a value is JSON, a half counting as the U+FFFD that can stand in its place. -/
theorem maskedText?_of_prettyText {node : Node} {text : Scalar} (h : prettyText node = .ok text) :
    ∃ masked, maskedText? (.scalar text) = some masked ∧ IsText masked := by
  obtain ⟨masked, hpretty, hmasked⟩ := exists_pretty_of_prettyText h
  exact ⟨masked, hmasked, isText_of_pretty hpretty⟩

end Json

end RoutedFields
