import RoutedFields.Proofs.Document.AlikeValues
import RoutedFields.Proofs.Json.Limits
import RoutedFields.Proofs.Json.RoundTrip
import RoutedFields.Proofs.Json.WritableValues

/-!
# Values that JSON text holds exactly

A plain value is written unless an integer in it has too many digits or something in it stands too
deep, and if there are no floating-point numbers and no torn texts in it, what is read of its text is
the value again, its keys in the same order. A reader has two limits of its own, though, and the text is
refused if the value goes beyond one of them. It is read back exactly if it does not.

* `Node.isFloatFree`: whether no floating-point number occurs in a value.
* `reread_of_isPlain`: a plain value without them is its own reading.
* `exists_pretty_iff_of_isPlain`, `unwritten_of_pretty_eq_error`: which plain values are written.
* `Limits.Allows`: whether a value keeps to some limits.
* `allows_of_readWithin`: whatever is read does.
* `readWithin_pretty_iff`: such a value is read back exactly if it does.
-/

namespace RoutedFields

/-! ## Values without floating-point numbers -/

/-- Whether a scalar is no floating-point number. -/
def Scalar.isFloatFree : Scalar → Bool
  | .float _ => false
  | _ => true

namespace Node

mutual

/-- Whether no floating-point number occurs in a value, its keys apart. -/
def isFloatFree : Node → Bool
  | .scalar s => s.isFloatFree
  | .list xs => isFloatFreeItems xs
  | .map es => isFloatFreeEntries es

/-- Whether no floating-point number occurs in the items of a list. -/
def isFloatFreeItems : List Node → Bool
  | [] => true
  | x :: xs => isFloatFree x && isFloatFreeItems xs

/-- Whether no floating-point number occurs in the values of some entries. -/
def isFloatFreeEntries : List (Scalar × Node) → Bool
  | [] => true
  | (_, v) :: rest => isFloatFree v && isFloatFreeEntries rest

end

theorem isFloatFreeItems_iff {xs : List Node} :
    isFloatFreeItems xs = true ↔ ∀ x ∈ xs, x.isFloatFree = true := by
  induction xs with
  | nil => simp [isFloatFreeItems]
  | cons x xs ih => simp [isFloatFreeItems, ih]

theorem isFloatFreeEntries_iff {es : Entries} :
    isFloatFreeEntries es = true ↔ ∀ e ∈ es, e.2.isFloatFree = true := by
  induction es with
  | nil => simp [isFloatFreeEntries]
  | cons e es ih => rw [isFloatFreeEntries, Bool.and_eq_true_iff, ih, List.forall_mem_cons]

end Node

/-! ## What is read of them -/

namespace Json

theorem rereadItems_eq_map (xs : List Node) : rereadItems xs = xs.map reread := by
  induction xs with
  | nil => rfl
  | cons x xs ih => rw [rereadItems, ih, List.map_cons]

theorem rereadMembers_eq_foldl (before es : Entries) :
    rereadMembers before es =
      es.foldl (fun read e => read.insert (nameOf e.1) (reread e.2)) before := by
  induction es generalizing before with
  | nil => rfl
  | cons e es ih => rw [rereadMembers, ih, List.foldl_cons]

/-- A plain value of Unicode texts without floating-point numbers is its own reading. -/
theorem reread_of_isPlain {v : Node} (hplain : v.isPlain = true) (hfree : v.isFloatFree = true)
    (hunicode : v.isUnicode = true) : reread v = v := by
  induction v using Node.induction_on_parts with
  | scalar s =>
    cases s with
    | float x => cases hfree
    | torn t => cases hunicode
    | _ => rfl
  | list xs ih =>
    rw [Node.isPlain_list_iff] at hplain
    rw [Node.isUnicode_list_iff] at hunicode
    have hfree : ∀ x ∈ xs, x.isFloatFree = true := Node.isFloatFreeItems_iff.mp hfree
    have hitems : xs.map reread = xs.map id := List.map_congr_left fun x hx =>
      ih x hx (hplain x hx) (hfree x hx) (hunicode x hx)
    rw [reread, rereadItems_eq_map, hitems, List.map_id]
  | map es ih =>
    obtain ⟨hnodup, hparts⟩ := Node.isPlain_map_iff.mp hplain
    rw [Node.isUnicode_map_iff] at hunicode
    have hfree : ∀ e ∈ es, e.2.isFloatFree = true := Node.isFloatFreeEntries_iff.mp hfree
    have hentry : ∀ (read : Entries), ∀ e ∈ es,
        read.insert (nameOf e.1) (reread e.2) = read.put e.1 e.2 := by
      intro read e he
      obtain ⟨text, htext⟩ := Scalar.isText_iff.mp (hparts e he).1
      rw [ih e he (hparts e he).2 (hfree e he) (hunicode e he).2, htext, Entries.put_str]
      rfl
    rw [reread, rereadMembers_eq_foldl, List.foldl_ext _ _ [] hentry]
    exact congrArg Node.map (Entries.ofList_of_nodup (fun e he => (hparts e he).1) hnodup)

/-! ## Values within limits -/

/-- Whether a value keeps to some limits. -/
structure Limits.Allows (limits : Limits) (v : Node) : Prop where
  nesting : nesting v ≤ limits.depth
  numerals : longestNumeral v ≤ limits.digits

section Parts

variable {n digits depth : Nat} {xs : List Node} {es : Entries}

theorem nestingOfItems_le_iff : nestingOfItems xs ≤ n ↔ ∀ x ∈ xs, nesting x ≤ n := by
  induction xs with
  | nil => simp [nestingOfItems]
  | cons x xs ih => rw [nestingOfItems, Nat.max_le, ih, List.forall_mem_cons]

theorem nestingOfEntries_le_iff : nestingOfEntries es ≤ n ↔ ∀ e ∈ es, nesting e.2 ≤ n := by
  induction es with
  | nil => simp [nestingOfEntries]
  | cons e es ih => rw [nestingOfEntries, Nat.max_le, ih, List.forall_mem_cons]

theorem longestNumeralOfItems_le_iff :
    longestNumeralOfItems xs ≤ n ↔ ∀ x ∈ xs, longestNumeral x ≤ n := by
  induction xs with
  | nil => simp [longestNumeralOfItems]
  | cons x xs ih => rw [longestNumeralOfItems, Nat.max_le, ih, List.forall_mem_cons]

theorem longestNumeralOfEntries_le_iff :
    longestNumeralOfEntries es ≤ n ↔ ∀ e ∈ es, longestNumeral e.2 ≤ n := by
  induction es with
  | nil => simp [longestNumeralOfEntries]
  | cons e es ih => rw [longestNumeralOfEntries, Nat.max_le, ih, List.forall_mem_cons]

/-- A plain value has a JSON form exactly if no integer in it has too many digits. -/
theorem isWritable_iff_of_isPlain {v : Node} (h : v.isPlain = true) :
    v.isWritable = true ↔ longestNumeral v ≤ longestInteger := by
  induction v using Node.induction_on_parts with
  | scalar s =>
    cases s with
    | int n => exact decide_eq_true_iff
    | date d => cases h
    | _ => exact iff_of_true rfl (Nat.zero_le _)
  | list xs ih =>
    rw [Node.isPlain_list_iff] at h
    rw [Node.isWritable_list_iff, longestNumeral, longestNumeralOfItems_le_iff]
    exact forall₂_congr fun x hx => ih x hx (h x hx)
  | map es ih =>
    obtain ⟨_, hparts⟩ := Node.isPlain_map_iff.mp h
    rw [Node.isWritable_map_iff, longestNumeral, longestNumeralOfEntries_le_iff]
    refine forall₂_congr fun e he => ?_
    obtain ⟨text, htext⟩ := Scalar.isText_iff.mp (hparts e he).1
    rw [htext, ih e he (hparts e he).2]
    exact and_iff_right rfl

theorem allows_scalar {limits : Limits} {s : Scalar} (h : numeralLength s ≤ limits.digits) :
    limits.Allows (.scalar s) :=
  ⟨Nat.zero_le _, h⟩

theorem allows_list (h : ∀ x ∈ xs, Limits.Allows ⟨digits, depth⟩ x) :
    Limits.Allows ⟨digits, depth + 1⟩ (.list xs) where
  nesting := Nat.succ_le_succ (nestingOfItems_le_iff.mpr fun x hx => (h x hx).nesting)
  numerals := longestNumeralOfItems_le_iff.mpr fun x hx => (h x hx).numerals

theorem allows_map (h : ∀ e ∈ es, Limits.Allows ⟨digits, depth⟩ e.2) :
    Limits.Allows ⟨digits, depth + 1⟩ (.map es) where
  nesting := Nat.succ_le_succ (nestingOfEntries_le_iff.mpr fun e he => (h e he).nesting)
  numerals := longestNumeralOfEntries_le_iff.mpr fun e he => (h e he).numerals

end Parts

/-! ## Plain values that are written -/

section Writers

variable {P : Fault → Prop} {level : Nat} {xs : List Node} {es : Entries} {v : Node}

theorem failsOnly_writeItems (h : ∀ x ∈ xs, FailsOnly P (write level x)) :
    FailsOnly P (writeItems level xs) := by
  induction xs with
  | nil => exact failsOnly_ok _ _
  | cons x xs ih =>
    obtain ⟨hx, hxs⟩ := List.forall_mem_cons.mp h
    cases xs with
    | nil => exact hx
    | cons y ys => exact hx.bind fun _ _ => (ih hxs).bind fun _ _ => failsOnly_ok _ _

theorem failsOnly_writeMembers
    (h : ∀ e ∈ es, FailsOnly P (memberName e.1) ∧ FailsOnly P (write level e.2)) :
    FailsOnly P (writeMembers level es) := by
  induction es with
  | nil => exact failsOnly_ok _ _
  | cons e es ih =>
    obtain ⟨⟨hname, hvalue⟩, hes⟩ := List.forall_mem_cons.mp h
    cases es with
    | nil => exact hname.bind fun _ _ => hvalue.bind fun _ _ => failsOnly_ok _ _
    | cons f fs =>
      exact hname.bind fun _ _ => hvalue.bind fun _ _ => (ih hes).bind fun _ _ => failsOnly_ok _ _

/-- Whether a plain value is beyond the limit that a fault is about. -/
inductive Unwritten (v : Node) : Fault → Prop
  | long (h : longestInteger < longestNumeral v) : Unwritten v .integerTooLong
  | deep (h : deepestCalls < nesting v) : Unwritten v .nestedTooDeep

theorem failsOnly_atLevel {text : Except Fault (List Char)}
    (hdeep : deepestCalls ≤ level → P .nestedTooDeep) (h : FailsOnly P text) :
    FailsOnly P (atLevel level text) := by
  unfold atLevel
  split
  · exact h
  · rename_i hlevel
    exact failsOnly_error (hdeep (Nat.le_of_not_lt hlevel))

/-- If a plain value is not written, an integer in it or its nesting is to blame. -/
theorem failsOnly_write (h : v.isPlain = true)
    (hlong : longestInteger < longestNumeral v → P .integerTooLong)
    (hdeep : deepestCalls < level + nesting v → P .nestedTooDeep) :
    FailsOnly P (write level v) := by
  induction v using Node.induction_on_parts generalizing level with
  | scalar s =>
    cases s with
    | int n =>
      show FailsOnly _ (integerText n)
      unfold integerText
      split
      · rename_i hdigits
        exact failsOnly_error (hlong hdigits)
      · exact failsOnly_ok _ _
    | date d => cases h
    | _ => exact failsOnly_ok _ _
  | list xs ih =>
    rw [Node.isPlain_list_iff] at h
    have hstart (hlevel : deepestCalls ≤ level) : P .nestedTooDeep :=
      hdeep (Nat.lt_of_le_of_lt hlevel (Nat.lt_add_of_pos_right (Nat.succ_pos _)))
    cases xs with
    | nil => exact failsOnly_atLevel hstart (failsOnly_ok _ _)
    | cons x xs =>
      refine failsOnly_atLevel hstart ?_
      refine (failsOnly_writeItems fun y hy => ih y hy (h y hy) ?_ ?_).bind
        fun _ _ => failsOnly_ok _ _
      · exact fun hy' => hlong (hy'.trans_le (longestNumeralOfItems_le_iff.mp (Nat.le_refl _) y hy))
      · have hle := nestingOfItems_le_iff.mp (Nat.le_refl _) y hy
        exact fun hy' => hdeep (by rw [nesting]; omega)
  | map es ih =>
    obtain ⟨_, hparts⟩ := Node.isPlain_map_iff.mp h
    have hstart (hlevel : deepestCalls ≤ level) : P .nestedTooDeep :=
      hdeep (Nat.lt_of_le_of_lt hlevel (Nat.lt_add_of_pos_right (Nat.succ_pos _)))
    cases es with
    | nil => exact failsOnly_atLevel hstart (failsOnly_ok _ _)
    | cons e es =>
      refine failsOnly_atLevel hstart ?_
      refine (failsOnly_writeMembers fun f hf => ⟨?_, ih f hf (hparts f hf).2 ?_ ?_⟩).bind
        fun _ _ => failsOnly_ok _ _
      · obtain ⟨text, htext⟩ := Scalar.isText_iff.mp (hparts f hf).1
        rw [htext]
        exact failsOnly_ok _ _
      · exact fun hf' =>
          hlong (hf'.trans_le (longestNumeralOfEntries_le_iff.mp (Nat.le_refl _) f hf))
      · have hle := nestingOfEntries_le_iff.mp (Nat.le_refl _) f hf
        exact fun hf' => hdeep (by rw [nesting]; omega)

/-- A plain value is written exactly if no integer in it has too many digits and nothing in it stands
too deep. -/
theorem exists_pretty_iff_of_isPlain (h : v.isPlain = true) :
    (∃ text, pretty v = .ok text) ↔
      longestNumeral v ≤ longestInteger ∧ nesting v ≤ deepestCalls := by
  rw [exists_pretty_iff, isWritable_iff_of_isPlain h]

/-- A plain value that is not written is beyond a limit. -/
theorem unwritten_of_pretty_eq_error {fault : Fault} (h : v.isPlain = true)
    (herror : pretty v = .error fault) : Unwritten v fault := by
  have hwrite : FailsOnly (Unwritten v) (write 0 v) :=
    failsOnly_write h .long fun hdeep => .deep (by rwa [Nat.zero_add] at hdeep)
  exact hwrite.map fault herror

end Writers

/-! ## What is read keeps to the limits -/

section Readers

variable {limits : Limits} {fuel : Nat}

theorem ne_nil_of_wholeDigits? {s whole rest : List Char}
    (h : wholeDigits? s = some (whole, rest)) : whole ≠ [] := by
  unfold wholeDigits? at h
  split at h
  · cases h
    exact List.cons_ne_nil _ _
  · rename_i c cs _
    split at h
    · rename_i hdigit
      have hwhole : digits (c :: cs) = (whole, rest) := Option.some.inj h
      rw [digits, List.span_eq_takeWhile_dropWhile, List.takeWhile_cons_of_pos hdigit] at hwhole
      rw [← (Prod.mk.inj hwhole).1]
      exact List.cons_ne_nil _ _
    · cases h
  · cases h

theorem ne_nil_of_number? {s ds rest : List Char} {negative : Bool}
    (h : number? s = some (.integer negative ds, rest)) : ds ≠ [] := by
  have hunsigned : ∀ {sign : Bool} {t : List Char},
      unsigned? sign t = some (.integer negative ds, rest) → ds ≠ [] := by
    intro sign t h
    unfold unsigned? at h
    split at h
    · cases h
    · rename_i whole afterWhole hwhole
      dsimp only at h
      split at h
      · cases h
        exact ne_nil_of_wholeDigits? hwhole
      · cases h
      · cases h
  unfold number? at h
  split at h
  · exact hunsigned h
  · exact hunsigned h

/-- An integer is read only if its digits are not too many. -/
theorem numeralLength_le_of_value {s rest : List Char} {number : Numeral} {v : Node}
    (hnumber : number? s = some (number, rest)) (h : number.value limits = .ok v) :
    ∃ scalar, v = .scalar scalar ∧ numeralLength scalar ≤ limits.digits := by
  cases number with
  | double x =>
    cases h
    exact ⟨_, rfl, Nat.zero_le _⟩
  | integer negative ds =>
    rw [Numeral.value] at h
    split at h
    · cases h
    · rename_i hlength
      cases h
      refine ⟨_, rfl, ?_⟩
      have habs : (if negative = true then -((natOfDigits 10 (asciiDigits ds) : Nat) : Int)
          else (natOfDigits 10 (asciiDigits ds) : Nat)).natAbs = natOfDigits 10 (asciiDigits ds) := by
        split <;> simp
      have hshort := length_decimalText_le (ne_nil_of_number? hnumber)
        (isIn_of_number? hnumber).1.2
      simp only [numeralLength, habs]
      omega

theorem numeralLength_le_of_atom {s rest : List Char} {v : Node}
    (h : atom limits s = .ok (v, rest)) :
    ∃ scalar, v = .scalar scalar ∧ numeralLength scalar ≤ limits.digits := by
  rw [atom] at h
  split at h
  · rename_i found hfound
    cases h
    obtain ⟨l, hl, hrest⟩ := List.exists_of_findSome?_eq_some hfound
    obtain ⟨_, _, heq⟩ := Option.map_eq_some_iff.mp hrest
    obtain ⟨rfl, _⟩ := Prod.mk.inj heq
    have hliterals : ∀ l ∈ literals, ∃ scalar, l.2 = .scalar scalar ∧ numeralLength scalar = 0 := by
      simp [literals, numeralLength]
    obtain ⟨scalar, hscalar, hlength⟩ := hliterals l hl
    exact ⟨scalar, hscalar, hlength ▸ Nat.zero_le _⟩
  · split at h
    · rename_i hnumber
      obtain ⟨w, hw, heq⟩ := map_eq_ok_iff.mp h
      obtain ⟨rfl, _⟩ := Prod.mk.inj heq
      exact numeralLength_le_of_value hnumber hw
    · cases h

theorem numeralLength_of_string {s rest : List Char} {text : Scalar}
    (h : string s = .ok (text, rest)) : numeralLength text = 0 := by
  obtain ⟨_, _, hpure⟩ := bind_eq_ok_iff.mp h
  cases hpure
  unfold Scalar.ofParts
  split <;> rfl

/-- Whether what is read with some fuel keeps to the limits: a value, the items of an array, and the
members of an object if those read already do. -/
structure ReadsAllowed (limits : Limits) (fuel : Nat) : Prop where
  value : ∀ {depth s v rest}, value limits fuel depth s = .ok (v, rest) →
    Limits.Allows ⟨limits.digits, depth⟩ v
  items : ∀ {depth s xs rest}, items limits fuel depth s = .ok (xs, rest) →
    ∀ x ∈ xs, Limits.Allows ⟨limits.digits, depth⟩ x
  members : ∀ {depth es s es' rest}, (∀ e ∈ es, Limits.Allows ⟨limits.digits, depth⟩ e.2) →
    members limits fuel depth es s = .ok (es', rest) →
    ∀ e ∈ es', Limits.Allows ⟨limits.digits, depth⟩ e.2

theorem ReadsAllowed.value_succ (ih : ReadsAllowed limits fuel) {depth : Nat} {s rest : List Char}
    {v : Node} (h : Json.value limits (fuel + 1) depth s = .ok (v, rest)) :
    Limits.Allows ⟨limits.digits, depth⟩ v := by
  unfold Json.value at h
  split at h
  · obtain ⟨⟨text, rest⟩, htext, hpure⟩ := bind_eq_ok_iff.mp h
    cases hpure
    exact allows_scalar (numeralLength_of_string htext ▸ Nat.zero_le _)
  · cases h
  · cases h
  · split at h
    · cases h
      exact allows_list fun x hx => absurd hx List.not_mem_nil
    · obtain ⟨_, hitems, hpure⟩ := bind_eq_ok_iff.mp h
      cases hpure
      exact allows_list (ih.items hitems)
  · split at h
    · cases h
      exact allows_map fun e he => absurd he List.not_mem_nil
    · obtain ⟨_, hmembers, hpure⟩ := bind_eq_ok_iff.mp h
      cases hpure
      exact allows_map (ih.members (fun e he => absurd he List.not_mem_nil) hmembers)
  · obtain ⟨scalar, rfl, hlength⟩ := numeralLength_le_of_atom h
    exact allows_scalar hlength

theorem ReadsAllowed.items_succ (ih : ReadsAllowed limits fuel) {depth : Nat} {s rest : List Char}
    {xs : List Node} (h : Json.items limits (fuel + 1) depth s = .ok (xs, rest)) :
    ∀ x ∈ xs, Limits.Allows ⟨limits.digits, depth⟩ x := by
  obtain ⟨⟨first, afterFirst⟩, hfirst, h⟩ := bind_eq_ok_iff.mp h
  dsimp only at h
  split at h
  · cases h
    exact List.forall_mem_singleton.mpr (ih.value hfirst)
  · obtain ⟨_, hitems, hpure⟩ := bind_eq_ok_iff.mp h
    cases hpure
    exact List.forall_mem_cons.mpr ⟨ih.value hfirst, ih.items hitems⟩
  · cases h

theorem ReadsAllowed.members_succ (ih : ReadsAllowed limits fuel) {depth : Nat}
    {s rest : List Char} {es es' : Entries}
    (hes : ∀ e ∈ es, Limits.Allows ⟨limits.digits, depth⟩ e.2)
    (h : Json.members limits (fuel + 1) depth es s = .ok (es', rest)) :
    ∀ e ∈ es', Limits.Allows ⟨limits.digits, depth⟩ e.2 := by
  unfold Json.members at h
  split at h
  · obtain ⟨⟨name, afterName⟩, _, h⟩ := bind_eq_ok_iff.mp h
    dsimp only at h
    split at h
    · obtain ⟨⟨v, afterValue⟩, hvalue, h⟩ := bind_eq_ok_iff.mp h
      have hput : ∀ e ∈ es.put name v, Limits.Allows ⟨limits.digits, depth⟩ e.2 := by
        intro e he
        rcases Entries.value_of_mem_put he with hmem | heq
        · exact hes e hmem
        · exact heq ▸ ih.value hvalue
      dsimp only at h
      split at h
      · cases h
        exact hput
      · exact ih.members hput h
      · cases h
    · cases h
  · cases h

theorem readsAllowed (limits : Limits) (fuel : Nat) : ReadsAllowed limits fuel := by
  induction fuel with
  | zero =>
    constructor
    · intro _ _ _ _ h
      cases h
    · intro _ _ _ _ h
      cases h
    · intro _ _ _ _ _ _ h
      cases h
  | succ fuel ih => exact ⟨ih.value_succ, ih.items_succ, ih.members_succ⟩

/-- Whatever is read keeps to the limits. -/
theorem allows_of_readWithin {text : String} {v : Node} (h : readWithin limits text = .ok v) :
    limits.Allows v := by
  rw [readWithin] at h
  split at h
  · cases h
  · obtain ⟨⟨w, rest⟩, hw, h⟩ := bind_eq_ok_iff.mp (mapError_eq_ok_iff.mp h)
    dsimp only at h
    split at h
    · cases h
      exact (readsAllowed _ _).value hw
    · cases h

end Readers

/-- A plain value of Unicode texts without floating-point numbers is read back as it is, exactly if it
keeps to the limits. -/
theorem readWithin_pretty_iff {limits : Limits} {v : Node} {text : String}
    (htext : pretty v = .ok text) (hplain : v.isPlain = true) (hfree : v.isFloatFree = true)
    (hunicode : v.isUnicode = true) : readWithin limits text = .ok v ↔ limits.Allows v := by
  constructor
  · exact allows_of_readWithin
  · intro h
    rw [readWithin_pretty htext h.nesting h.numerals, reread_of_isPlain hplain hfree hunicode]

end Json
end RoutedFields
