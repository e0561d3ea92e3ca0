import RoutedFields.Document.Depth
import RoutedFields.Json.Printer
import RoutedFields.Proofs.Document.DistinctKeys

/-!
# Plain values

A value is plain if it is one of the JSON standard: its numbers are finite, it has no dates, and the
keys of its maps are texts, each of which stands once.

* `Node.isPlain`: whether a value is plain.
* `Node.isPlain_list_iff`, `Node.isPlain_map_iff`: a value in terms of its parts.
* `Node.plain_of_isPlain`: a plain value is its own plain form.
* `Node.plain_map`: the plain form of a map under distinct texts.
* `PlainUnder`: entries with plain values under keys that stand in a given order.
* `nestedLists`: plain values that are as deep as one likes.
-/

namespace RoutedFields

/-- Whether a scalar is plain. -/
def Scalar.isPlain : Scalar → Bool
  | .float x => x.isFinite
  | .date _ => false
  | _ => true

/-- Whether a scalar is a text. -/
def Scalar.isText : Scalar → Bool
  | .str _ => true
  | _ => false

theorem Scalar.isText_iff {key : Scalar} : key.isText = true ↔ ∃ text, key = .str text := by
  cases key <;> simp [isText]

theorem Scalar.plain_of_isPlain {s : Scalar} (h : s.isPlain = true) : s.plain = s := by
  cases s with
  | float x => exact if_pos h
  | date d => cases h
  | _ => rfl

namespace Node

mutual

/-- Whether a value is plain. -/
def isPlain : Node → Bool
  | .scalar s => s.isPlain
  | .list xs => isPlainItems xs
  | .map es => decide (es.map (·.1)).Nodup && isPlainEntries es

/-- Whether the items of a list are plain. -/
def isPlainItems : List Node → Bool
  | [] => true
  | x :: xs => isPlain x && isPlainItems xs

/-- Whether the keys of some entries are texts and the values are plain. -/
def isPlainEntries : List (Scalar × Node) → Bool
  | [] => true
  | (k, v) :: rest => k.isText && isPlain v && isPlainEntries rest

end

theorem isPlainItems_iff {xs : List Node} :
    isPlainItems xs = true ↔ ∀ x ∈ xs, x.isPlain = true := by
  induction xs with
  | nil => exact iff_of_true rfl fun _ hx => absurd hx List.not_mem_nil
  | cons x xs ih => rw [isPlainItems, Bool.and_eq_true_iff, ih, List.forall_mem_cons]

theorem isPlainEntries_iff {es : Entries} :
    isPlainEntries es = true ↔ ∀ e ∈ es, e.1.isText = true ∧ e.2.isPlain = true := by
  induction es with
  | nil => exact iff_of_true rfl fun _ he => absurd he List.not_mem_nil
  | cons e es ih =>
    rw [isPlainEntries, Bool.and_eq_true_iff, Bool.and_eq_true_iff, ih, List.forall_mem_cons]

theorem isPlain_list_iff {xs : List Node} :
    (Node.list xs).isPlain = true ↔ ∀ x ∈ xs, x.isPlain = true := by
  rw [isPlain, isPlainItems_iff]

theorem isPlain_map_iff {es : Entries} :
    (Node.map es).isPlain = true ↔
      (es.map (·.1)).Nodup ∧ ∀ e ∈ es, e.1.isText = true ∧ e.2.isPlain = true := by
  rw [isPlain, Bool.and_eq_true_iff, decide_eq_true_iff, isPlainEntries_iff]

end Node

/-! ## Plain forms -/

theorem Entries.put_of_not_mem {es : Entries} {key : String} {value : Node}
    (h : .str key ∉ es.map (·.1)) : es.put (.str key) value = es ++ [(.str key, value)] := by
  induction es with
  | nil => rfl
  | cons e es ih =>
    rw [List.map_cons, List.mem_cons, not_or] at h
    rw [Entries.put, if_neg (fun hsame => h.1 ((Scalar.same_str_iff _ _).mp hsame).symm), ih h.2]
    rfl

theorem Entries.foldl_put_of_nodup {es more : Entries} (htexts : ∀ e ∈ more, e.1.isText = true)
    (hnodup : ((es ++ more).map (·.1)).Nodup) :
    more.foldl (fun es e => es.put e.1 e.2) es = es ++ more := by
  -- by induction on the entries that are left, those before them standing in front
  induction more generalizing es with
  | nil => exact (List.append_nil es).symm
  | cons e more ih =>
    obtain ⟨k, v⟩ := e
    obtain ⟨htext, hrest⟩ := List.forall_mem_cons.mp htexts
    obtain ⟨key, rfl⟩ := Scalar.isText_iff.mp htext
    rw [List.foldl_cons]
    rw [← List.singleton_append, ← List.append_assoc] at hnodup ⊢
    have hnew : .str key ∉ es.map (·.1) := by
      rw [List.map_append, List.map_append] at hnodup
      have hdisjoint := List.disjoint_of_nodup_append (List.Nodup.of_append_left hnodup)
      exact fun hmem => hdisjoint hmem (List.mem_singleton_self _)
    rw [Entries.put_of_not_mem hnew]
    exact ih hrest hnodup

theorem Entries.ofList_of_nodup {es : Entries} (htexts : ∀ e ∈ es, e.1.isText = true)
    (hnodup : (es.map (·.1)).Nodup) : Entries.ofList es = es :=
  Entries.foldl_put_of_nodup htexts hnodup

namespace Node

mutual

/-- A plain value is its own plain form. -/
theorem plain_of_isPlain : ∀ {node : Node}, node.isPlain = true → node.plain = node
  | .scalar s, h => by rw [plain, Scalar.plain_of_isPlain h]
  | .list xs, h => by rw [plain, plainItems_of_isPlain h]
  | .map es, h => by
    obtain ⟨hnodup, hparts⟩ := isPlain_map_iff.mp h
    rw [plain, plainEntries_of_isPlain (isPlainEntries_iff.mpr hparts),
      Entries.ofList_of_nodup (fun e he => (hparts e he).1) hnodup]

theorem plainItems_of_isPlain :
    ∀ {xs : List Node}, isPlainItems xs = true → plainItems xs = xs
  | [], _ => rfl
  | x :: xs, h => by
    obtain ⟨hx, hxs⟩ := Bool.and_eq_true_iff.mp h
    rw [plainItems, plain_of_isPlain hx, plainItems_of_isPlain hxs]

theorem plainEntries_of_isPlain :
    ∀ {es : List (Scalar × Node)}, isPlainEntries es = true → plainEntries es = es
  | [], _ => rfl
  | (k, v) :: rest, h => by
    obtain ⟨hfirst, hrest⟩ := Bool.and_eq_true_iff.mp h
    obtain ⟨hk, hv⟩ := Bool.and_eq_true_iff.mp hfirst
    obtain ⟨key, rfl⟩ := Scalar.isText_iff.mp hk
    rw [plainEntries, plain_of_isPlain hv, plainEntries_of_isPlain hrest]
    rfl

end

theorem plainItems_eq_map (xs : List Node) : plainItems xs = xs.map plain := by
  induction xs with
  | nil => rfl
  | cons x xs ih => rw [plainItems, ih, List.map_cons]

theorem plainEntries_of_texts {es : Entries} (h : ∀ e ∈ es, e.1.isText = true) :
    plainEntries es = es.map fun e => (e.1, e.2.plain) := by
  induction es with
  | nil => rfl
  | cons e es ih =>
    obtain ⟨k, v⟩ := e
    obtain ⟨hk, hrest⟩ := List.forall_mem_cons.mp h
    obtain ⟨key, rfl⟩ := Scalar.isText_iff.mp hk
    rw [plainEntries, ih hrest]
    rfl

/-- The plain form of a map under distinct texts has the plain forms of the values under the same
keys. -/
theorem plain_map {es : Entries} (htexts : ∀ e ∈ es, e.1.isText = true)
    (hnodup : (es.map (·.1)).Nodup) :
    (Node.map es).plain = .map (es.map fun e => (e.1, e.2.plain)) := by
  rw [plain, plainEntries_of_texts htexts, Entries.ofList_of_nodup]
  · exact List.forall_mem_map.mpr htexts
  · rw [List.map_map]
    exact hnodup

end Node

theorem Entries.get?_map_plain (es : Entries) (key : String) :
    Entries.get? (es.map fun e => (e.1, e.2.plain)) key = (es.get? key).map Node.plain := by
  induction es with
  | nil => rfl
  | cons e es ih =>
    rw [List.map_cons, Entries.get?_cons, Entries.get?_cons, ih]
    split <;> rfl

/-! ## Maps with given keys -/

/-- Whether entries have plain values, under keys that are among given ones and stand in their
order. -/
def PlainUnder (keys : List String) (es : Entries) : Prop :=
  (es.map (·.1)).Sublist (keys.map .str) ∧ ∀ e ∈ es, e.2.isPlain = true

namespace PlainUnder

variable {keys more : List String} {es fs : Entries}

theorem append (hes : PlainUnder keys es) (hfs : PlainUnder more fs) :
    PlainUnder (keys ++ more) (es ++ fs) := by
  refine ⟨?_, List.forall_mem_append.mpr ⟨hes.2, hfs.2⟩⟩
  rw [List.map_append, List.map_append]
  exact hes.1.append hfs.1

theorem nil (keys : List String) : PlainUnder keys [] :=
  ⟨List.nil_sublist _, fun _ he => absurd he List.not_mem_nil⟩

theorem singleton (key : String) {value : Node} (h : value.isPlain = true) :
    PlainUnder [key] [(.str key, value)] :=
  ⟨List.Sublist.refl _, List.forall_mem_singleton.mpr h⟩

/-- Such entries make a plain map if the keys differ. -/
theorem isPlain_map (h : PlainUnder keys es) (hkeys : keys.Nodup) :
    (Node.map es).isPlain = true := by
  refine Node.isPlain_map_iff.mpr ⟨?_, fun e he => ⟨?_, h.2 e he⟩⟩
  · exact h.1.nodup (hkeys.map fun _ _ => Scalar.str.inj)
  · obtain ⟨key, _, hkey⟩ := List.mem_map.mp (h.1.subset (List.mem_map_of_mem he))
    exact Scalar.isText_iff.mpr ⟨key, hkey.symm⟩

end PlainUnder

/-! ## Nested lists -/

/-- Lists, one inside another. -/
def nestedLists : Nat → Node
  | 0 => .list []
  | n + 1 => .list [nestedLists n]

theorem nestedLists_depth (n : Nat) : (nestedLists n).depth = n + 1 := by
  induction n with
  | zero => rfl
  | succ n ih => simp [nestedLists, Node.depth, Node.depthOfItems, ih]

theorem nestedLists_isPlain (n : Nat) : (nestedLists n).isPlain = true := by
  induction n with
  | zero => rfl
  | succ n ih => simp [nestedLists, Node.isPlain, Node.isPlainItems, ih]

theorem nestedLists_isNull (n : Nat) : (nestedLists n).isNull = false := by
  cases n <;> rfl

end RoutedFields
