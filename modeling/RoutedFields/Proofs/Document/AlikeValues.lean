import Mathlib.Data.List.Perm.Subperm
import RoutedFields.Proofs.Document.PlainValues
import RoutedFields.Proofs.Results

/-!
# Values that are alike

Two values are alike if either counts as the same as the other: the integer 1, the double 1.0 and
true are, and so are two maps with the same entries in another order.

* `Scalar.same_iff`: scalars are the same if they stand for the same thing.
* `Entries.find?_put`: a value that is set is found under all keys that are the same as its key.
* `Node.Alike`, `Node.Alike.kinds`: what alike values and their parts are like.
* `Node.isPlain_plain`: the plain form of a value is plain.
* `Node.Alike.isPlain`: a value that is like a plain one is plain.
-/

namespace RoutedFields

/-! ## Scalars -/

namespace Scalar

/-- What a scalar stands for: an amount if it is a number, and else itself. -/
def standsFor (s : Scalar) : Magnitude ⊕ Scalar :=
  match s.magnitude? with
  | some amount => .inl amount
  | none => .inr s

theorem same_iff {a b : Scalar} : a.same b = true ↔ a.standsFor = b.standsFor := by
  unfold same standsFor
  cases a.magnitude? <;> cases b.magnitude? <;> simp

theorem same_comm (a b : Scalar) : a.same b = b.same a := by
  rw [Bool.eq_iff_iff, same_iff, same_iff, eq_comm]

theorem same_left {a b : Scalar} (h : a.same b = true) (c : Scalar) : a.same c = b.same c := by
  rw [Bool.eq_iff_iff, same_iff, same_iff, same_iff.mp h]

theorem same_right {a b : Scalar} (h : a.same b = true) (c : Scalar) : c.same a = c.same b := by
  rw [same_comm c a, same_comm c b, same_left h c]

/-- Scalars that are the same compare in the same way. -/
theorem equals_left {a b : Scalar} (h : a.same b = true) (c : Scalar) : a.equals c = b.equals c := by
  have hmagnitude : a.magnitude? = b.magnitude? := by
    have hstands := same_iff.mp h
    unfold standsFor at hstands
    cases ha : a.magnitude? <;> cases hb : b.magnitude? <;> simp_all
  rw [equals, equals, same_left h, hmagnitude]

end Scalar

/-! ## Entries -/

namespace Entries

variable {es : Entries} {key other : Scalar} {value : Node}

theorem find?_cons (k : Scalar) (v : Node) (rest : Entries) (key : Scalar) :
    find? ((k, v) :: rest) key = if k.same key then some v else find? rest key := rfl

/-- Keys that are the same find the same value. -/
theorem find?_congr (h : key.same other = true) : es.find? key = es.find? other := by
  induction es with
  | nil => rfl
  | cons e es ih => rw [find?_cons, find?_cons, Scalar.same_right h, ih]

/-- A value that is set is found under all keys that are the same, and no other key is touched. -/
theorem find?_put : (es.put key value).find? other =
    if key.same other then some value else es.find? other := by
  induction es with
  | nil => rfl
  | cons e es ih =>
    obtain ⟨k, v⟩ := e
    rw [put]
    by_cases hk : k.same key = true
    · rw [if_pos hk, find?_cons, find?_cons, Scalar.same_left hk]
      split <;> rfl
    · rw [if_neg hk, find?_cons, find?_cons, ih]
      by_cases hother : k.same other = true
      · have hkey : ¬key.same other = true := by
          rw [← Scalar.same_right hother, Scalar.same_comm]
          exact hk
        rw [if_pos hother, if_neg hkey, if_pos hother]
      · rw [if_neg hother, if_neg hother]

/-- What is found under a key stands under a key that is the same. -/
theorem exists_of_find? (h : es.find? key = some value) :
    ∃ k, (k, value) ∈ es ∧ k.same key = true := by
  induction es with
  | nil => cases h
  | cons e es ih =>
    obtain ⟨k, v⟩ := e
    rw [find?_cons] at h
    by_cases hk : k.same key = true
    · rw [if_pos hk, Option.some.injEq] at h
      exact ⟨k, h ▸ List.mem_cons_self, hk⟩
    · rw [if_neg hk] at h
      obtain ⟨k', hmem, hsame⟩ := ih h
      exact ⟨k', List.mem_cons_of_mem _ hmem, hsame⟩

end Entries

/-! ## Nodes -/

namespace Node

/-- Whether two values count as the same, whichever way they are compared. -/
def Alike (a b : Node) : Prop :=
  a.same b = true ∧ b.same a = true

theorem Alike.symm {a b : Node} (h : a.Alike b) : b.Alike a :=
  ⟨h.2, h.1⟩

theorem sameItems_iff {xs ys : List Node} :
    sameItems xs ys = true ↔ List.Forall₂ (fun x y => x.same y = true) xs ys := by
  induction xs generalizing ys with
  | nil => cases ys <;> simp [sameItems]
  | cons x xs ih => cases ys <;> simp [sameItems, ih]

theorem sameEntries_iff {es fs : Entries} :
    sameEntries es fs = true ↔
      ∀ e ∈ es, ∃ w, fs.find? e.1 = some w ∧ e.2.same w = true := by
  induction es with
  | nil => exact iff_of_true rfl (List.forall_mem_nil _)
  | cons e es ih =>
    rw [sameEntries, Bool.and_eq_true, ih, List.forall_mem_cons]
    cases fs.find? e.1 <;> simp

/-- Lists are alike if their items are, one by one. -/
theorem alike_list_iff {xs ys : List Node} :
    (Node.list xs).Alike (.list ys) ↔ List.Forall₂ Alike xs ys := by
  rw [Alike, same, same, sameItems_iff, sameItems_iff]
  constructor
  · rintro ⟨h, h'⟩
    induction h with
    | nil => exact .nil
    | cons hxy _ ih =>
      obtain _ | ⟨hyx, hrest⟩ := h'
      exact .cons ⟨hxy, hyx⟩ (ih hrest)
  · intro h
    exact ⟨h.imp fun _ _ => And.left, (h.imp fun _ _ => And.right).flip⟩

variable {es fs : Entries}

theorem Alike.exists_of_find? (h : (Node.map es).Alike (.map fs)) {key : Scalar} {v : Node}
    (hv : es.find? key = some v) : ∃ w, fs.find? key = some w ∧ v.same w = true := by
  obtain ⟨k, hmem, hk⟩ := Entries.exists_of_find? hv
  have hsame := h.1
  rw [same, Bool.and_eq_true, sameEntries_iff] at hsame
  obtain ⟨w, hw, hvw⟩ := hsame.2 _ hmem
  exact ⟨w, Entries.find?_congr hk ▸ hw, hvw⟩

/-- Maps that are alike hold alike values under each key, or both hold none. -/
theorem Alike.find? (h : (Node.map es).Alike (.map fs)) (key : Scalar) :
    Option.Rel Alike (es.find? key) (fs.find? key) := by
  cases hv : es.find? key with
  | some v =>
    obtain ⟨w, hw, hvw⟩ := h.exists_of_find? hv
    obtain ⟨v', hv', hwv⟩ := h.symm.exists_of_find? hw
    rw [hv, Option.some.injEq] at hv'
    rw [hw]
    exact .some ⟨hvw, hv' ▸ hwv⟩
  | none =>
    cases hw : fs.find? key with
    | none => exact .none
    | some w =>
      obtain ⟨v, hv', _⟩ := h.symm.exists_of_find? hw
      rw [hv] at hv'
      cases hv'

/-- Alike values are of one kind, and their parts are alike. -/
theorem Alike.kinds {a b : Node} (h : a.Alike b) :
    (∃ s t, a = .scalar s ∧ b = .scalar t ∧ s.same t = true) ∨
      (∃ xs ys, a = .list xs ∧ b = .list ys ∧ List.Forall₂ Alike xs ys) ∨
      ∃ es fs, a = .map es ∧ b = .map fs ∧
        ∀ key, Option.Rel Alike (Entries.find? es key) (Entries.find? fs key) := by
  cases a with
  | scalar s =>
    cases b with
    | scalar t => exact .inl ⟨s, t, rfl, rfl, h.1⟩
    | list ys => cases h.1
    | map fs => cases h.1
  | list xs =>
    cases b with
    | list ys => exact .inr (.inl ⟨xs, ys, rfl, rfl, alike_list_iff.mp h⟩)
    | scalar t => cases h.1
    | map fs => cases h.1
  | map es =>
    cases b with
    | map fs => exact .inr (.inr ⟨es, fs, rfl, rfl, h.find?⟩)
    | scalar t => cases h.1
    | list ys => cases h.1

/-- Maps that are alike lack the same keys. -/
theorem Alike.get?_eq_none (h : (Node.map es).Alike (.map fs)) {key : String}
    (hes : es.get? key = none) : fs.get? key = none := by
  have hrel := h.find? (.str key)
  rw [Entries.find?_str, Entries.find?_str, hes] at hrel
  cases hfs : fs.get? key with
  | none => rfl
  | some w =>
    rw [hfs] at hrel
    cases hrel

/-! ## Plain values -/

/-- Setting a plain value under a text keeps a map plain. -/
theorem isPlain_put {key : String} {value : Node} (hes : (Node.map es).isPlain = true)
    (hvalue : value.isPlain = true) : (Node.map (es.put (.str key) value)).isPlain = true := by
  obtain ⟨hnodup, hparts⟩ := isPlain_map_iff.mp hes
  refine isPlain_map_iff.mpr ⟨Entries.nodup_put hnodup, fun e he => ⟨?_, ?_⟩⟩
  · rcases Entries.key_of_mem_put (List.mem_map_of_mem he) with hmem | hkey
    · obtain ⟨e', he', hkey⟩ := List.mem_map.mp hmem
      exact hkey ▸ (hparts e' he').1
    · rw [hkey]
      rfl
  · rcases Entries.value_of_mem_put he with hmem | heq
    · exact (hparts e hmem).2
    · rw [heq]
      exact hvalue

/-- The plain form of a value is plain. -/
theorem isPlain_plain (node : Node) : node.plain.isPlain = true := by
  induction node using induction_on_parts with
  | scalar s =>
    rw [plain]
    cases s with
    | float x =>
      rw [Scalar.plain]
      split
      · assumption
      · rfl
    | _ => rfl
  | list xs ih =>
    rw [plain, plainItems_eq_map, isPlain_list_iff]
    exact List.forall_mem_map.mpr ih
  | map es ih =>
    -- the entries are set one after another, and each of them keeps the map plain
    have hset : ∀ (more : Entries), (∀ e ∈ more, e.2.plain.isPlain = true) → ∀ start : Entries,
        (Node.map start).isPlain = true →
        (Node.map ((plainEntries more).foldl (fun es e => Entries.put es e.1 e.2) start)).isPlain =
          true := by
      intro more
      induction more with
      | nil => exact fun _ _ hstart => hstart
      | cons e more ih =>
        intro hmore start hstart
        obtain ⟨he, hrest⟩ := List.forall_mem_cons.mp hmore
        rw [plainEntries, List.foldl_cons]
        exact ih hrest _ (isPlain_put hstart he)
    exact hset es ih [] rfl

theorem isPlain_of_same_scalar {s t : Scalar} (h : s.same t = true) (ht : t.isPlain = true) :
    s.isPlain = true := by
  have hstands := Scalar.same_iff.mp h
  cases s with
  | float x =>
    cases x with
    | finite negative significand scale => rfl
    | infinite negative =>
      cases t with
      | float y => cases y <;> simp_all [Scalar.standsFor, Scalar.magnitude?, Scalar.isPlain]
      | _ => cases hstands
    | notANumber =>
      cases t with
      | float y => cases y <;> simp_all [Scalar.standsFor, Scalar.magnitude?, Scalar.isPlain]
      | _ => cases hstands
  | date d =>
    cases t with
    | date d' => exact ht
    | float y => cases y <;> cases hstands
    | _ => cases hstands
  | _ => rfl

/-- A map that is like one under distinct texts has the same keys, each of which stands once. -/
theorem Alike.keys (h : (Node.map es).Alike (.map fs)) (htexts : ∀ e ∈ fs, e.1.isText = true)
    (hnodup : (fs.map (·.1)).Nodup) : (es.map (·.1)).Perm (fs.map (·.1)) := by
  have hlength : es.length = fs.length := by
    have hsame := h.1
    rw [same, Bool.and_eq_true] at hsame
    exact beq_iff_eq.mp hsame.1
  have hsubset : fs.map (·.1) ⊆ es.map (·.1) := by
    intro key hkey
    obtain ⟨e, he, rfl⟩ := List.mem_map.mp hkey
    obtain ⟨text, htext⟩ := Scalar.isText_iff.mp (htexts e he)
    have hsame := h.2
    rw [same, Bool.and_eq_true, sameEntries_iff] at hsame
    obtain ⟨v, hv, _⟩ := hsame.2 e he
    obtain ⟨k, hmem, hk⟩ := Entries.exists_of_find? hv
    rw [htext, Scalar.same_str_iff] at hk
    rw [htext, ← hk]
    exact List.mem_map_of_mem hmem
  have hle : (es.map (·.1)).length ≤ (fs.map (·.1)).length := by
    simp [hlength]
  exact ((List.subperm_of_subset hnodup hsubset).perm_of_length_le hle).symm

/-- A value that is like a plain one is plain. -/
theorem Alike.isPlain {a b : Node} (h : a.Alike b) (hb : b.isPlain = true) : a.isPlain = true := by
  induction a using induction_on_parts generalizing b with
  | scalar s =>
    cases b with
    | scalar t => exact isPlain_of_same_scalar h.1 hb
    | list ys => cases h.1
    | map fs => cases h.1
  | list xs ih =>
    cases b with
    | scalar t => cases h.1
    | map fs => cases h.1
    | list ys =>
      rw [isPlain_list_iff] at hb ⊢
      intro x hx
      obtain ⟨y, hy, hxy⟩ := exists_left_of_forall₂ (alike_list_iff.mp h).flip hx
      exact ih x hx hxy (hb y hy)
  | map es ih =>
    cases b with
    | scalar t => cases h.1
    | list ys => cases h.1
    | map fs =>
      obtain ⟨hnodup, hparts⟩ := isPlain_map_iff.mp hb
      have hkeys := h.keys (fun e he => (hparts e he).1) hnodup
      have hdistinct := hkeys.nodup_iff.mpr hnodup
      refine isPlain_map_iff.mpr ⟨hdistinct, fun e he => ?_⟩
      obtain ⟨f, hf, hkey⟩ := List.mem_map.mp (hkeys.subset (List.mem_map_of_mem he))
      obtain ⟨text, htext⟩ := Scalar.isText_iff.mp (hkey ▸ (hparts f hf).1)
      refine ⟨htext ▸ rfl, ?_⟩
      have hfound : Entries.find? es e.1 = some e.2 := by
        rw [htext, Entries.find?_str, ← Entries.lookup_eq_get?]
        exact lookup_of_mem hdistinct (htext ▸ he)
      have hrel := h.find? e.1
      rw [hfound] at hrel
      cases hw : Entries.find? fs e.1 with
      | none =>
        rw [hw] at hrel
        cases hrel
      | some w =>
        rw [hw] at hrel
        obtain ⟨k, hmem, _⟩ := Entries.exists_of_find? hw
        have hlike := Option.rel_some_some.mp hrel
        exact ih e he hlike (hparts _ hmem).2

end Node
end RoutedFields
