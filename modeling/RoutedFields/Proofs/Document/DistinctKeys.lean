import Mathlib.Data.List.Nodup
import RoutedFields.Proofs.Document.Parts

/-!
# Documents with distinct keys

A map has one value under each key, and its entries list them once. All documents that are read from
a text are like that.

* `Node.hasDistinctKeys`: in every map of a node each key stands once.
* `Node.hasDistinctKeys_map_iff`, `Node.hasDistinctKeys_list_iff`: a node in terms of its parts.
* `Sited.mem_entries_iff`: in such a map an entry is there exactly if it is found under its key.
* `Entries.hasDistinctKeys_put`: setting an entry keeps keys distinct.
-/

namespace RoutedFields

namespace Node

mutual

/-- Whether each key stands once in every map of a node. -/
def hasDistinctKeys : Node → Bool
  | .scalar _ => true
  | .list xs => hasDistinctKeysItems xs
  | .map es => decide (es.map (·.1)).Nodup && hasDistinctKeysEntries es

/-- Whether each key stands once in every map of some items. -/
def hasDistinctKeysItems : List Node → Bool
  | [] => true
  | x :: xs => hasDistinctKeys x && hasDistinctKeysItems xs

/-- Whether each key stands once in every map among the values of some entries. -/
def hasDistinctKeysEntries : List (Scalar × Node) → Bool
  | [] => true
  | (_, v) :: rest => hasDistinctKeys v && hasDistinctKeysEntries rest

end

theorem hasDistinctKeysItems_iff {xs : List Node} :
    hasDistinctKeysItems xs = true ↔ ∀ x ∈ xs, x.hasDistinctKeys = true := by
  induction xs with
  | nil => exact iff_of_true rfl fun _ hx => absurd hx List.not_mem_nil
  | cons x xs ih => rw [hasDistinctKeysItems, Bool.and_eq_true_iff, ih, List.forall_mem_cons]

theorem hasDistinctKeysEntries_iff {es : Entries} :
    hasDistinctKeysEntries es = true ↔ ∀ e ∈ es, e.2.hasDistinctKeys = true := by
  induction es with
  | nil => exact iff_of_true rfl fun _ he => absurd he List.not_mem_nil
  | cons e es ih => rw [hasDistinctKeysEntries, Bool.and_eq_true_iff, ih, List.forall_mem_cons]

theorem hasDistinctKeys_list_iff {xs : List Node} :
    (Node.list xs).hasDistinctKeys = true ↔ ∀ x ∈ xs, x.hasDistinctKeys = true := by
  rw [hasDistinctKeys, hasDistinctKeysItems_iff]

theorem hasDistinctKeys_map_iff {es : Entries} :
    (Node.map es).hasDistinctKeys = true ↔
      (es.map (·.1)).Nodup ∧ ∀ e ∈ es, e.2.hasDistinctKeys = true := by
  rw [hasDistinctKeys, Bool.and_eq_true_iff, decide_eq_true_iff, hasDistinctKeysEntries_iff]

theorem nodup_keys {node : Node} (h : node.hasDistinctKeys = true) :
    (node.entries.map (·.1)).Nodup := by
  cases node with
  | map es => exact (hasDistinctKeys_map_iff.mp h).1
  | scalar s => exact .nil
  | list xs => exact .nil

/-- The parts of a node with distinct keys have distinct keys. -/
theorem hasDistinctKeys_entry {node : Node} (h : node.hasDistinctKeys = true)
    {e : Scalar × Node} (he : e ∈ node.entries) : e.2.hasDistinctKeys = true := by
  cases node with
  | map es => exact (hasDistinctKeys_map_iff.mp h).2 e he
  | scalar s => cases he
  | list xs => cases he

end Node

theorem mem_of_lookup {κ β : Type} [DecidableEq κ] {es : List (κ × β)} {key : κ} {v : β}
    (h : es.lookup key = some v) : (key, v) ∈ es := by
  induction es with
  | nil => cases h
  | cons e es ih =>
    obtain ⟨k, w⟩ := e
    rw [lookup_cons_ite] at h
    split at h
    · rename_i hk
      rw [hk, Option.some.inj h]
      exact List.mem_cons_self
    · exact List.mem_cons_of_mem _ (ih h)

theorem lookup_of_mem {κ β : Type} [DecidableEq κ] {es : List (κ × β)} {key : κ} {v : β}
    (hkeys : (es.map (·.1)).Nodup) (h : (key, v) ∈ es) : es.lookup key = some v := by
  induction es with
  | nil => cases h
  | cons e es ih =>
    obtain ⟨k, w⟩ := e
    rw [List.map_cons, List.nodup_cons] at hkeys
    rw [lookup_cons_ite]
    rcases List.mem_cons.mp h with heq | h
    · obtain ⟨rfl, rfl⟩ := Prod.mk.inj heq
      exact if_pos rfl
    · rw [if_neg]
      · exact ih hkeys.2 h
      · rintro rfl
        exact hkeys.1 (List.mem_map.mpr ⟨_, h, rfl⟩)

/-- Of entries with distinct keys some are left, and each is found if it is left. -/
theorem lookup_filter_of_mem {κ β : Type} [DecidableEq κ] {es : List (κ × β)} {key : κ} {v : β}
    (hkeys : (es.map (·.1)).Nodup) (h : (key, v) ∈ es) (p : κ × β → Bool) :
    (es.filter p).lookup key = if p (key, v) then some v else none := by
  split
  · rename_i hp
    have hleft : ((es.filter p).map (·.1)).Nodup := (List.filter_sublist.map _).nodup hkeys
    exact lookup_of_mem hleft (List.mem_filter.mpr ⟨h, hp⟩)
  · rename_i hp
    refine Option.eq_none_iff_forall_ne_some.mpr fun w hw => hp ?_
    obtain ⟨hmem, hpw⟩ := List.mem_filter.mp (mem_of_lookup hw)
    have heq : some w = some v := by rw [← lookup_of_mem hkeys hmem, lookup_of_mem hkeys h]
    rwa [Option.some.inj heq] at hpw

namespace Sited

theorem map_fst_entries (s : Sited) : s.entries.map (·.1) = s.node.entries.map (·.1) := by
  rw [entries, List.map_map]
  rfl

theorem hasDistinctKeys_of_mem {s : Sited} (h : s.node.hasDistinctKeys = true)
    {e : Scalar × Sited} (he : e ∈ s.entries) : e.2.node.hasDistinctKeys = true := by
  obtain ⟨entry, hentry, rfl⟩ := List.mem_map.mp he
  exact Node.hasDistinctKeys_entry h hentry

theorem hasDistinctKeys_get? {s part : Sited} {key : String} (h : s.node.hasDistinctKeys = true)
    (hget : s.get? key = some part) : part.node.hasDistinctKeys = true := by
  have hnode : s.node.get? key = some part.node := by
    rw [← node_get?, hget, Option.map_some]
  rw [Node.get?, ← Entries.lookup_eq_get?] at hnode
  exact Node.hasDistinctKeys_entry h (mem_of_lookup hnode)

/-- Where keys are distinct, an entry is there exactly if it is found under its key. -/
theorem mem_entries_iff {s part : Sited} {key : String} (h : s.node.hasDistinctKeys = true) :
    (Scalar.str key, part) ∈ s.entries ↔ s.get? key = some part := by
  rw [← lookup_entries]
  constructor
  · apply lookup_of_mem
    rw [map_fst_entries]
    exact Node.nodup_keys h
  · exact mem_of_lookup

end Sited

/-! ## Setting entries -/

theorem Scalar.same_self (a : Scalar) : a.same a = true := by
  unfold same
  cases a.magnitude? with
  | some x => exact beq_self_eq_true x
  | none => exact beq_self_eq_true a

namespace Entries

variable {es : Entries} {key : Scalar} {value : Node}

theorem key_of_mem_put {k : Scalar} (h : k ∈ (put es key value).map (·.1)) :
    k ∈ es.map (·.1) ∨ k = key := by
  induction es with
  | nil => exact .inr (List.mem_singleton.mp h)
  | cons e es ih =>
    rw [put] at h
    split at h
    · exact .inl h
    · rcases List.mem_cons.mp h with rfl | h
      · exact .inl List.mem_cons_self
      · exact (ih h).imp_left (List.mem_cons_of_mem _)

theorem nodup_put (h : (es.map (·.1)).Nodup) : ((put es key value).map (·.1)).Nodup := by
  induction es with
  | nil => exact List.nodup_singleton key
  | cons e es ih =>
    rw [List.map_cons, List.nodup_cons] at h
    rw [put]
    split
    · exact List.nodup_cons.mpr h
    · rename_i hkey
      refine List.nodup_cons.mpr ⟨?_, ih h.2⟩
      intro hmem
      rcases key_of_mem_put hmem with hmem | heq
      · exact h.1 hmem
      · exact hkey (heq ▸ Scalar.same_self key)

theorem value_of_mem_put {e : Scalar × Node} (h : e ∈ put es key value) :
    e ∈ es ∨ e.2 = value := by
  induction es with
  | nil => exact .inr (List.mem_singleton.mp h ▸ rfl)
  | cons first es ih =>
    rw [put] at h
    split at h
    · rcases List.mem_cons.mp h with rfl | h
      · exact .inr rfl
      · exact .inl (List.mem_cons_of_mem _ h)
    · rcases List.mem_cons.mp h with rfl | h
      · exact .inl List.mem_cons_self
      · exact (ih h).imp_left (List.mem_cons_of_mem _)

/-- Setting an entry keeps keys distinct. -/
theorem hasDistinctKeys_put (hes : (Node.map es).hasDistinctKeys = true)
    (hvalue : value.hasDistinctKeys = true) :
    (Node.map (put es key value)).hasDistinctKeys = true := by
  obtain ⟨hnodup, hparts⟩ := Node.hasDistinctKeys_map_iff.mp hes
  refine Node.hasDistinctKeys_map_iff.mpr ⟨nodup_put hnodup, ?_⟩
  intro e he
  rcases value_of_mem_put he with he | heq
  · exact hparts e he
  · exact heq ▸ hvalue

theorem hasDistinctKeys_foldl_put {more : Entries} (hes : (Node.map es).hasDistinctKeys = true)
    (hmore : ∀ e ∈ more, e.2.hasDistinctKeys = true) :
    (Node.map (more.foldl (fun es e => put es e.1 e.2) es)).hasDistinctKeys = true := by
  induction more generalizing es with
  | nil => exact hes
  | cons e more ih =>
    obtain ⟨he, hmore⟩ := List.forall_mem_cons.mp hmore
    exact ih (hasDistinctKeys_put hes he) hmore

theorem hasDistinctKeys_ofList (h : ∀ e ∈ es, e.2.hasDistinctKeys = true) :
    (Node.map (ofList es)).hasDistinctKeys = true :=
  hasDistinctKeys_foldl_put rfl h

end Entries

end RoutedFields
