import RoutedFields.Proofs.Document.DistinctKeys
import RoutedFields.Proofs.Results
import RoutedFields.Source.Load
import RoutedFields.Yaml.Reader

/-!
# Documents that are read have distinct keys

* `Json.hasDistinctKeys_of_read`: a repeated key of a JSON text stands once in what is read.
* `YamlReader.KeepsKeysApart`: whether this holds of a reader of YAML; it does of `Yaml.reader`.
* `hasDistinctKeys_of_loadDocument`: every document has distinct keys, wherever it comes from.
-/

namespace RoutedFields

/-! ## JSON -/

namespace Json

variable {limits : Limits} {fuel : Nat}

theorem hasDistinctKeys_of_value_eq {number : Numeral} {v : Node}
    (h : number.value limits = .ok v) : v.hasDistinctKeys = true := by
  cases number with
  | integer negative digits =>
    rw [Numeral.value] at h
    split at h
    · cases h
    · cases h
      rfl
  | double x =>
    cases h
    rfl

theorem hasDistinctKeys_of_atom {s rest : List Char} {v : Node}
    (h : atom limits s = .ok (v, rest)) : v.hasDistinctKeys = true := by
  rw [atom] at h
  split at h
  · rename_i found hfound
    cases h
    obtain ⟨l, hl, hrest⟩ := List.exists_of_findSome?_eq_some hfound
    obtain ⟨_, _, heq⟩ := Option.map_eq_some_iff.mp hrest
    obtain ⟨rfl, _⟩ := Prod.mk.inj heq
    have hliterals : ∀ l ∈ literals, l.2.hasDistinctKeys = true := by decide
    exact hliterals l hl
  · split at h
    · obtain ⟨w, hw, heq⟩ := map_eq_ok_iff.mp h
      obtain ⟨rfl, _⟩ := Prod.mk.inj heq
      exact hasDistinctKeys_of_value_eq hw
    · cases h

/-- Whether what is read with some fuel has distinct keys: a value, the items of an array, and the
members of an object if those read already have. -/
structure ReadsDistinctKeys (limits : Limits) (fuel : Nat) : Prop where
  value : ∀ {depth s v rest}, value limits fuel depth s = .ok (v, rest) → v.hasDistinctKeys = true
  items : ∀ {depth s xs rest}, items limits fuel depth s = .ok (xs, rest) →
    ∀ x ∈ xs, x.hasDistinctKeys = true
  members : ∀ {depth es s es' rest}, (Node.map es).hasDistinctKeys = true →
    members limits fuel depth es s = .ok (es', rest) → (Node.map es').hasDistinctKeys = true

theorem ReadsDistinctKeys.value_succ (ih : ReadsDistinctKeys limits fuel) {depth : Nat}
    {s rest : List Char} {v : Node} (h : Json.value limits (fuel + 1) depth s = .ok (v, rest)) :
    v.hasDistinctKeys = true := by
  unfold Json.value at h
  split at h
  · obtain ⟨_, _, hpure⟩ := bind_eq_ok_iff.mp h
    cases hpure
    rfl
  · cases h
  · cases h
  · split at h
    · cases h
      rfl
    · obtain ⟨_, hitems, hpure⟩ := bind_eq_ok_iff.mp h
      cases hpure
      exact Node.hasDistinctKeys_list_iff.mpr (ih.items hitems)
  · split at h
    · cases h
      rfl
    · obtain ⟨_, hmembers, hpure⟩ := bind_eq_ok_iff.mp h
      cases hpure
      exact ih.members rfl hmembers
  · exact hasDistinctKeys_of_atom h

theorem ReadsDistinctKeys.items_succ (ih : ReadsDistinctKeys limits fuel) {depth : Nat}
    {s rest : List Char} {xs : List Node}
    (h : Json.items limits (fuel + 1) depth s = .ok (xs, rest)) :
    ∀ x ∈ xs, x.hasDistinctKeys = true := by
  obtain ⟨⟨first, afterFirst⟩, hfirst, h⟩ := bind_eq_ok_iff.mp h
  dsimp only at h
  split at h
  · cases h
    exact List.forall_mem_singleton.mpr (ih.value hfirst)
  · obtain ⟨_, hitems, hpure⟩ := bind_eq_ok_iff.mp h
    cases hpure
    exact List.forall_mem_cons.mpr ⟨ih.value hfirst, ih.items hitems⟩
  · cases h

theorem ReadsDistinctKeys.members_succ (ih : ReadsDistinctKeys limits fuel) {depth : Nat}
    {s rest : List Char} {es es' : Entries} (hes : (Node.map es).hasDistinctKeys = true)
    (h : Json.members limits (fuel + 1) depth es s = .ok (es', rest)) :
    (Node.map es').hasDistinctKeys = true := by
  unfold Json.members at h
  split at h
  · obtain ⟨⟨name, afterName⟩, _, h⟩ := bind_eq_ok_iff.mp h
    dsimp only at h
    split at h
    · obtain ⟨⟨v, afterValue⟩, hvalue, h⟩ := bind_eq_ok_iff.mp h
      have hput : (Node.map (es.put name v)).hasDistinctKeys = true :=
        Entries.hasDistinctKeys_put hes (ih.value hvalue)
      dsimp only at h
      split at h
      · cases h
        exact hput
      · exact ih.members hput h
      · cases h
    · cases h
  · cases h

theorem readsDistinctKeys (limits : Limits) (fuel : Nat) : ReadsDistinctKeys limits fuel := by
  induction fuel with
  | zero =>
    constructor
    · intro _ _ _ _ h
      cases h
    · intro _ _ _ _ h
      cases h
    · intro _ _ _ _ _ _ h
      cases h
  | succ fuel ih => exact ⟨ih.value_succ, ih.items_succ, ih.members_succ⟩

/-- What is read from a JSON text has distinct keys. -/
theorem hasDistinctKeys_of_read {text : String} {v : Node} (h : read text = .ok v) :
    v.hasDistinctKeys = true := by
  rw [read, readWithin] at h
  split at h
  · cases h
  · obtain ⟨⟨w, rest⟩, hw, h⟩ := bind_eq_ok_iff.mp (mapError_eq_ok_iff.mp h)
    dsimp only at h
    split at h
    · cases h
      exact (readsDistinctKeys _ _).value hw
    · cases h

end Json

/-! ## YAML -/

namespace Yaml

namespace Reading

variable {α β γ : Type}

theorem map_eq_value_iff {f : α → β} {r : Reading α} {b : β} :
    f <$> r = .value b ↔ ∃ a, r = .value a ∧ f a = b := by
  cases r <;> simp [Functor.map, map]

theorem ap_eq_value_iff {f : Reading (α → β)} {r : Reading α} {b : β} :
    f <*> r = .value b ↔ ∃ g a, f = .value g ∧ r = .value a ∧ g a = b :=
  seq_eq_value_iff f r b

theorem map₂_eq_value_iff {f : α → β → γ} {r : Reading α} {r' : Reading β} {c : γ} :
    f <$> r <*> r' = .value c ↔ ∃ a b, r = .value a ∧ r' = .value b ∧ f a b = c := by
  cases r <;> cases r' <;> simp [ap_eq_value_iff, map_eq_value_iff]

theorem deeper_eq_value_iff {r : Reading α} {a : α} : r.deeper = .value a ↔ r = .value a := by
  cases r <;> simp [deeper]

theorem toExcept_eq_ok_iff {r : Reading α} {a : α} : r.toExcept = .ok a ↔ r = .value a := by
  cases r <;> simp [toExcept]

end Reading

namespace Tree

theorem hasDistinctKeys_of_scalar {plain : Bool} {text : String} {v : Node}
    (h : (Tree.scalar plain text).value = .value v) : v.hasDistinctKeys = true := by
  rw [Tree.value] at h
  cases hscalar : scalarValue plain text with
  | error error =>
    rw [hscalar] at h
    cases h
  | ok s =>
    rw [hscalar] at h
    cases h
    rfl

mutual

/-- The value of a tree has distinct keys. -/
theorem hasDistinctKeys_of_value : ∀ {tree : Tree} {v : Node},
    tree.value = .value v → v.hasDistinctKeys = true
  | .scalar _ _, _, h => hasDistinctKeys_of_scalar h
  | .mistagged, _, h => by cases h
  | .list items, _, h => by
    rw [Tree.value, Reading.deeper_eq_value_iff, Reading.map_eq_value_iff] at h
    obtain ⟨xs, hxs, rfl⟩ := h
    exact Node.hasDistinctKeys_list_iff.mpr (hasDistinctKeys_of_values hxs)
  | .map entries, _, h => by
    rw [Tree.value, Reading.deeper_eq_value_iff, Reading.map₂_eq_value_iff] at h
    obtain ⟨merged, own, hmerged, hown, rfl⟩ := h
    exact Entries.hasDistinctKeys_ofList
      (List.forall_mem_append.mpr ⟨hasDistinctKeys_of_merged hmerged, hasDistinctKeys_of_own hown⟩)

theorem hasDistinctKeys_of_values : ∀ {trees : List Tree} {xs : List Node},
    Tree.values trees = .value xs → ∀ x ∈ xs, x.hasDistinctKeys = true
  | [], _, h => by
    rw [Tree.values] at h
    cases h
    exact fun _ hx => absurd hx List.not_mem_nil
  | tree :: rest, _, h => by
    rw [Tree.values, Reading.map₂_eq_value_iff] at h
    obtain ⟨x, xs, hx, hxs, rfl⟩ := h
    exact List.forall_mem_cons.mpr ⟨hasDistinctKeys_of_value hx, hasDistinctKeys_of_values hxs⟩

theorem hasDistinctKeys_of_own : ∀ {trees : List (Tree × Tree)} {es : Entries},
    Tree.ownEntries trees = .value es → ∀ e ∈ es, e.2.hasDistinctKeys = true
  | [], _, h => by
    rw [Tree.ownEntries] at h
    cases h
    exact fun _ he => absurd he List.not_mem_nil
  | (key, tree) :: rest, _, h => by
    rw [Tree.ownEntries] at h
    split at h
    · exact hasDistinctKeys_of_own h
    · obtain ⟨_, own, hfirst, hown, rfl⟩ := Reading.ap_eq_value_iff.mp h
      obtain ⟨_, v, _, hv, rfl⟩ := Reading.map₂_eq_value_iff.mp hfirst
      exact List.forall_mem_cons.mpr ⟨hasDistinctKeys_of_value hv, hasDistinctKeys_of_own hown⟩

theorem hasDistinctKeys_of_merged : ∀ {trees : List (Tree × Tree)} {es : Entries},
    Tree.mergedEntries trees = .value es → ∀ e ∈ es, e.2.hasDistinctKeys = true
  | [], _, h => by
    rw [Tree.mergedEntries] at h
    cases h
    exact fun _ he => absurd he List.not_mem_nil
  | (key, tree) :: rest, _, h => by
    rw [Tree.mergedEntries] at h
    split at h
    · obtain ⟨given, merged, hgiven, hmerged, rfl⟩ := Reading.map₂_eq_value_iff.mp h
      exact List.forall_mem_append.mpr
        ⟨hasDistinctKeys_of_given hgiven, hasDistinctKeys_of_merged hmerged⟩
    · exact hasDistinctKeys_of_merged h

theorem hasDistinctKeys_of_given : ∀ {tree : Tree} {es : Entries},
    tree.givenEntries = .value es → ∀ e ∈ es, e.2.hasDistinctKeys = true
  | .map entries, _, h => by
    rw [Tree.givenEntries, Reading.map₂_eq_value_iff] at h
    obtain ⟨merged, own, hmerged, hown, rfl⟩ := h
    exact List.forall_mem_append.mpr
      ⟨hasDistinctKeys_of_merged hmerged, hasDistinctKeys_of_own hown⟩
  | .list items, _, h => by
    rw [Tree.givenEntries] at h
    exact hasDistinctKeys_of_items h
  | .scalar _ _, _, h => by cases h
  | .mistagged, _, h => by cases h

theorem hasDistinctKeys_of_items : ∀ {trees : List Tree} {es : Entries},
    Tree.entriesOfItems trees = .value es → ∀ e ∈ es, e.2.hasDistinctKeys = true
  | [], _, h => by
    rw [Tree.entriesOfItems] at h
    cases h
    exact fun _ he => absurd he List.not_mem_nil
  | .map entries :: rest, _, h => by
    rw [Tree.entriesOfItems] at h
    obtain ⟨_, own, hearly, hown, rfl⟩ := Reading.ap_eq_value_iff.mp h
    obtain ⟨later, merged, hlater, hmerged, rfl⟩ := Reading.map₂_eq_value_iff.mp hearly
    have hinherited : ∀ e ∈ later ++ merged, e.2.hasDistinctKeys = true :=
      List.forall_mem_append.mpr
        ⟨hasDistinctKeys_of_items hlater, hasDistinctKeys_of_merged hmerged⟩
    exact List.forall_mem_append.mpr ⟨hinherited, hasDistinctKeys_of_own hown⟩
  | .list _ :: _, _, h => by cases h
  | .scalar _ _ :: _, _, h => by cases h
  | .mistagged :: _, _, h => by cases h

end

end Tree

/-- What is read from a YAML text has distinct keys. -/
theorem hasDistinctKeys_of_read {text : String} {v : Node} (h : read text = .ok v) :
    v.hasDistinctKeys = true := by
  obtain ⟨_, _, hv⟩ := bind_eq_ok_iff.mp h
  exact Tree.hasDistinctKeys_of_value (Reading.toExcept_eq_ok_iff.mp hv)

end Yaml

/-- Whether what a reader of YAML reads has distinct keys. -/
def YamlReader.KeepsKeysApart (yaml : YamlReader) : Prop :=
  ∀ text value, yaml text = .ok value → value.hasDistinctKeys = true

theorem Yaml.reader_keepsKeysApart : YamlReader.KeepsKeysApart Yaml.reader :=
  fun _ _ h => Yaml.hasDistinctKeys_of_read (mapError_eq_ok_iff.mp h)

/-! ## Documents -/

theorem requireMap_eq_ok_iff {value document : Node} :
    requireMap value = .ok document ↔ value.isMap = true ∧ value = document := by
  rw [requireMap]
  cases value.isMap <;> simp

section Documents

variable {yaml : YamlReader} {document : Node} {text : String}

theorem hasDistinctKeys_of_parseYaml (hyaml : yaml.KeepsKeysApart)
    (h : parseYaml yaml text = .ok document) : document.hasDistinctKeys = true := by
  obtain ⟨value, hvalue, hmap⟩ := bind_eq_ok_iff.mp h
  obtain ⟨_, rfl⟩ := requireMap_eq_ok_iff.mp hmap
  exact hyaml text value (mapError_eq_ok_iff.mp hvalue)

theorem hasDistinctKeys_of_parseDocument {format : Format} (hyaml : yaml.KeepsKeysApart)
    (h : parseDocument yaml format text = .ok document) : document.hasDistinctKeys = true := by
  cases format with
  | yaml => exact hasDistinctKeys_of_parseYaml hyaml h
  | _ =>
    rw [parseDocument] at h
    split at h
    · rename_i value hvalue
      obtain ⟨_, rfl⟩ := requireMap_eq_ok_iff.mp h
      exact Json.hasDistinctKeys_of_read hvalue
    · cases h
    · split at h
      · cases h
      · exact hasDistinctKeys_of_parseYaml hyaml h

/-- Every document has distinct keys, wherever it comes from, if what is read of YAML has. -/
theorem hasDistinctKeys_of_loadDocument {around : Surroundings} {source : String}
    (hyaml : around.yaml.KeepsKeysApart) (h : loadDocument around source = .ok document) :
    document.hasDistinctKeys = true := by
  rw [loadDocument] at h
  split at h
  · rw [loadInput] at h
    split at h
    · cases h
    · exact hasDistinctKeys_of_parseDocument hyaml h
  · split at h
    · unfold loadResponse at h
      split at h
      · cases h
      · split at h
        · exact hasDistinctKeys_of_parseDocument hyaml h
        · cases h
    · rw [loadFile] at h
      split at h
      · cases h
      · obtain ⟨text, _, h⟩ := bind_eq_ok_iff.mp h
        dsimp only at h
        split at h
        · cases h
        · exact hasDistinctKeys_of_parseDocument hyaml h

end Documents

end RoutedFields
