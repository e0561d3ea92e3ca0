import Mathlib.Data.List.Basic
import RoutedFields.Document.Access

/-!
# Parts of nodes

A node that is put together from parts has exactly these parts, each at its old place.

* `Node.induction_on_parts`: induction on the parts of a node.
* `Node.isText`, `Node.isBool`, `Node.isTexts`: what else nodes can be than maps.
* `isTruthy_of_get?`, `isMap_of_get?`: what a node is that has some part.
* `Sited.node_entry`, `Sited.lookup_entries`: the parts of a node with and without their places.
* `Sited.get?_ofEntries`, `Sited.items_ofItems`: the parts of a new map and of a new list.
* `SitedEntries.lookup_put`: a part that was set is the one that is found, and no other is touched.
* `Sited.put`, `Sited.entry_put`: a map with one part replaced.
-/

namespace RoutedFields

/-! ## Kinds of nodes -/

namespace Node

/-- What holds of a value once it holds of its parts holds of every value. -/
theorem induction_on_parts {P : Node → Prop} (scalar : ∀ s, P (.scalar s))
    (list : ∀ xs, (∀ x ∈ xs, P x) → P (.list xs))
    (map : ∀ es : Entries, (∀ e ∈ es, P e.2) → P (.map es)) : ∀ node, P node
  | .scalar s => scalar s
  | .list xs => list xs fun x hx => by
    have hsize := List.sizeOf_lt_of_mem hx
    exact induction_on_parts scalar list map x
  | .map es => map es fun e he => by
    have hsize := List.sizeOf_lt_of_mem he
    have hpart : sizeOf e.2 < sizeOf e := by
      obtain ⟨k, v⟩ := e
      simp only [Prod.mk.sizeOf_spec]
      omega
    exact induction_on_parts scalar list map e.2

/-- Whether a node is a text. -/
def isText : Node → Bool
  | .str _ => true
  | _ => false

/-- Whether a node is a truth value. -/
def isBool : Node → Bool
  | .bool _ => true
  | _ => false

/-- Whether a node is a list. -/
def isList : Node → Bool
  | .list _ => true
  | _ => false

/-- Whether a node is a list of texts. -/
def isTexts : Node → Bool
  | .list xs => xs.all isText
  | _ => false

theorem isText_iff {node : Node} : node.isText = true ↔ ∃ s, node = .str s := by
  constructor
  · intro h
    unfold isText at h
    split at h
    · exact ⟨_, rfl⟩
    · cases h
  · rintro ⟨s, rfl⟩
    rfl

theorem isBool_iff {node : Node} : node.isBool = true ↔ ∃ b, node = .bool b := by
  constructor
  · intro h
    unfold isBool at h
    split at h
    · exact ⟨_, rfl⟩
    · cases h
  · rintro ⟨b, rfl⟩
    rfl

theorem isList_iff {node : Node} : node.isList = true ↔ ∃ xs, node = .list xs := by
  constructor
  · intro h
    unfold isList at h
    split at h
    · exact ⟨_, rfl⟩
    · cases h
  · rintro ⟨xs, rfl⟩
    rfl

theorem exists_texts {nodes : List Node} (h : ∀ node ∈ nodes, ∃ text, node = .str text) :
    ∃ texts : List String, nodes = texts.map .str := by
  induction nodes with
  | nil => exact ⟨[], rfl⟩
  | cons node nodes ih =>
    obtain ⟨⟨text, rfl⟩, hrest⟩ := List.forall_mem_cons.mp h
    obtain ⟨texts, rfl⟩ := ih hrest
    exact ⟨text :: texts, rfl⟩

theorem isTexts_iff {node : Node} :
    node.isTexts = true ↔ ∃ texts : List String, node = .list (texts.map .str) := by
  constructor
  · intro h
    unfold isTexts at h
    split at h
    · rename_i xs
      rw [List.all_eq_true] at h
      obtain ⟨texts, rfl⟩ := exists_texts fun x hx => isText_iff.mp (h x hx)
      exact ⟨texts, rfl⟩
    · cases h
  · rintro ⟨texts, rfl⟩
    simp [isTexts, isText]

end Node

theorem isTruthy_of_isMap {node : Node} (h : node.isMap = true) :
    node.isTruthy = !node.entries.isEmpty := by
  cases node with
  | map es => rfl
  | scalar s => cases h
  | list xs => cases h

theorem isTruthy_of_get? {node part : Node} {key : String} (h : node.get? key = some part) :
    node.isTruthy = true := by
  cases node with
  | map es =>
    cases es with
    | nil => cases h
    | cons e es => rfl
  | scalar s => cases h
  | list xs => cases h

theorem eq_null_of_isNull {node : Node} (h : node.isNull = true) : node = .null := by
  unfold Node.isNull at h
  split at h
  · rfl
  · cases h

theorem isMap_of_isNull {node : Node} (h : node.isNull = true) : node.isMap = false := by
  cases node with
  | map es => cases h
  | scalar v => rfl
  | list xs => rfl

theorem Node.isMap_of_get? {node value : Node} {key : String} (h : node.get? key = some value) :
    node.isMap = true := by
  cases node with
  | map es => rfl
  | scalar s => cases h
  | list xs => cases h

theorem isMap_of_get? {sited part : Sited} {key : String} (h : sited.get? key = some part) :
    sited.node.isMap = true := by
  obtain ⟨value, hvalue, _⟩ := Option.map_eq_some_iff.mp h
  exact Node.isMap_of_get? hvalue

/-- An entry that has to be there is found exactly if a map has it. -/
theorem required_eq_ok_iff {node part : Node} {key : String} :
    node.required key = .ok part ↔ node.get? key = some part := by
  cases node with
  | map es =>
    rw [Node.required, Node.get?_map]
    cases Entries.get? es key <;> simp
  | scalar s => exact iff_of_false nofun nofun
  | list xs => exact iff_of_false nofun nofun

/-- A text is the same only as itself. -/
theorem same_str_iff {node : Node} {s : String} : node.same (.str s) = true ↔ node = .str s := by
  cases node with
  | scalar a =>
    rw [Node.same, Scalar.same_str_iff]
    exact ⟨fun h => h ▸ rfl, fun h => by cases h; rfl⟩
  | list xs => exact iff_of_false nofun nofun
  | map es => exact iff_of_false nofun nofun

theorem same_of_text {s : String} {key : Scalar} (h : (Scalar.str s).same key = true) :
    key = .str s := by
  cases key with
  | bool b => cases h
  | int n => cases h
  | float x => cases x <;> cases h
  | str t =>
    have hs : Scalar.str s = .str t := by simpa [Scalar.same, Scalar.magnitude?] using h
    exact hs.symm
  | _ => simp [Scalar.same, Scalar.magnitude?] at h

theorem eq_str_of_same {s : String} {node : Node} (h : (Node.str s).same node = true) :
    node = .str s := by
  cases node with
  | scalar a => rw [same_of_text h]
  | list xs => cases h
  | map es => cases h

theorem entries_of_not_isTruthy {s : Sited} (h : s.node.isTruthy = false) : s.entries = [] := by
  obtain ⟨node, site⟩ := s
  cases node with
  | map es =>
    cases es with
    | nil => rfl
    | cons e es => cases h
  | scalar s => rfl
  | list xs => rfl

/-! ## Looking up a part -/

theorem lookup_cons_ite {κ β : Type} [DecidableEq κ] (k : κ) (v : β) (es : List (κ × β)) (key : κ) :
    ((k, v) :: es).lookup key = if k = key then some v else es.lookup key := by
  rw [List.lookup_cons]
  by_cases h : k = key
  · simp [h]
  · rw [show (key == k) = false by simpa using Ne.symm h, if_neg h]

theorem Entries.lookup_eq_get? (es : Entries) (key : String) :
    es.lookup (.str key) = Entries.get? es key := by
  induction es with
  | nil => rfl
  | cons e es ih =>
    rw [Entries.get?_cons, lookup_cons_ite, ih]

namespace SitedEntries

theorem lookup_map {β : Type} (es : SitedEntries) (f : Sited → β) (key : Scalar) :
    (es.map fun e => (e.1, f e.2)).lookup key = (es.lookup key).map f := by
  induction es with
  | nil => rfl
  | cons e es ih =>
    rw [List.map_cons, lookup_cons_ite, lookup_cons_ite, ih]
    split <;> rfl

theorem lookup_map_key (es : SitedEntries) (key : Scalar) :
    (es.map fun e => (Step.key e.1, e.2.site)).lookup (.key key) =
      (es.lookup key).map (·.site) := by
  induction es with
  | nil => rfl
  | cons e es ih =>
    rw [List.map_cons, lookup_cons_ite, lookup_cons_ite, ih]
    by_cases h : e.1 = key <;> simp [h]

/-- A part that was set is the one that is found, and no other is touched. -/
theorem lookup_put (es : SitedEntries) (key : Scalar) (other : String) (value : Sited) :
    (es.put key value).lookup (.str other) =
      if key = .str other then some value else es.lookup (.str other) := by
  induction es with
  | nil => rw [put, lookup_cons_ite]
  | cons e es ih =>
    obtain ⟨k, v⟩ := e
    rw [put, lookup_cons_ite]
    by_cases hk : k = .str other
    · -- the entry that is looked for stands first, so it is set exactly under its own key
      by_cases hkey : key = .str other
      · rw [hk, hkey, if_pos ((Scalar.same_str_iff _ _).mpr rfl), lookup_cons_ite, if_pos rfl,
          if_pos rfl]
      · rw [if_neg (fun h => hkey (same_of_text (hk ▸ h))), lookup_cons_ite, if_pos hk,
          if_neg hkey, if_pos hk]
    · split
      · rename_i hsame
        have hkey : key ≠ .str other := by
          rintro rfl
          exact hk ((Scalar.same_str_iff _ _).mp hsame)
        rw [lookup_cons_ite, if_neg hk, if_neg hkey]
      · rw [lookup_cons_ite, if_neg hk, ih]

end SitedEntries

namespace Sited

theorem node_get? (s : Sited) (key : String) : (s.get? key).map (·.node) = s.node.get? key := by
  rw [get?, Option.map_map]
  exact Option.map_id'

@[simp] theorem node_entry (s : Sited) (key : String) :
    (s.entry key).node = s.node.entry key := by
  rw [entry, Node.entry, ← node_get?]
  cases s.get? key <;> rfl

theorem entry_of_get? {s part : Sited} {key : String} (h : s.get? key = some part) :
    s.entry key = part := by
  rw [entry, h, Option.getD_some]

theorem lookup_entries (s : Sited) (key : String) :
    s.entries.lookup (.str key) = s.get? key := by
  unfold entries get? Node.get?
  rw [← Entries.lookup_eq_get?]
  generalize s.node.entries = es
  induction es with
  | nil => rfl
  | cons e es ih =>
    rw [List.map_cons, lookup_cons_ite, lookup_cons_ite, ih]
    by_cases h : e.1 = .str key <;> simp [h]

theorem get?_outside (node : Node) (key : String) :
    (outside node).get? key = (node.get? key).map outside := rfl

theorem entry_outside (node : Node) (key : String) :
    (outside node).entry key = outside (node.entry key) := by
  rw [entry, get?_outside, Node.entry]
  cases node.get? key <;> rfl

theorem entries_outside (node : Node) :
    (outside node).entries = node.entries.map fun e => (e.1, outside e.2) := rfl

/-! ## New maps -/

theorem get?_ofEntries (es : SitedEntries) (key : String) :
    (ofEntries es).get? key = es.lookup (.str key) := by
  have hnode : (ofEntries es).node.get? key = (es.lookup (.str key)).map (·.node) := by
    rw [ofEntries, Node.get?_map, ← Entries.lookup_eq_get?, SitedEntries.lookup_map]
  have hsite : (ofEntries es).site.child (.key (.str key)) =
      ((es.lookup (.str key)).map (·.site)).getD .outside := by
    rw [ofEntries, Site.child, SitedEntries.lookup_map_key]
  rw [get?, hnode, hsite]
  cases es.lookup (.str key) <;> rfl

theorem entry_ofEntries (es : SitedEntries) (key : String) :
    (ofEntries es).entry key = (es.lookup (.str key)).getD null := by
  rw [entry, get?_ofEntries]

/-- A map with one part replaced, all others keeping their places. -/
def put (s : Sited) (key : String) (value : Sited) : Sited :=
  ofEntries (s.entries.put (.str key) value)

@[simp] theorem isMap_put (s : Sited) (key : String) (value : Sited) :
    (s.put key value).node.isMap = true := rfl

theorem get?_put (s : Sited) (key other : String) (value : Sited) :
    (s.put key value).get? other = if key = other then some value else s.get? other := by
  rw [put, get?_ofEntries, SitedEntries.lookup_put, lookup_entries]
  simp only [Scalar.str.injEq]

theorem entry_put (s : Sited) (key other : String) (value : Sited) :
    (s.put key value).entry other = if key = other then value else s.entry other := by
  rw [entry, get?_put]
  split <;> rfl

/-! ## New lists -/

theorem lookup_partsFrom (xs : List Sited) (start i : Nat) :
    (partsFrom start xs).lookup (.index (start + i)) = xs[i]?.map (·.site) := by
  induction xs generalizing start i with
  | nil => rfl
  | cons x xs ih =>
    rw [partsFrom, lookup_cons_ite]
    cases i with
    | zero => simp
    | succ i =>
      have hne : Step.index start ≠ Step.index (start + (i + 1)) := by simp
      rw [if_neg hne, show start + (i + 1) = start + 1 + i by omega, ih, List.getElem?_cons_succ]

theorem itemsFrom_eq (site : Site) (xs : List Sited) (start : Nat)
    (h : ∀ i x, xs[i]? = some x → site.child (.index (start + i)) = x.site) :
    itemsFrom site start (xs.map (·.node)) = xs := by
  induction xs generalizing start with
  | nil => rfl
  | cons x xs ih =>
    rw [List.map_cons, itemsFrom]
    congr 1
    · have := h 0 x rfl
      rw [Nat.add_zero] at this
      rw [this]
    · apply ih
      intro i y hy
      rw [show start + 1 + i = start + (i + 1) by omega]
      exact h (i + 1) y hy

@[simp] theorem items_ofItems (xs : List Sited) : (ofItems xs).items = xs := by
  apply itemsFrom_eq
  intro i x hx
  rw [ofItems, Site.child, lookup_partsFrom, hx]
  rfl

/-! ## Elements -/

theorem map_node_itemsFrom (site : Site) (position : Nat) (xs : List Node) :
    (itemsFrom site position xs).map (·.node) = xs := by
  induction xs generalizing position with
  | nil => rfl
  | cons x xs ih => rw [itemsFrom, List.map_cons, ih]

theorem map_node_items {s : Sited} {xs : List Node} (h : s.node = .list xs) :
    s.items.map (·.node) = xs := by
  rw [items, h]
  exact map_node_itemsFrom s.site 0 xs

theorem getElem?_itemsFrom (site : Site) (position : Nat) (xs : List Node) (i : Nat) :
    (itemsFrom site position xs)[i]? =
      xs[i]?.map (⟨·, site.child (.index (position + i))⟩) := by
  induction xs generalizing position i with
  | nil => rfl
  | cons x xs ih =>
    cases i with
    | zero => rfl
    | succ i =>
      rw [itemsFrom, List.getElem?_cons_succ, List.getElem?_cons_succ, ih,
        show position + 1 + i = position + (i + 1) by omega]

theorem getElem?_items {s : Sited} {xs : List Node} (h : s.node = .list xs) (i : Nat) :
    s.items[i]? = xs[i]?.map (⟨·, s.site.child (.index i)⟩) := by
  rw [items, h]
  show (itemsFrom s.site 0 xs)[i]? = _
  rw [getElem?_itemsFrom, Nat.zero_add]

theorem length_items {s : Sited} {xs : List Node} (h : s.node = .list xs) :
    s.items.length = xs.length := by
  rw [← List.length_map, map_node_items h]

/-- Only a list has items. -/
theorem isList_of_getElem?_items {s item : Sited} {i : Nat} (h : s.items[i]? = some item) :
    s.node.isList = true := by
  obtain ⟨node, site⟩ := s
  cases node with
  | list xs => rfl
  | scalar a => cases h
  | map es => cases h

/-- The elements of a list are its items. -/
theorem elementsIfAny_of_list {s : Sited} {xs : List Node} (h : s.node = .list xs) :
    s.elementsIfAny = .ok s.items := by
  rw [elementsIfAny, elements, items, h]
  cases xs <;> rfl

/-- What any other value holds are its keys or its characters. -/
theorem elementsIfAny_eq_ok {s : Sited} {elements : List Sited}
    (h : s.elementsIfAny = .ok elements) :
    (∃ xs, s.node = .list xs ∧ elements = s.items) ∨
      ∀ element ∈ elements, ∃ scalar, element = .outside (.scalar scalar) := by
  rw [elementsIfAny] at h
  split at h
  · rw [Sited.elements] at h
    split at h
    · rename_i xs hxs
      exact .inl ⟨xs, hxs, (Except.ok.inj h).symm⟩
    · cases h
      exact .inr (List.forall_mem_map.mpr fun _ _ => ⟨_, rfl⟩)
    · cases h
      exact .inr (List.forall_mem_map.mpr fun _ _ => ⟨_, rfl⟩)
    · cases h
      exact .inr (List.forall_mem_map.mpr fun _ _ => ⟨_, rfl⟩)
    · cases h
  · cases h
    exact .inr (List.forall_mem_nil _)

theorem elementsIfAny_of_null {s : Sited} (h : s.node = .null) : s.elementsIfAny = .ok [] := by
  rw [elementsIfAny, h]
  rfl

end Sited
end RoutedFields
