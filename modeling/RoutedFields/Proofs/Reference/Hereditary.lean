import RoutedFields.Proofs.Document.DistinctKeys
import RoutedFields.Proofs.Reference.Resolution

/-!
# Hereditary properties

Some properties of values are properties of their parts: that a value has a JSON form, or that some
reference does not occur in it. What is made of parts of such values has the property again, and so does what the
references in a document lead to.

* `Node.Hereditary`: properties that values have exactly if their parts have them.
* `Hereditary.entries`, `Hereditary.ofEntries`, `Hereditary.layer`: taking a map apart and putting
  one together.
* `Hereditary.resolve`: what a node stands for in a document.
-/

namespace RoutedFields

/-- Whether a property of values is one of their parts. A map has it exactly if all of its entries are
good and their values have it, and a list if its items have it. -/
structure Node.Hereditary (P : Node → Prop) (good : Scalar × Node → Prop) : Prop where
  null : P .null
  list_iff : ∀ xs, P (.list xs) ↔ ∀ x ∈ xs, P x
  map_iff : ∀ es : Entries, P (.map es) ↔ ∀ e ∈ es, good e ∧ P e.2
  /-- An old entry may get the value of a new one. -/
  replace : ∀ {k key : Scalar} {v value : Node}, k.same key = true → good (k, v) →
    good (key, value) → good (k, value)

/-- Entries that are good and whose values have a property. -/
def SitedEntries.Have (P : Node → Prop) (good : Scalar × Node → Prop) (entries : SitedEntries) :
    Prop :=
  ∀ e ∈ entries, good (e.1, e.2.node) ∧ P e.2.node

namespace SitedEntries.Have

variable {P : Node → Prop} {good : Scalar × Node → Prop} {entries more : SitedEntries}
  {key : Scalar} {value : Sited}

theorem put (h : Node.Hereditary P good) (hentries : entries.Have P good)
    (hgood : good (key, value.node)) (hvalue : P value.node) :
    (entries.put key value).Have P good := by
  induction entries with
  | nil => exact List.forall_mem_singleton.mpr ⟨hgood, hvalue⟩
  | cons e entries ih =>
    obtain ⟨k, v⟩ := e
    obtain ⟨hfirst, hrest⟩ := List.forall_mem_cons.mp hentries
    unfold SitedEntries.put
    split
    · rename_i hsame
      exact List.forall_mem_cons.mpr ⟨⟨h.replace hsame hfirst.1 hgood, hvalue⟩, hrest⟩
    · exact List.forall_mem_cons.mpr ⟨hfirst, ih hrest⟩

theorem foldl_put (h : Node.Hereditary P good) (hentries : entries.Have P good)
    (hmore : more.Have P good) :
    (more.foldl (fun es e => es.put e.1 e.2) entries).Have P good := by
  induction more generalizing entries with
  | nil => exact hentries
  | cons e more ih =>
    obtain ⟨hfirst, hrest⟩ := List.forall_mem_cons.mp hmore
    exact ih (hentries.put h hfirst.1 hfirst.2) hrest

theorem putNew (hentries : entries.Have P good) (hgood : good (key, value.node))
    (hvalue : P value.node) : (entries.putNew key value).Have P good := by
  unfold SitedEntries.putNew
  split
  · exact hentries
  · exact List.forall_mem_append.mpr ⟨hentries, List.forall_mem_singleton.mpr ⟨hgood, hvalue⟩⟩

theorem addNew (hentries : entries.Have P good) (hmore : more.Have P good) :
    (entries.addNew more).Have P good := by
  induction more generalizing entries with
  | nil => exact hentries
  | cons e more ih =>
    obtain ⟨hfirst, hrest⟩ := List.forall_mem_cons.mp hmore
    exact ih (hentries.putNew hfirst.1 hfirst.2) hrest

end SitedEntries.Have

namespace Node.Hereditary

variable {P : Node → Prop} {good : Scalar × Node → Prop} {s part : Sited}

/-! ## Parts -/

theorem of_mem (h : Hereditary P good) {node : Node} (hnode : P node) {e : Scalar × Node}
    (he : e ∈ node.entries) : good e ∧ P e.2 := by
  cases node with
  | map es => exact (h.map_iff es).mp hnode e he
  | scalar s => cases he
  | list xs => cases he

theorem get? (h : Hereditary P good) {node value : Node} {key : String} (hnode : P node)
    (hget : node.get? key = some value) : good (.str key, value) ∧ P value := by
  rw [Node.get?, ← Entries.lookup_eq_get?] at hget
  exact h.of_mem hnode (mem_of_lookup hget)

theorem entry (h : Hereditary P good) (hs : P s.node) (key : String) : P (s.entry key).node := by
  rw [Sited.node_entry, Node.entry]
  cases hget : s.node.get? key with
  | none => exact h.null
  | some value => exact (h.get? hs hget).2

theorem entries (h : Hereditary P good) (hs : P s.node) : s.entries.Have P good := by
  intro e he
  obtain ⟨entry, hentry, rfl⟩ := List.mem_map.mp he
  exact h.of_mem hs hentry

theorem items (h : Hereditary P good) (hs : P s.node) (hpart : part ∈ s.items) : P part.node := by
  unfold Sited.items at hpart
  split at hpart
  · rename_i xs hlist
    have hnode : part.node ∈ xs := by
      rw [← Sited.map_node_itemsFrom s.site 0 xs]
      exact List.mem_map_of_mem hpart
    rw [hlist, h.list_iff] at hs
    exact hs part.node hnode
  · cases hpart

/-! ## Putting parts together -/

theorem ofEntries (h : Hereditary P good) {entries : SitedEntries}
    (hentries : entries.Have P good) : P (Sited.ofEntries entries).node := by
  refine (h.map_iff _).mpr fun e he => ?_
  obtain ⟨entry, hentry, rfl⟩ := List.mem_map.mp he
  exact hentries entry hentry

theorem ofItems (h : Hereditary P good) {items : List Sited} (hitems : ∀ x ∈ items, P x.node) :
    P (Sited.ofItems items).node :=
  (h.list_iff _).mpr (List.forall_mem_map.mpr hitems)

theorem orEmpty (h : Hereditary P good) (hs : P s.node) : P s.orEmpty.node := by
  unfold Sited.orEmpty
  split
  · exact hs
  · exact (h.map_iff []).mpr (List.forall_mem_nil _)

theorem layer (h : Hereditary P good) (hs : P s.node) {beside : SitedEntries}
    (hbeside : beside.Have P good) : P (s.layer beside).node := by
  unfold Sited.layer
  split
  · exact hs
  · exact h.ofEntries ((h.entries hs).foldl_put h hbeside)

/-! ## References -/

theorem follow (h : Hereditary P good) {reference : String} {segment : List Char}
    (hs : P s.node) (hfollow : Pointer.follow reference s segment = .ok part) : P part.node := by
  unfold Pointer.follow at hfollow
  dsimp only at hfollow
  split at hfollow
  · split at hfollow
    · rename_i found hfound
      obtain rfl := Except.ok.inj hfollow
      rw [← Sited.entry_of_get? hfound]
      exact h.entry hs _
    · cases hfollow
  · rename_i xs hlist
    split at hfollow
    · rename_i position _
      obtain rfl := Except.ok.inj hfollow
      rw [hlist, h.list_iff] at hs
      dsimp only
      rw [List.getD_eq_getElem?_getD]
      cases hitem : xs[position]? with
      | none => exact h.null
      | some x => exact hs x (List.mem_of_getElem? hitem)
    · cases hfollow
  · cases hfollow

theorem navigate (h : Hereditary P good) {reference : String} {segments : List (List Char)}
    (hs : P s.node) (hnavigate : Pointer.navigate reference s segments = .ok part) :
    P part.node := by
  induction segments generalizing s with
  | nil =>
    obtain rfl := Except.ok.inj hnavigate
    exact hs
  | cons segment segments ih =>
    obtain ⟨next, hnext, hrest⟩ := bind_eq_ok_iff.mp hnavigate
    exact ih (h.follow hs hnext) hrest

variable {document : Node} {target : Sited}

theorem lookup (h : Hereditary P good) {reference : String} (hdocument : P document)
    (hlookup : Pointer.lookup document reference = .ok target) : P target.node := by
  unfold Pointer.lookup at hlookup
  split at hlookup
  · exact h.navigate hdocument hlookup
  · cases hlookup

theorem siblings (h : Hereditary P good) (hs : P s.node) : s.siblings.Have P good :=
  fun e he => h.entries hs e (List.mem_of_mem_filter he)

theorem resolveFrom (h : Hereditary P good) {fuel : Nat} {seen : List String}
    {beside : SitedEntries} (hdocument : P document) (hbeside : beside.Have P good) (hs : P s.node)
    (hresolve : RoutedFields.resolveFrom document fuel seen beside s = .ok target) :
    P target.node := by
  -- by induction on the steps left; the entries beside the references have the property as well
  induction fuel generalizing seen beside s with
  | zero =>
    unfold RoutedFields.resolveFrom at hresolve
    split at hresolve
    · obtain rfl := Except.ok.inj hresolve
      exact h.layer hs hbeside
    · split at hresolve <;> cases hresolve
  | succ fuel ih =>
    unfold RoutedFields.resolveFrom at hresolve
    split at hresolve
    · obtain rfl := Except.ok.inj hresolve
      exact h.layer hs hbeside
    · split at hresolve
      · cases hresolve
      · obtain ⟨found, hfound, hrest⟩ := bind_eq_ok_iff.mp hresolve
        exact ih (hbeside.addNew (h.siblings hs)) (h.lookup hdocument hfound) hrest

/-- What a node stands for in a document with the property has the property. -/
theorem resolve (h : Hereditary P good) (hdocument : P document) (hs : P s.node)
    (hresolve : RoutedFields.resolve document s = .ok target) : P target.node := by
  unfold RoutedFields.resolve at hresolve
  split at hresolve
  · obtain rfl := Except.ok.inj hresolve
    exact hs
  · exact h.resolveFrom hdocument (List.forall_mem_nil _) hs hresolve

end Node.Hereditary
end RoutedFields
