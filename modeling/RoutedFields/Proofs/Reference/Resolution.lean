import RoutedFields.Compile.Schema
import RoutedFields.Proofs.Document.Parts
import RoutedFields.Proofs.Results

/-!
# Where references end

* `reference?_of_resolve`: a reference that is resolved ends at a node that is no reference.
* `resolve_of_resolve`: resolving what has been resolved changes nothing.
-/

namespace RoutedFields

theorem reference?_of_not_isMap {node : Node} (h : node.isMap = false) :
    node.reference? = none := by
  cases node with
  | map es => cases h
  | scalar s => rfl
  | list xs => rfl

/-! ## Entries beside references -/

/-- Entries among which `$ref` is not. -/
def SitedEntries.NoReference (es : SitedEntries) : Prop :=
  ∀ e ∈ es, e.1 ≠ .str "$ref"

theorem noReference_siblings (s : Sited) : SitedEntries.NoReference s.siblings := by
  intro e he
  simpa using (List.mem_filter.mp he).2

theorem noReference_putNew {es : SitedEntries} {e : Scalar × Sited} (hes : es.NoReference)
    (he : e.1 ≠ .str "$ref") : (es.putNew e.1 e.2).NoReference := by
  intro x hx
  unfold SitedEntries.putNew at hx
  split at hx
  · exact hes x hx
  · rcases List.mem_append.mp hx with hx | hx
    · exact hes x hx
    · rw [List.mem_singleton.mp hx]
      exact he

theorem noReference_addNew {es more : SitedEntries} (hes : es.NoReference)
    (hmore : more.NoReference) : (es.addNew more).NoReference := by
  induction more generalizing es with
  | nil => exact hes
  | cons e more ih =>
    exact ih (noReference_putNew hes (hmore e List.mem_cons_self))
      fun x hx => hmore x (List.mem_cons_of_mem e hx)

theorem lookup_foldl_put {beside : SitedEntries} (hbeside : beside.NoReference)
    (es : SitedEntries) :
    (beside.foldl (fun es e => es.put e.1 e.2) es).lookup (.str "$ref") =
      es.lookup (.str "$ref") := by
  induction beside generalizing es with
  | nil => rfl
  | cons e beside ih =>
    rw [List.foldl_cons, ih fun x hx => hbeside x (List.mem_cons_of_mem e hx),
      SitedEntries.lookup_put, if_neg (hbeside e List.mem_cons_self)]

/-- A node that is no reference stays none when entries are laid over it. -/
theorem reference?_layer {s : Sited} {beside : SitedEntries} (hbeside : beside.NoReference)
    (hs : s.node.reference? = none) : (s.layer beside).node.reference? = none := by
  rw [Sited.layer]
  split
  · exact hs
  · have hentry : (Sited.ofEntries (beside.foldl (fun es e => es.put e.1 e.2) s.entries)).node.get?
        "$ref" = s.node.get? "$ref" := by
      rw [← Sited.node_get?, ← Sited.node_get?, Sited.get?_ofEntries, lookup_foldl_put hbeside,
        Sited.lookup_entries]
    rw [Node.reference?, hentry]
    exact hs

/-! ## Chains of references -/

theorem reference?_of_resolveFrom {document : Node} {fuel : Nat} {seen : List String}
    {beside : SitedEntries} {s r : Sited} (hbeside : beside.NoReference)
    (h : resolveFrom document fuel seen beside s = .ok r) : r.node.reference? = none := by
  -- by induction on the steps left; `$ref` never comes among the entries beside the references
  induction fuel generalizing seen beside s with
  | zero =>
    rw [resolveFrom] at h
    split at h
    · rename_i hs
      cases h
      exact reference?_layer hbeside hs
    · split at h <;> cases h
  | succ fuel ih =>
    rw [resolveFrom] at h
    split at h
    · rename_i hs
      cases h
      exact reference?_layer hbeside hs
    · split at h
      · cases h
      · obtain ⟨target, _, hrest⟩ := bind_eq_ok_iff.mp h
        exact ih (noReference_addNew hbeside (noReference_siblings s)) hrest

/-- A reference that is resolved ends at a node that is no reference. -/
theorem reference?_of_resolve {document : Node} {s r : Sited} (h : resolve document s = .ok r) :
    r.node.reference? = none := by
  rw [resolve] at h
  split at h
  · rename_i hs
    cases h
    exact hs
  · exact reference?_of_resolveFrom (fun e he => absurd he List.not_mem_nil) h

theorem resolve_of_reference? {document : Node} {s : Sited} (h : s.node.reference? = none) :
    resolve document s = .ok s := by
  rw [resolve, h]

/-- Resolving what has been resolved changes nothing. -/
theorem resolve_of_resolve {document : Node} {s r : Sited} (h : resolve document s = .ok r) :
    resolve document r = .ok r :=
  resolve_of_reference? (reference?_of_resolve h)

theorem resolved_eq_ok_iff {document : Node} {s r : Sited} :
    resolved document s = .ok r ↔ resolve document s = .ok r :=
  mapError_eq_ok_iff

end RoutedFields
