import RoutedFields.Proofs.Reference.Resolution

/-!
# References and places

What a node stands for does not depend on where the node stands: nodes that look alike resolve to
nodes that look alike, or fail alike.

* `SitedEntries.nodes`: entries without the places of their parts.
* `node_layer`: what a node looks like with entries laid over it.
* `map_node_resolve`: what resolving comes to.
-/

namespace RoutedFields

namespace SitedEntries

/-- Entries without the places of their parts. -/
def nodes (es : SitedEntries) : Entries :=
  es.map fun e => (e.1, e.2.node)

theorem nodes_cons (e : Scalar × Sited) (es : SitedEntries) :
    nodes (e :: es) = (e.1, e.2.node) :: es.nodes := rfl

theorem map_fst_nodes (es : SitedEntries) : es.nodes.map (·.1) = es.map (·.1) := by
  rw [nodes, List.map_map]
  rfl

theorem map_snd_nodes (es : SitedEntries) :
    es.nodes.map (·.2) = (es.map (·.2)).map (·.node) := by
  rw [nodes, List.map_map, List.map_map]
  rfl

theorem nodes_put (es : SitedEntries) (key : Scalar) (value : Sited) :
    (es.put key value).nodes = Entries.put es.nodes key value.node := by
  induction es with
  | nil => rfl
  | cons e es ih =>
    rw [put, nodes_cons, Entries.put]
    split
    · rfl
    · rw [nodes_cons, ih]

theorem nodes_foldl_put (es more : SitedEntries) :
    (more.foldl (fun es e => es.put e.1 e.2) es).nodes =
      more.nodes.foldl (fun es e => Entries.put es e.1 e.2) es.nodes := by
  rw [nodes.eq_1 more, List.foldl_map]
  exact (List.foldl_hom nodes fun es e => (nodes_put es e.1 e.2).symm).symm

theorem nodes_putNew (es : SitedEntries) (e : Scalar × Sited) :
    (es.putNew e.1 e.2).nodes =
      if es.nodes.any (·.1.same e.1) then es.nodes else es.nodes ++ [(e.1, e.2.node)] := by
  have hany : es.nodes.any (·.1.same e.1) = es.any (·.1.same e.1) := List.any_map
  rw [putNew, hany]
  split
  · rfl
  · exact List.map_append

theorem nodes_addNew (es more : SitedEntries) :
    (es.addNew more).nodes = more.nodes.foldl
      (fun es e => if es.any (·.1.same e.1) then es else es ++ [e]) es.nodes := by
  rw [addNew, nodes.eq_1 more, List.foldl_map]
  exact (List.foldl_hom nodes fun es e => (nodes_putNew es e).symm).symm

end SitedEntries

theorem nodes_entries (s : Sited) : s.entries.nodes = s.node.entries := by
  rw [SitedEntries.nodes, Sited.entries, List.map_map]
  exact List.map_id _

theorem nodes_siblings (s : Sited) :
    s.siblings.nodes = s.node.entries.filter (·.1 != .str "$ref") := by
  rw [← nodes_entries, SitedEntries.nodes, SitedEntries.nodes, List.filter_map, Sited.siblings]
  rfl

/-- What a node looks like with entries laid over it. -/
theorem node_layer (s : Sited) (beside : SitedEntries) :
    (s.layer beside).node =
      if beside.nodes.isEmpty || !s.node.isMap then s.node
      else .map (beside.nodes.foldl (fun es e => Entries.put es e.1 e.2) s.node.entries) := by
  rw [Sited.layer, SitedEntries.nodes, List.isEmpty_map]
  split
  · rfl
  · rw [← SitedEntries.nodes, ← nodes_entries, ← SitedEntries.nodes_foldl_put]
    rfl

section Resolving

variable {document : Node} {s t : Sited} {beside beside' : SitedEntries}

theorem node_layer_congr (hnode : s.node = t.node) (hbeside : beside.nodes = beside'.nodes) :
    (s.layer beside).node = (t.layer beside').node := by
  rw [node_layer, node_layer, hnode, hbeside]

theorem map_node_resolveFrom (hnode : s.node = t.node)
    (hbeside : beside.nodes = beside'.nodes) (fuel : Nat) (seen : List String) :
    (resolveFrom document fuel seen beside s).map (·.node) =
      (resolveFrom document fuel seen beside' t).map (·.node) := by
  induction fuel generalizing seen beside beside' s t with
  | zero =>
    rw [resolveFrom, resolveFrom, hnode]
    split
    · exact congrArg Except.ok (node_layer_congr hnode hbeside)
    · split <;> rfl
  | succ fuel ih =>
    rw [resolveFrom, resolveFrom, hnode]
    split
    · exact congrArg Except.ok (node_layer_congr hnode hbeside)
    · split
      · rfl
      · rename_i reference _ _
        dsimp only
        cases Pointer.lookup document reference with
        | error error => rfl
        | ok target =>
          refine ih rfl ?_ _
          rw [SitedEntries.nodes_addNew, SitedEntries.nodes_addNew, hbeside, nodes_siblings,
            nodes_siblings, hnode]

/-- Nodes that look alike resolve to nodes that look alike, or fail alike. -/
theorem map_node_resolve (hnode : s.node = t.node) :
    (resolve document s).map (·.node) = (resolve document t).map (·.node) := by
  rw [resolve, resolve, hnode]
  split
  · exact congrArg Except.ok hnode
  · exact map_node_resolveFrom hnode rfl _ _

end Resolving

end RoutedFields
