import RoutedFields.Proofs.Document.AlikeValues
import RoutedFields.Proofs.Reference.Chain

/-!
# What a chain of references stands for

A chain of references leads over nodes that are references to one that is none. If that is a map,
the chain stands for it with the entries beside the references laid over it: each key has the value
of the first node of the chain that has it, be it null. Only `$ref` is never taken from a node on
the way, so that what comes out is no reference again.

* `SitedEntries.find?`, `Sited.find?`: the part under a key of any kind.
* `SitedEntries.find?_addNew`, `SitedEntries.find?_foldl_put`: entries that are added or laid over.
* `Passes`: the nodes of a chain of references.
* `Layered`: a map with the entries of the nodes of a chain laid over it.
* `resolve_layers`: what resolving comes to.
-/

namespace RoutedFields

/-! ## Parts under keys of any kind -/

namespace SitedEntries

variable {es more : SitedEntries} {key other : Scalar} {value : Sited}

/-- The part under a key of any kind. -/
def find? (es : SitedEntries) (key : Scalar) : Option Sited :=
  (List.find? (·.1.same key) es).map (·.2)

theorem find?_nil (key : Scalar) : find? [] key = none := rfl

theorem find?_cons (e : Scalar × Sited) (es : SitedEntries) (key : Scalar) :
    find? (e :: es) key = if e.1.same key then some e.2 else es.find? key := by
  rw [find?, List.find?_cons, find?]
  cases e.1.same key <;> rfl

theorem find?_append (es more : SitedEntries) (key : Scalar) :
    find? (es ++ more) key = (es.find? key).or (more.find? key) := by
  rw [find?, List.find?_append, Option.map_or, find?, find?]

/-- Keys that are the same find the same part. -/
theorem find?_congr (h : key.same other = true) (es : SitedEntries) :
    es.find? key = es.find? other := by
  rw [find?, find?]
  simp only [Scalar.same_right h]

theorem isSome_find? (es : SitedEntries) (key : Scalar) :
    (es.find? key).isSome = es.any (·.1.same key) := by
  rw [find?, Option.isSome_map, List.isSome_find?]

/-- A part that is set is found under all keys that are the same, and no other key is touched. -/
theorem find?_put (es : SitedEntries) (key other : Scalar) (value : Sited) :
    (es.put key value).find? other = if key.same other then some value else es.find? other := by
  induction es with
  | nil => exact find?_cons (key, value) [] other
  | cons e es ih =>
    obtain ⟨k, v⟩ := e
    rw [put]
    by_cases hk : k.same key = true
    · rw [if_pos hk, find?_cons, find?_cons, Scalar.same_left hk]
      split <;> rfl
    · rw [if_neg hk, find?_cons, find?_cons, ih]
      by_cases hother : k.same other = true
      · have hkey : ¬key.same other = true := by
          rw [← Scalar.same_right hother, Scalar.same_comm]
          exact hk
        rw [if_pos hother, if_neg hkey, if_pos hother]
      · rw [if_neg hother, if_neg hother]

/-- A part whose key is new is found under it; a part whose key is there changes nothing. -/
theorem find?_putNew (es : SitedEntries) (key other : Scalar) (value : Sited) :
    (es.putNew key value).find? other =
      (es.find? other).or (if key.same other then some value else none) := by
  rw [putNew]
  split
  · rename_i hthere
    rw [← isSome_find?] at hthere
    by_cases hother : key.same other = true
    · rw [find?_congr hother] at hthere
      rw [Option.or_of_isSome hthere]
    · rw [if_neg hother, Option.or_none]
  · rw [find?_append, find?_cons, find?_nil]

theorem find?_addNew (es more : SitedEntries) (key : Scalar) :
    (es.addNew more).find? key = (es.find? key).or (more.find? key) := by
  induction more generalizing es with
  | nil => exact Option.or_none.symm
  | cons e more ih =>
    show ((es.putNew e.1 e.2).addNew more).find? key = _
    rw [ih, find?_putNew, find?_cons, Option.or_assoc]
    cases e.1.same key <;> rfl

/-- Whether no two keys of some entries are the same. -/
def AllDiffer (es : SitedEntries) : Prop :=
  es.Pairwise fun e f => e.1.same f.1 = false

theorem allDiffer_iff_keys :
    es.AllDiffer ↔ (es.map (·.1)).Pairwise fun a b => a.same b = false := by
  rw [AllDiffer, List.pairwise_map]

theorem allDiffer_putNew (h : es.AllDiffer) (key : Scalar) (value : Sited) :
    (es.putNew key value).AllDiffer := by
  rw [putNew]
  split
  · exact h
  · rename_i hnew
    refine List.pairwise_append.mpr ⟨h, List.pairwise_singleton _ _, fun e he f hf => ?_⟩
    rw [List.mem_singleton.mp hf]
    rw [Bool.not_eq_true, List.any_eq_false] at hnew
    exact Bool.eq_false_iff.mpr (hnew e he)

theorem allDiffer_addNew (h : es.AllDiffer) (more : SitedEntries) : (es.addNew more).AllDiffer := by
  induction more generalizing es with
  | nil => exact h
  | cons e more ih => exact ih (allDiffer_putNew h e.1 e.2)

theorem exists_key_of_mem_put {e : Scalar × Sited} (h : e ∈ es.put key value) :
    (∃ f ∈ es, f.1 = e.1) ∨ e.1 = key := by
  induction es with
  | nil => exact .inr (by rw [List.mem_singleton.mp h])
  | cons f es ih =>
    rw [put] at h
    split at h
    · rcases List.mem_cons.mp h with rfl | h
      · exact .inl ⟨f, List.mem_cons_self, rfl⟩
      · exact .inl ⟨e, List.mem_cons_of_mem f h, rfl⟩
    · rcases List.mem_cons.mp h with rfl | h
      · exact .inl ⟨f, List.mem_cons_self, rfl⟩
      · rcases ih h with ⟨g, hg, heq⟩ | heq
        · exact .inl ⟨g, List.mem_cons_of_mem f hg, heq⟩
        · exact .inr heq

theorem allDiffer_put (h : es.AllDiffer) (key : Scalar) (value : Sited) :
    (es.put key value).AllDiffer := by
  induction es with
  | nil => exact List.pairwise_singleton _ _
  | cons e es ih =>
    obtain ⟨hfirst, hrest⟩ := List.pairwise_cons.mp h
    rw [put]
    split
    · exact List.pairwise_cons.mpr ⟨hfirst, hrest⟩
    · rename_i hkey
      refine List.pairwise_cons.mpr ⟨fun f hf => ?_, ih hrest⟩
      rcases exists_key_of_mem_put hf with ⟨g, hg, heq⟩ | heq
      · rw [← heq]
        exact hfirst g hg
      · rw [heq]
        exact Bool.eq_false_iff.mpr hkey

theorem allDiffer_foldl_put (h : es.AllDiffer) (more : SitedEntries) :
    (more.foldl (fun es e => es.put e.1 e.2) es).AllDiffer := by
  induction more generalizing es with
  | nil => exact h
  | cons e more ih => exact ih (allDiffer_put h e.1 e.2)

/-- Of entries that are laid over others, those on top are found first. -/
theorem find?_foldl_put (hmore : more.AllDiffer) (es : SitedEntries) (key : Scalar) :
    (more.foldl (fun es e => es.put e.1 e.2) es).find? key =
      (more.find? key).or (es.find? key) := by
  induction more generalizing es with
  | nil => rfl
  | cons e more ih =>
    obtain ⟨hfirst, hrest⟩ := List.pairwise_cons.mp hmore
    rw [List.foldl_cons, ih hrest, find?_put, find?_cons]
    by_cases hkey : e.1.same key = true
    · -- the key stands once among the entries on top
      have hnone : find? more key = none := by
        rw [← find?_congr hkey, ← Option.not_isSome_iff_eq_none, isSome_find?, Bool.not_eq_true,
          List.any_eq_false]
        intro f hf
        rw [Scalar.same_comm, hfirst f hf]
        exact Bool.false_ne_true
      rw [hnone, if_pos hkey, if_pos hkey]
      rfl
    · rw [if_neg hkey, if_neg hkey]

theorem keys_prefix_put (es : SitedEntries) (key : Scalar) (value : Sited) :
    es.map (·.1) <+: (es.put key value).map (·.1) := by
  induction es with
  | nil => exact List.nil_prefix
  | cons e es ih =>
    rw [put]
    split
    · exact List.prefix_refl _
    · exact List.prefix_cons_inj e.1 |>.mpr ih

theorem keys_prefix_foldl_put (es more : SitedEntries) :
    es.map (·.1) <+: (more.foldl (fun es e => es.put e.1 e.2) es).map (·.1) := by
  induction more generalizing es with
  | nil => exact List.prefix_refl _
  | cons e more ih => exact (keys_prefix_put es e.1 e.2).trans (ih _)

/-- The entry that is found under a key is the first one with its own key. -/
theorem lookup_of_find? {e : Scalar × Sited} (h : List.find? (·.1.same key) es = some e) :
    es.lookup e.1 = some e.2 := by
  induction es with
  | nil => cases h
  | cons f es ih =>
    rw [lookup_cons_ite]
    rw [List.find?_cons] at h
    cases hf : f.1.same key with
    | true =>
      rw [hf] at h
      obtain rfl := Option.some.inj h
      exact if_pos rfl
    | false =>
      rw [hf] at h
      have hsame := List.find?_some h
      rw [if_neg, ih h]
      intro heq
      rw [heq, hsame] at hf
      cases hf

end SitedEntries

namespace Sited

/-- The part of a map under a key of any kind. -/
def find? (sited : Sited) (key : Scalar) : Option Sited :=
  sited.entries.find? key

theorem find?_ofEntries (es : SitedEntries) (key : Scalar) :
    (ofEntries es).find? key = es.find? key := by
  have hentries : (ofEntries es).entries =
      es.map fun e => (e.1, ⟨e.2.node, (ofEntries es).site.child (.key e.1)⟩) := by
    rw [entries, ofEntries, Node.entries_map, List.map_map]
    rfl
  rw [find?, hentries, SitedEntries.find?, List.find?_map, SitedEntries.find?]
  show ((List.find? (·.1.same key) es).map _).map _ = _
  cases hfound : List.find? (·.1.same key) es with
  | none => rfl
  | some e =>
    -- the place of a part is that of the first entry with its own key, which is this one
    have hsite : (ofEntries es).site.child (.key e.1) = e.2.site := by
      rw [ofEntries, Site.child, SitedEntries.lookup_map_key, SitedEntries.lookup_of_find? hfound]
      rfl
    show some (⟨e.2.node, (ofEntries es).site.child (.key e.1)⟩ : Sited) = some e.2
    rw [hsite]

/-- Beside a reference every part is found but `$ref`. -/
theorem find?_siblings (s : Sited) (key : Scalar) :
    s.siblings.find? key = if key = .str "$ref" then none else s.find? key := by
  rw [SitedEntries.find?, siblings, List.find?_filter, find?, SitedEntries.find?]
  split
  · rename_i hkey
    rw [Option.map_eq_none_iff, List.find?_eq_none]
    intro e _
    rw [hkey, decide_eq_true_iff, Scalar.same_str_iff, bne_iff_ne]
    rintro ⟨hne, heq⟩
    exact hne heq
  · rename_i hkey
    congr 2
    funext e
    by_cases he : e.1 = .str "$ref"
    · have hsame : e.1.same key = false := by
        rw [he, Scalar.same_comm, Bool.eq_false_iff, ne_eq, Scalar.same_str_iff]
        exact hkey
      simp [hsame]
    · simp [he]

end Sited

/-! ## The nodes of a chain -/

/-- Following references from a node passes a row of nodes, each a reference to the next one,
and comes to a node. -/
inductive Passes (document : Node) : Sited → List Sited → Sited → Prop
  | here (s : Sited) : Passes document s [] s
  | next {s t u : Sited} {reference : String} {rest : List Sited}
    (hreference : s.node.reference? = some reference)
    (hlookup : Pointer.lookup document reference = .ok t) (hrest : Passes document t rest u) :
    Passes document s (s :: rest) u

/-- The entries beside the references of a row of nodes, the nearer ones first. -/
def siblingsOf (nodes : List Sited) (beside : SitedEntries) : SitedEntries :=
  nodes.foldl (fun beside s => beside.addNew s.siblings) beside

theorem find?_siblingsOf (nodes : List Sited) (beside : SitedEntries) (key : Scalar) :
    (siblingsOf nodes beside).find? key =
      (beside.find? key).or (nodes.findSome? (·.siblings.find? key)) := by
  induction nodes generalizing beside with
  | nil => exact Option.or_none.symm
  | cons s nodes ih =>
    show (siblingsOf nodes (beside.addNew s.siblings)).find? key = _
    rw [ih, SitedEntries.find?_addNew, Option.or_assoc, List.findSome?_cons]
    cases s.siblings.find? key <;> rfl

theorem allDiffer_siblingsOf (nodes : List Sited) {beside : SitedEntries} (h : beside.AllDiffer) :
    (siblingsOf nodes beside).AllDiffer := by
  induction nodes generalizing beside with
  | nil => exact h
  | cons s nodes ih => exact ih (SitedEntries.allDiffer_addNew h s.siblings)

section Chain

variable {document : Node} {s t r : Sited} {nodes : List Sited} {references : List String}

theorem Leads.exists_passes (h : Leads document s references t) :
    ∃ nodes, Passes document s nodes t := by
  induction h with
  | here s => exact ⟨[], .here s⟩
  | next hreference hlookup _ ih =>
    obtain ⟨nodes, hnodes⟩ := ih
    exact ⟨_ :: nodes, .next hreference hlookup hnodes⟩

/-- A search that comes to an end lays what it has gathered on its way over the node at the end. -/
theorem layer_of_resolveFrom {fuel : Nat} {seen : List String} {beside : SitedEntries}
    (hpasses : Passes document s nodes t) (hend : t.node.reference? = none)
    (h : resolveFrom document fuel seen beside s = .ok r) :
    r = t.layer (siblingsOf nodes beside) := by
  induction hpasses generalizing fuel seen beside with
  | here s =>
    rw [resolveFrom_of_not_reference hend] at h
    exact (Except.ok.inj h).symm
  | @next s next t reference nodes hreference hlookup _ ih =>
    by_cases hmem : reference ∈ seen
    · rw [resolveFrom_of_mem hreference hmem] at h
      cases h
    · cases fuel with
      | zero =>
        rw [resolveFrom, hreference] at h
        dsimp only at h
        rw [if_neg hmem] at h
        cases h
      | succ fuel =>
        rw [resolveFrom_of_lookup hreference hmem, hlookup] at h
        exact ih hend h

/-- What resolves to a node is at the end of a chain with the entries on the way laid over it. -/
theorem layer_of_resolve (hpasses : Passes document s nodes t) (hend : t.node.reference? = none)
    (h : resolve document s = .ok r) : r = t.layer (siblingsOf nodes []) := by
  rw [← resolveFrom_eq_resolve (Nat.lt_succ_self document.referenceCount)] at h
  exact layer_of_resolveFrom hpasses hend h

end Chain

/-! ## Layers -/

/-- Whether a map is another one with the entries of a row of nodes laid over it. It has the keys of
all these nodes, and each key but `$ref` has the part of the first node that has it; `$ref` is only
taken from the map below. The keys of the map below stand first and in their order. -/
structure Layered (nodes : List Sited) (below s : Sited) : Prop where
  isMap : s.node.isMap = true
  find? : ∀ key, key ≠ .str "$ref" → s.find? key = (nodes ++ [below]).findSome? (·.find? key)
  reference : s.find? (.str "$ref") = below.find? (.str "$ref")
  keys : below.entries.map (·.1) <+: s.entries.map (·.1)
  allDiffer : below.entries.AllDiffer → s.entries.AllDiffer

section Layers

variable {document : Node} {s t r : Sited} {nodes : List Sited} {beside : SitedEntries}

theorem find?_layer (hmap : s.node.isMap = true) (hbeside : beside.AllDiffer) (key : Scalar) :
    (s.layer beside).find? key = (beside.find? key).or (s.find? key) := by
  rw [Sited.layer, hmap, Bool.not_true, Bool.or_false]
  split
  · rename_i hempty
    rw [List.isEmpty_iff.mp hempty]
    rfl
  · rw [Sited.find?_ofEntries, SitedEntries.find?_foldl_put hbeside]
    rfl

theorem isMap_layer (hmap : s.node.isMap = true) (beside : SitedEntries) :
    (s.layer beside).node.isMap = true := by
  rw [Sited.layer]
  split
  · exact hmap
  · rfl

theorem layer_of_not_isMap (hmap : s.node.isMap = false) (beside : SitedEntries) :
    s.layer beside = s := by
  rw [Sited.layer, hmap, Bool.not_false, Bool.or_true]
  exact if_pos rfl

/-- The keys of a map with entries laid over it. -/
theorem keys_layer (s : Sited) (beside : SitedEntries) :
    s.layer beside = s ∨ (s.layer beside).entries.map (·.1) =
      (beside.foldl (fun es e => es.put e.1 e.2) s.entries).map (·.1) := by
  rw [Sited.layer]
  split
  · exact .inl rfl
  · refine .inr ?_
    rw [Sited.map_fst_entries, Sited.ofEntries, Node.entries_map, List.map_map]
    rfl

/-- A map with the entries beside the references of a chain laid over it. -/
theorem layered_layer (hmap : t.node.isMap = true) :
    Layered nodes t (t.layer (siblingsOf nodes [])) := by
  have hfind := find?_layer hmap (allDiffer_siblingsOf nodes .nil)
  refine ⟨isMap_layer hmap _, fun key hkey => ?_, ?_, ?_, fun ht => ?_⟩
  · rw [hfind, find?_siblingsOf, SitedEntries.find?_nil, Option.none_or, List.findSome?_append,
      List.findSome?_singleton]
    simp only [Sited.find?_siblings, if_neg hkey]
  · have hnone : nodes.findSome? (·.siblings.find? (.str "$ref")) = none := by
      rw [List.findSome?_eq_none_iff]
      intro s _
      rw [Sited.find?_siblings, if_pos rfl]
    rw [hfind, find?_siblingsOf, hnone, SitedEntries.find?_nil, Option.or_none, Option.none_or]
  · rcases keys_layer t (siblingsOf nodes []) with heq | heq
    · simp only [heq, List.prefix_refl]
    · rw [heq]
      exact SitedEntries.keys_prefix_foldl_put _ _
  · rcases keys_layer t (siblingsOf nodes []) with heq | heq
    · rw [heq]
      exact ht
    · rw [SitedEntries.allDiffer_iff_keys, heq, ← SitedEntries.allDiffer_iff_keys]
      exact SitedEntries.allDiffer_foldl_put ht _

theorem isReference_eq_false_iff {node : Node} :
    node.isReference = false ↔ node.reference? = none :=
  Option.isSome_eq_false_iff.trans Option.isNone_iff_eq_none

/-- What resolving comes to is no reference, stands for itself, and is the node itself if that is
none. There is a chain of references from the node to one that is no reference; and for each such
chain, what resolving comes to is the node at its end if that is no map, and else that map with the
entries of the nodes on the way laid over it. -/
theorem resolve_layers (h : resolve document s = .ok r) :
    r.node.isReference = false ∧ resolve document r = .ok r ∧
      (s.node.isReference = false → r = s) ∧
      (∃ nodes t, Passes document s nodes t ∧ t.node.isReference = false) ∧
      ∀ nodes t, Passes document s nodes t → t.node.isReference = false →
        (t.node.isMap = true → Layered nodes t r) ∧ (t.node.isMap = false → r = t) := by
  simp only [isReference_eq_false_iff]
  refine ⟨reference?_of_resolve h, resolve_of_resolve h, fun hs => ?_, ?_,
    fun nodes t hpasses hend => ?_⟩
  · rw [resolve_of_reference? hs] at h
    exact (Except.ok.inj h).symm
  · obtain ⟨references, t, hleads, hend⟩ := exists_resolve_iff.mp ⟨r, h⟩
    obtain ⟨nodes, hpasses⟩ := hleads.exists_passes
    exact ⟨nodes, t, hpasses, hend⟩
  · rw [layer_of_resolve hpasses hend h]
    exact ⟨layered_layer, fun hmap => layer_of_not_isMap hmap _⟩

/-- A schema that refers to another one, with a null beside the reference; the other one has a
`$ref` that is no text. -/
def aliasDocument : Node :=
  .map [(.str "Pet", .map [(.str "$ref", .str "#/Animal"), (.str "description", .null),
      (.str "title", .str "Pet")]),
    (.str "Animal", .map [(.str "type", .str "object"), (.str "$ref", .bool true),
      (.str "description", .str "Any animal")])]

/-- A reference to the first of these schemas. -/
def petAlias : Sited :=
  .outside (.map [(.str "$ref", .str "#/Pet"), (.str "title", .str "My pet")])

theorem resolve_layers_alias :
    ∃ pet animal r, Passes aliasDocument petAlias [petAlias, pet] animal ∧
      resolve aliasDocument petAlias = .ok r ∧
      r.node = .map [(.str "type", .str "object"), (.str "$ref", .bool true),
        (.str "description", .null), (.str "title", .str "My pet")] ∧
      resolve aliasDocument r = .ok r ∧ Layered [petAlias, pet] animal r := by
  have hpasses : Passes aliasDocument petAlias [petAlias, _] _ :=
    .next rfl rfl (.next rfl rfl (.here _))
  have hresolve : resolve aliasDocument petAlias = .ok _ := rfl
  obtain ⟨_, hagain, _, _, hlayers⟩ := resolve_layers hresolve
  exact ⟨_, _, _, hpasses, hresolve, rfl, hagain, (hlayers _ _ hpasses rfl).1 rfl⟩

end Layers

end RoutedFields
