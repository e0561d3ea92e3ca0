import RoutedFields.Proofs.Reference.Chain
import RoutedFields.Proofs.Reference.Hereditary
import RoutedFields.Proofs.Reference.Segments
import RoutedFields.Schema.Example

/-!
# Larger documents

A document can grow so that all its references but one still name the same nodes. As long as that
one reference is used nowhere, whatever is found in the document is found in the larger one. A
document with one more path is larger in this way: only `#/paths` names something else in it.

* `Node.refersTo`: whether a node holds some reference.
* `Extends`: documents that have grown.
* `carriesOver_resolve`, `carriesOver_schemaExample`: references and examples in them.
* `Node.addPath`, `extends_addPath`: a document with one more path.
-/

namespace RoutedFields

/-! ## The references in a node -/

mutual

/-- Whether a node holds a reference: a text under `$ref`, at any depth. -/
def Node.refersTo (reference : String) : Node → Bool
  | .scalar _ => false
  | .list xs => Node.refersToInItems reference xs
  | .map es => Node.refersToInEntries reference es

/-- Whether an item of a list holds a reference. -/
def Node.refersToInItems (reference : String) : List Node → Bool
  | [] => false
  | x :: xs => x.refersTo reference || Node.refersToInItems reference xs

/-- Whether an entry of a map is a reference, or its value holds it. -/
def Node.refersToInEntries (reference : String) : List (Scalar × Node) → Bool
  | [] => false
  | (k, v) :: rest =>
    (k == .str "$ref" && v.same (.str reference)) || v.refersTo reference ||
      Node.refersToInEntries reference rest

end

theorem Node.refersToInItems_eq_false {reference : String} {xs : List Node} :
    Node.refersToInItems reference xs = false ↔ ∀ x ∈ xs, x.refersTo reference = false := by
  induction xs with
  | nil => exact iff_of_true rfl (List.forall_mem_nil _)
  | cons x xs ih => rw [refersToInItems, Bool.or_eq_false_iff, ih, List.forall_mem_cons]

theorem Node.refersToInEntries_eq_false {reference : String} {es : Entries} :
    Node.refersToInEntries reference es = false ↔
      ∀ e ∈ es, e ≠ (.str "$ref", .str reference) ∧ e.2.refersTo reference = false := by
  induction es with
  | nil => exact iff_of_true rfl (List.forall_mem_nil _)
  | cons e es ih =>
    obtain ⟨k, v⟩ := e
    have hentry : (k == .str "$ref" && v.same (.str reference)) = false ↔
        (k, v) ≠ (.str "$ref", .str reference) := by
      rw [Bool.eq_false_iff, ne_eq, Bool.and_eq_true, beq_iff_eq, same_str_iff, Ne, Prod.mk.injEq]
    rw [refersToInEntries, Bool.or_eq_false_iff, Bool.or_eq_false_iff, hentry, ih,
      List.forall_mem_cons]

theorem hereditary_refersTo (reference : String) :
    Node.Hereditary (·.refersTo reference = false) (· ≠ (.str "$ref", .str reference)) where
  null := rfl
  list_iff _ := by rw [Node.refersTo, Node.refersToInItems_eq_false]
  map_iff _ := by rw [Node.refersTo, Node.refersToInEntries_eq_false]
  replace hsame _ hnew := by
    rintro ⟨⟩
    exact hnew (by rw [same_of_text hsame])

/-- The escapes of a torn text begin with backslashes. -/
theorem TornText.backslash_mem_shown (text : TornText) : '\\' ∈ text.shown.toList := by
  rw [shown, String.toList_ofList, List.mem_flatMap]
  exact ⟨.half text.half, by simp [parts], List.mem_cons_self⟩

theorem ne_of_reference? {node : Node} {reference other : String}
    (hnode : node.refersTo other = false) (hother : '\\' ∉ other.toList)
    (h : node.reference? = some reference) : reference ≠ other := by
  unfold Node.reference? at h
  split at h
  · rename_i hget
    obtain rfl := Option.some.inj h
    rintro rfl
    exact ((hereditary_refersTo _).get? hnode hget).1 rfl
  · rename_i torn _
    obtain rfl := Option.some.inj h
    rintro rfl
    exact hother torn.backslash_mem_shown
  · cases h

/-! ## Documents that have grown -/

/-- Whether a document has grown so that only one reference, which it does not hold, may name
another node than before. -/
structure Extends (document larger : Node) (moved : String) : Prop where
  refersTo : document.refersTo moved = false
  /-- No torn text is shown like the reference. -/
  unescaped : '\\' ∉ moved.toList
  lookup : ∀ reference, reference ≠ moved →
    CarriesOver (Pointer.lookup document reference) (Pointer.lookup larger reference)

section Growing

variable {document larger : Node} {moved : String} {s : Sited}

/-- A search goes the same way through the larger document, where it may take more steps. -/
theorem carriesOver_resolveFrom (h : Extends document larger moved) {fuel more : Nat}
    {seen : List String} {beside : SitedEntries} (hs : s.node.refersTo moved = false) :
    CarriesOver (resolveFrom document fuel seen beside s)
      (resolveFrom larger (fuel + more) seen beside s) := by
  induction fuel generalizing seen beside s with
  | zero =>
    cases hreference : s.node.reference? with
    | none =>
      rw [resolveFrom_of_not_reference hreference, resolveFrom_of_not_reference hreference]
      exact .refl _
    | some reference =>
      rw [resolveFrom, hreference]
      dsimp only
      split <;> exact carriesOver_error _ _
  | succ fuel ih =>
    cases hreference : s.node.reference? with
    | none =>
      rw [resolveFrom_of_not_reference hreference, resolveFrom_of_not_reference hreference]
      exact .refl _
    | some reference =>
      by_cases hmem : reference ∈ seen
      · rw [resolveFrom_of_mem hreference hmem]
        exact carriesOver_error _ _
      · rw [Nat.succ_add, resolveFrom_of_lookup hreference hmem,
          resolveFrom_of_lookup hreference hmem]
        refine (h.lookup reference (ne_of_reference? hs h.unescaped hreference)).bind fun target htarget => ?_
        exact ih ((hereditary_refersTo moved).lookup h.refersTo htarget)

/-- A node stands for the same in the larger document. -/
theorem carriesOver_resolve (h : Extends document larger moved)
    (hs : s.node.refersTo moved = false) :
    CarriesOver (resolve document s) (resolve larger s) := by
  rw [← resolveFrom_eq_resolve (Nat.lt_succ_self document.referenceCount),
    ← resolveFrom_eq_resolve (Nat.lt_add_left (document.referenceCount + 1)
      (Nat.lt_succ_self larger.referenceCount))]
  exact carriesOver_resolveFrom h hs

/-! ## Examples -/

theorem carriesOver_composedExample {inner inner' : Sited → Except ReferenceError Node}
    (hs : s.node.refersTo moved = false)
    (hinner : ∀ part, part.node.refersTo moved = false →
      CarriesOver (inner part) (inner' part)) :
    CarriesOver (composedExample inner s) (composedExample inner' s) := by
  unfold composedExample
  cases statedExample? s.node with
  | some value => exact .refl _
  | none =>
    dsimp only
    split
    · have hproperties := (hereditary_refersTo moved).entry hs "properties"
      refine CarriesOver.bind (.mapM fun e he => ?_) fun _ _ => .refl _
      refine (hinner e.2 ?_).bind fun _ _ => .refl _
      exact ((hereditary_refersTo moved).entries hproperties e he).2
    · split
      · cases hitems : s.get? "items" with
        | none => exact .refl _
        | some items =>
          refine (hinner items ?_).bind fun _ _ => .refl _
          rw [← Sited.entry_of_get? hitems]
          exact (hereditary_refersTo moved).entry hs "items"
      · exact .refl _

theorem carriesOver_exampleBelow (h : Extends document larger moved)
    (hs : s.node.refersTo moved = false) (depth : Nat) (above : List (List Step)) :
    CarriesOver (exampleBelow document depth above s) (exampleBelow larger depth above s) := by
  induction depth generalizing above s with
  | zero => exact .refl _
  | succ depth ih =>
    refine (carriesOver_resolve h hs).bind fun schema hschema => ?_
    have hnode := (hereditary_refersTo moved).resolve h.refersTo hs hschema
    split
    · exact .refl _
    · split
      · exact .refl _
      · exact carriesOver_composedExample hnode fun part hpart => ih hpart _

/-- A schema has the same example in the larger document. -/
theorem carriesOver_schemaExample (h : Extends document larger moved)
    (hs : s.node.refersTo moved = false) :
    CarriesOver (schemaExample document s) (schemaExample larger s) :=
  carriesOver_exampleBelow h hs exampleDepth []

end Growing

/-! ## One more path -/

/-- A document with one more path, at the end of its paths. -/
def Node.addPath (document : Node) (pattern : String) (pathItem : Node) : Node :=
  .map (document.entries.insert "paths"
    (.map ((document.entry "paths").entries ++ [(.str pattern, pathItem)])))

/-- The place of a path of a document. -/
def pathSite (pattern : String) : Site :=
  .inside [.key (.str pattern), .key (.str "paths")]

section Paths

variable {document pathItem : Node} {pattern : String} {paths : Entries}

theorem get?_addPath (document pathItem : Node) (pattern key : String) :
    (document.addPath pattern pathItem).get? key =
      if key = "paths" then
        some (.map ((document.entry "paths").entries ++ [(.str pattern, pathItem)]))
      else document.get? key := by
  rw [Node.addPath, Node.get?_map, Entries.get?_insert, Node.get?]

theorem paths_addPath (hpaths : document.get? "paths" = some (.map paths)) :
    (Sited.root (document.addPath pattern pathItem)).get? "paths" =
      some ⟨.map (paths ++ [(.str pattern, pathItem)]), .inside [.key (.str "paths")]⟩ := by
  rw [Sited.get?, Sited.root, get?_addPath, if_pos rfl, Node.entry, hpaths]
  rfl

/-- A part of the paths is the same part of the longer paths. -/
theorem follow_append {reference : String} {segment : List Char} {site : Site} {more : Entries} :
    CarriesOver (Pointer.follow reference ⟨.map paths, site⟩ segment)
      (Pointer.follow reference ⟨.map (paths ++ more), site⟩ segment) := by
  intro found h
  rw [Pointer.follow_eq_ok_iff rfl] at h ⊢
  obtain ⟨node, hnode, rfl⟩ := Option.map_eq_some_iff.mp h
  refine Option.map_eq_some_iff.mpr ⟨node, ?_, rfl⟩
  rw [Node.get?_map] at hnode
  rw [Node.get?_map, Entries.get?_append, hnode]
  rfl

theorem root_get?_addPath {key : String} (hkey : key ≠ "paths") :
    (Sited.root (document.addPath pattern pathItem)).get? key = (Sited.root document).get? key := by
  rw [Sited.get?, Sited.root, get?_addPath, if_neg hkey]
  rfl

/-- All references but the one to the paths themselves name the same nodes when a path is added. -/
theorem lookup_addPath (hpaths : document.get? "paths" = some (.map paths)) {reference : String}
    (hreference : reference ≠ "#/paths") :
    CarriesOver (Pointer.lookup document reference)
      (Pointer.lookup (document.addPath pattern pathItem) reference) := by
  unfold Pointer.lookup
  cases hsegments : Pointer.segments? reference with
  | none => exact .refl _
  | some segments =>
    obtain ⟨text, htext, rfl⟩ := Pointer.exists_of_segments? hsegments
    dsimp only
    intro found h
    cases hsplit : Text.splitOn '/' text with
    | nil => exact absurd hsplit (Text.splitOn_ne_nil '/' text)
    | cons first rest =>
      rw [hsplit] at h
      obtain ⟨part, hpart, hrest⟩ := bind_eq_ok_iff.mp h
      rw [Pointer.follow_eq_ok_iff (Node.isMap_of_get? hpaths)] at hpart
      by_cases hkey : String.ofList (Pointer.unescape first) = "paths"
      · have hold : (Sited.root document).get? "paths" =
            some ⟨.map paths, .inside [.key (.str "paths")]⟩ := by
          rw [Sited.get?, Sited.root, hpaths]
          rfl
        rw [hkey, hold] at hpart
        obtain rfl := Option.some.inj hpart
        -- a reference that stops at the paths is the one that has moved, so another segment follows
        cases rest with
        | nil =>
          refine absurd (String.toList_inj.mp ?_) hreference
          have hfirst : first = "paths".toList :=
            Pointer.eq_of_unescape (by rw [← hkey, String.toList_ofList]) (by decide) (by decide)
          rw [htext, Text.eq_of_splitOn hsplit, hfirst]
          rfl
        | cons second rest =>
          obtain ⟨next, hnext, hrest⟩ := bind_eq_ok_iff.mp hrest
          have hlonger : Pointer.follow reference (.root (document.addPath pattern pathItem))
              first =
                .ok ⟨.map (paths ++ [(.str pattern, pathItem)]), .inside [.key (.str "paths")]⟩ := by
            rw [Pointer.follow_eq_ok_iff rfl, hkey, paths_addPath hpaths]
          exact bind_eq_ok_iff.mpr
            ⟨_, hlonger, bind_eq_ok_iff.mpr ⟨next, follow_append next hnext, hrest⟩⟩
      · refine bind_eq_ok_iff.mpr ⟨part, ?_, hrest⟩
        rw [Pointer.follow_eq_ok_iff rfl, root_get?_addPath hkey, hpart]

/-- A document with one more path has grown, and only the reference to its paths may name another
node than before. -/
theorem extends_addPath (hpaths : document.get? "paths" = some (.map paths))
    (hdocument : document.refersTo "#/paths" = false) :
    Extends document (document.addPath pattern pathItem) "#/paths" :=
  ⟨hdocument, by decide, fun _ hreference => lookup_addPath hpaths hreference⟩

end Paths

end RoutedFields
