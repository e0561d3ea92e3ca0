import Mathlib.Data.List.Nodup
import Mathlib.Data.List.Perm.Subperm
import RoutedFields.Proofs.Reference.Resolution

/-!
# Chains of references

A reference names a node that may be a reference again. Following such a chain ends: every reference
of it but the first stands in the document, so that one of them is met again if the chain is long.

* `Leads`, `NeverEnds`: where a chain leads, and chains that go on for ever.
* `Node.references`, `references_subset_of_lookup`: the references of a document, among which are
  those of every chain.
* `resolve_ends`: resolving ends at a node, at a reference that was met before, or at one that names
  no node.
* `resolve_exact`: which of the three it is.
-/

namespace RoutedFields

/-! ## The references of a document -/

mutual

/-- The references in a node. -/
def Node.references : Node → List String
  | .scalar _ => []
  | .list xs => Node.referencesOfItems xs
  | .map es => Node.referencesOfEntries es ++ (Node.map es).reference?.toList

/-- The references in the items of a list. -/
def Node.referencesOfItems : List Node → List String
  | [] => []
  | x :: xs => x.references ++ Node.referencesOfItems xs

/-- The references in the values of a map. -/
def Node.referencesOfEntries : List (Scalar × Node) → List String
  | [] => []
  | (_, v) :: rest => v.references ++ Node.referencesOfEntries rest

end

mutual

theorem Node.length_references : ∀ node : Node, node.references.length = node.referenceCount
  | .scalar _ => rfl
  | .list xs => Node.length_referencesOfItems xs
  | .map es => by
    rw [Node.references, List.length_append, Node.length_referencesOfEntries es,
      Node.referenceCount, Node.isReference]
    cases (Node.map es).reference? <;> rfl

theorem Node.length_referencesOfItems :
    ∀ xs : List Node, (Node.referencesOfItems xs).length = Node.referenceCountItems xs
  | [] => rfl
  | x :: xs => by
    rw [Node.referencesOfItems, List.length_append, x.length_references,
      Node.length_referencesOfItems xs, Node.referenceCountItems]

theorem Node.length_referencesOfEntries : ∀ es : List (Scalar × Node),
    (Node.referencesOfEntries es).length = Node.referenceCountEntries es
  | [] => rfl
  | (k, v) :: rest => by
    rw [Node.referencesOfEntries, List.length_append, v.length_references,
      Node.length_referencesOfEntries rest, Node.referenceCountEntries]

end

theorem Node.mem_references_of_reference? {node : Node} {reference : String}
    (h : node.reference? = some reference) : reference ∈ node.references := by
  cases node with
  | map es =>
    rw [Node.references, h]
    exact List.mem_append_right _ (List.mem_singleton_self reference)
  | scalar s => cases h
  | list xs => cases h

theorem Node.references_subset_of_item {xs : List Node} {x : Node} (h : x ∈ xs) :
    x.references ⊆ Node.referencesOfItems xs := by
  induction xs with
  | nil => cases h
  | cons y ys ih =>
    rw [Node.referencesOfItems]
    rcases List.mem_cons.mp h with rfl | h
    · exact List.subset_append_left _ _
    · exact fun r hr => List.mem_append_right _ (ih h hr)

theorem Node.references_subset_of_get? {es : Entries} {key : String} {v : Node}
    (h : es.get? key = some v) : v.references ⊆ Node.referencesOfEntries es := by
  induction es with
  | nil => cases h
  | cons e es ih =>
    obtain ⟨k, w⟩ := e
    rw [Node.referencesOfEntries]
    rw [Entries.get?_cons] at h
    split at h
    · obtain rfl := Option.some.inj h
      exact List.subset_append_left _ _
    · exact fun r hr => List.mem_append_right _ (ih h hr)

/-- The references in the part of a node are references in the node. -/
theorem references_subset_of_follow {reference : String} {current found : Sited}
    {segment : List Char} (h : Pointer.follow reference current segment = .ok found) :
    found.node.references ⊆ current.node.references := by
  obtain ⟨node, site⟩ := current
  cases node with
  | scalar s => cases h
  | list xs =>
    rw [Pointer.follow] at h
    dsimp only at h
    split at h
    · rename_i position hposition
      obtain rfl := Except.ok.inj h
      obtain ⟨n, _, hindex⟩ := Option.bind_eq_some_iff.mp hposition
      have hlt : position < xs.length := by
        unfold Pointer.itemIndex? at hindex
        split at hindex <;> grind
      rw [Node.references]
      apply Node.references_subset_of_item
      rw [List.getD_eq_getElem?_getD, List.getElem?_eq_getElem hlt, Option.getD_some]
      exact List.getElem_mem hlt
    · cases h
  | map es =>
    rw [Pointer.follow] at h
    dsimp only at h
    split at h
    · rename_i part hpart
      obtain rfl := Except.ok.inj h
      have hget : Entries.get? es (String.ofList (Pointer.unescape segment)) = some part.node := by
        have hnode := Sited.node_get? ⟨.map es, site⟩ (String.ofList (Pointer.unescape segment))
        rw [hpart] at hnode
        exact hnode.symm
      rw [Node.references]
      exact fun r hr => List.mem_append_left _ (Node.references_subset_of_get? hget hr)
    · cases h

theorem references_subset_of_navigate {reference : String} {segments : List (List Char)}
    {current found : Sited} (h : Pointer.navigate reference current segments = .ok found) :
    found.node.references ⊆ current.node.references := by
  induction segments generalizing current with
  | nil =>
    obtain rfl := Except.ok.inj h
    exact fun _ hr => hr
  | cons segment segments ih =>
    obtain ⟨part, hpart, hrest⟩ := bind_eq_ok_iff.mp h
    exact fun r hr => references_subset_of_follow hpart (ih hrest hr)

/-- The references in a node that a reference names stand in the document. -/
theorem references_subset_of_lookup {document : Node} {reference : String} {found : Sited}
    (h : Pointer.lookup document reference = .ok found) :
    found.node.references ⊆ document.references := by
  rw [Pointer.lookup] at h
  split at h
  · exact references_subset_of_navigate h
  · cases h

/-! ## Lost references -/

/-- Whether an error says that a reference into the document names no node of it. -/
def ReferenceError.isDangling : ReferenceError → Bool
  | .missingKey .. | .badIndex .. | .notNavigable .. => true
  | .circular _ | .external _ => false

theorem isDangling_of_follow {reference : String} {current : Sited} {segment : List Char}
    {error : ReferenceError} (h : Pointer.follow reference current segment = .error error) :
    error.isDangling = true := by
  unfold Pointer.follow at h
  split at h
  · dsimp only at h
    split at h <;> cases h
    rfl
  · dsimp only at h
    split at h <;> cases h
    rfl
  · cases h
    rfl

theorem isDangling_of_navigate {reference : String} {segments : List (List Char)}
    {current : Sited} {error : ReferenceError}
    (h : Pointer.navigate reference current segments = .error error) :
    error.isDangling = true := by
  induction segments generalizing current with
  | nil => cases h
  | cons segment segments ih =>
    rw [Pointer.navigate] at h
    cases hfollow : Pointer.follow reference current segment with
    | ok part =>
      rw [hfollow] at h
      exact ih h
    | error found =>
      rw [hfollow] at h
      obtain rfl := Except.error.inj h
      exact isDangling_of_follow hfollow

theorem segments?_isSome_iff (reference : String) :
    (Pointer.segments? reference).isSome = true ↔ ['#', '/'] <+: reference.toList := by
  unfold Pointer.segments?
  split
  · rename_i rest hrest
    rw [hrest]
    exact iff_of_true rfl ⟨rest, rfl⟩
  · rename_i hnot
    refine iff_of_false Bool.false_ne_true ?_
    rintro ⟨rest, hrest⟩
    exact hnot rest hrest.symm

/-- A reference that names no node is external if it does not start at the root of the document, and
dangling if it does. -/
theorem lookup_eq_error {document : Node} {reference : String} {error : ReferenceError}
    (h : Pointer.lookup document reference = .error error) :
    (¬['#', '/'] <+: reference.toList ∧ error = .external reference) ∨
      (['#', '/'] <+: reference.toList ∧ error.isDangling = true) := by
  rw [← segments?_isSome_iff]
  rw [Pointer.lookup] at h
  split at h
  · rename_i segments hsegments
    rw [hsegments]
    exact .inr ⟨rfl, isDangling_of_navigate h⟩
  · rename_i hsegments
    rw [hsegments]
    exact .inl ⟨Bool.false_ne_true, (Except.error.inj h).symm⟩

/-- What is wrong with a single reference is never that it goes in a circle. -/
theorem ne_circular_of_lookup {document : Node} {reference : String} {error : ReferenceError}
    (h : Pointer.lookup document reference = .error error) (chain : List String) :
    error ≠ .circular chain := by
  rintro rfl
  rcases lookup_eq_error h with ⟨_, hexternal⟩ | ⟨_, hdangling⟩
  · cases hexternal
  · cases hdangling

/-! ## Where chains lead -/

/-- Following a row of references, one after another, leads from a node to a node. -/
inductive Leads (document : Node) : Sited → List String → Sited → Prop
  | here (s : Sited) : Leads document s [] s
  | next {s t u : Sited} {reference : String} {rest : List String}
    (hreference : s.node.reference? = some reference)
    (hlookup : Pointer.lookup document reference = .ok t) (hrest : Leads document t rest u) :
    Leads document s (reference :: rest) u

/-- Whether a node is a reference that names a node. -/
def LeadsOn (document : Node) (s : Sited) : Prop :=
  ∃ reference t, s.node.reference? = some reference ∧ Pointer.lookup document reference = .ok t

/-- Whether a chain of references goes on for ever: wherever it leads there is a reference, and the
reference names a node. -/
def NeverEnds (document : Node) (s : Sited) : Prop :=
  ∀ references t, Leads document s references t → LeadsOn document t

section Chain

variable {document : Node} {s t u : Sited} {reference : String} {references more : List String}

/-- There is one chain from each node: of two rows of references the longer one starts with the
shorter one, and goes on from where that leads. -/
theorem Leads.exists_append (h : Leads document s references t) (hmore : Leads document s more u)
    (hle : references.length ≤ more.length) :
    ∃ rest, more = references ++ rest ∧ Leads document t rest u := by
  induction h generalizing more with
  | here => exact ⟨more, rfl, hmore⟩
  | next hreference hlookup _ ih =>
    cases hmore with
    | here => cases hle
    | next hreference' hlookup' hrest =>
      obtain rfl := Option.some.inj (hreference.symm.trans hreference')
      obtain rfl := Except.ok.inj (hlookup.symm.trans hlookup')
      obtain ⟨rest, rfl, hlast⟩ := ih hrest (Nat.le_of_succ_le_succ hle)
      exact ⟨rest, rfl, hlast⟩

theorem Leads.leadsOn (h : Leads document s references t) (hne : references ≠ []) :
    LeadsOn document s := by
  cases h with
  | here => exact absurd rfl hne
  | next hreference hlookup _ => exact ⟨_, _, hreference, hlookup⟩

/-- From a node at which a chain that does not go on is met, every other row of references is a
beginning of the one to it. -/
theorem Leads.exists_append_of_not_leadsOn (h : Leads document s references t)
    (hend : ¬LeadsOn document t) (hmore : Leads document s more u) :
    ∃ rest, references = more ++ rest ∧ Leads document u rest t := by
  rcases Nat.le_total more.length references.length with hle | hle
  · exact hmore.exists_append h hle
  · obtain ⟨rest, rfl, hrest⟩ := h.exists_append hmore hle
    cases hrest with
    | here => exact ⟨[], by simp, .here t⟩
    | next hreference hlookup _ => exact absurd ⟨_, _, hreference, hlookup⟩ hend

/-- A chain ends at one node. -/
theorem Leads.eq_of_not_leadsOn (h : Leads document s references t) (hend : ¬LeadsOn document t)
    (hmore : Leads document s more u) (hmoreEnd : ¬LeadsOn document u) :
    references = more ∧ t = u := by
  obtain ⟨rest, rfl, hrest⟩ := h.exists_append_of_not_leadsOn hend hmore
  cases hrest with
  | here => exact ⟨List.append_nil more, rfl⟩
  | next hreference hlookup _ => exact absurd ⟨_, _, hreference, hlookup⟩ hmoreEnd

/-- A chain that comes back to a node goes on for ever from there. -/
theorem neverEnds_of_loop (h : Leads document s references s) (hne : references ≠ []) :
    NeverEnds document s := by
  intro more u hmore
  -- by induction on how far the chain is followed, one round less at a time
  induction hlength : more.length using Nat.strongRecOn generalizing more with
  | ind n ih =>
    rcases Nat.lt_or_ge more.length references.length with hlt | hle
    · obtain ⟨rest, rfl, hrest⟩ := hmore.exists_append h (Nat.le_of_lt hlt)
      apply hrest.leadsOn
      rintro rfl
      simp at hlt
    · obtain ⟨rest, rfl, hrest⟩ := h.exists_append hmore hle
      refine ih rest.length ?_ rest hrest rfl
      have hpos := List.length_pos_iff.mpr hne
      rw [List.length_append] at hlength
      omega

theorem NeverEnds.of_leads (h : NeverEnds document t) (hleads : Leads document s references t) :
    NeverEnds document s := by
  intro more u hmore
  rcases Nat.le_total references.length more.length with hle | hle
  · obtain ⟨rest, _, hrest⟩ := hleads.exists_append hmore hle
    exact h rest u hrest
  · obtain ⟨rest, _, hrest⟩ := hmore.exists_append hleads hle
    cases hrest with
    | here => exact h [] t (.here t)
    | next hreference hlookup _ => exact ⟨_, _, hreference, hlookup⟩

/-- From where a reference was met first, the chain leads back to where it is met again. -/
theorem Leads.exists_loop (h : Leads document s references t)
    (hreference : t.node.reference? = some reference) (hmem : reference ∈ references) :
    ∃ loop, Leads document t loop t ∧ loop ≠ [] := by
  induction h with
  | here => cases hmem
  | next _ hlookup hrest ih =>
    rcases List.mem_cons.mp hmem with rfl | hmem
    · exact ⟨_, .next hreference hlookup hrest, List.cons_ne_nil _ _⟩
    · exact ih hreference hmem

/-- A chain in which a reference comes again goes on for ever. -/
theorem Leads.neverEnds (h : Leads document s references t)
    (hreference : t.node.reference? = some reference) (hmem : reference ∈ references) :
    NeverEnds document s := by
  obtain ⟨loop, hloop, hne⟩ := h.exists_loop hreference hmem
  exact (neverEnds_of_loop hloop hne).of_leads h

end Chain

/-! ## Searches -/

theorem nodup_append_singleton {references : List String} {reference : String}
    (h : references.Nodup) (hnew : reference ∉ references) : (references ++ [reference]).Nodup := by
  rw [← List.concat_eq_append]
  exact h.concat hnew

/-- What a search has met when it comes to a node: references that differ, all but the first of
which stand in the document, as do those in the node. -/
structure Met (document : Node) (seen : List String) (s : Sited) : Prop where
  nodup : seen.Nodup
  tail_subset : seen.tail ⊆ document.references
  subset : seen ≠ [] → s.node.references ⊆ document.references

section Search

variable {document : Node} {seen : List String} {s t : Sited} {reference : String}

theorem Met.start (document : Node) (s : Sited) : Met document [] s :=
  ⟨.nil, List.nil_subset _, fun h => absurd rfl h⟩

theorem Met.subset_append (h : Met document seen s)
    (hreference : s.node.reference? = some reference) :
    (seen ++ [reference]).tail ⊆ document.references := by
  cases seen with
  | nil => exact List.nil_subset _
  | cons first rest =>
    rw [List.cons_append, List.tail_cons]
    refine List.append_subset.mpr ⟨h.tail_subset, ?_⟩
    have hmem := Node.mem_references_of_reference? hreference
    simpa using h.subset (List.cons_ne_nil first rest) hmem

/-- A search that goes on has met one more reference. -/
theorem Met.next (h : Met document seen s) (hreference : s.node.reference? = some reference)
    (hnew : reference ∉ seen) (hlookup : Pointer.lookup document reference = .ok t) :
    Met document (seen ++ [reference]) t :=
  ⟨nodup_append_singleton h.nodup hnew, h.subset_append hreference,
    fun _ => references_subset_of_lookup hlookup⟩

/-- As long as a new reference is met, no more have been met than there are in the document. -/
theorem Met.length_le (h : Met document seen s) (hreference : s.node.reference? = some reference)
    (hnew : reference ∉ seen) : seen.length ≤ document.referenceCount := by
  have hnodup : (seen ++ [reference]).tail.Nodup := (nodup_append_singleton h.nodup hnew).tail
  have hle := (hnodup.subperm (h.subset_append hreference)).length_le
  rw [List.length_tail, List.length_append, Node.length_references] at hle
  simpa using hle

/-! ### The steps of a search -/

variable {fuel : Nat} {beside : SitedEntries}

theorem resolveFrom_of_not_reference (hend : s.node.reference? = none) :
    resolveFrom document fuel seen beside s = .ok (s.layer beside) := by
  cases fuel <;> rw [resolveFrom, hend]

theorem resolveFrom_of_mem (hreference : s.node.reference? = some reference)
    (hmem : reference ∈ seen) :
    resolveFrom document fuel seen beside s = .error (.circular (seen ++ [reference])) := by
  cases fuel <;> rw [resolveFrom, hreference] <;> exact if_pos hmem

theorem resolveFrom_of_lookup (hreference : s.node.reference? = some reference)
    (hnew : reference ∉ seen) :
    resolveFrom document (fuel + 1) seen beside s =
      (Pointer.lookup document reference).bind
        (resolveFrom document fuel (seen ++ [reference]) (beside.addNew s.siblings)) := by
  rw [resolveFrom, hreference]
  exact if_neg hnew

/-! ### The end of a search -/

/-- How a search ends at a node, given the references that it has met. -/
inductive SearchEnds (document : Node) (met : List String) (t : Sited) :
    Except ReferenceError Sited → Prop
  /-- The node is no reference. -/
  | found (beside : SitedEntries) (hend : t.node.reference? = none) :
    SearchEnds document met t (.ok (t.layer beside))
  /-- The reference has been met before. -/
  | repeated {reference : String} (hreference : t.node.reference? = some reference)
    (hmem : reference ∈ met) : SearchEnds document met t (.error (.circular (met ++ [reference])))
  /-- The reference names no node. -/
  | lost {reference : String} {error : ReferenceError}
    (hreference : t.node.reference? = some reference) (hnew : reference ∉ met)
    (hlookup : Pointer.lookup document reference = .error error) :
    SearchEnds document met t (.error error)

/-- Whether a search from a node, having met some references, has an outcome: it follows the chain
over references that differ from each other and from those, and there it ends. -/
def SearchFrom (document : Node) (seen : List String) (s : Sited)
    (outcome : Except ReferenceError Sited) : Prop :=
  ∃ references t, Leads document s references t ∧ (seen ++ references).Nodup ∧
    SearchEnds document (seen ++ references) t outcome

theorem SearchFrom.here {outcome : Except ReferenceError Sited} (hmet : Met document seen s)
    (hends : SearchEnds document seen s outcome) : SearchFrom document seen s outcome := by
  refine ⟨[], s, .here s, ?_⟩
  rw [List.append_nil]
  exact ⟨hmet.nodup, hends⟩

theorem SearchFrom.next {outcome : Except ReferenceError Sited}
    (hreference : s.node.reference? = some reference)
    (hlookup : Pointer.lookup document reference = .ok t)
    (h : SearchFrom document (seen ++ [reference]) t outcome) :
    SearchFrom document seen s outcome := by
  obtain ⟨references, u, hleads, hnodup, hends⟩ := h
  rw [List.append_assoc] at hnodup hends
  exact ⟨reference :: references, u, .next hreference hlookup hleads, hnodup, hends⟩

/-- A search with enough steps follows the chain to an end of it. -/
theorem searchFrom_resolveFrom (hmet : Met document seen s)
    (hfuel : document.referenceCount < seen.length + fuel) :
    SearchFrom document seen s (resolveFrom document fuel seen beside s) := by
  -- by induction on the steps left; without any, more references would have been met than there are
  induction fuel generalizing seen beside s with
  | zero =>
    apply SearchFrom.here hmet
    cases hreference : s.node.reference? with
    | none =>
      rw [resolveFrom_of_not_reference hreference]
      exact .found beside hreference
    | some reference =>
      by_cases hmem : reference ∈ seen
      · rw [resolveFrom_of_mem hreference hmem]
        exact .repeated hreference hmem
      · have hle := hmet.length_le hreference hmem
        omega
  | succ fuel ih =>
    cases hreference : s.node.reference? with
    | none =>
      rw [resolveFrom_of_not_reference hreference]
      exact .here hmet (.found beside hreference)
    | some reference =>
      by_cases hmem : reference ∈ seen
      · rw [resolveFrom_of_mem hreference hmem]
        exact .here hmet (.repeated hreference hmem)
      · rw [resolveFrom_of_lookup hreference hmem]
        cases hlookup : Pointer.lookup document reference with
        | error error => exact .here hmet (.lost hreference hmem hlookup)
        | ok t =>
          apply SearchFrom.next hreference hlookup
          apply ih (hmet.next hreference hmem hlookup)
          rw [List.length_append, List.length_singleton]
          omega

/-- Searches with different numbers of steps agree if they do where a new reference is met. -/
theorem resolveFrom_congr {fuel' : Nat}
    (h : ∀ reference, s.node.reference? = some reference → reference ∉ seen →
      resolveFrom document fuel seen beside s = resolveFrom document fuel' seen beside s) :
    resolveFrom document fuel seen beside s = resolveFrom document fuel' seen beside s := by
  cases hreference : s.node.reference? with
  | none => rw [resolveFrom_of_not_reference hreference, resolveFrom_of_not_reference hreference]
  | some reference =>
    by_cases hmem : reference ∈ seen
    · rw [resolveFrom_of_mem hreference hmem, resolveFrom_of_mem hreference hmem]
    · exact h reference hreference hmem

/-- A search with enough steps does not depend on how many there are. -/
theorem resolveFrom_succ (hmet : Met document seen s)
    (hfuel : document.referenceCount < seen.length + fuel) :
    resolveFrom document (fuel + 1) seen beside s = resolveFrom document fuel seen beside s := by
  induction fuel generalizing seen beside s with
  | zero =>
    apply resolveFrom_congr
    intro reference hreference hnew
    have hle := hmet.length_le hreference hnew
    omega
  | succ fuel ih =>
    apply resolveFrom_congr
    intro reference hreference hnew
    rw [resolveFrom_of_lookup hreference hnew, resolveFrom_of_lookup hreference hnew]
    cases hlookup : Pointer.lookup document reference with
    | error error => rfl
    | ok t =>
      apply ih (hmet.next hreference hnew hlookup)
      rw [List.length_append, List.length_singleton]
      omega

end Search

/-! ## Resolving -/

section Resolve

variable {document : Node} {s t : Sited} {references : List String}

/-- Resolving is a search with enough steps, however many they are. -/
theorem resolveFrom_eq_resolve {bound : Nat} (hbound : document.referenceCount < bound) :
    resolveFrom document bound [] [] s = resolve document s := by
  cases hreference : s.node.reference? with
  | none =>
    rw [resolveFrom_of_not_reference hreference, resolve_of_reference? hreference]
    rfl
  | some reference =>
    rw [resolve, hreference]
    obtain ⟨more, rfl⟩ := Nat.exists_eq_add_of_lt hbound
    induction more with
    | zero => rfl
    | succ more ih =>
      rw [← ih (by omega)]
      apply resolveFrom_succ (.start document s)
      rw [List.length_nil]
      omega

/-- Resolving follows the chain to an end of it, and comes to no reference twice. -/
theorem resolve_ends (document : Node) (s : Sited) :
    ∃ references t, Leads document s references t ∧ references.Nodup ∧
      SearchEnds document references t (resolve document s) := by
  rw [← resolveFrom_eq_resolve (Nat.lt_succ_self document.referenceCount)]
  apply searchFrom_resolveFrom (.start document s)
  rw [List.length_nil, Nat.zero_add]
  exact Nat.lt_succ_self _

theorem not_leadsOn_of_not_reference (h : t.node.reference? = none) : ¬LeadsOn document t := by
  rintro ⟨reference, _, hreference, _⟩
  rw [h] at hreference
  cases hreference

theorem not_leadsOn_of_lookup {reference : String} {error : ReferenceError}
    (hreference : t.node.reference? = some reference)
    (hlookup : Pointer.lookup document reference = .error error) : ¬LeadsOn document t := by
  rintro ⟨other, found, hother, hfound⟩
  obtain rfl := Option.some.inj (hreference.symm.trans hother)
  rw [hlookup] at hfound
  cases hfound

/-- If the chain ends at a node, that is where resolving ends. -/
theorem searchEnds_of_leads (hleads : Leads document s references t) (hend : ¬LeadsOn document t) :
    references.Nodup ∧ SearchEnds document references t (resolve document s) ∧
      ∀ reference, t.node.reference? = some reference → reference ∉ references := by
  have hnew (reference : String) (hreference : t.node.reference? = some reference) :
      reference ∉ references :=
    fun hmem => hend (hleads.neverEnds hreference hmem references t hleads)
  obtain ⟨references', t', hleads', hnodup, hends⟩ := resolve_ends document s
  have hend' : ¬LeadsOn document t' := by
    generalize resolve document s = outcome at hends
    cases hends with
    | found _ hend => exact not_leadsOn_of_not_reference hend
    | repeated hreference hmem =>
      exact absurd (hleads'.neverEnds hreference hmem references t hleads) hend
    | lost hreference _ hlookup => exact not_leadsOn_of_lookup hreference hlookup
  obtain ⟨rfl, rfl⟩ := hleads.eq_of_not_leadsOn hend hleads' hend'
  exact ⟨hnodup, hends, hnew⟩

/-- Resolving finds a node exactly if the chain comes to one that is no reference. -/
theorem exists_resolve_iff :
    (∃ r, resolve document s = .ok r) ↔
      ∃ references t, Leads document s references t ∧ t.node.reference? = none := by
  constructor
  · rintro ⟨r, hr⟩
    obtain ⟨references, t, hleads, _, hends⟩ := resolve_ends document s
    rw [hr] at hends
    cases hends with
    | found _ hend => exact ⟨references, t, hleads, hend⟩
  · rintro ⟨references, t, hleads, hend⟩
    obtain ⟨_, hends, _⟩ := searchEnds_of_leads hleads (not_leadsOn_of_not_reference hend)
    generalize resolve document s = outcome at hends
    cases hends with
    | found beside _ => exact ⟨_, rfl⟩
    | repeated hreference _ =>
      rw [hend] at hreference
      cases hreference
    | lost hreference _ _ =>
      rw [hend] at hreference
      cases hreference

/-- Resolving goes in a circle exactly if the chain goes on for ever. -/
theorem resolve_circular_iff :
    (∃ chain, resolve document s = .error (.circular chain)) ↔ NeverEnds document s := by
  obtain ⟨references, t, hleads, _, hends⟩ := resolve_ends document s
  constructor
  · rintro ⟨chain, hchain⟩
    rw [hchain] at hends
    generalize houtcome : (Except.error (ReferenceError.circular chain) :
      Except ReferenceError Sited) = outcome at hends
    cases hends with
    | found => cases houtcome
    | repeated hreference hmem => exact hleads.neverEnds hreference hmem
    | lost _ _ hlookup =>
      obtain rfl := Except.error.inj houtcome
      exact absurd rfl (ne_circular_of_lookup hlookup chain)
  · intro hnever
    generalize resolve document s = outcome at hends
    cases hends with
    | found _ hend =>
      exact absurd (hnever references t hleads) (not_leadsOn_of_not_reference hend)
    | repeated => exact ⟨_, rfl⟩
    | lost hreference _ hlookup =>
      exact absurd (hnever references t hleads) (not_leadsOn_of_lookup hreference hlookup)

/-- Resolving fails at a single reference exactly if the chain comes to one, before any reference
is met twice, that names no node; and the failure is that of looking it up. -/
theorem resolve_lost_iff {error : ReferenceError} :
    (resolve document s = .error error ∧ ∀ chain, error ≠ .circular chain) ↔
      ∃ references t reference, Leads document s references t ∧
        t.node.reference? = some reference ∧ (references ++ [reference]).Nodup ∧
        Pointer.lookup document reference = .error error := by
  constructor
  · rintro ⟨herror, hnot⟩
    obtain ⟨references, t, hleads, hnodup, hends⟩ := resolve_ends document s
    rw [herror] at hends
    cases hends with
    | repeated => exact absurd rfl (hnot _)
    | lost hreference hnew hlookup =>
      exact ⟨references, t, _, hleads, hreference, nodup_append_singleton hnodup hnew, hlookup⟩
  · rintro ⟨references, t, reference, hleads, hreference, _, hlookup⟩
    refine ⟨?_, ne_circular_of_lookup hlookup⟩
    obtain ⟨_, hends, hnew⟩ := searchEnds_of_leads hleads (not_leadsOn_of_lookup hreference hlookup)
    generalize resolve document s = outcome at hends
    cases hends with
    | found _ hend =>
      rw [hend] at hreference
      cases hreference
    | repeated hreference' hmem => exact absurd hmem (hnew _ hreference')
    | lost hreference' _ hlookup' =>
      obtain rfl := Option.some.inj (hreference.symm.trans hreference')
      rw [← hlookup, hlookup']

/-- Resolving always ends, and its errors are exact. It does not depend on how many steps a search
may take, as long as there are more than references in the document. It goes in a circle exactly if
the chain goes on for ever; it fails at a single reference exactly if the chain comes to one that
names no node, be it external or dangling, before any reference is met twice; and it finds a node
exactly if the chain comes to one that is no reference. All its errors are documented ones. -/
theorem resolve_exact (document : Node) (s : Sited) :
    (∀ bound, document.referenceCount < bound →
      resolveFrom document bound [] [] s = resolve document s) ∧
    ((∃ chain, resolve document s = .error (.circular chain)) ↔ NeverEnds document s) ∧
    (∀ error, (resolve document s = .error error ∧ ∀ chain, error ≠ .circular chain) ↔
      ∃ references t reference, Leads document s references t ∧
        t.node.reference? = some reference ∧ (references ++ [reference]).Nodup ∧
        Pointer.lookup document reference = .error error ∧
        ((¬['#', '/'] <+: reference.toList ∧ error = .external reference) ∨
          (['#', '/'] <+: reference.toList ∧ error.isDangling = true))) ∧
    ((∃ r, resolve document s = .ok r) ↔
      ∃ references t, Leads document s references t ∧ t.node.reference? = none) ∧
    ∀ failure, resolved document s = .error failure →
      ∃ error, failure = .refused (.reference error) ∧
        (Refusal.reference error).kind = .specification := by
  refine ⟨fun bound => resolveFrom_eq_resolve, resolve_circular_iff, fun error => ?_,
    exists_resolve_iff, fun failure hfailure => ?_⟩
  · rw [resolve_lost_iff]
    constructor
    · rintro ⟨references, t, reference, hleads, hreference, hnodup, hlookup⟩
      exact ⟨references, t, reference, hleads, hreference, hnodup, hlookup, lookup_eq_error hlookup⟩
    · rintro ⟨references, t, reference, hleads, hreference, hnodup, hlookup, _⟩
      exact ⟨references, t, reference, hleads, hreference, hnodup, hlookup⟩
  · rw [resolved] at hfailure
    cases hresolve : resolve document s with
    | ok r =>
      rw [hresolve] at hfailure
      cases hfailure
    | error error =>
      rw [hresolve] at hfailure
      obtain rfl := Except.error.inj hfailure
      exact ⟨error, rfl, rfl⟩

/-- Two references that name each other, one of them by counting from the end, and one that names no
item. -/
def circleDocument : Node :=
  .map [(.str "first", .map [(.str "$ref", .str "#/second/0")]),
    (.str "second", .list [.map [(.str "$ref", .str "#/second/1")],
      .map [(.str "$ref", .str "#/second/-3")], .map [(.str "$ref", .str "#/second/+7")]])]

theorem resolve_exact_circle :
    resolve circleDocument (.outside (.map [(.str "$ref", .str "#/first")])) =
        .error (.circular ["#/first", "#/second/0", "#/second/1", "#/second/-3", "#/second/1"]) ∧
      NeverEnds circleDocument (.outside (.map [(.str "$ref", .str "#/first")])) ∧
      resolve circleDocument (.outside (.map [(.str "$ref", .str "#/second/2")])) =
        .error (.badIndex "#/second/+7" "+7") ∧
      resolveFrom circleDocument 9 [] [] (.outside (.map [(.str "$ref", .str "#/second/2")])) =
        .error (.badIndex "#/second/+7" "+7") := by
  have hlost : resolve circleDocument (.outside (.map [(.str "$ref", .str "#/second/2")])) =
      .error (.badIndex "#/second/+7" "+7") := rfl
  refine ⟨rfl, (resolve_exact _ _).2.1.mp ⟨_, rfl⟩, hlost, ?_⟩
  rw [← hlost]
  exact (resolve_exact circleDocument _).1 9 (by decide)

end Resolve

end RoutedFields
