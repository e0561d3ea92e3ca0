import RoutedFields.Proofs.Reference.Positions

/-!
# References that spell paths

A path leads from the root of a document over keys of maps and positions in lists to one of its
nodes. The reference that spells the path names that node.

* `Reaches`: where a path leads.
* `navigate_of_reaches`: the segments of a path lead where the path leads.
* `lookup_reference`: references that spell paths.

**Deviation.** A position that takes more digits than an integer may have is not read from its
decimal spelling. It would have to be a position in a list of more than `10 ^ longestInteger` items.
-/

namespace RoutedFields.Pointer

/-- Whether a path leads from one node to another. -/
inductive Reaches : Sited → List PathStep → Sited → Prop
  | here (s : Sited) : Reaches s [] s
  | key {s t u : Sited} {key : String} {path : List PathStep} (hpart : s.get? key = some t)
    (hrest : Reaches t path u) : Reaches s (.key key :: path) u
  | index {s t u : Sited} {position : Nat} {path : List PathStep}
    (hpart : s.items[position]? = some t) (hrest : Reaches t path u) :
    Reaches s (.index position :: path) u

/-- Whether the spelling of a step can be read: a position may not have more digits than an
integer. -/
def PathStep.IsReadable : PathStep → Prop
  | .key _ => True
  | .index position => position < tenPow longestInteger

section Paths

variable {document : Node} {ref : String} {s t : Sited} {path : List PathStep} {key : String}
  {position : Nat}

theorem isReadable_index_iff :
    (PathStep.index position).IsReadable ↔ (decimalText position).length ≤ longestInteger := by
  rw [decimalText, Nat.length_toDigits_le_iff (by decide) (by decide), PathStep.IsReadable, tenPow,
    Nat.pow_eq]

/-- The segment that spells a key names the part under this key. -/
theorem follow_key (h : s.get? key = some t) :
    follow ref s (PathStep.key key).segment = .ok t := by
  rw [follow_eq_ok_iff (isMap_of_get? h), PathStep.segment, unescape_escape, String.ofList_toList]
  exact h

/-- The decimal spelling of a position names the item at this position. -/
theorem follow_index (h : s.items[position]? = some t)
    (hreadable : (PathStep.index position).IsReadable) :
    follow ref s (PathStep.index position).segment = .ok t := by
  obtain ⟨xs, hxs⟩ := Node.isList_iff.mp (Sited.isList_of_getElem?_items h)
  obtain ⟨hposition, _⟩ := List.getElem?_eq_some_iff.mp h
  refine (follow_eq_ok_iff_of_list hxs).mpr ⟨position, ?_, h⟩
  exact spellsPosition_decimalText hposition (isReadable_index_iff.mp hreadable)

theorem exists_error_follow_index (h : s.items[position]? = some t)
    (hreadable : ¬(PathStep.index position).IsReadable) :
    ∃ error, follow ref s (PathStep.index position).segment = .error error := by
  obtain ⟨xs, hxs⟩ := Node.isList_iff.mp (Sited.isList_of_getElem?_items h)
  refine ⟨_, follow_eq_error_of_list hxs fun i ⟨_, n, hspells, _⟩ => hreadable ?_⟩
  exact isReadable_index_iff.mpr (spells_decimalText_iff.mp hspells).2

/-- The segments of a path lead where the path leads. -/
theorem navigate_of_reaches (h : Reaches s path t) (hreadable : ∀ step ∈ path, step.IsReadable) :
    navigate ref s (path.map (·.segment)) = .ok t := by
  induction h with
  | here s => rfl
  | key hpart _ ih =>
    obtain ⟨_, hrest⟩ := List.forall_mem_cons.mp hreadable
    rw [List.map_cons, navigate, follow_key hpart]
    exact ih hrest
  | index hpart _ ih =>
    obtain ⟨hposition, hrest⟩ := List.forall_mem_cons.mp hreadable
    rw [List.map_cons, navigate, follow_index hpart hposition]
    exact ih hrest

theorem exists_error_of_reaches (ref : String) (h : Reaches s path t)
    (hreadable : ¬∀ step ∈ path, step.IsReadable) :
    ∃ error, navigate ref s (path.map (·.segment)) = .error error := by
  induction h with
  | here s => exact absurd (List.forall_mem_nil _) hreadable
  | key hpart _ ih =>
    rw [List.map_cons, navigate, follow_key hpart]
    exact ih fun hrest => hreadable (List.forall_mem_cons.mpr ⟨trivial, hrest⟩)
  | @index s t u position path hpart _ ih =>
    rw [List.map_cons, navigate]
    by_cases hposition : (PathStep.index position).IsReadable
    · rw [follow_index hpart hposition]
      exact ih fun hrest => hreadable (List.forall_mem_cons.mpr ⟨hposition, hrest⟩)
    · obtain ⟨error, herror⟩ := exists_error_follow_index hpart hposition
      exact ⟨error, by rw [herror]; rfl⟩

theorem lookup_eq_navigate (hne : path ≠ []) :
    lookup document (reference path) =
      navigate (reference path) (.root document) (path.map (·.segment)) := by
  rw [lookup, segments?_reference hne]

/-- Keys are told apart by the segments that spell them. -/
theorem eq_of_segment_key {other : String}
    (h : (PathStep.key key).segment = (PathStep.key other).segment) : key = other := by
  have hkeys := congrArg unescape h
  rw [PathStep.segment, PathStep.segment, unescape_escape, unescape_escape] at hkeys
  exact String.toList_inj.mp hkeys

/-- A path to a map and on along a key that the map does not have. -/
theorem lookup_of_absent {more : List PathStep} (h : Reaches (.root document) path s)
    (hmap : s.node.isMap = true) (habsent : s.get? key = none)
    (hreadable : ∀ step ∈ path, step.IsReadable) :
    lookup document (reference (path ++ .key key :: more)) =
      .error (.missingKey (reference (path ++ .key key :: more)) key) := by
  have hne : path ++ .key key :: more ≠ [] := 
    List.append_ne_nil_of_right_ne_nil _ (List.cons_ne_nil _ _)
  rw [lookup_eq_navigate hne, List.map_append, navigate_append, navigate_of_reaches h hreadable]
  show navigate _ s ((PathStep.key key).segment :: more.map (·.segment)) = _
  rw [navigate, follow_of_isMap hmap, PathStep.segment, unescape_escape, String.ofList_toList,
    habsent]
  rfl

/-- **References that spell paths.** The reference that spells a path of keys and positions in a
document names the node at its end, as long as its positions can be read. Different keys are spelled
differently. A path that leaves the document at a key that is not there is refused. -/
theorem lookup_reference (document : Node) :
    (∀ path t, path ≠ [] → Reaches (.root document) path t →
      (lookup document (reference path) = .ok t ↔ ∀ step ∈ path, step.IsReadable)) ∧
    (∀ key other, (PathStep.key key).segment = (PathStep.key other).segment → key = other) ∧
    ∀ path s key more, Reaches (.root document) path s → s.node.isMap = true →
      s.get? key = none → ∃ error,
        lookup document (reference (path ++ .key key :: more)) = .error error ∧
          ((∀ step ∈ path, step.IsReadable) →
            error = .missingKey (reference (path ++ .key key :: more)) key) := by
  refine ⟨fun path t hne h => ⟨fun hlookup => ?_, fun hreadable => ?_⟩,
    fun key other => eq_of_segment_key, fun path s key more h hmap habsent => ?_⟩
  · by_contra hreadable
    obtain ⟨error, herror⟩ := exists_error_of_reaches (reference path) h hreadable
    rw [lookup_eq_navigate hne, herror] at hlookup
    cases hlookup
  · rw [lookup_eq_navigate hne, navigate_of_reaches h hreadable]
  · by_cases hreadable : ∀ step ∈ path, step.IsReadable
    · exact ⟨_, lookup_of_absent h hmap habsent hreadable, fun _ => rfl⟩
    · obtain ⟨error, herror⟩ := exists_error_of_reaches
        (reference (path ++ .key key :: more)) h hreadable
      refine ⟨error, ?_, fun h => absurd h hreadable⟩
      have hne : path ++ .key key :: more ≠ [] :=
        List.append_ne_nil_of_right_ne_nil _ (List.cons_ne_nil _ _)
      rw [lookup_eq_navigate hne, List.map_append, navigate_append, herror]
      rfl

/-- A document with keys that need escapes, and some that look as if they had them. -/
def oddKeysDocument : Node :=
  .map [(.str "", .map [(.str "~1", .list [.str "first", .map [(.str "a/b", .str "second")]])]),
    (.str "~01", .null)]

/-- The path to a text in this document. -/
def oddKeysPath : List PathStep :=
  [.key "", .key "~1", .index 1, .key "a/b"]

theorem lookup_reference_oddKeys :
    ∃ t, reference oddKeysPath = "#//~01/1/a~1b" ∧ Reaches (.root oddKeysDocument) oddKeysPath t ∧
      lookup oddKeysDocument (reference oddKeysPath) = .ok t ∧ t.node = .str "second" ∧
      lookup oddKeysDocument (reference [.key "", .key "/"]) =
        .error (.missingKey "#//~1" "/") := by
  have hreaches : Reaches (.root oddKeysDocument) oddKeysPath _ :=
    .key rfl (.key rfl (.index rfl (.key rfl (.here _))))
  have hreadable : ∀ step ∈ oddKeysPath, step.IsReadable := by
    have hindex : (PathStep.index 1).IsReadable := isReadable_index_iff.mpr (by decide)
    simp only [oddKeysPath, List.forall_mem_cons]
    exact ⟨trivial, trivial, hindex, trivial, List.forall_mem_nil _⟩
  obtain ⟨hlookup, _, habsent⟩ := lookup_reference oddKeysDocument
  refine ⟨_, by decide, hreaches, ?_, rfl, ?_⟩
  · exact (hlookup oddKeysPath _ nofun hreaches).mpr hreadable
  · obtain ⟨error, herror, hmissing⟩ := habsent [.key ""] _ "/" [] (.key rfl (.here _)) rfl rfl
    rw [hmissing (List.forall_mem_singleton.mpr trivial)] at herror
    exact herror

end Paths

end RoutedFields.Pointer
