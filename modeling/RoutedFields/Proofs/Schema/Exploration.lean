import RoutedFields.Proofs.Document.DistinctKeys
import RoutedFields.Proofs.Reference.Places
import RoutedFields.Schema.Example

/-!
# Examples without bounds

Examples are looked for inside at most 32 schemas, and a schema met again inside itself has none.
For schemas that are not nested more deeply, and of which none is met again below itself, both bounds
can be left out: the example is the one that the schemas alone describe.

* `ExampleSource`, `exampleSource`: what the example of a schema is made of.
* `composedExample_eq`: a composed example is made of just that.
* `exampleWithin`: the example that schemas describe, if so many levels of them are enough.
* `exploredRows`: the schemas that are met one below another.
* `schemaExample_of_exploration`: the example that is found within the bounds.
* `exists_partExamples`: it is made of the examples that its parts have on their own.

The number of levels only says how far the description is followed: more levels than are enough
change nothing (`exampleWithin_mono`).
-/

namespace RoutedFields

/-! ## What schemas describe -/

/-- What the example of a schema is made of. -/
inductive ExampleSource
  /-- A value that the schema states. -/
  | stated (value : Node)
  /-- The examples of its properties. -/
  | properties (entries : SitedEntries)
  /-- The example of its items. -/
  | items (part : Sited)
  | nothing

namespace ExampleSource

/-- The schemas whose examples are needed, in their order. -/
def parts : ExampleSource → List Sited
  | stated _ => []
  | properties entries => entries.map (·.2)
  | items part => [part]
  | nothing => []

/-- The example that is made of the examples of the parts: the object of those that are not null,
unless there are none, and the list of the one item, unless it is null. -/
def compose (source : ExampleSource) (values : List Node) : Node :=
  match source with
  | stated value => value
  | properties entries =>
    let present := ((entries.map (·.1)).zip values).filter (!·.2.isNull)
    if present.isEmpty then .null else .map present
  | items _ =>
    match values with
    | [.null] => .null
    | values => .list values
  | nothing => .null

end ExampleSource

/-- The first of the examples that a schema lists. -/
def firstOfExamples? (schema : Node) : Option Node :=
  match schema.get? "examples" with
  | some (.list values) => values.head?
  | _ => none

/-- The items of an array. -/
def itemsOfArray? (schema : Sited) : Option Sited :=
  match schema.node.get? "type" with
  | some (.str "array") => schema.get? "items"
  | _ => none

/-- What the example of a schema is made of: `example`, the first of `examples` or `default`, if
there is one of them; else the properties, if there are any; else the items of an array. -/
def exampleSource (schema : Sited) : ExampleSource :=
  match (schema.node.get? "example").or
    ((firstOfExamples? schema.node).or (schema.node.get? "default")) with
  | some value => .stated value
  | none =>
    if (schema.entry "properties").entries.isEmpty then
      match itemsOfArray? schema with
      | some part => .items part
      | none => .nothing
    else .properties (schema.entry "properties").entries

/-- A computation that always comes to an end, as one that may stop short. -/
def total {ε α : Type} (x : Except ε α) : ExceptT ε Option α :=
  ExceptT.mk (some x)

/-- The example that a schema describes, if this can be found out by looking into so many levels of
schemas: null if there is none, or the error of the first reference that leads nowhere. -/
def exampleWithin (document : Node) : Nat → Sited → ExceptT ReferenceError Option Node
  | 0, _ => ExceptT.mk none
  | levels + 1, sited => do
    let schema ← total (resolve document sited)
    if schema.node.isMap then
      let values ← (exampleSource schema).parts.mapM (exampleWithin document levels)
      return (exampleSource schema).compose values
    else return .null

/-- The parts that are looked at, of which each has to succeed before the next one. -/
def explored {α : Type} (value : Sited → ExceptT ReferenceError Option α) : List Sited → List Sited
  | [] => []
  | part :: rest =>
    match (value part).run with
    | some (.ok _) => part :: explored value rest
    | _ => [part]

/-- The schemas of a document that are met one below another where an example is looked for: one row
for each schema that is met, with the places of all that it is below and its own one. A schema
made of parts has no place in the document. -/
def exploredRows (document : Node) : Nat → Sited → List (List (List Step))
  | 0, _ => []
  | levels + 1, sited =>
    match resolve document sited with
    | .ok schema =>
      if schema.node.isMap then
        let below := (explored (exampleWithin document levels) (exampleSource schema).parts).flatMap
          (exploredRows document levels)
        ([] :: below).map (schema.site.steps?.toList ++ ·)
      else []
    | .error _ => []

/-! ## Composed examples -/

section Composing

variable {inner : Sited → Except ReferenceError Node}

theorem statedExample?_eq (schema : Node) :
    statedExample? schema = (schema.get? "example").or
      ((firstOfExamples? schema).or (schema.get? "default")) := by
  rw [statedExample?, firstOfExamples?, Node.entry]
  cases schema.get? "example" with
  | some value => rfl
  | none =>
    cases schema.get? "examples" with
    | none => rfl
    | some examples =>
      cases examples with
      | scalar a => rfl
      | map es => rfl
      | list values => cases values <;> rfl

theorem hasProperties_eq (schema : Sited) :
    hasProperties schema.node = !(schema.entry "properties").entries.isEmpty := by
  rw [hasProperties, ← Sited.node_entry]
  generalize schema.entry "properties" = properties
  obtain ⟨node, site⟩ := properties
  cases node with
  | scalar a => rfl
  | list xs => rfl
  | map es => cases es <;> rfl

theorem compose_properties (entries : SitedEntries) (values : List Node) :
    (ExampleSource.properties entries).compose values =
      assembled ((entries.map (·.1)).zip values) := by
  rw [assembled, ExampleSource.compose]
  cases ((entries.map (·.1)).zip values).filter (!·.2.isNull) <;> rfl

theorem compose_items (part : Sited) (value : Node) :
    (ExampleSource.items part).compose [value] = oneItem value := by
  rw [oneItem]
  split
  · rename_i hnull
    rw [eq_null_of_isNull hnull]
    rfl
  · rename_i hnull
    rw [ExampleSource.compose]
    rintro ⟨⟩
    exact hnull rfl

/-- The values of entries are computed one after another. -/
theorem mapM_entries (entries : SitedEntries) :
    (entries.mapM fun e => do return (e.1, ← inner e.2)) =
      (do return (entries.map (·.1)).zip (← (entries.map (·.2)).mapM inner)) := by
  induction entries with
  | nil => rfl
  | cons e entries ih =>
    rw [List.mapM_cons, ih, List.map_cons, List.mapM_cons]
    cases inner e.2 with
    | error error => rfl
    | ok value => cases (entries.map (·.2)).mapM inner <;> rfl

theorem itemsOfArray?_eq (schema : Sited) :
    itemsOfArray? schema =
      if isArrayName (schema.node.entry "type") then schema.get? "items" else none := by
  rw [itemsOfArray?, Node.entry]
  cases schema.node.get? "type" with
  | none => rfl
  | some type =>
    rw [Option.getD_some]
    unfold isArrayName
    split
    · rename_i htype
      rw [Option.some.inj htype]
      rfl
    · rename_i hne
      split
      · exact absurd rfl hne
      · rfl

/-- A composed example is made of what the schema says that it is made of. -/
theorem composedExample_eq (schema : Sited) :
    composedExample inner schema = (do
      let values ← (exampleSource schema).parts.mapM inner
      return (exampleSource schema).compose values) := by
  rw [composedExample, statedExample?_eq, hasProperties_eq]
  unfold exampleSource
  generalize (schema.node.get? "example").or
    ((firstOfExamples? schema.node).or (schema.node.get? "default")) = stated
  cases stated with
  | some value => rfl
  | none =>
    dsimp only
    cases hproperties : (schema.entry "properties").entries.isEmpty with
    | false =>
      simp only [Bool.not_false, if_true, mapM_entries, Bool.false_eq_true, if_false,
        ExampleSource.parts, compose_properties, bind_assoc, pure_bind]
    | true =>
      simp only [Bool.not_true, Bool.false_eq_true, if_false, if_true]
      rw [itemsOfArray?_eq]
      split
      · cases schema.get? "items" with
        | none => rfl
        | some part =>
          show (do return oneItem (← inner part)) = (do
            let values ← [part].mapM inner
            return (ExampleSource.items part).compose values)
          rw [List.mapM_cons, List.mapM_nil]
          simp only [bind_assoc, pure_bind, compose_items]
      · rfl

end Composing

/-! ## Computations that may stop short -/

section Agreement

variable {ε α β : Type} {x y : ExceptT ε Option α}

/-- Whether a computation comes to whatever another one comes to. -/
def Agrees (x y : ExceptT ε Option α) : Prop :=
  ∀ result, x.run = some result → y.run = some result

theorem Agrees.refl (x : ExceptT ε Option α) : Agrees x x :=
  fun _ h => h

theorem Agrees.bind {f g : α → ExceptT ε Option β} (hxy : Agrees x y)
    (hfg : ∀ a, x.run = some (.ok a) → Agrees (f a) (g a)) : Agrees (x >>= f) (y >>= g) := by
  intro result h
  rw [ExceptT.run_bind] at h ⊢
  obtain ⟨first, hx, hrest⟩ := Option.bind_eq_some_iff.mp h
  rw [hxy first hx]
  cases first with
  | error error => exact hrest
  | ok a => exact hfg a hx result hrest

theorem run_bind_eq_ok_iff {f : α → ExceptT ε Option β} {b : β} :
    (x >>= f).run = some (.ok b) ↔
      ∃ a, x.run = some (.ok a) ∧ (f a).run = some (.ok b) := by
  rw [ExceptT.run_bind]
  constructor
  · intro h
    obtain ⟨first, hx, hrest⟩ := Option.bind_eq_some_iff.mp h
    cases first with
    | error error => cases hrest
    | ok a => exact ⟨a, hx, hrest⟩
  · rintro ⟨a, hx, hf⟩
    exact Option.bind_eq_some_iff.mpr ⟨.ok a, hx, hf⟩

theorem run_mapM_eq_ok {f : α → ExceptT ε Option β} {xs : List α} {ys : List β}
    (h : (xs.mapM f).run = some (.ok ys)) :
    List.Forall₂ (fun x y => (f x).run = some (.ok y)) xs ys := by
  induction xs generalizing ys with
  | nil =>
    cases h
    exact .nil
  | cons x xs ih =>
    rw [List.mapM_cons] at h
    obtain ⟨y, hy, h⟩ := run_bind_eq_ok_iff.mp h
    obtain ⟨rest, hrest, hpure⟩ := run_bind_eq_ok_iff.mp h
    cases hpure
    exact .cons hy (ih hrest)

theorem total_bind (x : Except ε α) (f : α → Except ε β) :
    total (x >>= f) = total x >>= fun a => total (f a) := by
  cases x <;> rfl

theorem total_mapM (f : α → Except ε β) (xs : List α) :
    total (xs.mapM f) = xs.mapM fun x => total (f x) := by
  induction xs with
  | nil => rfl
  | cons x xs ih =>
    rw [List.mapM_cons, List.mapM_cons, total_bind]
    refine bind_congr fun b => ?_
    rw [total_bind, ih]
    rfl

/-- Only the parts that are looked at decide what comes out. -/
theorem Agrees.mapM {f g : Sited → ExceptT ReferenceError Option β} {parts : List Sited}
    (h : ∀ part ∈ explored f parts, Agrees (f part) (g part)) :
    Agrees (parts.mapM f) (parts.mapM g) := by
  induction parts with
  | nil => exact .refl _
  | cons part rest ih =>
    have hmem : part ∈ explored f (part :: rest) := by
      rw [explored]
      split <;> exact List.mem_cons_self
    rw [List.mapM_cons, List.mapM_cons]
    refine (h part hmem).bind fun value hvalue => ?_
    rw [explored, hvalue] at h
    exact (ih fun other hother => h other (List.mem_cons_of_mem part hother)).bind
      fun values _ => .refl _

end Agreement

/-! ## Looking into schemas -/

section Exploring

variable {document : Node} {s schema part : Sited} {levels : Nat}

theorem exampleWithin_succ (document : Node) (levels : Nat) (s : Sited) :
    exampleWithin document (levels + 1) s = (do
      let schema ← total (resolve document s)
      if schema.node.isMap then
        let values ← (exampleSource schema).parts.mapM (exampleWithin document levels)
        return (exampleSource schema).compose values
      else return .null) :=
  rfl

/-- More levels than are enough change nothing. -/
theorem exampleWithin_mono {more : Nat} (hmore : levels ≤ more) :
    Agrees (exampleWithin document levels s) (exampleWithin document more s) := by
  induction levels generalizing more s with
  | zero => exact fun _ h => by cases h
  | succ levels ih =>
    obtain ⟨more, rfl⟩ : ∃ n, more = n + 1 := ⟨more - 1, by omega⟩
    rw [exampleWithin_succ, exampleWithin_succ]
    refine (Agrees.refl _).bind fun schema _ => ?_
    split
    · exact (Agrees.mapM fun part _ => ih (by omega)).bind fun values _ => .refl _
    · exact .refl _

theorem exploredRows_of_isMap (hschema : resolve document s = .ok schema)
    (hmap : schema.node.isMap = true) :
    exploredRows document (levels + 1) s =
      ([] :: (explored (exampleWithin document levels) (exampleSource schema).parts).flatMap
        (exploredRows document levels)).map (schema.site.steps?.toList ++ ·) := by
  rw [exploredRows, hschema]
  exact if_pos hmap

theorem own_mem_exploredRows (hschema : resolve document s = .ok schema)
    (hmap : schema.node.isMap = true) :
    schema.site.steps?.toList ∈ exploredRows document (levels + 1) s := by
  rw [exploredRows_of_isMap hschema hmap, List.map_cons, List.append_nil]
  exact List.mem_cons_self

theorem append_mem_exploredRows (hschema : resolve document s = .ok schema)
    (hmap : schema.node.isMap = true)
    (hpart : part ∈ explored (exampleWithin document levels) (exampleSource schema).parts)
    {row : List (List Step)} (hrow : row ∈ exploredRows document levels part) :
    schema.site.steps?.toList ++ row ∈ exploredRows document (levels + 1) s := by
  rw [exploredRows_of_isMap hschema hmap]
  exact List.mem_map_of_mem (List.mem_cons_of_mem _ (List.mem_flatMap.mpr ⟨part, hpart, hrow⟩))

/-- A schema none of whose schemas is met again, neither below itself nor below the given ones, has
the example that it describes. -/
theorem agrees_exampleBelow {depth : Nat} {above : List (List Step)} (hdepth : levels ≤ depth)
    (hrows : ∀ row ∈ exploredRows document levels s, row.Nodup ∧ row.Disjoint above) :
    Agrees (exampleWithin document levels s) (total (exampleBelow document depth above s)) := by
  induction levels generalizing depth above s with
  | zero => exact fun _ h => by cases h
  | succ levels ih =>
    obtain ⟨depth, rfl⟩ : ∃ n, depth = n + 1 := ⟨depth - 1, by omega⟩
    rw [exampleWithin_succ, exampleBelow, total_bind]
    refine (Agrees.refl _).bind fun schema hschema => ?_
    replace hschema : resolve document s = .ok schema := Option.some.inj hschema
    cases hmap : schema.node.isMap with
    | false => exact .refl _
    | true =>
      obtain ⟨_, hown⟩ := hrows _ (own_mem_exploredRows hschema hmap)
      have hmet : schema.site.steps?.any (above.contains ·) = false := by
        cases hsteps : schema.site.steps? with
        | none => rfl
        | some steps =>
          rw [hsteps] at hown
          rw [Option.any_some, List.contains_eq_mem, decide_eq_false_iff_not]
          exact hown (List.mem_singleton_self steps)
      rw [hmet, composedExample_eq]
      show Agrees _ (total (_ >>= _))
      rw [total_bind, total_mapM]
      refine (Agrees.mapM fun part hpart => ih (by omega) fun row hrow => ?_).bind
        fun values _ => .refl _
      obtain ⟨hnodup, hdisjoint⟩ := hrows _ (append_mem_exploredRows hschema hmap hpart hrow)
      obtain ⟨_, hrest, hdifferent⟩ := List.nodup_append'.mp hnodup
      refine ⟨hrest, List.disjoint_append_right.mpr ⟨fun _ hin hown => hdifferent hown hin, ?_⟩⟩
      exact (List.disjoint_append_left.mp hdisjoint).2

end Exploring

/-! ## Places do not matter -/

section Places

variable {document : Node} {s t : Sited} {levels : Nat}

/-- Schemas that look alike have examples that are made alike, of parts that look alike. -/
theorem exampleSource_congr (hnode : s.node = t.node) :
    (exampleSource s).parts.map (·.node) = (exampleSource t).parts.map (·.node) ∧
      (exampleSource s).compose = (exampleSource t).compose := by
  have hproperties : (s.entry "properties").entries.nodes =
      (t.entry "properties").entries.nodes := by
    rw [nodes_entries, nodes_entries, Sited.node_entry, Sited.node_entry, hnode]
  have hitems : (itemsOfArray? s).map (·.node) = (itemsOfArray? t).map (·.node) := by
    rw [itemsOfArray?, itemsOfArray?, hnode]
    split
    · rw [Sited.node_get?, Sited.node_get?, hnode]
    · rfl
  unfold exampleSource
  rw [hnode]
  generalize (s.entry "properties").entries = es, (t.entry "properties").entries = es'
    at hproperties
  have hempty : es.isEmpty = es'.isEmpty := by
    simpa [SitedEntries.nodes] using congrArg List.isEmpty hproperties
  split
  · exact ⟨rfl, rfl⟩
  · rw [hempty]
    split
    · generalize itemsOfArray? s = items, itemsOfArray? t = items' at hitems
      cases items with
      | none =>
        rw [Option.map_eq_none_iff.mp hitems.symm]
        exact ⟨rfl, rfl⟩
      | some part =>
        obtain ⟨part', rfl, hpart⟩ := Option.map_eq_some_iff.mp hitems.symm
        exact ⟨congrArg (fun node => [node]) hpart.symm, rfl⟩
    · refine ⟨?_, funext fun values => ?_⟩
      · show (es.map (·.2)).map (·.node) = (es'.map (·.2)).map (·.node)
        rw [← SitedEntries.map_snd_nodes, ← SitedEntries.map_snd_nodes, hproperties]
      · rw [compose_properties, compose_properties, ← SitedEntries.map_fst_nodes,
          ← SitedEntries.map_fst_nodes, hproperties]

/-- Schemas that stand for the same node describe the same example. -/
theorem exampleWithin_congr
    (h : (resolve document s).map (·.node) = (resolve document t).map (·.node)) (levels : Nat) :
    exampleWithin document levels s = exampleWithin document levels t := by
  induction levels generalizing s t with
  | zero => rfl
  | succ levels ih =>
    rw [exampleWithin_succ, exampleWithin_succ]
    cases hs : resolve document s with
    | error error =>
      rw [hs] at h
      cases ht : resolve document t with
      | error other =>
        rw [ht] at h
        rw [Except.error.inj h]
      | ok schema =>
        rw [ht] at h
        cases h
    | ok schema =>
      rw [hs] at h
      cases ht : resolve document t with
      | error error =>
        rw [ht] at h
        cases h
      | ok other =>
        rw [ht] at h
        have hnode : schema.node = other.node := Except.ok.inj h
        obtain ⟨hparts, hcompose⟩ := exampleSource_congr hnode
        show (if schema.node.isMap then _ else _) = (if other.node.isMap then _ else _)
        rw [hnode, hcompose]
        have hvalues : (exampleSource schema).parts.mapM (exampleWithin document levels) =
            (exampleSource other).parts.mapM (exampleWithin document levels) := by
          refine mapM_congr_forall₂ ((forall₂_of_map_eq hparts).imp fun p q hpq => ?_)
          exact ih (map_node_resolve hpq)
        rw [hvalues]

end Places

/-! ## Examples of properties -/

/-- Whether a value holds the examples of some properties: under the key of each property stands the
example of this property, unless that is null. So a schema that is used in several properties has
the same example in each. -/
structure HoldsExamples (document : Node) (properties : SitedEntries) (value : Node) : Prop where
  own : ∀ key part, (key, part) ∈ properties → ∃ found, schemaExample document part = .ok found ∧
    value.entries.lookup key = if found.isNull then none else some found
  same : ∀ key part other part', (key, part) ∈ properties → (other, part') ∈ properties →
    (resolve document part).map (·.node) = (resolve document part').map (·.node) →
    value.entries.lookup key = value.entries.lookup other

section Properties

variable {document : Node} {s schema part : Sited} {levels : Nat} {properties : SitedEntries}

theorem isMap_of_exampleSource (h : exampleSource schema = .properties properties) :
    schema.node.isMap = true := by
  obtain ⟨node, site⟩ := schema
  cases node with
  | map es => rfl
  | scalar a => cases h
  | list xs => cases h

/-- All parts are looked at if all of them succeed. -/
theorem explored_eq_self {f : Sited → ExceptT ReferenceError Option Node} {parts : List Sited}
    {values : List Node}
    (h : List.Forall₂ (fun part value => (f part).run = some (.ok value)) parts values) :
    explored f parts = parts := by
  induction h with
  | nil => rfl
  | cons hpart _ ih => rw [explored, hpart, ih]

/-- The value of an entry stands beside its key. -/
theorem exists_zip_of_mem {P : Sited → Node → Prop} {values : List Node}
    (h : List.Forall₂ P (properties.map (·.2)) values) {key : Scalar}
    (hmem : (key, part) ∈ properties) :
    ∃ value, (key, value) ∈ (properties.map (·.1)).zip values ∧ P part value := by
  induction properties generalizing values with
  | nil => cases hmem
  | cons e properties ih =>
    obtain _ | ⟨hvalue, hrest⟩ := h
    rcases List.mem_cons.mp hmem with rfl | hmem
    · exact ⟨_, List.mem_cons_self, hvalue⟩
    · obtain ⟨value, hzip, hP⟩ := ih hrest hmem
      exact ⟨value, List.mem_cons_of_mem _ hzip, hP⟩

theorem entries_compose_properties (properties : SitedEntries) (values : List Node) :
    ((ExampleSource.properties properties).compose values).entries =
      ((properties.map (·.1)).zip values).filter (!·.2.isNull) := by
  rw [compose_properties, assembled]
  split
  · rename_i hnil
    rw [hnil]
    rfl
  · rfl

/-- What a schema describes is made of what its parts describe, which is the example that each part
has on its own. -/
theorem exists_partExamples {value : Node} (hlevels : levels ≤ exampleDepth)
    (h : (exampleWithin document (levels + 1) s).run = some (.ok value))
    (hrows : ∀ row ∈ exploredRows document (levels + 1) s, row.Nodup)
    (hschema : resolve document s = .ok schema) (hmap : schema.node.isMap = true) :
    ∃ values, value = (exampleSource schema).compose values ∧
      List.Forall₂ (fun part v => (exampleWithin document levels part).run = some (.ok v) ∧
        schemaExample document part = .ok v) (exampleSource schema).parts values := by
  rw [exampleWithin_succ, hschema] at h
  obtain ⟨_, hok, h⟩ := run_bind_eq_ok_iff.mp h
  cases hok
  rw [hmap] at h
  obtain ⟨values, hvalues, hpure⟩ := run_bind_eq_ok_iff.mp h
  cases hpure
  have hparts := run_mapM_eq_ok hvalues
  have hown : ∀ part ∈ (exampleSource schema).parts,
      Agrees (exampleWithin document levels part) (total (schemaExample document part)) := by
    intro part hpart
    rw [← explored_eq_self hparts] at hpart
    refine agrees_exampleBelow hlevels fun row hrow => ⟨?_, List.disjoint_nil_right row⟩
    exact (hrows _ (append_mem_exploredRows hschema hmap hpart hrow)).of_append_right
  refine ⟨values, rfl, ((List.forall₂_and_left _ _).mpr ⟨hown, hparts⟩).imp ?_⟩
  rintro part v ⟨hagrees, hv⟩
  exact ⟨hv, Option.some.inj (hagrees _ hv)⟩

/-- The example of an object is made of the examples of its properties. -/
theorem holdsExamples {value : Node} (hlevels : levels ≤ exampleDepth)
    (h : (exampleWithin document (levels + 1) s).run = some (.ok value))
    (hrows : ∀ row ∈ exploredRows document (levels + 1) s, row.Nodup)
    (hschema : resolve document s = .ok schema)
    (hsource : exampleSource schema = .properties properties)
    (hkeys : (properties.map (·.1)).Nodup) : HoldsExamples document properties value := by
  obtain ⟨values, rfl, hparts⟩ :=
    exists_partExamples hlevels h hrows hschema (isMap_of_exampleSource hsource)
  rw [hsource] at hparts ⊢
  have hlength : (properties.map (·.1)).length ≤ values.length := by
    rw [← hparts.length_eq]
    simp [ExampleSource.parts]
  have hzipKeys : (((properties.map (·.1)).zip values).map (·.1)).Nodup := by
    rwa [List.map_fst_zip hlength]
  have hentry (key : Scalar) (part : Sited) (hmem : (key, part) ∈ properties) :
      ∃ found, (exampleWithin document levels part).run = some (.ok found) ∧
        schemaExample document part = .ok found ∧
        (((ExampleSource.properties properties).compose values).entries.lookup key =
          if found.isNull then none else some found) := by
    obtain ⟨found, hzip, hwithin, hfound⟩ := exists_zip_of_mem hparts hmem
    refine ⟨found, hwithin, hfound, ?_⟩
    rw [entries_compose_properties, lookup_filter_of_mem hzipKeys hzip]
    cases found.isNull <;> rfl
  refine ⟨fun key part hmem => ?_, fun key part other part' hmem hother hsame => ?_⟩
  · obtain ⟨found, _, hfound, hlookup⟩ := hentry key part hmem
    exact ⟨found, hfound, hlookup⟩
  · obtain ⟨found, hfound, _, hlookup⟩ := hentry key part hmem
    obtain ⟨found', hfound', _, hlookup'⟩ := hentry other part' hother
    rw [exampleWithin_congr hsame, hfound'] at hfound
    cases hfound
    rw [hlookup, hlookup']

end Properties

section Examples

variable {document : Node} {s : Sited} {outcome : Except ReferenceError Node}

/-- **Examples without bounds.** If the example that a schema describes is found within 32 levels of
schemas, its own included, and no schema of the document is met again below itself there, then it is
the example of the schema, and an error that comes up there is its error. No number of levels makes
it another one, and the example of an object holds those of its properties. -/
theorem schemaExample_of_exploration
    (h : (exampleWithin document 32 s).run = some outcome)
    (hrows : ∀ row ∈ exploredRows document 32 s, row.Nodup) :
    schemaExample document s = outcome ∧
      (∀ levels result, (exampleWithin document levels s).run = some result → result = outcome) ∧
      ∀ schema properties value, resolve document s = .ok schema →
        exampleSource schema = .properties properties → (properties.map (·.1)).Nodup →
        outcome = .ok value → HoldsExamples document properties value := by
  refine ⟨Option.some.inj ?_, fun levels result hresult => ?_,
    fun schema properties value hschema hsource hkeys hvalue => ?_⟩
  · exact agrees_exampleBelow (show 32 ≤ exampleDepth from Nat.le_refl _)
      (fun row hrow => ⟨hrows row hrow, List.disjoint_nil_right row⟩) _ h
  · rcases Nat.le_total levels 32 with hle | hle
    · exact Option.some.inj ((exampleWithin_mono hle _ hresult).symm.trans h)
    · exact Option.some.inj (hresult.symm.trans (exampleWithin_mono hle _ h))
  · rw [hvalue] at h
    exact holdsExamples (show 31 ≤ exampleDepth from Nat.le_succ 31) h hrows hschema hsource hkeys

/-- A document with a schema that is used in two properties. -/
def kennelDocument : Node :=
  .map [(.str "Owner", .map [(.str "properties", .map [(.str "name", .map [(.str "examples",
      .list [.str "Ann", .str "Bob"])])])]),
    (.str "Dog", .map [(.str "properties", .map [
      (.str "owner", .map [(.str "$ref", .str "#/Owner"), (.str "title", .str "Owner")]),
      (.str "keeper", .map [(.str "$ref", .str "#/Owner"), (.str "title", .str "Owner")]),
      (.str "id", .map [(.str "type", .str "integer")]),
      (.str "moods", .map [(.str "type", .str "array"), (.str "items", .map [(.str "default",
        .str "calm")])])])])]

/-- A reference to the schema with these properties. -/
def dogSchema : Sited :=
  .outside (.map [(.str "$ref", .str "#/Dog")])

theorem schemaExample_of_exploration_dog :
    (exampleWithin kennelDocument 32 dogSchema).run = some (.ok (.map [
        (.str "owner", .map [(.str "name", .str "Ann")]),
        (.str "keeper", .map [(.str "name", .str "Ann")]),
        (.str "moods", .list [.str "calm"])])) ∧
      (∀ row ∈ exploredRows kennelDocument 32 dogSchema, row.Nodup) ∧
      schemaExample kennelDocument dogSchema = .ok (.map [
        (.str "owner", .map [(.str "name", .str "Ann")]),
        (.str "keeper", .map [(.str "name", .str "Ann")]),
        (.str "moods", .list [.str "calm"])]) ∧
      ∃ schema properties value, resolve kennelDocument dogSchema = .ok schema ∧
        exampleSource schema = .properties properties ∧
        schemaExample kennelDocument dogSchema = .ok value ∧
        HoldsExamples kennelDocument properties value := by
  have hwithin : (exampleWithin kennelDocument 32 dogSchema).run = some (.ok _) := rfl
  have hrows : ∀ row ∈ exploredRows kennelDocument 32 dogSchema, row.Nodup := by decide
  obtain ⟨hexample, _, hholds⟩ := schemaExample_of_exploration hwithin hrows
  refine ⟨hwithin, hrows, hexample, _, _, _, rfl, rfl, hexample, ?_⟩
  exact hholds _ _ _ rfl rfl (by decide) rfl

end Examples

end RoutedFields
