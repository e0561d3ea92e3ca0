import Mathlib.Data.List.ReduceOption
import RoutedFields.Proofs.Build.ResourcesOfBuild
import RoutedFields.Proofs.Build.Skipping

/-!
# The resources that are in use

The resources of a build are the tags that the document declares and those that its operations use.
Operations that a build leaves out count among the latter: they are met by the walk as any other, and
only the collector of operations asks whether to leave them out.

* `DeclaresTag`, `SkippedTag`: declared tags, and tags of operations that are left out.
* `mem_resources_iff`: which resources a build has.
* `resources_in_use`: no resource is empty, unless an operation is left out.
* `skippedTag_not_in_use`: the only operation of a resource can be left out.
-/

namespace RoutedFields

/-- Whether a text is the name of an entry of the list of tags of a document. -/
def DeclaresTag (document : Node) (value : String) : Prop :=
  ∃ tags, document.entry "tags" = .list tags ∧
    ∃ tag ∈ tags, tag.get? "name" = some (.str value)

/-- Whether a text is a tag of an operation in normal form that a build leaves out. -/
def SkippedTag (settings : Settings) (document : Node) (value : String) : Prop :=
  ∃ declaration ∈ declarations document, declaration.isSkipped settings = true ∧
    ∃ (operation : Sited) (tags : List String),
      normalize (.str settings.defaultTag) declaration.pathItem declaration.operation =
        .ok operation ∧
      operationTags operation = .ok (tags.map .str) ∧ value ∈ tags

/-! ## Declared tags -/

/-- Only a list holds maps one after another. -/
theorem exists_list_of_elementsIfAny {s item : Sited} {items : List Sited}
    (h : s.elementsIfAny = .ok items) (hitem : item ∈ items) (hmap : item.node.isMap = true) :
    ∃ xs, s.node = .list xs := by
  rcases Sited.elementsIfAny_eq_ok h with ⟨xs, hxs, _⟩ | hscalars
  · exact ⟨xs, hxs⟩
  · obtain ⟨scalar, rfl⟩ := hscalars item hitem
    cases hmap

section Build

variable {settings : Settings} {document : Node} {result : BuildResult} {value : String}
  {operations : List TaggedOperation} {tags : List NamedTag}

/-- The tags that a build is called with are those that the document declares. -/
theorem declaresTag_iff (hcalls : BuildCalls settings document operations tags) :
    DeclaresTag document value ↔ value ∈ tags.map (·.name) := by
  obtain ⟨items, hitems, hnodes⟩ := hcalls.tags
  have hname (tag : NamedTag) : tag.node.get? "name" = some (.str value) ↔ tag.name = value := by
    rw [tag.named]
    simp
  constructor
  · rintro ⟨nodes, hlist, node, hnode, hvalue⟩
    have hroot : ((Sited.root document).entry "tags").node = .list nodes :=
      (Sited.node_entry _ _).trans hlist
    rw [Sited.elementsIfAny_of_list hroot] at hitems
    rw [← Sited.map_node_items hroot, Except.ok.inj hitems, hnodes] at hnode
    obtain ⟨tag, htag, rfl⟩ := List.mem_map.mp hnode
    exact List.mem_map.mpr ⟨tag, htag, (hname tag).mp hvalue⟩
  · intro hvalue
    obtain ⟨tag, htag, heq⟩ := List.mem_map.mp hvalue
    have hnode : tag.node ∈ items.map (·.node) := hnodes ▸ List.mem_map_of_mem htag
    obtain ⟨item, hitem, hitemNode⟩ := List.mem_map.mp hnode
    have hmap : item.node.isMap = true := by
      rw [hitemNode]
      exact Node.isMap_of_get? tag.named
    obtain ⟨nodes, hlist⟩ := exists_list_of_elementsIfAny hitems hitem hmap
    refine ⟨nodes, (Sited.node_entry _ _).symm.trans hlist, tag.node, ?_, (hname tag).mpr heq⟩
    rw [Sited.elementsIfAny_of_list hlist] at hitems
    rw [← Sited.map_node_items hlist, Except.ok.inj hitems]
    exact hnode

/-! ## Tags of operations -/

theorem eq_of_map_str {texts others : List String}
    (h : texts.map Node.str = others.map Node.str) : texts = others :=
  List.map_injective_iff.mpr (fun _ _ heq => Scalar.str.inj (Node.scalar.inj heq)) h

/-- A declared operation that does not fail is left out, or it is taken up with its tags. -/
theorem tags_of_collect {declaration : Declaration} {operation : Sited} {used : List String}
    {outcome : Option CompiledOperation}
    (hnormal : normalize (.str settings.defaultTag) declaration.pathItem declaration.operation =
      .ok operation)
    (htags : operationTags operation = .ok (used.map .str))
    (h : declaration.collect (.str settings.defaultTag) document
      (.standard settings.skipDeprecated) = .ok outcome) :
    (declaration.isSkipped settings = true ∧ outcome = none) ∨
      (declaration.isSkipped settings = false ∧
        ∃ compiled, outcome = some compiled ∧ compiled.resources = used) := by
  obtain ⟨operation', hnormal', h⟩ := bind_eq_ok_iff.mp h
  rw [orFault_eq_ok_iff, hnormal, Except.ok.injEq] at hnormal'
  subst hnormal'
  have hskipped := @skips_standard settings _ _ (normalized_of_normalize hnormal)
  rcases collectOperation_eq_ok h with ⟨hskips, rfl⟩ | ⟨fields, compiled, hskips, _, hrecord, rfl⟩
  · exact .inl ⟨Except.ok.inj (hskipped.symm.trans hskips), rfl⟩
  · refine .inr ⟨Except.ok.inj (hskipped.symm.trans hskips), compiled, rfl, ?_⟩
    have hresources := (recordOperation_eq_ok hrecord).2.2.2
    rw [htags, Except.ok.injEq] at hresources
    exact (eq_of_map_str hresources).symm

/-- The tags of the operations that a build is called with are those of the operations of its result
and those of the operations that it leaves out. -/
theorem mem_tags_iff (hcalls : BuildCalls settings document operations tags)
    (h : (build settings document).result = .ok result) :
    value ∈ operations.flatMap (·.tags) ↔
      (∃ compiled ∈ result.operations, value ∈ compiled.resources) ∨
        SkippedTag settings document value := by
  obtain ⟨outcomes, houtcomes, hoverridden⟩ := collect_of_build h
  rw [List.mem_flatMap]
  constructor
  · rintro ⟨tagged, htagged, hvalue⟩
    obtain ⟨declaration, hmem, hnormal⟩ := exists_left_of_forall₂ hcalls.operations htagged
    obtain ⟨outcome, houtcome, hcollect⟩ := exists_left_of_forall₂ houtcomes.flip hmem
    rcases tags_of_collect hnormal tagged.tagged hcollect with ⟨hskipped, _⟩ | ⟨_, compiled, rfl,
      hresources⟩
    · exact .inr ⟨declaration, hmem, hskipped, tagged.operation, tagged.tags, hnormal,
        tagged.tagged, hvalue⟩
    · have hcompiled : compiled ∈ outcomes.reduceOption := List.reduceOption_mem_iff.mpr houtcome
      obtain ⟨overridden, hfound, hoverride⟩ := exists_left_of_forall₂ hoverridden.flip hcompiled
      obtain ⟨fields, _, rfl⟩ := overrideOperation_eq_ok hoverride
      exact .inl ⟨_, hfound, hresources ▸ hvalue⟩
  · have hcalled {declaration : Declaration} (hmem : declaration ∈ declarations document) :=
      exists_left_of_forall₂ hcalls.operations.flip hmem
    rintro (⟨overridden, hfound, hvalue⟩ | ⟨declaration, hmem, _, operation, used, hnormal, htags,
      hvalue⟩)
    · obtain ⟨compiled, hcompiled, hoverride⟩ := exists_left_of_forall₂ hoverridden hfound
      obtain ⟨fields, _, rfl⟩ := overrideOperation_eq_ok hoverride
      obtain ⟨declaration, hmem, hcollect⟩ :=
        exists_left_of_forall₂ houtcomes (List.reduceOption_mem_iff.mp hcompiled)
      obtain ⟨tagged, htagged, hnormal⟩ := hcalled hmem
      rcases tags_of_collect hnormal tagged.tagged hcollect with ⟨_, hnone⟩ | ⟨_, _, hsome,
        hresources⟩
      · cases hnone
      · obtain rfl := Option.some.inj hsome
        exact ⟨tagged, htagged, hresources ▸ hvalue⟩
    · obtain ⟨tagged, htagged, hnormal'⟩ := hcalled hmem
      have hoperation := Except.ok.inj (hnormal.symm.trans hnormal')
      rw [hoperation, tagged.tagged, Except.ok.injEq] at htags
      exact ⟨tagged, htagged, eq_of_map_str htags ▸ hvalue⟩

/-! ## Resources -/

/-- The values of the resources of a build are the declared tags, the tags of the operations of its
result, and the tags of the operations that it leaves out. -/
theorem mem_resources_iff (h : (build settings document).result = .ok result) :
    value ∈ result.resources.map (·.value) ↔
      DeclaresTag document value ∨ (∃ compiled ∈ result.operations, value ∈ compiled.resources) ∨
        SkippedTag settings document value := by
  obtain ⟨⟨operations, tags, resources, hcalls, hrun, hfound⟩, _⟩ := resources_of_build h
  have hvalues := Resources.values_of_walk hrun
  rw [Resources.values, ← hfound] at hvalues
  rw [hvalues, List.mem_append, List.mem_eraseDups, List.mem_eraseDups, List.mem_filter,
    declaresTag_iff hcalls, ← mem_tags_iff hcalls h, decide_eq_true_iff]
  tauto

/-- Every resource of a build is declared, or an operation of the result is in it, or an operation is
that the build leaves out. So a resource that is not declared is empty only if all its operations are
left out, and none is empty if none is left out. -/
theorem resources_in_use (h : (build settings document).result = .ok result) :
    (∀ value, value ∈ result.resources.map (·.value) ↔
      DeclaresTag document value ∨ (∃ compiled ∈ result.operations, value ∈ compiled.resources) ∨
        SkippedTag settings document value) ∧
    (keptDeclarations settings document = declarations document →
      ∀ value ∈ result.resources.map (·.value),
        DeclaresTag document value ∨ ∃ compiled ∈ result.operations, value ∈ compiled.resources) := by
  refine ⟨fun value => mem_resources_iff h, fun hkept value hvalue => ?_⟩
  rcases mem_resources_iff h |>.mp hvalue with hdeclared | hused | ⟨declaration, hmem, hskipped, _⟩
  · exact .inl hdeclared
  · exact .inr hused
  · rw [← hkept, keptDeclarations, List.mem_filter, hskipped] at hmem
    cases hmem.2

theorem resources_in_use_retiring :
    ∃ result, (build ⟨true, standardTag, []⟩ retiringDocument).result = .ok result ∧
      (∀ value, value ∈ result.resources.map (·.value) ↔
        DeclaresTag retiringDocument value ∨
          (∃ compiled ∈ result.operations, value ∈ compiled.resources) ∨
          SkippedTag ⟨true, standardTag, []⟩ retiringDocument value) ∧
      ∃ full, (build .standard retiringDocument).result = .ok full ∧
        ∀ value ∈ full.resources.map (·.value), DeclaresTag retiringDocument value ∨
          ∃ compiled ∈ full.operations, value ∈ compiled.resources :=
  ⟨_, rfl, (resources_in_use rfl).1, _, rfl, (@resources_in_use .standard _ _ rfl).2 rfl⟩

/-- The resource of a deprecated operation stays when the operation is left out, although nothing
else is in it. -/
theorem skippedTag_not_in_use :
    ∃ result, (build ⟨true, standardTag, []⟩ retiringDocument).result = .ok result ∧
      "old" ∈ result.resources.map (·.value) ∧ ¬DeclaresTag retiringDocument "old" ∧
      ¬∃ compiled ∈ result.operations, "old" ∈ compiled.resources := by
  refine ⟨_, rfl, by decide, ?_, by decide⟩
  rintro ⟨tags, htags, tag, htag, hname⟩
  cases htags
  obtain rfl := List.mem_singleton.mp htag
  have htexts : "pets" = "old" := Scalar.str.inj (Node.scalar.inj (Option.some.inj hname))
  exact absurd htexts (by decide)

end Build

end RoutedFields
