import RoutedFields.Proofs.Build.Collection
import RoutedFields.Proofs.Build.ResourceCalls

/-!
# The resources of a build

A build calls its collector as a walk does: with the operations that the document declares, in
normal form, with its tags, and at the end. A build with a result has met texts only as tags.

* `exists_calls_of_operations`, `exists_calls_of_tags`: the events of a build are calls.
* `resources_of_build`: the resources of a build are those of these calls, and each entry of an
  operation is the value of one of them.
* `resources_exact`: what a collector holds after any calls, after a walk and after a build.
-/

namespace RoutedFields

namespace Resources

/-! ## Events -/

theorem meet_of_noteEvent {document : Node} {skip : Bool} {state next : Collected} {event : Event}
    (h : (noteEvent document (.standard skip) state event).result = .ok next) :
    state.resources.meet event = .ok next.resources :=
  (noteEvent_eq_ok_iff.mp h).2.1

theorem foldlM_meet {document : Node} {skip : Bool} {state last : Collected} {events : List Event}
    (h : events.foldlM (fun s event => (noteEvent document (.standard skip) s event).result) state =
      .ok last) : events.foldlM meet state.resources = .ok last.resources := by
  induction events generalizing state with
  | nil =>
    cases h
    rfl
  | cons event events ih =>
    obtain ⟨next, hnext, h⟩ := bind_eq_ok_iff.mp h
    exact bind_eq_ok_iff.mpr ⟨next.resources, meet_of_noteEvent hnext, ih h⟩

/-! ## Tags that have been noted -/

theorem used_noteTag (resources : Resources) (tag : Node) :
    resources.used ⊆ (resources.noteTag tag).used ∧
      ∃ noted ∈ (resources.noteTag tag).used, noted = tag ∨ noted.same tag = true := by
  rw [noteTag]
  split
  · rename_i hany
    obtain ⟨noted, hnoted, hsame⟩ := List.any_eq_true.mp hany
    exact ⟨List.Subset.refl _, noted, hnoted, .inr hsame⟩
  · refine ⟨List.subset_append_left _ _, tag, ?_, .inl rfl⟩
    exact List.mem_append_right _ (List.mem_singleton_self tag)

/-- Tags that are noted stay noted, or else one that is the same. -/
theorem used_noteTags (resources : Resources) (tags : List Node) :
    resources.used ⊆ (tags.foldl noteTag resources).used ∧
      ∀ tag ∈ tags, ∃ noted ∈ (tags.foldl noteTag resources).used,
        noted = tag ∨ noted.same tag = true := by
  induction tags generalizing resources with
  | nil => exact ⟨List.Subset.refl _, List.forall_mem_nil _⟩
  | cons tag tags ih =>
    obtain ⟨hsubset, noted, hnoted, hsame⟩ := used_noteTag resources tag
    obtain ⟨hrest, hall⟩ := ih (resources.noteTag tag)
    refine ⟨fun other hother => hrest (hsubset hother), List.forall_mem_cons.mpr ⟨?_, hall⟩⟩
    exact ⟨noted, hrest hnoted, hsame⟩

theorem used_of_addTag {policy : ResourcePolicy} {resources next : Resources} {tag : Node}
    (h : resources.addTag policy tag = .ok next) : next.used = resources.used := by
  obtain ⟨value, _, h⟩ := bind_eq_ok_iff.mp h
  split at h
  · cases h
    rfl
  · obtain ⟨name, _, h⟩ := bind_eq_ok_iff.mp h
    obtain ⟨description, _, h⟩ := bind_eq_ok_iff.mp h
    obtain ⟨resource, _, h⟩ := bind_eq_ok_iff.mp h
    cases h
    rfl

theorem used_addTags (policy : ResourcePolicy) (tags : List Node) (resources : Resources) :
    (addTags policy tags resources).1.used = resources.used := by
  induction tags generalizing resources with
  | nil => rfl
  | cons tag tags ih =>
    rw [addTags]
    split
    · rename_i next hnext
      rw [ih, used_of_addTag hnext]
    · rfl

/-- No event of a walk forgets a tag. -/
theorem used_of_meet {resources next : Resources} {event : Event}
    (h : resources.meet event = .ok next) : resources.used ⊆ next.used := by
  cases event with
  | document =>
    cases h
    exact List.Subset.refl _
  | operation visit =>
    obtain ⟨tags, _, h⟩ := bind_eq_ok_iff.mp h
    cases h
    exact (used_noteTags resources tags).1
  | tag tag =>
    rw [used_of_addTag h]
    exact List.Subset.refl _
  | finish =>
    have hused := used_addTags .standard (resources.used.map bareTag) resources
    rw [meet, complete_eq_ok_iff, finish] at h
    rw [h] at hused
    rw [hused]
    exact List.Subset.refl _

theorem used_of_foldlM {resources last : Resources} {events : List Event}
    (h : events.foldlM meet resources = .ok last) : resources.used ⊆ last.used :=
  foldlM_invariant (P := fun next => resources.used ⊆ next.used)
    (fun _ _ _ hused hmeet _ hother => used_of_meet hmeet (hused hother)) h (List.Subset.refl _)

/-! ## Tags that are texts -/

/-- A tag that does not fail has a text as its name. -/
theorem named_of_addTag {resources next : Resources} {tag : Node}
    (h : resources.addTag .standard tag = .ok next) :
    ∃ name, tag.get? "name" = some (.str name) := by
  obtain ⟨value, hvalue, h⟩ := bind_eq_ok_iff.mp h
  have hname : tag.get? "name" = some value :=
    required_eq_ok_iff.mp (orFault_eq_ok_iff.mp hvalue)
  split at h
  · rename_i hhas
    obtain ⟨resource, _, hsame⟩ := List.any_eq_true.mp hhas
    rw [same_str_iff] at hsame
    exact ⟨resource.value, hsame ▸ hname⟩
  · obtain ⟨name, _, h⟩ := bind_eq_ok_iff.mp h
    obtain ⟨description, _, h⟩ := bind_eq_ok_iff.mp h
    obtain ⟨resource, hresource, h⟩ := bind_eq_ok_iff.mp h
    rw [Checked.toExcept_eq_ok_iff, Resource.check] at hresource
    simp only [Checked.seq_eq_valid_iff, Checked.map_eq_valid_iff, Checked.under_eq_valid_iff]
      at hresource
    obtain ⟨_, _, ⟨_, text, ⟨_, _, rfl⟩, htext, rfl⟩, _, rfl⟩ := hresource
    exact ⟨text, Check.text_eq_valid_iff.mp htext ▸ hname⟩

/-- If the end of a walk does not fail, the tags that have been noted are texts. -/
theorem texts_of_finish {resources last : Resources}
    (h : resources.finish .standard = (last, none)) :
    ∀ tag ∈ resources.used, ∃ name, tag = .str name := by
  rw [finish] at h
  have hall (tags : List Node) (start : Resources)
      (hadd : addTags .standard (tags.map bareTag) start = (last, none)) :
      ∀ tag ∈ tags, ∃ name, tag = .str name := by
    induction tags generalizing start with
    | nil => exact List.forall_mem_nil _
    | cons tag tags ih =>
      rw [List.map_cons, addTags] at hadd
      split at hadd
      · rename_i next hnext
        refine List.forall_mem_cons.mpr ⟨?_, ih next hadd⟩
        obtain ⟨name, hname⟩ := named_of_addTag hnext
        exact ⟨name, Option.some.inj hname⟩
      · cases congrArg Prod.snd hadd
  exact hall resources.used resources h

/-- An operation whose tags are noted is a call if all tags that are noted in the end are texts. -/
theorem exists_call_of_operation {resources next : Resources} {operation : Sited}
    (h : resources.noteOperation operation = .ok next) {used : List Node}
    (hsubset : next.used ⊆ used) (htexts : ∀ tag ∈ used, ∃ name, tag = .str name) :
    ∃ tagged : TaggedOperation, tagged.operation = operation := by
  obtain ⟨tags, htags, h⟩ := bind_eq_ok_iff.mp h
  cases h
  have hall : ∀ tag ∈ tags, ∃ name, tag = .str name := by
    intro tag htag
    obtain ⟨noted, hnoted, hsame⟩ := (used_noteTags resources tags).2 tag htag
    obtain ⟨name, rfl⟩ := htexts noted (hsubset hnoted)
    rcases hsame with rfl | hsame
    · exact ⟨name, rfl⟩
    · exact ⟨name, eq_str_of_same hsame⟩
  obtain ⟨names, rfl⟩ := Node.exists_texts hall
  exact ⟨⟨operation, names, orFault_eq_ok_iff.mp htags⟩, rfl⟩

/-! ## The events of a build as calls -/

/-- The events of declared operations are calls if all tags that are noted in the end are texts. -/
theorem exists_calls_of_operations {defaultTag : Node} {declared : List Declaration}
    {events : List Event} {resources last : Resources}
    (hdeclared : List.Forall₂ (fun declaration event => declaration.event defaultTag = .ok event)
      declared events)
    (h : events.foldlM meet resources = .ok last)
    (htexts : ∀ tag ∈ last.used, ∃ name, tag = .str name) :
    ∃ operations : List TaggedOperation,
      List.Forall₂ (fun declaration operation =>
        normalize defaultTag declaration.pathItem declaration.operation = .ok operation.operation)
        declared operations ∧
      run resources (operations.map .operation) = .ok last := by
  induction hdeclared generalizing resources with
  | nil =>
    cases h
    exact ⟨[], .nil, rfl⟩
  | cons hevent _ ih =>
    obtain ⟨operation, hoperation, rfl⟩ := map_eq_ok_iff.mp hevent
    obtain ⟨next, hnext, hrest⟩ := bind_eq_ok_iff.mp h
    obtain ⟨operations, hoperations, hrun⟩ := ih hrest
    obtain ⟨tagged, rfl⟩ := exists_call_of_operation hnext (used_of_foldlM hrest) htexts
    refine ⟨tagged :: operations, .cons (orFault_eq_ok_iff.mp hoperation) hoperations, ?_⟩
    have hattempt : complete (resources.attempt (.operation tagged)) = .ok next := by
      have hnoted : resources.noteOperation tagged.operation = .ok next := hnext
      rw [attempt, hnoted]
      rfl
    exact bind_eq_ok_iff.mpr ⟨next, hattempt, hrun⟩

/-- The events of tags are calls. -/
theorem exists_calls_of_tags {items : List Sited} {resources last : Resources}
    (h : (items.map fun item => Event.tag item.node).foldlM meet resources = .ok last) :
    ∃ tags : List NamedTag, items.map (·.node) = tags.map (·.node) ∧
      run resources (tags.map .tag) = .ok last := by
  induction items generalizing resources with
  | nil =>
    cases h
    exact ⟨[], rfl, rfl⟩
  | cons item items ih =>
    obtain ⟨next, hnext, hrest⟩ := bind_eq_ok_iff.mp h
    obtain ⟨tags, htags, hrun⟩ := ih hrest
    obtain ⟨name, hname⟩ := named_of_addTag hnext
    refine ⟨⟨item.node, name, hname⟩ :: tags, ?_, ?_⟩
    · rw [List.map_cons, List.map_cons, htags]
    · have hattempt : complete (resources.attempt (.tag ⟨item.node, name, hname⟩)) = .ok next := by
        have hadded : resources.addTag .standard item.node = .ok next := hnext
        rw [attempt, hadded]
        rfl
      exact bind_eq_ok_iff.mpr ⟨next, hattempt, hrun⟩

end Resources

/-- The calls of a build: the declared operations in normal form, and the declared tags. -/
structure BuildCalls (settings : Settings) (document : Node) (operations : List TaggedOperation)
    (tags : List NamedTag) : Prop where
  operations : List.Forall₂ (fun declaration operation =>
    normalize (.str settings.defaultTag) declaration.pathItem declaration.operation =
      .ok operation.operation) (declarations document) operations
  tags : ∃ items, ((Sited.root document).entry "tags").elementsIfAny = .ok items ∧
    items.map (·.node) = tags.map (·.node)

section Build

variable {settings : Settings} {document : Node}

/-- The resources of a build are what a collector holds after its calls, none of which fails. -/
theorem exists_buildCalls {skip : Bool} {state : Collected}
    (h : (runWalk (noteEvent document (.standard skip))
      (walk (.str settings.defaultTag) .all document) .empty).result = .ok state) :
    ∃ operations tags, BuildCalls settings document operations tags ∧
      Resources.run .empty (walkCalls operations tags) = .ok state.resources := by
  obtain ⟨events, hwalk, h⟩ := runWalk_eq_ok_iff.mp h
  obtain ⟨operationEvents, tagEvents, hoperations, htags, rfl⟩ := walk_eq_ok hwalk
  obtain ⟨items, hitems, rfl⟩ := tagEvents_eq_ok htags
  obtain ⟨first, hfirst, h⟩ := bind_eq_ok_iff.mp (Resources.foldlM_meet h)
  cases hfirst
  rw [List.foldlM_append] at h
  obtain ⟨noted, hnoted, h⟩ := bind_eq_ok_iff.mp h
  rw [List.foldlM_append] at h
  obtain ⟨declared, hdeclared, h⟩ := bind_eq_ok_iff.mp h
  obtain ⟨last, hfinish, h⟩ := bind_eq_ok_iff.mp h
  cases h
  have hfinish := Resources.complete_eq_ok_iff.mp hfinish
  -- the tags that have been noted are those at the end, and there they are texts
  have htexts : ∀ tag ∈ noted.used, ∃ name, tag = .str name := fun tag htag =>
    Resources.texts_of_finish hfinish tag (Resources.used_of_foldlM hdeclared htag)
  obtain ⟨operations, hcalls, hrunOperations⟩ :=
    Resources.exists_calls_of_operations (declarations_event hoperations) hnoted htexts
  obtain ⟨tags, hnodes, hrunTags⟩ := Resources.exists_calls_of_tags hdeclared
  refine ⟨operations, tags, ⟨hcalls, items, hitems, hnodes⟩, Resources.run_append.mpr ⟨declared,
    Resources.run_append.mpr ⟨noted, hrunOperations, hrunTags⟩, ?_⟩⟩
  exact Resources.run_singleton.mpr hfinish

/-! ## The resources of operations -/

/-- Whether the entries of all operations are tags that have been noted. -/
def Collected.EntriesNoted (state : Collected) : Prop :=
  ∀ compiled ∈ state.operations, ∀ value ∈ compiled.resources, .str value ∈ state.resources.used

/-- A text among the tags of an operation is noted with them. -/
theorem mem_used_of_noteOperation {resources next : Resources} {operation : Sited}
    {tags : List String} (h : resources.noteOperation operation = .ok next)
    (htags : operationTags operation = .ok (tags.map .str)) :
    ∀ tag ∈ tags, .str tag ∈ next.used := by
  obtain ⟨nodes, hnodes, h⟩ := bind_eq_ok_iff.mp h
  rw [orFault_eq_ok_iff, htags] at hnodes
  cases hnodes
  cases h
  intro tag htag
  obtain ⟨noted, hnoted, hsame⟩ :=
    (Resources.used_noteTags resources (tags.map .str)).2 (.str tag) (List.mem_map_of_mem htag)
  rcases hsame with rfl | hsame
  · exact hnoted
  · rw [← same_str_iff.mp hsame]
    exact hnoted

theorem entriesNoted_of_noteEvent {skip : Bool} {state next : Collected} {event : Event}
    (hnoted : state.EntriesNoted)
    (h : (noteEvent document (.standard skip) state event).result = .ok next) :
    next.EntriesNoted := by
  have hused : state.resources.used ⊆ next.resources.used :=
    Resources.used_of_meet (Resources.meet_of_noteEvent h)
  have hkept : ∀ compiled ∈ state.operations, ∀ value ∈ compiled.resources,
      .str value ∈ next.resources.used :=
    fun compiled hcompiled value hvalue => hused (hnoted compiled hcompiled value hvalue)
  cases hevent : event.isOperation with
  | false =>
    rw [Collected.EntriesNoted, operations_of_noteEvent hevent h]
    exact hkept
  | true =>
    obtain ⟨visit, rfl⟩ : ∃ visit, event = .operation visit := by
      cases event with
      | operation visit => exact ⟨visit, rfl⟩
      | _ => cases hevent
    obtain ⟨outcome, houtcome, hoperations⟩ := operations_of_visit h
    rw [Collected.EntriesNoted, hoperations]
    refine List.forall_mem_append.mpr ⟨hkept, fun compiled hcompiled => ?_⟩
    rcases collectOperation_eq_ok houtcome with ⟨_, rfl⟩ | ⟨fields, operation, _, _, hrecord, rfl⟩
    · cases hcompiled
    · obtain rfl := List.mem_singleton.mp hcompiled
      exact mem_used_of_noteOperation (Resources.meet_of_noteEvent h)
        (recordOperation_eq_ok hrecord).2.2.2

theorem entriesNoted_of_runWalk {skip : Bool} {defaultTag : Node} {state : Collected}
    (h : (runWalk (noteEvent document (.standard skip)) (walk defaultTag .all document)
      .empty).result = .ok state) : state.EntriesNoted := by
  obtain ⟨events, _, h⟩ := runWalk_eq_ok_iff.mp h
  exact foldlM_invariant (P := Collected.EntriesNoted)
    (fun _ _ _ hnoted hevent => entriesNoted_of_noteEvent hnoted hevent) h (List.forall_mem_nil _)

/-- The resources of a build are what a collector holds after its calls, and each entry of an
operation is the value of exactly one of them. -/
theorem resources_of_build {result : BuildResult}
    (h : (build settings document).result = .ok result) :
    (∃ operations tags resources, BuildCalls settings document operations tags ∧
      Resources.run .empty (walkCalls operations tags) = .ok resources ∧
      result.resources = resources.found) ∧
    ∀ compiled ∈ result.operations, ∀ value ∈ compiled.resources,
      (result.resources.map (·.value)).count value = 1 := by
  obtain ⟨state, overridden, hstate, hoverridden, hresult⟩ := build_eq_ok_iff.mp h
  obtain ⟨hfound, rfl, _⟩ := Collected.resultWith_eq_ok hresult
  obtain ⟨operations, tags, hcalls, hrun⟩ := exists_buildCalls hstate
  refine ⟨⟨operations, tags, state.resources, hcalls, hrun, hfound⟩, ?_⟩
  intro compiled hcompiled value hvalue
  rw [hfound]
  obtain ⟨original, horiginal, hoverride⟩ := exists_left_of_forall₂ hoverridden hcompiled
  obtain ⟨fields, _, rfl⟩ := overrideOperation_eq_ok hoverride
  have hnoted := entriesNoted_of_runWalk hstate original horiginal value hvalue
  have hstate := Resources.after_of_run hrun
  have hmem : value ∈ state.resources.values := by
    rw [hstate, Resources.after_eq] at hnoted
    obtain ⟨tag, htag, heq⟩ := List.mem_map.mp hnoted
    cases heq
    have hused := List.mem_eraseDups.mp htag
    rw [hstate, walkCalls]
    rw [walkCalls, usedTags_append] at hused
    exact Resources.mem_values_of_finish ((List.mem_append.mp hused).resolve_right
      (List.not_mem_nil)) []
  apply List.count_eq_one_of_mem _ hmem
  rw [Resources.values, hstate, Resources.found_after]
  exact nodup_firstOfEach _

end Build

/-! ## All calls -/

/-- After any calls the values of the resources differ, what was there before is still there in its
place, and a resource is the first one of its value that has been offered: it has the label and the
description of the first tag that was added under its value, be that a declared tag or the bare one
that the end of a walk adds for a name in use. Only a tag with a new name and a description that is
no text fails. At the end of a walk there is a resource for each tag of the operations that were met,
and when the end comes again without an operation in between, it adds nothing. After a walk the
resources are those of the declared tags and then those of the other tags in use, each of them once
and in the order in which they were met. The resources of a build are those of such a walk, and each
entry of an operation is the value of exactly one of them. -/
theorem resources_exact :
    (∀ calls, (Resources.after calls).values.Nodup) ∧
    (∀ calls more, (Resources.after calls).found <+: (Resources.after (calls ++ more)).found) ∧
    (∀ calls resource, resource ∈ (Resources.after calls).found ↔
      (offered calls).find? (·.value == resource.value) = some resource) ∧
    (∀ calls call, ((Resources.after calls).attempt call).2 = none ∨
      ∃ tag, call = .tag tag ∧ tag.resource? = none ∧
        tag.name ∉ (Resources.after calls).values) ∧
    (∀ calls more, ∀ tag ∈ usedTags calls,
      tag ∈ (Resources.after (calls ++ .finish :: more)).values) ∧
    (∀ calls more, usedTags more = [] →
      Resources.after (calls ++ .finish :: more ++ [.finish]) =
        Resources.after (calls ++ .finish :: more)) ∧
    (∀ operations tags resources, Resources.run .empty (walkCalls operations tags) = .ok resources →
      resources.values = (tags.map (·.name)).eraseDups ++
        ((operations.flatMap (·.tags)).filter fun tag => tag ∉ tags.map (·.name)).eraseDups) ∧
    ∀ settings document result, (build settings document).result = .ok result →
      (∃ operations tags resources, BuildCalls settings document operations tags ∧
        Resources.run .empty (walkCalls operations tags) = .ok resources ∧
        result.resources = resources.found) ∧
      ∀ compiled ∈ result.operations, ∀ value ∈ compiled.resources,
        (result.resources.map (·.value)).count value = 1 := by
  refine ⟨fun calls => ?_, Resources.isPrefix_found, fun calls resource => ?_, fun calls call => ?_,
    fun calls more tag htag => Resources.mem_values_of_finish htag more,
    fun calls more hmore => Resources.after_finish_again calls hmore,
    fun operations tags resources hrun => Resources.values_of_walk hrun,
    fun settings document result hbuild => resources_of_build hbuild⟩
  · rw [Resources.values, Resources.found_after]
    exact nodup_firstOfEach _
  · rw [Resources.found_after]
    exact mem_firstOfEach_iff _
  · rw [Resources.after_eq]
    exact Resources.attempt_eq_none _ _ call

/-- An operation in two groups, one of them named twice. -/
def groupedOperation : TaggedOperation where
  operation := .outside (.map [(.str "tags", .list [.str "pets", .str "store", .str "pets"])])
  tags := ["pets", "store", "pets"]
  tagged := rfl

/-- A group with a description. -/
def storeTag : NamedTag where
  node := .map [(.str "name", .str "store"), (.str "description", .str "Orders and stock")]
  name := "store"
  named := rfl

/-- A document with an operation in both groups, of which it describes one. -/
def groupedDocument : Node :=
  .map [(.str "paths", .map [(.str "/pets", .map [(.str "get", groupedOperation.operation.node)])]),
    (.str "tags", .list [storeTag.node])]

theorem resources_exact_store :
    "pets" ∈ (Resources.after [.operation groupedOperation, .finish, .tag storeTag]).values ∧
    Resources.after [.operation groupedOperation, .finish, .tag storeTag, .finish] =
      Resources.after [.operation groupedOperation, .finish, .tag storeTag] ∧
    (∃ resources, Resources.run .empty (walkCalls [groupedOperation] [storeTag]) = .ok resources ∧
      resources.values = ["store", "pets"]) ∧
    ∃ result, (build .standard groupedDocument).result = .ok result ∧
      result.resources.map (·.description) = [some "Orders and stock", none] ∧
      (∃ compiled, result.operations = [compiled] ∧
        compiled.resources = ["pets", "store", "pets"]) ∧
      ∀ compiled ∈ result.operations, ∀ value ∈ compiled.resources,
        (result.resources.map (·.value)).count value = 1 := by
  obtain ⟨-, -, -, -, hpresent, hagain, hwalk, hbuild⟩ := resources_exact
  refine ⟨hpresent [.operation groupedOperation] [.tag storeTag] "pets" List.mem_cons_self,
    hagain [.operation groupedOperation] [.tag storeTag] rfl, ⟨_, rfl, ?_⟩,
    ⟨_, rfl, rfl, ⟨_, rfl, rfl⟩, (hbuild .standard groupedDocument _ rfl).2⟩⟩
  exact (hwalk [groupedOperation] [storeTag] _ rfl).trans (by decide)

end RoutedFields
