import RoutedFields.Build.Result
import RoutedFields.Proofs.Build.FirstOfEach
import RoutedFields.Proofs.Document.Parts
import RoutedFields.Proofs.Results

/-!
# Collecting resources

A collector is called with tags, with operations and with the end of a walk, in any order and as
often as one likes. What it holds afterwards depends only on what the calls offer: a tag offers the
resource that it describes, and the end of a walk offers a bare one for each tag that has been used.
Of all these the first of each value is kept.

* `NamedTag`, `TaggedOperation`, `ResourceCall`: calls whose tags have texts as names.
* `Resources.after`, `offered`: what a collector holds after some calls, and what they offer.
* `attempt_eq`: one call.
* `after_eq`: any calls.
* `values_of_walk`: the calls of a walk.
-/

namespace RoutedFields

/-! ## Calls -/

/-- A tag with a text as its name. -/
structure NamedTag where
  node : Node
  name : String
  named : node.get? "name" = some (.str name)

/-- An operation whose tags are texts. -/
structure TaggedOperation where
  operation : Sited
  tags : List String
  tagged : operationTags operation = .ok (tags.map .str)

/-- A call of a collector. -/
inductive ResourceCall
  | tag (tag : NamedTag)
  | operation (operation : TaggedOperation)
  | finish

/-- The resource of a tag that has a name and nothing else. -/
def bareResource (name : String) : Resource :=
  ⟨labelText name, name, none⟩

/-- The resource that a tag describes, unless its description is no text. -/
def NamedTag.resource? (tag : NamedTag) : Option Resource :=
  match Check.nullable Check.text (tag.node.entry "description") with
  | .valid description => some ⟨labelText tag.name, tag.name, description⟩
  | .invalid _ => none

namespace ResourceCall

/-- The tags that a call uses. -/
def uses : ResourceCall → List String
  | .tag _ => []
  | .operation visited => visited.tags
  | .finish => []

/-- The resources that a call offers after some tags have been used. -/
def offers (used : List String) : ResourceCall → List Resource
  | .tag declared => declared.resource?.toList
  | .operation _ => []
  | .finish => used.eraseDups.map bareResource

end ResourceCall

/-- The calls of a walk: the operations, the tags and the end. -/
def walkCalls (operations : List TaggedOperation) (tags : List NamedTag) : List ResourceCall :=
  operations.map .operation ++ tags.map .tag ++ [.finish]

/-- The tags that calls use, in order. -/
def usedTags (calls : List ResourceCall) : List String :=
  calls.flatMap (·.uses)

/-- The resources that calls offer after some tags have been used, in order. -/
def offeredAfter (used : List String) : List ResourceCall → List Resource
  | [] => []
  | call :: calls => call.offers used ++ offeredAfter (used ++ call.uses) calls

/-- The resources that calls offer from the start, in order. -/
def offered (calls : List ResourceCall) : List Resource :=
  offeredAfter [] calls

theorem usedTags_cons (call : ResourceCall) (calls : List ResourceCall) :
    usedTags (call :: calls) = call.uses ++ usedTags calls :=
  List.flatMap_cons

theorem usedTags_append (calls more : List ResourceCall) :
    usedTags (calls ++ more) = usedTags calls ++ usedTags more :=
  List.flatMap_append

theorem offeredAfter_append (used : List String) (calls more : List ResourceCall) :
    offeredAfter used (calls ++ more) =
      offeredAfter used calls ++ offeredAfter (used ++ usedTags calls) more := by
  induction calls generalizing used with
  | nil => rw [usedTags, List.flatMap_nil, List.append_nil]; rfl
  | cons call calls ih =>
    rw [List.cons_append, offeredAfter, offeredAfter, ih, usedTags_cons, List.append_assoc,
      List.append_assoc]

theorem offered_append_singleton (calls : List ResourceCall) (call : ResourceCall) :
    offered (calls ++ [call]) = offered calls ++ call.offers (usedTags calls) := by
  rw [offered, offeredAfter_append, List.nil_append, offeredAfter, offeredAfter, List.append_nil,
    offered]

namespace Resources

/-- A call of a collector with the usual policy. A call that fails leaves what is there as it is,
but at the end of a walk what has been added before the failure stays. -/
def attempt (resources : Resources) : ResourceCall → Resources × Option Failure
  | .tag tag =>
    match resources.addTag .standard tag.node with
    | .ok added => (added, none)
    | .error failure => (resources, some failure)
  | .operation operation =>
    match resources.noteOperation operation.operation with
    | .ok noted => (noted, none)
    | .error failure => (resources, some failure)
  | .finish => resources.finish .standard

/-- What a collector holds after some calls, whether they failed or not. -/
def after (calls : List ResourceCall) : Resources :=
  calls.foldl (fun resources call => (resources.attempt call).1) empty

theorem after_append (calls more : List ResourceCall) :
    after (calls ++ more) =
      more.foldl (fun resources call => (resources.attempt call).1) (after calls) :=
  List.foldl_append

/-! ## One call -/

/-- The values of the resources that are there. -/
def values (resources : Resources) : List String :=
  resources.found.map (·.value)

theorem has_str_iff (resources : Resources) (value : String) :
    resources.has (.str value) = true ↔ value ∈ resources.values := by
  have hsame (other : String) : (Node.str value).same (.str other) = true ↔ other = value := by
    rw [Node.same, Scalar.same_str_iff, Scalar.str.injEq]
    exact eq_comm
  rw [has, List.any_eq_true, values, List.mem_map]
  exact exists_congr fun resource => and_congr_right fun _ => hsame resource.value

section AddTag

variable (resources : Resources) (tag : NamedTag)

theorem tagName_eq : tagName tag.node = .ok (.str tag.name) :=
  orFault_eq_ok_iff.mpr (required_eq_ok_iff.mpr tag.named)

theorem tagDescription_eq : tagDescription tag.node = .ok (tag.node.entry "description") := by
  have hmap : (Sited.outside tag.node).node.isMap = true := by
    apply isMap_of_get?
    rw [Sited.get?_outside]
    exact congrArg (Option.map Sited.outside) tag.named
  rw [tagDescription, Sited.member, if_pos hmap, Sited.entry_outside]
  rfl

/-- A tag whose value is there adds nothing. -/
theorem addTag_of_mem (h : tag.name ∈ resources.values) :
    resources.addTag .standard tag.node = .ok resources := by
  rw [addTag]
  show tagName tag.node >>= _ = _
  rw [tagName_eq]
  exact if_pos ((has_str_iff resources tag.name).mpr h)

/-- A tag whose value is new adds the resource that it describes, or else it fails. -/
theorem addTag_of_not_mem (h : tag.name ∉ resources.values) :
    (∃ resource, tag.resource? = some resource ∧ resources.addTag .standard tag.node =
      .ok { resources with found := resources.found ++ [resource] }) ∨
    (tag.resource? = none ∧ ∃ failure, resources.addTag .standard tag.node = .error failure) := by
  have hnew : resources.has (.str tag.name) = false := by
    rw [Bool.eq_false_iff, Ne, has_str_iff]
    exact h
  have hadd : resources.addTag .standard tag.node = (do
      let resource ← (Resource.check (.str (labelText tag.name)) (.str tag.name)
        (tag.node.entry "description")).toExcept
      return { resources with found := resources.found ++ [resource] }) := by
    rw [addTag]
    show tagName tag.node >>= _ = _
    rw [tagName_eq]
    show (if resources.has (.str tag.name) then _ else _) = _
    rw [hnew, if_neg Bool.false_ne_true]
    show (tagName tag.node >>= _) >>= _ = _
    rw [tagName_eq]
    show tagDescription tag.node >>= _ = _
    rw [tagDescription_eq]
    rfl
  rw [hadd, NamedTag.resource?]
  cases hdescription : Check.nullable Check.text (tag.node.entry "description") with
  | valid description =>
    refine .inl ⟨_, rfl, ?_⟩
    rw [Resource.check, hdescription]
    rfl
  | invalid issues =>
    refine .inr ⟨rfl, ?_⟩
    rw [Resource.check, hdescription]
    exact ⟨_, rfl⟩

theorem NamedTag.value_of_resource? {resource : Resource} (h : tag.resource? = some resource) :
    resource.value = tag.name := by
  rw [NamedTag.resource?] at h
  split at h
  · cases h
    rfl
  · cases h

/-- A tag that describes a resource adds it unless its value is there. -/
theorem addTag_of_resource? {resource : Resource} (h : tag.resource? = some resource) :
    resources.addTag .standard tag.node =
      .ok { resources with found := enroll resources.found resource } := by
  have henroll : enroll resources.found resource =
      if tag.name ∈ resources.values then resources.found else resources.found ++ [resource] := by
    rw [enroll, NamedTag.value_of_resource? tag h]
    rfl
  rw [henroll]
  by_cases hmem : tag.name ∈ resources.values
  · rw [addTag_of_mem resources tag hmem, if_pos hmem]
  · rw [if_neg hmem]
    rcases addTag_of_not_mem resources tag hmem with ⟨other, hother, hadd⟩ | ⟨hnone, _⟩
    · obtain rfl := Option.some.inj (h.symm.trans hother)
      exact hadd
    · rw [h] at hnone
      cases hnone

end AddTag

/-- What a collector holds once some resources have been offered and some tags used. -/
def holding (offers : List Resource) (used : List String) : Resources :=
  ⟨firstOfEach offers, used.eraseDups.map .str⟩

section Attempt

variable (offers : List Resource) (used : List String)

theorem attempt_tag (tag : NamedTag) :
    ((holding offers used).attempt (.tag tag)).1 =
      holding (offers ++ tag.resource?.toList) used := by
  rw [attempt]
  cases hresource : tag.resource? with
  | some resource =>
    rw [addTag_of_resource? _ tag hresource, Option.toList_some, holding, holding,
      firstOfEach_append]
    rfl
  | none =>
    rw [Option.toList_none, List.append_nil]
    by_cases hmem : tag.name ∈ (holding offers used).values
    · rw [addTag_of_mem _ tag hmem]
    · rcases addTag_of_not_mem _ tag hmem with ⟨resource, hsome, _⟩ | ⟨_, failure, hfail⟩
      · rw [hresource] at hsome
        cases hsome
      · rw [hfail]

theorem noteTag_holding (tag : String) :
    (holding offers used).noteTag (.str tag) = holding offers (used ++ [tag]) := by
  have hused : (used.eraseDups.map Node.str).any (·.same (.str tag)) = true ↔ tag ∈ used := by
    rw [List.any_map, List.any_eq_true]
    constructor
    · rintro ⟨other, hother, hsame⟩
      have hother := List.mem_eraseDups.mp hother
      rw [Function.comp_apply, Node.same, Scalar.same_str_iff, Scalar.str.injEq] at hsame
      exact hsame ▸ hother
    · intro htag
      refine ⟨tag, List.mem_eraseDups.mpr htag, ?_⟩
      rw [Function.comp_apply, Node.same, Scalar.same_str_iff]
  rw [noteTag, holding, holding, eraseDups_append_singleton]
  by_cases htag : tag ∈ used
  · rw [if_pos (hused.mpr htag), if_pos htag]
  · rw [if_neg (fun h => htag (hused.mp h)), if_neg htag, List.map_append]
    rfl

theorem noteTags_holding (tags : List String) :
    (tags.map Node.str).foldl noteTag (holding offers used) = holding offers (used ++ tags) := by
  induction tags generalizing used with
  | nil => rw [List.append_nil]; rfl
  | cons tag tags ih =>
    rw [List.map_cons, List.foldl_cons, noteTag_holding, ih, List.append_assoc]
    rfl

theorem noteOperation_holding (operation : TaggedOperation) :
    (holding offers used).noteOperation operation.operation =
      .ok (holding offers (used ++ operation.tags)) := by
  rw [noteOperation, operation.tagged]
  show Except.ok ((operation.tags.map Node.str).foldl noteTag (holding offers used)) = _
  rw [noteTags_holding]

/-- The tag that has a name and nothing else describes a bare resource. -/
theorem addTags_bare (resources : Resources) (names : List String) :
    addTags .standard ((names.map Node.str).map bareTag) resources =
      ({ resources with found := (names.map bareResource).foldl enroll resources.found },
        none) := by
  induction names generalizing resources with
  | nil => rfl
  | cons name names ih =>
    have hadd : resources.addTag .standard (bareTag (.str name)) =
        .ok { resources with found := enroll resources.found (bareResource name) } :=
      addTag_of_resource? resources ⟨bareTag (.str name), name, rfl⟩ rfl
    rw [List.map_cons, List.map_cons, addTags, hadd]
    exact ih _

theorem finish_holding :
    (holding offers used).finish .standard =
      (holding (offers ++ used.eraseDups.map bareResource) used, none) := by
  rw [finish, holding, addTags_bare, holding, firstOfEach_append]

/-- After a call a collector holds the first of each value that has been offered with what the call
offers, and the tags that have been used with those that the call uses. -/
theorem attempt_eq (call : ResourceCall) :
    ((holding offers used).attempt call).1 =
      holding (offers ++ call.offers used) (used ++ call.uses) := by
  cases call with
  | tag tag =>
    rw [attempt_tag, ResourceCall.uses, List.append_nil]
    rfl
  | operation operation =>
    rw [attempt, noteOperation_holding, ResourceCall.offers, List.append_nil]
    rfl
  | finish =>
    rw [attempt, finish_holding, ResourceCall.uses, List.append_nil]
    rfl

/-- Only a tag can fail, and only if its value is new and its description is no text. -/
theorem attempt_eq_none (call : ResourceCall) :
    ((holding offers used).attempt call).2 = none ∨
      ∃ tag, call = .tag tag ∧ tag.resource? = none ∧ tag.name ∉ (holding offers used).values := by
  cases call with
  | tag tag =>
    by_cases hmem : tag.name ∈ (holding offers used).values
    · rw [attempt, addTag_of_mem _ tag hmem]
      exact .inl rfl
    · rcases addTag_of_not_mem _ tag hmem with ⟨resource, _, hadd⟩ | ⟨hnone, _⟩
      · rw [attempt, hadd]
        exact .inl rfl
      · exact .inr ⟨tag, rfl, hnone, hmem⟩
  | operation operation =>
    rw [attempt, noteOperation_holding]
    exact .inl rfl
  | finish =>
    rw [attempt, finish_holding]
    exact .inl rfl

end Attempt

/-! ## Any calls -/

/-- After any calls a collector holds the first resource of each value that they have offered, and
the tags that they have used. -/
theorem after_eq (calls : List ResourceCall) :
    after calls = holding (offered calls) (usedTags calls) := by
  induction calls using List.reverseRecOn with
  | nil => rfl
  | append_singleton calls call ih =>
    rw [after_append, List.foldl_cons, List.foldl_nil, ih, attempt_eq, offered_append_singleton,
      usedTags_append]
    rw [usedTags_cons]
    exact congrArg (holding _) (congrArg (usedTags calls ++ ·) (List.append_nil _).symm)

theorem found_after (calls : List ResourceCall) :
    (after calls).found = firstOfEach (offered calls) :=
  congrArg Resources.found (after_eq calls)

theorem values_after (calls : List ResourceCall) :
    (after calls).values = ((offered calls).map (·.value)).eraseDups := by
  rw [values, found_after, values_firstOfEach]

/-- What has been collected stays in its place. -/
theorem isPrefix_found (calls more : List ResourceCall) :
    (after calls).found <+: (after (calls ++ more)).found := by
  have hoffered :
      offered (calls ++ more) = offered calls ++ offeredAfter (usedTags calls) more := by
    rw [offered, offeredAfter_append, List.nil_append, offered]
  rw [found_after, found_after, hoffered, firstOfEach_append]
  exact isPrefix_foldl_enroll _ _

/-- After the end of a walk there is a resource for every tag that has been used before. -/
theorem mem_values_of_finish {calls : List ResourceCall} {tag : String} (h : tag ∈ usedTags calls)
    (more : List ResourceCall) : tag ∈ (after (calls ++ .finish :: more)).values := by
  have hfinished : tag ∈ (after (calls ++ [.finish])).values := by
    rw [values_after, List.mem_eraseDups, offered_append_singleton, List.map_append,
      List.mem_append, ResourceCall.offers, List.map_map]
    exact .inr (List.mem_map.mpr ⟨tag, List.mem_eraseDups.mpr h, rfl⟩)
  have hstays := (isPrefix_found (calls ++ [.finish]) more).subset
  rw [List.append_assoc, List.singleton_append] at hstays
  obtain ⟨resource, hresource, hvalue⟩ := List.mem_map.mp hfinished
  exact List.mem_map.mpr ⟨resource, hstays hresource, hvalue⟩

theorem foldl_enroll_of_subset {kept resources : List Resource}
    (h : ∀ resource ∈ resources, resource.value ∈ kept.map (·.value)) :
    resources.foldl enroll kept = kept := by
  induction resources with
  | nil => rfl
  | cons resource resources ih =>
    obtain ⟨hfirst, hrest⟩ := List.forall_mem_cons.mp h
    rw [List.foldl_cons, enroll, if_pos hfirst, ih hrest]

/-- The end of a walk adds nothing if it has come before and no operation has been met since. -/
theorem after_finish_again (calls : List ResourceCall) {more : List ResourceCall}
    (h : usedTags more = []) :
    after (calls ++ .finish :: more ++ [.finish]) = after (calls ++ .finish :: more) := by
  have hused : usedTags (calls ++ .finish :: more) = usedTags calls := by
    rw [usedTags_append, usedTags_cons, h]
    exact List.append_nil _
  have hlast : usedTags (calls ++ .finish :: more ++ [.finish]) = usedTags calls := by
    rw [usedTags_append, hused]
    exact List.append_nil _
  rw [after_eq, after_eq, hused, hlast, holding, holding, offered_append_singleton, hused,
    firstOfEach_append, foldl_enroll_of_subset]
  intro resource hresource
  obtain ⟨tag, htag, rfl⟩ := List.mem_map.mp hresource
  rw [← found_after]
  exact mem_values_of_finish (List.mem_eraseDups.mp htag) more

/-! ## The calls of a walk -/

/-- What a collector holds after some calls, if none of them fails. -/
def run (resources : Resources) (calls : List ResourceCall) : Except Failure Resources :=
  calls.foldlM (fun resources call => complete (resources.attempt call)) resources

theorem complete_eq_ok_iff {outcome : Resources × Option Failure} {resources : Resources} :
    complete outcome = .ok resources ↔ outcome = (resources, none) := by
  obtain ⟨found, failure⟩ := outcome
  cases failure <;> simp [complete]

theorem foldl_of_run {resources last : Resources} {calls : List ResourceCall}
    (h : run resources calls = .ok last) :
    last = calls.foldl (fun resources call => (resources.attempt call).1) resources := by
  induction calls generalizing resources with
  | nil =>
    cases h
    rfl
  | cons call calls ih =>
    obtain ⟨next, hnext, h⟩ := bind_eq_ok_iff.mp h
    rw [List.foldl_cons, complete_eq_ok_iff.mp hnext]
    exact ih h

theorem after_of_run {resources : Resources} {calls : List ResourceCall}
    (h : run empty calls = .ok resources) : resources = after calls :=
  foldl_of_run h

theorem run_append {resources last : Resources} {calls more : List ResourceCall} :
    run resources (calls ++ more) = .ok last ↔
      ∃ next, run resources calls = .ok next ∧ run next more = .ok last := by
  rw [run, List.foldlM_append, bind_eq_ok_iff]
  rfl

theorem run_singleton {resources last : Resources} {call : ResourceCall} :
    run resources [call] = .ok last ↔ resources.attempt call = (last, none) := by
  rw [← complete_eq_ok_iff, run, List.foldlM_cons, bind_eq_ok_iff]
  constructor
  · rintro ⟨next, hnext, h⟩
    cases h
    exact hnext
  · exact fun h => ⟨last, h, rfl⟩

/-- A tag that does not fail has its name among the values afterwards. -/
theorem values_of_tag {resources next : Resources} {tag : NamedTag}
    (h : resources.attempt (.tag tag) = (next, none)) :
    next.values =
      if tag.name ∈ resources.values then resources.values else resources.values ++ [tag.name] := by
  by_cases hmem : tag.name ∈ resources.values
  · rw [attempt, addTag_of_mem _ tag hmem] at h
    obtain ⟨rfl, -⟩ := Prod.mk.inj h
    rw [if_pos hmem]
  · rw [if_neg hmem]
    rcases addTag_of_not_mem _ tag hmem with ⟨resource, hresource, hadd⟩ | ⟨_, failure, hfail⟩
    · rw [attempt, hadd] at h
      obtain ⟨rfl, -⟩ := Prod.mk.inj h
      rw [values, List.map_append, List.map_singleton, NamedTag.value_of_resource? tag hresource]
      rfl
    · rw [attempt, hfail] at h
      cases congrArg Prod.snd h

theorem values_of_tags {resources last : Resources} {tags : List NamedTag}
    (hempty : resources.values = []) (h : run resources (tags.map .tag) = .ok last) :
    last.values = (tags.map (·.name)).eraseDups := by
  induction tags using List.reverseRecOn generalizing last with
  | nil =>
    cases h
    exact hempty
  | append_singleton tags tag ih =>
    rw [List.map_append] at h
    obtain ⟨next, hnext, h⟩ := run_append.mp h
    rw [values_of_tag (run_singleton.mp h), ih hnext, List.map_append, List.map_singleton,
      eraseDups_append_singleton]
    simp only [List.mem_eraseDups]

theorem after_operations (operations : List TaggedOperation) :
    offered (operations.map .operation) = [] ∧
      usedTags (operations.map .operation) = operations.flatMap (·.tags) := by
  constructor
  · have hnone (used : List String) : offeredAfter used (operations.map .operation) = [] := by
      induction operations generalizing used with
      | nil => rfl
      | cons operation operations ih => exact ih (used ++ operation.tags)
    exact hnone []
  · rw [usedTags, List.flatMap_map]
    rfl

theorem usedTags_tags (tags : List NamedTag) : usedTags (tags.map .tag) = [] := by
  induction tags with
  | nil => rfl
  | cons tag tags ih => exact ih

/-- After a walk in which no call has failed the resources are those of the declared tags, each of
them once and in order, and then those of the other tags that operations use, in the order in which
they are first met. -/
theorem values_of_walk {operations : List TaggedOperation} {tags : List NamedTag}
    {resources : Resources} (h : run empty (walkCalls operations tags) = .ok resources) :
    resources.values = (tags.map (·.name)).eraseDups ++
      ((operations.flatMap (·.tags)).filter fun tag => tag ∉ tags.map (·.name)).eraseDups := by
  obtain ⟨declared, hdeclared, hfinish⟩ := run_append.mp h
  obtain ⟨noted, hnoted, htags⟩ := run_append.mp hdeclared
  obtain ⟨hoffered, hused⟩ := after_operations operations
  have hnone : noted.values = [] := by
    rw [after_of_run hnoted, values_after, hoffered]
    rfl
  have hvalues := values_of_tags hnone htags
  have hstate := after_of_run hdeclared
  have husedAll : usedTags (operations.map .operation ++ tags.map .tag) =
      operations.flatMap (·.tags) := by
    rw [usedTags_append, hused, usedTags_tags, List.append_nil]
  rw [after_eq, husedAll] at hstate
  rw [run_singleton, attempt, hstate, finish_holding] at hfinish
  obtain ⟨hfinish, -⟩ := Prod.mk.inj hfinish
  rw [← hfinish, values, holding, firstOfEach_append, values_foldl_enroll]
  have hfound : (firstOfEach (offered (operations.map .operation ++ tags.map .tag))).map (·.value) =
      (tags.map (·.name)).eraseDups := by
    rw [← hvalues, hstate]
    rfl
  have hbare (names : List String) : (names.map bareResource).map (·.value) = names := by
    rw [List.map_map]
    exact List.map_id names
  rw [hfound, hbare, filter_eraseDups, eraseDups_of_nodup (nodup_eraseDups _)]
  simp only [List.mem_eraseDups]

end Resources

end RoutedFields
