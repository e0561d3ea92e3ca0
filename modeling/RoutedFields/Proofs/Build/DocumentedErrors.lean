import RoutedFields.Proofs.Build.ResourcesOfBuild
import RoutedFields.Proofs.Compile.BodyErrors
import RoutedFields.Proofs.Walk.TypedOperations

/-!
# The errors of a build

Where every place of a document holds a value of its kind, a build yields a result, or else it fails
with a documented error: a reference leads nowhere, or an input has no field. The exceptions are
those of parameters and of bodies: a schema `true` that is asked for its parts, an array in the query
that is asked for the name that it lacks, and a type, an example or a literal that is beyond the
limits of what is written out.

* `Declaration.Stumbles`, `BuildStumbles`: the exceptions.
* `failsOnly_collectOperation`: what fails at an operation.
* `failsOnly_noteEvent`, `isRegular_of_noteEvent`: what fails at an event of a walk, and what it
  keeps.
* `failures_of_build`: a build fails with documented errors only, unless an operation is an
  exception, and then it always fails.
* `queryDocument_not_documented`: documents with exceptions, and one with a torn text.

**Deviation (torn texts).** A torn text is no text here. A document can hold one, and where it stands
for a name, a label or a description, a build fails without a documented error.
-/

namespace RoutedFields

/-- Whether an input of a declared operation leads to a fault. -/
inductive Declaration.Stumbles (document : Node) (declaration : Declaration) : Fault → Prop
  | parameter (parameters : List Sited)
    (hparameters : mergeParameters (declaration.pathItem.entry "parameters").elementsIfAny
      (declaration.operation.entry "parameters").elementsIfAny = .ok parameters)
    (parameter : Sited) (hmem : parameter ∈ parameters) (fault : Fault)
    (hfault : ParameterStumbles document parameter fault) : Stumbles document declaration fault
  | body (fault : Fault)
    (hfault : BodyStumbles document (declaration.operation.entry "requestBody") fault) :
    Stumbles document declaration fault

/-- Whether an operation that a build takes up leads to a fault. -/
def BuildStumbles (settings : Settings) (document : Node) (fault : Fault) : Prop :=
  ∃ declaration ∈ keptDeclarations settings document, declaration.Stumbles document fault

theorem Failure.IsDocumentedOr.inOperation {P : Fault → Prop} {failure : Failure}
    (h : failure.IsDocumentedOr P) (operation : String) :
    (failure.inOperation operation).IsDocumentedOr P := by
  unfold Failure.inOperation
  split
  · trivial
  · exact h

/-! ## One operation -/

section Operation

variable {settings : Settings} {document : Node} {declaration : Declaration} {operation : Sited}

/-- The inputs of an operation are compiled unless one of them is an exception. -/
theorem failsOnly_compileFields (htyped : WellTyped.Operation document declaration)
    (hnormalized : Normalized declaration operation) :
    FailsOnly (Failure.IsDocumentedOr (declaration.Stumbles document))
      (compileFields document operation) := by
  obtain ⟨merged, hmerged, hfields⟩ := compileFields_of_normalized document hnormalized
  obtain ⟨merged', hmerged', hsubset⟩ :=
    WellTyped.exists_mergeParameters htyped.ofPath htyped.parameters
  obtain rfl := Except.ok.inj (hmerged.symm.trans hmerged')
  -- a merged parameter is one of the path or one of the operation, and both stand at typed places
  have hparameter (p : Sited) (hp : p ∈ merged) :
      WellTyped.At document (WellTyped.Parameter document) p := by
    rcases List.mem_append.mp (hsubset hp) with hofPath | hown
    · exact htyped.ofPath.each p hofPath
    · exact htyped.parameters.each p hown
  rw [hfields]
  refine FailsOnly.bind (.mapM fun p hp => ?_) fun ofParameters _ => ?_
  · exact (failsOnly_compileParameter (hparameter p hp)).mono fun failure =>
      Failure.IsDocumentedOr.mono fun fault => .parameter merged hmerged p hp fault
  · have hofBody := (failsOnly_compileBody htyped.body).mono fun failure =>
      Failure.IsDocumentedOr.mono Declaration.Stumbles.body
    exact hofBody.bind fun ofBody _ => failsOnly_ok _ _

/-- A declared operation that leads to a fault is never compiled. -/
theorem not_stumbles_of_compiledFrom {compiled : CompiledOperation} {fault : Fault}
    (h : CompiledFrom document declaration compiled) :
    ¬declaration.Stumbles document fault := by
  obtain ⟨parameters, ofParameters, ofBody, hmerged, hcompiled, hbody, _⟩ := h.fields
  intro hstumbles
  cases hstumbles with
  | parameter parameters' hmerged' parameter hmem fault hfault =>
    obtain rfl := Except.ok.inj (hmerged.symm.trans hmerged')
    obtain ⟨field, _, hfield⟩ := exists_left_of_forall₂ hcompiled.flip hmem
    exact not_parameterStumbles_of_compile hfield hfault
  | body fault hfault => exact not_bodyStumbles_of_compile hbody hfault

/-! ## Recording an operation -/

theorem exists_nullable {value : Node} (h : value.isAbsentOr Node.isText = true) :
    ∃ text, Check.nullable Check.text value = .valid text := by
  rcases Node.isAbsentOr_iff.mp h with rfl | htext
  · exact ⟨none, rfl⟩
  · obtain ⟨text, rfl⟩ := Node.isText_iff.mp htext
    exact ⟨some text, rfl⟩

/-- An operation has a label. -/
theorem exists_operationName (htyped : WellTyped.Operation document declaration)
    (hnormalized : Normalized declaration operation) :
    ∃ name, operationName ⟨declaration.method, declaration.pattern, operation⟩ =
      .ok (.str name) := by
  rw [operationName, member_of_normalized hnormalized (by decide) (by decide)]
  by_cases htruthy : (declaration.operation.node.entry "operationId").isTruthy = true
  · obtain ⟨identifier, hidentifier⟩ :=
      Node.isText_iff.mp (Node.of_isAbsentOr htyped.operationId htruthy)
    rw [hidentifier] at htruthy ⊢
    exact ⟨_, if_pos htruthy⟩
  · obtain ⟨pattern, hpattern⟩ := Scalar.isText_iff.mp htyped.pattern
    rw [hpattern]
    exact ⟨_, if_neg htruthy⟩

theorem exists_operationAction (htyped : WellTyped.Operation document declaration)
    (hnormalized : Normalized declaration operation) :
    ∃ action, operationAction ⟨declaration.method, declaration.pattern, operation⟩ =
      .ok (.str action) := by
  rw [operationAction, member_of_normalized hnormalized (by decide) (by decide)]
  by_cases htruthy : (declaration.operation.node.entry "summary").isTruthy = true
  · obtain ⟨text, htext⟩ := Node.isText_iff.mp (Node.of_isAbsentOr htyped.summary htruthy)
    refine ⟨text, ?_⟩
    rw [← htext]
    exact if_pos htruthy
  · obtain ⟨name, hname⟩ := exists_operationName htyped hnormalized
    refine ⟨name, ?_⟩
    rw [← hname]
    exact if_neg htruthy

theorem exists_operationDescription (htyped : WellTyped.Operation document declaration)
    (hnormalized : Normalized declaration operation) :
    ∃ description, operationDescription ⟨declaration.method, declaration.pattern, operation⟩ =
      .ok description ∧ description.isAbsentOr Node.isText = true := by
  refine ⟨(declaration.operation.node.entry "description").orElse
    (declaration.operation.node.entry "summary"), ?_, ?_⟩
  · rw [operationDescription, member_of_normalized hnormalized (by decide) (by decide),
      member_of_normalized hnormalized (by decide) (by decide)]
    rfl
  · unfold Node.orElse
    split
    · exact htyped.description
    · exact htyped.summary

/-- An operation is recorded with its fields. -/
theorem exists_recordOperation {tags : List String} (skip : Bool) (fields : List Field)
    (htyped : WellTyped.Operation document declaration)
    (hnormalized : Normalized declaration operation)
    (htags : operationTags operation = .ok (tags.map .str)) :
    ∃ compiled, recordOperation (.standard skip)
      ⟨declaration.method, declaration.pattern, operation⟩ fields = .ok compiled := by
  obtain ⟨name, hname⟩ := exists_operationName htyped hnormalized
  obtain ⟨action, haction⟩ := exists_operationAction htyped hnormalized
  obtain ⟨description, hdescription, habsent⟩ := exists_operationDescription htyped hnormalized
  obtain ⟨pattern, hpattern⟩ := Scalar.isText_iff.mp htyped.pattern
  obtain ⟨identifier, hidentifier⟩ := exists_nullable htyped.operationId
  obtain ⟨described, hdescribed⟩ := exists_nullable habsent
  refine ⟨⟨name, name, action, described, identifier, declaration.method, pattern, tags, fields⟩,
    ?_⟩
  unfold recordOperation OperationPolicy.standard
  dsimp only
  rw [hname, haction, hdescription, member_of_normalized hnormalized (by decide) (by decide), htags,
    hpattern]
  show (CompiledOperation.check _ _ _ _ _ _ _ _ _).toExcept = _
  rw [CompiledOperation.check, hidentifier, hdescribed,
    Check.itemsFrom_text_eq_valid_iff.mpr rfl]
  rfl

/-- An operation is collected unless it is taken up and one of its inputs is an exception. -/
theorem failsOnly_collectOperation {tags : List String}
    (hmem : declaration ∈ declarations document) (htyped : WellTyped.Operation document declaration)
    (hnormalized : Normalized declaration operation)
    (htags : operationTags operation = .ok (tags.map .str)) :
    FailsOnly (Failure.IsDocumentedOr (BuildStumbles settings document))
      (collectOperation document (.standard settings.skipDeprecated)
        ⟨declaration.method, declaration.pattern, operation⟩).result := by
  rw [result_collectOperation, skips_standard hnormalized]
  show FailsOnly _ (if declaration.isSkipped settings then _ else _)
  cases hskipped : declaration.isSkipped settings with
  | true => exact failsOnly_ok _ none
  | false =>
    have hkept : declaration ∈ keptDeclarations settings document := by
      rw [keptDeclarations, List.mem_filter, hskipped]
      exact ⟨hmem, rfl⟩
    rw [if_neg Bool.false_ne_true]
    have hfields := failsOnly_compileFields htyped hnormalized
    refine FailsOnly.bind (.mapError ?_) fun fields _ => ?_
    · refine hfields.mono fun failure hfailure => Failure.IsDocumentedOr.inOperation ?_ _
      exact hfailure.mono fun fault hfault => ⟨declaration, hkept, hfault⟩
    · obtain ⟨compiled, hcompiled⟩ :=
        exists_recordOperation settings.skipDeprecated fields htyped hnormalized htags
      rw [hcompiled]
      exact failsOnly_ok _ (some compiled)

end Operation

/-! ## Events -/

section Walk

variable {settings : Settings} {document : Node} {event : Event}

theorem WellTyped.Tag.exists_resource {tag : Node} (h : WellTyped.Tag tag) :
    ∃ named resource, NamedTag.node named = tag ∧ named.resource? = some resource := by
  have hname : ∃ name, tag.get? "name" = some (.str name) := by
    obtain ⟨name, hname⟩ := Node.isText_iff.mp h.name
    unfold Node.entry at hname
    cases hget : tag.get? "name" with
    | none =>
      rw [hget] at hname
      cases hname
    | some value =>
      rw [hget] at hname
      exact ⟨name, congrArg some hname⟩
  obtain ⟨name, hname⟩ := hname
  obtain ⟨description, hdescription⟩ := exists_nullable h.description
  refine ⟨⟨tag, name, hname⟩, ⟨labelText name, name, description⟩, rfl, ?_⟩
  rw [NamedTag.resource?, hdescription]

/-- No event fails at the resources, and they stay those of some offers and of some used tags. -/
theorem exists_meet {defaultTag : String} (h : WellTyped.Meets document defaultTag event)
    (offers : List Resource) (used : List String) :
    ∃ offers' used', (Resources.holding offers used).meet event =
      .ok (Resources.holding offers' used') := by
  cases h with
  | document => exact ⟨offers, used, rfl⟩
  | operation declaration hmem htyped operation hnormalize =>
    obtain ⟨tags, htags⟩ := htyped.exists_tags hnormalize
    refine ⟨offers, used ++ tags, ?_⟩
    exact Resources.noteOperation_holding offers used ⟨operation, tags, htags⟩
  | tag tag htyped =>
    obtain ⟨named, resource, rfl, hresource⟩ := htyped.exists_resource
    refine ⟨offers ++ [resource], used, ?_⟩
    rw [Resources.meet, Resources.addTag_of_resource? _ named hresource, Resources.holding,
      Resources.holding, firstOfEach_append]
    rfl
  | finish =>
    refine ⟨offers ++ used.eraseDups.map bareResource, used, ?_⟩
    rw [Resources.meet, Resources.finish_holding]
    rfl

/-- Whether the title and the version of a document are texts, or absent. -/
structure IsTitled (info : Node) : Prop where
  title : (info.entry "title").isAbsentOr Node.isText = true
  version : (info.entry "version").isAbsentOr Node.isText = true

theorem exists_infoText {info : Node} {key : String} (absent : String)
    (h : (info.entry key).isAbsentOr Node.isText = true) :
    ∃ text, infoText info key absent = .ok (.str text) := by
  rw [infoText]
  cases hget : info.get? key with
  | none => exact ⟨absent, rfl⟩
  | some value =>
    rw [Node.entry, hget] at h
    rcases Node.isAbsentOr_iff.mp h with hnull | htext
    · obtain rfl : value = .null := hnull
      exact ⟨_, rfl⟩
    · obtain ⟨text, rfl⟩ : ∃ text, value = .str text := Node.isText_iff.mp htext
      exact ⟨text, rfl⟩

theorem IsTitled.orEmpty {info : Sited} (h : IsTitled info.node) : IsTitled info.orEmpty.node := by
  unfold Sited.orEmpty
  split
  · exact h
  · exact ⟨rfl, rfl⟩

/-- No event fails at what is known about the document, and its title and version stay texts. -/
theorem exists_info (h : WellTyped.Document document) {info : Sited} (htitled : IsTitled info.node)
    (event : Event) : ∃ info', infoAfter document info event = .ok info' ∧ IsTitled info'.node := by
  cases event with
  | document =>
    have hmap : (Sited.root document).node.isMap = true := h.kind
    have hnode : ((Sited.root document).entry "info").node = document.entry "info" :=
      Sited.node_entry _ _
    have hkept : IsTitled ((Sited.root document).entry "info").orEmpty.node := by
      apply IsTitled.orEmpty
      rw [hnode]
      exact ⟨h.title, h.version⟩
    have hinfo : ((Sited.root document).entry "info").orEmpty.node.isMap = true := by
      apply WellTyped.isMap_orEmpty
      rw [hnode]
      exact h.info
    obtain ⟨title, htitle⟩ := exists_infoText "untitled document" hkept.title
    refine ⟨((Sited.root document).entry "info").orEmpty, ?_, hkept⟩
    rw [infoAfter, Sited.member, if_pos hmap]
    show (if !_ then _ else infoText _ _ _ >>= _) = _
    rw [hinfo, htitle]
    rfl
  | operation visit => exact ⟨info, rfl, htitled⟩
  | tag tag => exact ⟨info, rfl, htitled⟩
  | finish => exact ⟨info, rfl, htitled⟩

/-- The title and the version make a result. -/
theorem exists_result {state : Collected} (h : IsTitled state.info.node)
    (operations : List CompiledOperation) :
    ∃ result, state.resultWith operations = .ok result := by
  obtain ⟨title, htitle⟩ := exists_infoText "Untitled API" h.title
  obtain ⟨version, hversion⟩ := exists_infoText "0.0.0" h.version
  rw [Collected.resultWith, htitle, hversion]
  exact ⟨⟨title, version, state.resources.found, operations⟩, rfl⟩

/-- What holds of everything collected from such a document: the resources are those of some offers
and of some used tags, and the title and the version are texts. -/
structure Collected.IsRegular (state : Collected) : Prop where
  resources : ∃ offers used, state.resources = Resources.holding offers used
  info : IsTitled state.info.node

/-- An event of a walk fails only at an operation, and only if its inputs do. -/
theorem failsOnly_noteEvent {state : Collected} (hdocument : WellTyped.Document document)
    (h : WellTyped.Meets document settings.defaultTag event) (hregular : state.IsRegular) :
    FailsOnly (Failure.IsDocumentedOr (BuildStumbles settings document))
      (noteEvent document (.standard settings.skipDeprecated) state event).result := by
  obtain ⟨offers, used, hholds⟩ := hregular.resources
  obtain ⟨_, _, hmeet⟩ := exists_meet h offers used
  rw [← hholds] at hmeet
  obtain ⟨info, hinfo, _⟩ := exists_info hdocument hregular.info event
  rw [result_noteEvent]
  refine (failsOnly_of_eq_ok hinfo).bind fun info _ => ?_
  refine (failsOnly_of_eq_ok hmeet).bind fun resources _ => ?_
  refine FailsOnly.bind ?_ fun operations _ => failsOnly_ok _ _
  cases h with
  | operation declaration hmem htyped operation hnormalize =>
    obtain ⟨tags, htags⟩ := htyped.exists_tags hnormalize
    have hcollected := @failsOnly_collectOperation settings _ _ _ _ hmem htyped
      (normalized_of_normalize hnormalize) htags
    exact hcollected.bind fun outcome _ => failsOnly_ok _ _
  | document => exact failsOnly_ok _ _
  | tag tag htyped => exact failsOnly_ok _ _
  | finish => exact failsOnly_ok _ _

theorem isRegular_of_noteEvent {state next : Collected} (hdocument : WellTyped.Document document)
    (h : WellTyped.Meets document settings.defaultTag event) (hregular : state.IsRegular)
    (hnext : (noteEvent document (.standard settings.skipDeprecated) state event).result =
      .ok next) : next.IsRegular := by
  obtain ⟨hnextInfo, hnextResources, _⟩ := noteEvent_eq_ok_iff.mp hnext
  obtain ⟨offers, used, hholds⟩ := hregular.resources
  obtain ⟨offers', used', hmeet⟩ := exists_meet h offers used
  rw [← hholds] at hmeet
  obtain ⟨info, hinfo, htitled⟩ := exists_info hdocument hregular.info event
  refine ⟨⟨offers', used', Except.ok.inj (hnextResources.symm.trans hmeet)⟩, ?_⟩
  rw [Except.ok.inj (hnextInfo.symm.trans hinfo)]
  exact htitled

end Walk

/-! ## Builds -/

section Build

variable {settings : Settings} {document : Node}

theorem isRegular_empty : Collected.empty.IsRegular :=
  ⟨⟨[], [], rfl⟩, rfl, rfl⟩

/-- The walk of a build fails only at an operation, and only if its inputs do, and what it collects
is regular. -/
theorem failsOnly_walk (hdocument : WellTyped.Document document) :
    FailsOnly (Failure.IsDocumentedOr (BuildStumbles settings document))
      (runWalk (noteEvent document (.standard settings.skipDeprecated))
        (walk (.str settings.defaultTag) .all document) .empty).result ∧
    ∀ state, (runWalk (noteEvent document (.standard settings.skipDeprecated))
      (walk (.str settings.defaultTag) .all document) .empty).result = .ok state →
        state.IsRegular := by
  have hstep (state : Collected) (event : Event) (hregular : state.IsRegular)
      (hmeets : WellTyped.Meets document settings.defaultTag event) :
      FailsOnly (Failure.IsDocumentedOr (BuildStumbles settings document))
          (noteEvent document (.standard settings.skipDeprecated) state event).result ∧
        ∀ next, (noteEvent document (.standard settings.skipDeprecated) state event).result =
          .ok next → next.IsRegular :=
    ⟨failsOnly_noteEvent hdocument hmeets hregular,
      fun _ => isRegular_of_noteEvent hdocument hmeets hregular⟩
  refine failsOnly_runWalk hstep (fun item hitem => ?_) isRegular_empty
  obtain ⟨event, rfl, hevent⟩ := hdocument.exists_event_of_walk settings.defaultTag hitem
  refine ⟨failsOnly_ok _ event, fun other hother => ?_⟩
  obtain rfl := Except.ok.inj hother
  exact hevent

/-- Where every place of a document holds a value of its kind, a build without overrides yields a
result, or it fails with a documented error, unless an input of an operation that is taken up is one
of the exceptions. And whatever stands in a document, a build with an exception yields no result. -/
theorem failures_of_build (hoverrides : settings.overrides = []) :
    (WellTyped.Document document →
      FailsOnly (Failure.IsDocumentedOr (BuildStumbles settings document))
        (build settings document).result) ∧
    ∀ fault, BuildStumbles settings document fault →
      ∀ result, (build settings document).result ≠ .ok result := by
  constructor
  · intro hdocument
    obtain ⟨hwalk, hregular⟩ := @failsOnly_walk settings _ hdocument
    rw [result_build]
    refine hwalk.bind fun state hstate => ?_
    rw [hoverrides, ← Traced.result_mapM, overrideOperations_nil, Traced.result_pure]
    obtain ⟨result, hresult⟩ := exists_result (hregular state hstate).info state.operations
    exact failsOnly_of_eq_ok hresult
  · rintro fault ⟨declaration, hmem, hstumbles⟩ result hresult
    obtain ⟨compiled, _, hcompiled⟩ :=
      exists_left_of_forall₂ (operations_of_build hoverrides hresult).flip hmem
    exact not_stumbles_of_compiledFrom hcompiled hstumbles

end Build

/-- A document with one operation that has one parameter in the query. -/
def queryDocument (parameter : Entries) : Node :=
  .map [(.str "paths", .map [(.str "/pets", .map [(.str "get", .map [(.str "parameters",
    .list [.map ((.str "in", .str "query") :: parameter)])])])])]

/-- A document with an operation that is deprecated, one of its parameters having the schema `true`,
and one with a body without content. -/
def retiredDocument : Node :=
  .map [(.str "paths", .map [(.str "/pets", .map [
    (.str "get", .map [(.str "deprecated", .bool true), (.str "parameters", .list [
      .map [(.str "name", .str "q"), (.str "in", .str "query"), (.str "schema", .bool true)]])]),
    (.str "post", .map [(.str "requestBody", .map [(.str "content", .map [])])])])])]

theorem failures_of_build_retired :
    WellTyped.Document retiredDocument ∧
    (build ⟨true, standardTag, []⟩ retiredDocument).result =
      .error (.refused (.compile (some "POST /pets") .emptyContent)) ∧
    Failure.IsDocumentedOr (BuildStumbles ⟨true, standardTag, []⟩ retiredDocument)
      (.refused (.compile (some "POST /pets") .emptyContent)) ∧
    ∀ result, (build .standard retiredDocument).result ≠ .ok result := by
  have htyped : WellTyped.Document retiredDocument := by decide
  refine ⟨htyped, rfl, (failures_of_build rfl).1 htyped _ rfl, ?_⟩
  have hstumbles : BuildStumbles .standard retiredDocument .notAMap :=
    ⟨_, List.mem_cons_self, .parameter _ rfl _ List.mem_cons_self _
      ⟨_, _, _, rfl, rfl, rfl, .schema (fun hquery => nomatch hquery.2) ⟨_, rfl, .whole rfl⟩⟩⟩
  exact (failures_of_build rfl).2 .notAMap hstumbles

/-- A parameter with the schema `true`. -/
def unrestricted : Entries :=
  [(.str "name", .str "q"), (.str "schema", .bool true)]

/-- An array without a name. -/
def namelessArray : Entries :=
  [(.str "schema", .map [(.str "type", .str "array")])]

/-- A parameter with an object as its example in which a date stands. -/
def dated : Entries :=
  [(.str "name", .str "q"), (.str "schema", .map [(.str "type", .str "object"),
    (.str "example", .map [(.str "born", .scalar (.date ⟨2019, 5, 4⟩))])])]

/-- A parameter with half a character in its name. -/
def tornName : Entries :=
  [(.str "name", .torn ⟨['q'], ⟨0, by decide⟩, []⟩), (.str "schema", .map [])]

/-- The schema `true` stands where a schema may stand, a parameter may lack its name, and an example
may be any value, but each of these makes a build fail with an error that is not documented. So does
a name that is torn. -/
theorem queryDocument_not_documented :
    (WellTyped.Document (queryDocument unrestricted) ∧
      (build .standard (queryDocument unrestricted)).result = .error (.fault .notAMap)) ∧
    (WellTyped.Document (queryDocument namelessArray) ∧
      (build .standard (queryDocument namelessArray)).result = .error (.fault .missingEntry)) ∧
    (WellTyped.Document (queryDocument dated) ∧
      (build .standard (queryDocument dated)).result = .error (.fault .notWritable)) ∧
    (build .standard (queryDocument tornName)).result =
      .error (.invalid [⟨[.key "property"], .notUnicode⟩]) :=
  ⟨⟨by decide, rfl⟩, ⟨by decide, rfl⟩, ⟨by decide, rfl⟩, rfl⟩

end RoutedFields
