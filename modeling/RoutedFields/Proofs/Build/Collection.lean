import RoutedFields.Build.Result
import RoutedFields.Proofs.Walk.Visiting

/-!
# What a build collects

* `noteEvent_eq_ok_iff`: what an event of a walk does to what has been collected.
* `Declaration.collect`: what a build makes of a declared operation by itself.
* `collect_of_walk`, `collect_of_build`: the operations are what the declared ones add, in order.
* `build_eq_ok_iff`, `Collected.resultWith_eq_ok`: the walk, the overrides and the result of a build.
* `CompiledFrom`: how an operation of the result comes from a declared one.
* `operations_of_build`: without overrides, the operations of the result come one by one, in order,
  from the declared operations that are not left out.
-/

namespace RoutedFields

/-! ## Collecting one operation -/

section Operation

variable {document : Node} {policies : Policies} {policy : OperationPolicy} {visit : Visit}

/-- Without its messages, an operation is left out, or it is compiled and then recorded. -/
theorem result_collectOperation (document : Node) (policy : OperationPolicy) (visit : Visit) :
    (collectOperation document policy visit).result = (do
      if ← policy.skips visit then return none
      let fields ← (compileFields document visit.operation).mapError (.inOperation visit.title)
      return some (← recordOperation policy visit fields)) := by
  rw [collectOperation, Traced.result_bind, Traced.result_ofExcept]
  show Except.bind (policy.skips visit) _ = Except.bind (policy.skips visit) _
  refine congrArg (Except.bind _) (funext fun skipped => ?_)
  cases skipped with
  | true => rfl
  | false =>
    rw [if_neg Bool.false_ne_true, if_neg Bool.false_ne_true, Traced.result_bind,
      Traced.result_ofExcept]
    refine congrArg (Except.bind _) (funext fun fields => ?_)
    rw [Traced.result_bind, Traced.result_bind, Traced.result_ofExcept]
    rfl

theorem collectOperation_eq_ok {outcome : Option CompiledOperation}
    (h : (collectOperation document policy visit).result = .ok outcome) :
    (policy.skips visit = .ok true ∧ outcome = none) ∨
      ∃ fields operation, policy.skips visit = .ok false ∧
        compileFields document visit.operation = .ok fields ∧
        recordOperation policy visit fields = .ok operation ∧ outcome = some operation := by
  rw [result_collectOperation] at h
  obtain ⟨skipped, hskips, h⟩ := bind_eq_ok_iff.mp h
  cases skipped with
  | true =>
    cases h
    exact .inl ⟨hskips, rfl⟩
  | false =>
    rw [if_neg Bool.false_ne_true] at h
    obtain ⟨fields, hfields, h⟩ := bind_eq_ok_iff.mp h
    obtain ⟨operation, hoperation, h⟩ := bind_eq_ok_iff.mp h
    cases h
    exact .inr ⟨fields, operation, hskips, mapError_eq_ok_iff.mp hfields, hoperation, rfl⟩

theorem recordOperation_eq_ok {fields : List Field} {operation : CompiledOperation}
    (h : recordOperation policy visit fields = .ok operation) :
    visit.pattern = .str operation.pattern ∧ visit.method = operation.method ∧
      operation.fields = fields ∧
      operationTags visit.operation = .ok (operation.resources.map .str) := by
  obtain ⟨name, _, h⟩ := bind_eq_ok_iff.mp h
  obtain ⟨value, _, h⟩ := bind_eq_ok_iff.mp h
  obtain ⟨action, _, h⟩ := bind_eq_ok_iff.mp h
  obtain ⟨description, _, h⟩ := bind_eq_ok_iff.mp h
  obtain ⟨operationId, _, h⟩ := bind_eq_ok_iff.mp h
  obtain ⟨tags, htags, h⟩ := bind_eq_ok_iff.mp h
  rw [Checked.toExcept_eq_ok_iff, CompiledOperation.check] at h
  simp only [Checked.seq_eq_valid_iff, Checked.map_eq_valid_iff, Checked.under_eq_valid_iff] at h
  obtain ⟨_, resources, ⟨_, pattern, ⟨_, _, ⟨_, _, ⟨_, _, ⟨_, _, ⟨_, _, rfl⟩, _, rfl⟩, _, rfl⟩, _,
    rfl⟩, _, rfl⟩, hpattern, rfl⟩, hresources, rfl⟩ := h
  refine ⟨?_, rfl, rfl, ?_⟩
  · have htext := Check.text_eq_valid_iff.mp hpattern
    injection htext
  · rw [orFault_eq_ok_iff.mp htags, Check.itemsFrom_text_eq_valid_iff.mp hresources]

end Operation

/-! ## One event -/

/-- What is known about the document once an event of a walk has been met. -/
def infoAfter (document : Node) (info : Sited) : Event → Except Failure Sited
  | .document => do
    let info := (← orFault ((Sited.root document).member "info")).orEmpty
    if !info.node.isMap then throw (.fault .notAMap)
    let _ ← infoText info.node "title" "untitled document"
    return info
  | _ => .ok info

/-- The resources after an event of a walk has been met. -/
def Resources.meet (resources : Resources) : Event → Except Failure Resources
  | .document => .ok resources
  | .operation visit => resources.noteOperation visit.operation
  | .tag tag => resources.addTag .standard tag
  | .finish => complete (resources.finish .standard)

/-- The operations once an event of a walk has been met, which adds one at most. -/
def operationsAfter (document : Node) (skip : Bool) (operations : List CompiledOperation) :
    Event → Except Failure (List CompiledOperation)
  | .operation visit => do
    let outcome ← (collectOperation document (.standard skip) visit).result
    return operations ++ outcome.toList
  | _ => .ok operations

/-- Whether an event is that of an operation. -/
def Event.isOperation : Event → Bool
  | .operation _ => true
  | _ => false

section Event

variable {document : Node} {skip : Bool} {state next : Collected} {event : Event}

/-- What is known about the document, the resources and the operations do not depend on each other.
-/
theorem result_noteEvent (document : Node) (skip : Bool) (state : Collected) (event : Event) :
    (noteEvent document (.standard skip) state event).result = (do
      let info ← infoAfter document state.info event
      let resources ← state.resources.meet event
      let operations ← operationsAfter document skip state.operations event
      return ⟨info, resources, operations⟩) := by
  cases event with
  | document =>
    rw [noteEvent, noteDocument, Traced.result_bind, Traced.result_ofExcept, infoAfter]
    cases orFault ((Sited.root document).member "info") with
    | error failure => rfl
    | ok info =>
      show Traced.result (if !info.orEmpty.node.isMap then _ else _) =
        (if !info.orEmpty.node.isMap then _ else _) >>= _
      cases info.orEmpty.node.isMap with
      | false => rfl
      | true =>
        show Traced.result (Traced.ofExcept (infoText info.orEmpty.node _ _) >>= _) =
          (infoText info.orEmpty.node _ _ >>= _) >>= _
        cases infoText info.orEmpty.node "title" "untitled document" <;> rfl
  | operation visit =>
    rw [noteEvent, noteOperation, Traced.result_bind, Traced.result_ofExcept, operationsAfter]
    show Except.bind (state.resources.noteOperation visit.operation) _ =
      Except.bind (state.resources.noteOperation visit.operation) _
    refine congrArg (Except.bind _) (funext fun resources => ?_)
    rw [if_neg (by simp [Policies.standard]), Traced.result_bind, takeUp, Traced.result_bind]
    show Except.bind (Except.bind (collectOperation document (.standard skip) visit).result _) _ = _
    cases (collectOperation document (.standard skip) visit).result <;> rfl
  | tag tag =>
    rw [noteEvent, Traced.result_bind, Traced.result_ofExcept]
    show Except.bind (state.resources.addTag .standard tag) _ =
      Except.bind (state.resources.addTag .standard tag) _
    cases state.resources.addTag .standard tag <;> rfl
  | finish =>
    rw [noteEvent, if_neg (by simp [Policies.standard]), Traced.result_bind, Traced.result_ofExcept]
    show Except.bind (complete (state.resources.finish .standard)) _ =
      Except.bind (complete (state.resources.finish .standard)) _
    cases complete (state.resources.finish .standard) <;> rfl

/-- An event is met exactly if each of the three comes out well. -/
theorem noteEvent_eq_ok_iff :
    (noteEvent document (.standard skip) state event).result = .ok next ↔
      infoAfter document state.info event = .ok next.info ∧
      state.resources.meet event = .ok next.resources ∧
      operationsAfter document skip state.operations event = .ok next.operations := by
  rw [result_noteEvent]
  constructor
  · intro h
    obtain ⟨info, hinfo, h⟩ := bind_eq_ok_iff.mp h
    obtain ⟨resources, hresources, h⟩ := bind_eq_ok_iff.mp h
    obtain ⟨operations, hoperations, h⟩ := bind_eq_ok_iff.mp h
    cases h
    exact ⟨hinfo, hresources, hoperations⟩
  · rintro ⟨hinfo, hresources, hoperations⟩
    rw [hinfo, hresources, hoperations]
    rfl

/-- Only operations add to the operations. -/
theorem operationsAfter_of_other (operations : List CompiledOperation)
    (hevent : event.isOperation = false) :
    operationsAfter document skip operations event = .ok operations := by
  cases event with
  | operation visit => cases hevent
  | document => rfl
  | tag tag => rfl
  | finish => rfl

end Event

/-! ## Collecting all operations -/

section Run

variable {document : Node} {skip : Bool} {state state' : Collected}

theorem operations_of_visit {visit : Visit}
    (h : (noteEvent document (.standard skip) state (.operation visit)).result = .ok state') :
    ∃ outcome, (collectOperation document (.standard skip) visit).result = .ok outcome ∧
      state'.operations = state.operations ++ outcome.toList := by
  obtain ⟨_, _, hoperations⟩ := noteEvent_eq_ok_iff.mp h
  obtain ⟨outcome, houtcome, hpure⟩ := bind_eq_ok_iff.mp hoperations
  exact ⟨outcome, houtcome, (pure_eq_ok_iff.mp hpure).symm⟩

theorem operations_of_noteEvent {event : Event} (hevent : event.isOperation = false)
    (h : (noteEvent document (.standard skip) state event).result = .ok state') :
    state'.operations = state.operations := by
  obtain ⟨_, _, hoperations⟩ := noteEvent_eq_ok_iff.mp h
  rw [operationsAfter_of_other state.operations hevent] at hoperations
  exact (Except.ok.inj hoperations).symm

theorem operations_of_otherEvents {events : List Event}
    (hevents : ∀ event ∈ events, event.isOperation = false)
    (h : events.foldlM (fun s event => (noteEvent document (.standard skip) s event).result) state =
      .ok state') : state'.operations = state.operations := by
  induction events generalizing state with
  | nil =>
    cases h
    rfl
  | cons event events ih =>
    obtain ⟨next, hnext, h⟩ := bind_eq_ok_iff.mp h
    rw [ih (fun e he => hevents e (List.mem_cons_of_mem _ he)) h]
    exact operations_of_noteEvent (hevents event List.mem_cons_self) hnext

/-- What a build makes of a declared operation by itself: it is put into normal form and collected.
-/
def Declaration.collect (defaultTag document : Node) (policy : OperationPolicy)
    (declaration : Declaration) : Except Failure (Option CompiledOperation) := do
  let operation ← orFault (normalize defaultTag declaration.pathItem declaration.operation)
  (collectOperation document policy ⟨declaration.method, declaration.pattern, operation⟩).result

/-- What a declared operation adds to a build: an operation, or nothing if it is left out. -/
def AddsTo (document : Node) (policy : OperationPolicy) (declaration : Declaration)
    (outcome : Option CompiledOperation) : Prop :=
  ∃ operation, Normalized declaration operation ∧
    (collectOperation document policy ⟨declaration.method, declaration.pattern, operation⟩).result =
      .ok outcome

theorem addsTo_of_collect {defaultTag : Node} {policy : OperationPolicy}
    {declaration : Declaration} {outcome : Option CompiledOperation}
    (h : declaration.collect defaultTag document policy = .ok outcome) :
    AddsTo document policy declaration outcome := by
  obtain ⟨operation, hoperation, houtcome⟩ := bind_eq_ok_iff.mp h
  exact ⟨operation, normalized_of_normalize (orFault_eq_ok_iff.mp hoperation), houtcome⟩

/-- The event of a declared operation adds to a build what the operation adds by itself. -/
theorem collect_of_event {defaultTag : Node} {declaration : Declaration} {event : Event}
    (hevent : declaration.event defaultTag = .ok event)
    (h : (noteEvent document (.standard skip) state event).result = .ok state') :
    ∃ outcome, declaration.collect defaultTag document (.standard skip) = .ok outcome ∧
      state'.operations = state.operations ++ outcome.toList := by
  obtain ⟨operation, hoperation, rfl⟩ := map_eq_ok_iff.mp hevent
  obtain ⟨outcome, houtcome, hoperations⟩ := operations_of_visit h
  exact ⟨outcome, bind_eq_ok_iff.mpr ⟨operation, hoperation, houtcome⟩, hoperations⟩

/-- The events of declared operations add to a build what each of the operations adds, in order. -/
theorem collect_of_operationEvents {defaultTag : Node} {declared : List Declaration}
    {events : List Event}
    (hdeclared : List.Forall₂ (fun declaration event => declaration.event defaultTag = .ok event)
      declared events)
    (h : events.foldlM (fun s event => (noteEvent document (.standard skip) s event).result) state =
      .ok state') :
    ∃ outcomes, List.Forall₂ (fun declaration outcome =>
        declaration.collect defaultTag document (.standard skip) = .ok outcome) declared outcomes ∧
      state'.operations = state.operations ++ outcomes.reduceOption := by
  induction hdeclared generalizing state with
  | nil =>
    cases h
    exact ⟨[], .nil, (List.append_nil _).symm⟩
  | cons hevent _ ih =>
    obtain ⟨next, hnext, hfold⟩ := bind_eq_ok_iff.mp h
    obtain ⟨outcome, houtcome, hoperations⟩ := collect_of_event hevent hnext
    obtain ⟨outcomes, houtcomes, hrest⟩ := ih hfold
    -- a step only appends, so what the first operation adds stays in front of the rest
    refine ⟨outcome :: outcomes, .cons houtcome houtcomes, ?_⟩
    rw [hrest, hoperations, List.append_assoc]
    cases outcome with
    | none => rfl
    | some compiled => rfl

theorem isOperation_of_tagEvents {tags : List Event}
    (h : tagEvents (Sited.root document) = tags.map .ok) {event : Event} (hevent : event ∈ tags) :
    event.isOperation = false := by
  obtain ⟨items, _, rfl⟩ := tagEvents_eq_ok h
  obtain ⟨item, _, rfl⟩ := List.mem_map.mp hevent
  rfl

/-- A walk adds to a build what each of the declared operations adds, in order. -/
theorem collect_of_walk {defaultTag : Node}
    (h : (runWalk (noteEvent document (.standard skip)) (walk defaultTag .all document)
      state).result = .ok state') :
    ∃ outcomes, List.Forall₂ (fun declaration outcome =>
        declaration.collect defaultTag document (.standard skip) = .ok outcome)
        (declarations document) outcomes ∧
      state'.operations = state.operations ++ outcomes.reduceOption := by
  obtain ⟨events, hwalk, h⟩ := runWalk_eq_ok_iff.mp h
  obtain ⟨operations, tags, hoperations, htags, rfl⟩ := walk_eq_ok hwalk
  obtain ⟨first, hfirst, h⟩ := bind_eq_ok_iff.mp h
  rw [List.foldlM_append] at h
  obtain ⟨second, hsecond, h⟩ := bind_eq_ok_iff.mp h
  obtain ⟨outcomes, houtcomes, hadded⟩ :=
    collect_of_operationEvents (declarations_event hoperations) hsecond
  refine ⟨outcomes, houtcomes, ?_⟩
  rw [operations_of_otherEvents _ h, hadded, operations_of_noteEvent rfl hfirst]
  intro event hevent
  rcases List.mem_append.mp hevent with htag | hfinish
  · exact isOperation_of_tagEvents htags htag
  · rw [List.mem_singleton.mp hfinish]
    rfl

end Run

/-! ## From declared operations to compiled ones -/

/-- Whether a build leaves a declared operation out. -/
def Declaration.isSkipped (settings : Settings) (declaration : Declaration) : Bool :=
  settings.skipDeprecated && (declaration.operation.node.entry "deprecated").isTruthy

/-- The declared operations that a build takes up. -/
def keptDeclarations (settings : Settings) (document : Node) : List Declaration :=
  (declarations document).filter fun declaration => !declaration.isSkipped settings

/-- How a compiled operation comes from a declared one: its fields are those of the merged
parameters, one for each, and then those of the body. -/
structure CompiledFrom (document : Node) (declaration : Declaration)
    (compiled : CompiledOperation) : Prop where
  pattern : declaration.pattern = .str compiled.pattern
  method : declaration.method = compiled.method
  fields : ∃ parameters ofParameters ofBody,
    mergeParameters (declaration.pathItem.entry "parameters").elementsIfAny
      (declaration.operation.entry "parameters").elementsIfAny = .ok parameters ∧
    List.Forall₂ (fun parameter field => compileParameter document parameter = .ok field)
      parameters ofParameters ∧
    compileBody document (declaration.operation.entry "requestBody") = .ok ofBody ∧
    compiled.fields = ofParameters ++ ofBody

section Standard

variable {settings : Settings} {document : Node} {declaration : Declaration}

theorem elementsIfAny_ofItems (items : List Sited) :
    (Sited.ofItems items).elementsIfAny = .ok items := by
  rw [Sited.elementsIfAny_of_list rfl, Sited.items_ofItems]

/-- The fields of an operation in normal form are those of the merged parameters and of the body. -/
theorem compileFields_of_normalized (document : Node) {operation : Sited}
    (hnormalized : Normalized declaration operation) :
    ∃ parameters, mergeParameters (declaration.pathItem.entry "parameters").elementsIfAny
        (declaration.operation.entry "parameters").elementsIfAny = .ok parameters ∧
      compileFields document operation = (do
        let ofParameters ← parameters.mapM (compileParameter document)
        let ofBody ← compileBody document (declaration.operation.entry "requestBody")
        return ofParameters ++ ofBody) := by
  obtain ⟨merged, hmerged, hparameters⟩ := hnormalized.parameters
  have hbody := hnormalized.other "requestBody" (by decide) (by decide)
  refine ⟨merged, hmerged, ?_⟩
  rw [compileFields, Sited.member, if_pos hnormalized.isMap, Sited.member,
    if_pos hnormalized.isMap, hparameters, hbody]
  show compileParameters document (.ofItems merged) >>= _ = _
  rw [compileParameters, elementsIfAny_ofItems]
  rfl

theorem compileFields_eq_ok {operation : Sited} {fields : List Field}
    (hnormalized : Normalized declaration operation)
    (h : compileFields document operation = .ok fields) :
    ∃ parameters ofParameters ofBody,
      mergeParameters (declaration.pathItem.entry "parameters").elementsIfAny
        (declaration.operation.entry "parameters").elementsIfAny = .ok parameters ∧
      List.Forall₂ (fun parameter field => compileParameter document parameter = .ok field)
        parameters ofParameters ∧
      compileBody document (declaration.operation.entry "requestBody") = .ok ofBody ∧
      fields = ofParameters ++ ofBody := by
  obtain ⟨parameters, hmerged, hfields⟩ := compileFields_of_normalized document hnormalized
  rw [hfields] at h
  obtain ⟨ofParameters, hofParameters, h⟩ := bind_eq_ok_iff.mp h
  obtain ⟨ofBody, hofBody, h⟩ := bind_eq_ok_iff.mp h
  exact ⟨parameters, ofParameters, ofBody, hmerged, mapM_eq_ok_iff.mp hofParameters, hofBody,
    (pure_eq_ok_iff.mp h).symm⟩

theorem member_of_normalized {operation : Sited} (hnormalized : Normalized declaration operation)
    {key : String} (htags : key ≠ "tags") (hparameters : key ≠ "parameters") :
    Visit.member ⟨declaration.method, declaration.pattern, operation⟩ key =
      .ok (declaration.operation.node.entry key) := by
  rw [Visit.member, Sited.member, if_pos hnormalized.isMap,
    hnormalized.other key htags hparameters, ← Sited.node_entry]
  rfl

/-- The usual policy leaves out exactly the operations that are skipped. -/
theorem skips_standard {operation : Sited} (hnormalized : Normalized declaration operation) :
    (OperationPolicy.standard settings.skipDeprecated).skips
      ⟨declaration.method, declaration.pattern, operation⟩ =
        .ok (declaration.isSkipped settings) := by
  rw [Declaration.isSkipped]
  cases settings.skipDeprecated with
  | false => rfl
  | true =>
    show isDeprecated _ = _
    rw [isDeprecated, member_of_normalized hnormalized (by decide) (by decide)]
    rfl

/-- A declared operation that is skipped adds nothing, and any other adds the one compiled from it.
-/
theorem compiledFrom_of_addsTo {outcome : Option CompiledOperation}
    (h : AddsTo document (.standard settings.skipDeprecated) declaration outcome) :
    (declaration.isSkipped settings = true ∧ outcome = none) ∨
      (declaration.isSkipped settings = false ∧
        ∃ compiled, outcome = some compiled ∧ CompiledFrom document declaration compiled) := by
  obtain ⟨operation, hnormalized, h⟩ := h
  rcases collectOperation_eq_ok h with ⟨hskips, houtcome⟩ | ⟨fields, compiled, hskips, hfields,
    hrecord, houtcome⟩
  · rw [skips_standard hnormalized] at hskips
    exact .inl ⟨Except.ok.inj hskips, houtcome⟩
  · rw [skips_standard hnormalized] at hskips
    obtain ⟨hpattern, hmethod, hcompiled, _⟩ := recordOperation_eq_ok hrecord
    refine .inr ⟨Except.ok.inj hskips, compiled, houtcome, hpattern, hmethod, ?_⟩
    rw [hcompiled]
    exact compileFields_eq_ok hnormalized hfields

theorem forall₂_compiledFrom {declared : List Declaration}
    {outcomes : List (Option CompiledOperation)}
    (h : List.Forall₂ (AddsTo document (.standard settings.skipDeprecated)) declared outcomes) :
    List.Forall₂ (CompiledFrom document)
      (declared.filter fun declaration => !declaration.isSkipped settings)
      outcomes.reduceOption := by
  induction h with
  | nil => exact .nil
  | cons hadds _ ih =>
    rcases compiledFrom_of_addsTo hadds with ⟨hskipped, rfl⟩ | ⟨hkept, compiled, rfl, hcompiled⟩
    · rw [List.filter_cons, hskipped]
      exact ih
    · rw [List.filter_cons, hkept]
      exact .cons hcompiled ih

end Standard

/-! ## Builds -/

/-- The result of a build, of what has been collected and the operations after overrides. -/
def Collected.resultWith (state : Collected) (operations : List CompiledOperation) :
    Except Failure BuildResult := do
  let title ← infoText state.info.node "title" "Untitled API"
  let version ← infoText state.info.node "version" "0.0.0"
  (BuildResult.check title version state.resources.found operations).toExcept

section Build

variable {settings : Settings} {document : Node}

/-- A result has the resources and the operations that it is made of, and other operations would be
taken just as well. -/
theorem Collected.resultWith_eq_ok {state : Collected} {operations : List CompiledOperation}
    {result : BuildResult} (h : state.resultWith operations = .ok result) :
    result.resources = state.resources.found ∧ result.operations = operations ∧
      ∀ others, state.resultWith others = .ok { result with operations := others } := by
  obtain ⟨title, htitle, h⟩ := bind_eq_ok_iff.mp h
  obtain ⟨version, hversion, h⟩ := bind_eq_ok_iff.mp h
  rw [Checked.toExcept_eq_ok_iff, BuildResult.check] at h
  simp only [Checked.seq_eq_valid_iff, Checked.map_eq_valid_iff, Checked.under_eq_valid_iff] at h
  obtain ⟨_, versionText, ⟨titleText, htitleText, rfl⟩, hversionText, rfl⟩ := h
  refine ⟨rfl, rfl, fun others => ?_⟩
  rw [Collected.resultWith, htitle, hversion]
  rw [Check.text_eq_valid_iff] at htitleText hversionText
  rw [htitleText, hversionText]
  rfl

/-- A build is a walk, then the overrides, then the result put together. -/
theorem result_build (settings : Settings) (document : Node) :
    (build settings document).result = (do
      let state ← (runWalk (noteEvent document (.standard settings.skipDeprecated))
        (walk (.str settings.defaultTag) .all document) .empty).result
      let operations ← state.operations.mapM fun compiled =>
        (overrideOperation settings.overrides compiled).result
      state.resultWith operations) := by
  rw [build, buildWith, Traced.result_bind]
  refine congrArg (Except.bind _) (funext fun state => ?_)
  rw [Traced.result_bind, Traced.result_mapM]
  refine congrArg (Except.bind _) (funext fun operations => ?_)
  rw [Traced.result_bind, Traced.result_ofExcept]
  refine congrArg (Except.bind _) (funext fun title => ?_)
  rw [Traced.result_bind]
  rfl

theorem build_eq_ok_iff {result : BuildResult} :
    (build settings document).result = .ok result ↔ ∃ state overridden,
      (runWalk (noteEvent document (.standard settings.skipDeprecated))
        (walk (.str settings.defaultTag) .all document) .empty).result = .ok state ∧
      List.Forall₂ (fun compiled compiled' =>
        (overrideOperation settings.overrides compiled).result = .ok compiled')
        state.operations overridden ∧
      state.resultWith overridden = .ok result := by
  rw [result_build, bind_eq_ok_iff]
  refine exists_congr fun state => ?_
  rw [bind_eq_ok_iff]
  constructor
  · rintro ⟨hstate, overridden, hoverridden, hresult⟩
    exact ⟨overridden, hstate, mapM_eq_ok_iff.mp hoverridden, hresult⟩
  · rintro ⟨overridden, hstate, hoverridden, hresult⟩
    exact ⟨hstate, overridden, mapM_eq_ok_iff.mpr hoverridden, hresult⟩

theorem applyOverrides_nil (fields : List Field) : applyOverrides [] fields = pure fields := by
  have hkept : overrideFields [] fields = pure (fields.map fun _ => none) :=
    List.mapM_pure
  have hzip : (fields.zip (fields.map fun _ => none)).map (fun f => f.2.getD f.1) = fields := by
    clear hkept
    induction fields with
    | nil => rfl
    | cons field fields ih =>
      rw [List.map_cons, List.zip_cons_cons, List.map_cons, ih, Option.getD_none]
  rw [applyOverrides, hkept, pure_bind, hzip]

theorem overrideOperations_nil (operations : List CompiledOperation) :
    operations.mapM (overrideOperation []) = pure operations := by
  have hkept : overrideOperation [] = fun operation => pure (id operation) := by
    funext operation
    rw [overrideOperation, applyOverrides_nil, pure_bind, id]
  rw [hkept, List.mapM_pure, List.map_id]

/-- Overrides change nothing about an operation but its fields. -/
theorem overrideOperation_eq_ok {overrides : List Override} {compiled overridden : CompiledOperation}
    (h : (overrideOperation overrides compiled).result = .ok overridden) :
    ∃ fields, (applyOverrides overrides compiled.fields).result = .ok fields ∧
      overridden = { compiled with fields := fields } := by
  rw [overrideOperation, Traced.result_bind] at h
  obtain ⟨fields, hfields, h⟩ := bind_eq_ok_iff.mp h
  exact ⟨fields, hfields, (pure_eq_ok_iff.mp h).symm⟩

/-- The operations of the result are those that the declared operations add, in order, with overrides
applied to each of them. -/
theorem collect_of_build {result : BuildResult}
    (h : (build settings document).result = .ok result) :
    ∃ outcomes, List.Forall₂ (fun declaration outcome =>
        declaration.collect (.str settings.defaultTag) document
          (.standard settings.skipDeprecated) = .ok outcome) (declarations document) outcomes ∧
      List.Forall₂ (fun compiled overridden =>
        (overrideOperation settings.overrides compiled).result = .ok overridden)
        outcomes.reduceOption result.operations := by
  obtain ⟨state, overridden, hstate, hoverridden, hresult⟩ := build_eq_ok_iff.mp h
  obtain ⟨_, hoperations, _⟩ := Collected.resultWith_eq_ok hresult
  obtain ⟨outcomes, houtcomes, hadded⟩ := collect_of_walk hstate
  refine ⟨outcomes, houtcomes, ?_⟩
  rw [hoperations]
  rwa [hadded] at hoverridden

/-- Without overrides, the operations of the result come one by one, in order, from the declared
operations that are not left out. -/
theorem operations_of_build {result : BuildResult} (hoverrides : settings.overrides = [])
    (h : (build settings document).result = .ok result) :
    List.Forall₂ (CompiledFrom document) (keptDeclarations settings document)
      result.operations := by
  obtain ⟨outcomes, houtcomes, hoverridden⟩ := collect_of_build h
  rw [hoverrides, ← mapM_eq_ok_iff, ← Traced.result_mapM, overrideOperations_nil,
    Traced.result_pure, Except.ok.injEq] at hoverridden
  rw [← hoverridden]
  exact forall₂_compiledFrom (houtcomes.imp fun _ _ => addsTo_of_collect)

end Build

end RoutedFields
