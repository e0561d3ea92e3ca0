import Mathlib.Data.List.Induction
import RoutedFields.Proofs.Build.Collection
import RoutedFields.Proofs.Compile.UnlabelledErrors

/-!
# Collecting operations

A collector is called with operations, in any order and as often as one likes. A call takes its
operation up as a whole, or it leaves it out, or it fails, and in the last two cases what the
collector holds is what it held before. A compile error is passed on with the operation in front of
it.

A build calls its collector with the declared operations in normal form. Of all its steps only these
calls can fail with a compile error, so such an error is that of the first operation that fails.

* `CallEnds`: the ways in which a call ends.
* `collected_eq`: what a collector holds after any calls.
* `failsOnly_other_noteEvent`, `failsOnly_other_overrideOperation`: the steps of a build without
  compile errors.
* `FailsFirst`, `failsFirst_of_build`: the operation that fails.
* `collecting_exact`: all calls and all builds.
-/

namespace RoutedFields

/-! ## One call -/

/-- A call adds what comes of its operation, if it does not fail. -/
theorem attemptOperation_eq (document : Node) (policy : OperationPolicy)
    (held : List CompiledOperation) (visit : Visit) :
    attemptOperation document policy held visit =
      match (collectOperation document policy visit).result with
      | .ok outcome => (held ++ outcome.toList, none)
      | .error failure => (held, some failure) := by
  rw [attemptOperation, takeUp, Traced.result_bind]
  cases (collectOperation document policy visit).result <;> rfl

/-- How a call of a collector ends: the operation is left out, it is taken up, or the call fails when
the policy is asked, when the inputs are compiled, or when the operation is recorded. -/
inductive CallEnds (document : Node) (policy : OperationPolicy) (visit : Visit)
    (held : List CompiledOperation) : List CompiledOperation × Option Failure → Prop
  | leftOut (hskips : policy.skips visit = .ok true) :
    CallEnds document policy visit held (held, none)
  | taken (hskips : policy.skips visit = .ok false) (fields : List Field)
    (hfields : compileFields document visit.operation = .ok fields) (compiled : CompiledOperation)
    (hrecord : recordOperation policy visit fields = .ok compiled) :
    CallEnds document policy visit held (held ++ [compiled], none)
  | unanswered (failure : Failure) (hskips : policy.skips visit = .error failure) :
    CallEnds document policy visit held (held, some failure)
  | uncompiled (hskips : policy.skips visit = .ok false) (failure : Failure)
    (hfields : compileFields document visit.operation = .error failure) :
    CallEnds document policy visit held (held, some (failure.inOperation visit.title))
  | unrecorded (hskips : policy.skips visit = .ok false) (fields : List Field)
    (hfields : compileFields document visit.operation = .ok fields) (failure : Failure)
    (hrecord : recordOperation policy visit fields = .error failure) :
    CallEnds document policy visit held (held, some failure)

section Calls

variable (document : Node) (policy : OperationPolicy)

/-- A call ends in one of these ways. -/
theorem callEnds_attemptOperation (visit : Visit) (held : List CompiledOperation) :
    CallEnds document policy visit held (attemptOperation document policy held visit) := by
  rw [attemptOperation_eq, result_collectOperation]
  cases hskips : policy.skips visit with
  | error failure => exact .unanswered failure hskips
  | ok skipped =>
    cases skipped with
    | true =>
      show CallEnds _ _ _ _ (held ++ [], none)
      rw [List.append_nil]
      exact .leftOut hskips
    | false =>
      cases hfields : compileFields document visit.operation with
      | error failure => exact .uncompiled hskips failure hfields
      | ok fields =>
        show CallEnds _ _ _ _
          (match recordOperation policy visit fields >>= fun compiled => pure (some compiled) with
            | .ok outcome => (held ++ outcome.toList, none)
            | .error failure => (held, some failure))
        cases hrecord : recordOperation policy visit fields with
        | error failure => exact .unrecorded hskips fields hfields failure hrecord
        | ok compiled => exact .taken hskips fields hfields compiled hrecord

/-- A compile error of the inputs has no operation in front of it, and the call fails with the same
error with its operation in front. -/
theorem attemptOperation_of_compileError {visit : Visit} {operation : Option String}
    {error : CompileError} (hskips : policy.skips visit = .ok false)
    (hfields : compileFields document visit.operation = .error (.refused (.compile operation error)))
    (held : List CompiledOperation) :
    operation = none ∧ attemptOperation document policy held visit =
      (held, some (.refused (.compile (some visit.title) error))) := by
  refine ⟨failsOnly_unlabelled_compileFields document visit.operation _ hfields, ?_⟩
  rw [attemptOperation_eq, result_collectOperation, hskips, hfields]
  rfl

/-- A build calls its collector when it meets an operation. -/
theorem attemptOperation_of_noteEvent {document : Node} {skip : Bool} {state next : Collected}
    {visit : Visit}
    (h : (noteEvent document (.standard skip) state (.operation visit)).result = .ok next) :
    attemptOperation document (.standard skip) state.operations visit = (next.operations, none) := by
  obtain ⟨outcome, houtcome, hoperations⟩ := operations_of_visit h
  rw [attemptOperation_eq, houtcome, hoperations]

/-! ## Any calls -/

/-- The operation that a call takes up, if it takes one up. -/
def takenBy (visit : Visit) : Option CompiledOperation :=
  (collectOperation document policy visit).result.toOption.join

theorem attemptOperation_fst (held : List CompiledOperation) (visit : Visit) :
    (attemptOperation document policy held visit).1 =
      held ++ (takenBy document policy visit).toList := by
  rw [attemptOperation_eq, takenBy]
  cases (collectOperation document policy visit).result with
  | ok outcome => rfl
  | error failure => exact (List.append_nil held).symm

/-- After any calls a collector holds what each of them has taken up, in order. What a call takes up
depends on its operation alone. -/
theorem collected_eq (calls : List Visit) :
    collected document policy calls = calls.filterMap (takenBy document policy) := by
  induction calls using List.reverseRecOn with
  | nil => rfl
  | append_singleton calls visit ih =>
    rw [collected, List.foldl_append, ← collected, ih, List.foldl_cons, List.foldl_nil,
      attemptOperation_fst, List.filterMap_append, List.filterMap_cons, List.filterMap_nil]
    cases takenBy document policy visit <;> rfl

end Calls

/-! ## Steps without compile errors -/

section Steps

variable {document : Node} {skip : Bool}

theorem failsOnly_other_member (visit : Visit) (key : String) :
    FailsOnly Failure.IsOther (visit.member key) := by
  rw [Visit.member]
  have hmember := failsOnly_other_orFault (visit.operation.member key)
  exact hmember.bind fun value _ => failsOnly_ok _ value.node

theorem failsOnly_other_operationName (visit : Visit) :
    FailsOnly Failure.IsOther (operationName visit) := by
  refine (failsOnly_other_member visit _).bind fun identifier _ => ?_
  split
  · exact (failsOnly_other_orFault _).bind fun label _ => failsOnly_ok _ _
  · exact (failsOnly_other_orFault _).bind fun pattern _ => failsOnly_ok _ _

theorem failsOnly_other_operationAction (visit : Visit) :
    FailsOnly Failure.IsOther (operationAction visit) := by
  refine (failsOnly_other_member visit _).bind fun summary _ => ?_
  split
  · exact failsOnly_ok _ _
  · exact failsOnly_other_operationName visit

theorem failsOnly_other_recordOperation (visit : Visit) (fields : List Field) :
    FailsOnly Failure.IsOther (recordOperation (.standard skip) visit fields) := by
  refine (failsOnly_other_operationName visit).bind fun name _ => ?_
  refine (failsOnly_other_operationName visit).bind fun value _ => ?_
  refine (failsOnly_other_operationAction visit).bind fun action _ => ?_
  refine FailsOnly.bind ?_ fun description _ => ?_
  · refine (failsOnly_other_member visit _).bind fun description _ => ?_
    exact (failsOnly_other_member visit _).bind fun summary _ => failsOnly_ok _ _
  refine (failsOnly_other_member visit _).bind fun operationId _ => ?_
  refine (failsOnly_other_orFault _).bind fun tags _ => ?_
  exact failsOnly_other_toExcept _

theorem failsOnly_other_addTag (resources : Resources) (tag : Node) :
    FailsOnly Failure.IsOther (resources.addTag .standard tag) := by
  refine (failsOnly_other_orFault (tag.required "name")).bind fun value _ => ?_
  split
  · exact failsOnly_ok _ _
  refine FailsOnly.bind ?_ fun name _ => FailsOnly.bind ?_ fun description _ => ?_
  · refine (failsOnly_other_orFault (tag.required "name")).bind fun name _ => ?_
    exact (failsOnly_other_orFault _).bind fun label _ => failsOnly_ok _ _
  · exact (failsOnly_other_orFault _).bind fun description _ => failsOnly_ok _ description.node
  · exact (failsOnly_other_toExcept _).bind fun resource _ => failsOnly_ok _ _

theorem failsOnly_other_finish (resources : Resources) :
    FailsOnly Failure.IsOther (complete (resources.finish .standard)) := by
  rw [Resources.finish]
  generalize resources.used.map Resources.bareTag = tags
  induction tags generalizing resources with
  | nil => exact failsOnly_ok _ resources
  | cons tag tags ih =>
    rw [Resources.addTags]
    cases hadd : resources.addTag .standard tag with
    | ok next => exact ih next
    | error failure => exact failsOnly_error (failsOnly_other_addTag resources tag failure hadd)

theorem failsOnly_other_infoText (info : Node) (key absent : String) :
    FailsOnly Failure.IsOther (infoText info key absent) := by
  rw [infoText]
  split
  · exact failsOnly_ok _ _
  · exact (failsOnly_other_orFault _).map

/-- No event fails with a compile error at what is known about the document. -/
theorem failsOnly_other_infoAfter (info : Sited) (event : Event) :
    FailsOnly Failure.IsOther (infoAfter document info event) := by
  cases event with
  | document =>
    refine (failsOnly_other_orFault _).bind fun info _ => ?_
    dsimp only
    split
    · exact failsOnly_error trivial
    · exact (failsOnly_other_infoText _ _ _).bind fun _ _ => failsOnly_ok _ _
  | _ => exact failsOnly_ok _ info

/-- A result is not put together with a compile error. -/
theorem failsOnly_other_resultWith (state : Collected) (operations : List CompiledOperation) :
    FailsOnly Failure.IsOther (state.resultWith operations) := by
  refine (failsOnly_other_infoText _ _ _).bind fun title _ => ?_
  exact (failsOnly_other_infoText _ _ _).bind fun version _ => failsOnly_other_toExcept _

/-- No event fails with a compile error at the resources. -/
theorem failsOnly_other_meet (resources : Resources) (event : Event) :
    FailsOnly Failure.IsOther (resources.meet event) := by
  cases event with
  | document => exact failsOnly_ok _ resources
  | operation visit => exact (failsOnly_other_orFault _).bind fun tags _ => failsOnly_ok _ _
  | tag tag => exact failsOnly_other_addTag resources tag
  | finish => exact failsOnly_other_finish resources

/-- Only the events of operations fail with compile errors. -/
theorem failsOnly_other_noteEvent {event : Event} (hevent : event.isOperation = false)
    (state : Collected) :
    FailsOnly Failure.IsOther (noteEvent document (.standard skip) state event).result := by
  rw [result_noteEvent, operationsAfter_of_other _ hevent]
  refine (failsOnly_other_infoAfter _ _).bind fun info _ => ?_
  exact (failsOnly_other_meet _ _).bind fun resources _ => failsOnly_ok _ _

/-- Overrides do not fail with compile errors. -/
theorem failsOnly_other_overrideOperation (overrides : List Override)
    (compiled : CompiledOperation) :
    FailsOnly Failure.IsOther (overrideOperation overrides compiled).result := by
  have hfield (field : Field) : FailsOnly Failure.IsOther (overrideField overrides field).result := by
    rw [overrideField]
    split
    · exact failsOnly_ok _ none
    rw [Traced.result_bind]
    refine FailsOnly.bind (.mapError fun _ _ => trivial) fun shown _ => ?_
    rw [Traced.result_bind]
    refine FailsOnly.bind (.mapError fun _ _ => trivial) fun outcome _ => ?_
    dsimp only
    split
    · exact failsOnly_ok _ none
    split
    · exact failsOnly_ok _ _
    · exact failsOnly_error trivial
  rw [overrideOperation, applyOverrides, overrideFields, Traced.result_bind, Traced.result_bind,
    Traced.result_mapM]
  refine FailsOnly.bind ?_ fun fields _ => failsOnly_ok _ _
  exact (FailsOnly.mapM fun field _ => hfield field).bind fun outcomes _ => failsOnly_ok _ _

end Steps

/-! ## The operation that fails -/

/-- Among declared operations, the first one that fails, with a compile error of its inputs: those
before it are left out or taken up, and it is not left out. -/
structure FailsFirst (settings : Settings) (document : Node) (before : List Declaration)
    (declaration : Declaration) (operation : Sited) (error : CompileError) : Prop where
  before : ∀ earlier ∈ before, ∃ outcome, earlier.collect (.str settings.defaultTag) document
    (.standard settings.skipDeprecated) = .ok outcome
  kept : declaration.isSkipped settings = false
  normal : normalize (.str settings.defaultTag) declaration.pathItem declaration.operation =
    .ok operation
  fails : compileFields document operation = .error (.ofCompile error)

/-- Whether a failure, if it is a compile error, is that of the first one of some declared operations
that fails, with that operation in front of it. -/
def Blames (settings : Settings) (document : Node) (declared : List Declaration)
    (failure : Failure) : Prop :=
  ∀ label error, failure = .refused (.compile label error) →
    ∃ before declaration after operation, declared = before ++ declaration :: after ∧
      FailsFirst settings document before declaration operation error ∧
      label = some (Visit.title ⟨declaration.method, declaration.pattern, operation⟩)

section Build

variable {settings : Settings} {document : Node} {declaration : Declaration}
  {declared : List Declaration}

theorem Failure.IsOther.blames {failure : Failure} (h : failure.IsOther) :
    Blames settings document declared failure := by
  rintro label error rfl
  exact h.elim

theorem FailsOnly.blames {α : Type} {x : Except Failure α} (h : FailsOnly Failure.IsOther x) :
    FailsOnly (Blames settings document declared) x :=
  h.mono fun _ => Failure.IsOther.blames

/-- An operation in front of the others that does not fail is not the one that fails. -/
theorem Blames.cons {failure : Failure} {outcome : Option CompiledOperation}
    (hcollect : declaration.collect (.str settings.defaultTag) document
      (.standard settings.skipDeprecated) = .ok outcome)
    (h : Blames settings document declared failure) :
    Blames settings document (declaration :: declared) failure := by
  intro label error hfailure
  obtain ⟨before, found, after, operation, rfl, hfails, hlabel⟩ := h label error hfailure
  refine ⟨declaration :: before, found, after, operation, rfl, ⟨?_, hfails.kept, hfails.normal,
    hfails.fails⟩, hlabel⟩
  exact List.forall_mem_cons.mpr ⟨⟨outcome, hcollect⟩, hfails.before⟩

/-- A call with a declared operation fails with a compile error only if the operation is not left
out and its inputs do. -/
theorem failsOnly_blames_collectOperation {operation : Sited}
    (hnormal : normalize (.str settings.defaultTag) declaration.pathItem declaration.operation =
      .ok operation) :
    FailsOnly (Blames settings document (declaration :: declared))
      (collectOperation document (.standard settings.skipDeprecated)
        ⟨declaration.method, declaration.pattern, operation⟩).result := by
  rw [result_collectOperation, skips_standard (normalized_of_normalize hnormal)]
  show FailsOnly _ (if declaration.isSkipped settings then _ else _)
  cases hskipped : declaration.isSkipped settings with
  | true => exact failsOnly_ok _ none
  | false =>
    rw [if_neg Bool.false_ne_true]
    refine FailsOnly.bind (.mapError fun failure hfailure => ?_) fun fields _ => ?_
    · rintro label error herror
      cases failure with
      | refused refusal =>
        cases refusal with
        | compile own cause =>
          have hnone : own = none :=
            failsOnly_unlabelled_compileFields document operation _ hfailure
          cases herror
          rw [hnone] at hfailure
          exact ⟨[], declaration, declared, operation, rfl,
            ⟨List.forall_mem_nil _, hskipped, hnormal, hfailure⟩, rfl⟩
        | _ => cases herror
      | _ => cases herror
    · exact ((failsOnly_other_recordOperation _ fields).bind fun _ _ => failsOnly_ok _ _).blames

/-- The events of declared operations fail with a compile error only at the first operation that
fails. -/
theorem failsOnly_blames_runWalk (declared : List Declaration) (state : Collected) :
    FailsOnly (Blames settings document declared)
      (runWalk (noteEvent document (.standard settings.skipDeprecated))
        (declared.map (·.event (.str settings.defaultTag))) state).result := by
  induction declared generalizing state with
  | nil => exact failsOnly_ok _ state
  | cons declaration declared ih =>
    rw [List.map_cons]
    cases hevent : declaration.event (.str settings.defaultTag) with
    | error failure =>
      have hother : FailsOnly Failure.IsOther (declaration.event (.str settings.defaultTag)) :=
        (failsOnly_other_orFault _).bind fun operation _ => failsOnly_ok _ _
      exact failsOnly_error (hother failure hevent).blames
    | ok event =>
      rw [runWalk, Traced.result_bind]
      refine FailsOnly.bind ?_ fun next hnext => ?_
      · obtain ⟨operation, hnormal, rfl⟩ := map_eq_ok_iff.mp hevent
        rw [result_noteEvent]
        refine (failsOnly_other_infoAfter _ _).blames.bind fun info _ => ?_
        refine (failsOnly_other_meet _ _).blames.bind fun resources _ => ?_
        refine FailsOnly.bind ?_ fun operations _ => failsOnly_ok _ _
        refine FailsOnly.bind ?_ fun outcome _ => failsOnly_ok _ _
        exact failsOnly_blames_collectOperation (orFault_eq_ok_iff.mp hnormal)
      · obtain ⟨outcome, houtcome, _⟩ := collect_of_event hevent hnext
        exact (ih next).mono fun failure => Blames.cons houtcome

/-- A walk without operations does not fail with a compile error. -/
theorem failsOnly_other_runWalk {walk : Walk}
    (h : ∀ item ∈ walk, FailsOnly Failure.IsOther item ∧
      ∀ event, item = .ok event → event.isOperation = false) (state : Collected) :
    FailsOnly Failure.IsOther
      (runWalk (noteEvent document (.standard settings.skipDeprecated)) walk state).result :=
  (failsOnly_runWalk (I := fun _ => True)
    (fun state _ _ hevent => ⟨failsOnly_other_noteEvent hevent state, fun _ _ => trivial⟩) h
    trivial).1

/-- The operations of a document fail with a compile error only at the first one that fails. -/
theorem failsOnly_blames_operationEvents (state : Collected) :
    FailsOnly (Blames settings document (declarations document))
      (runWalk (noteEvent document (.standard settings.skipDeprecated))
        (operationEvents (.str settings.defaultTag) (Sited.root document)) state).result := by
  by_cases hpaths : ((Sited.root document).entry "paths").node.isTruthy = true →
      ((Sited.root document).entry "paths").node.isMap = true
  · rw [operationEvents_eq hpaths]
    exact failsOnly_blames_runWalk (declarations document) state
  · obtain ⟨htruthy, hmap⟩ := Classical.not_imp.mp hpaths
    rw [operationEvents, htruthy, Bool.eq_false_iff.mpr hmap]
    exact failsOnly_error (Failure.IsOther.blames trivial)

theorem isOther_of_tagEvents {item : Except Failure Event}
    (h : item ∈ tagEvents (Sited.root document)) :
    FailsOnly Failure.IsOther item ∧ ∀ event, item = .ok event → event.isOperation = false := by
  rw [tagEvents] at h
  split at h
  · obtain ⟨tag, _, rfl⟩ := List.mem_map.mp h
    refine ⟨failsOnly_ok _ _, ?_⟩
    rintro event ⟨⟩
    rfl
  · rename_i failure hfailure
    obtain rfl := List.mem_singleton.mp h
    refine ⟨failsOnly_error (failsOnly_other_orFault _ failure hfailure), ?_⟩
    rintro event ⟨⟩

/-- A build fails with a compile error only at the first operation that fails. -/
theorem failsFirst_of_build :
    FailsOnly (Blames settings document (declarations document))
      (build settings document).result := by
  rw [result_build]
  refine FailsOnly.bind ?_ fun state _ => ?_
  · rw [walk, if_pos (show Offers.all.document = true from rfl), List.singleton_append, runWalk,
      Traced.result_bind]
    refine (failsOnly_other_noteEvent rfl _).blames.bind fun first _ => ?_
    split
    · rw [partEvents, if_pos (show Offers.all.operation = true from rfl), List.append_assoc,
        runWalk_append]
      refine (failsOnly_blames_operationEvents first).bind fun second _ => ?_
      refine (failsOnly_other_runWalk (fun item hitem => ?_) second).blames
      rcases List.mem_append.mp hitem with htag | hfinish
      · exact isOther_of_tagEvents htag
      · obtain rfl := List.mem_singleton.mp hfinish
        refine ⟨failsOnly_ok _ _, ?_⟩
        rintro event ⟨⟩
        rfl
    · exact failsOnly_error (Failure.IsOther.blames trivial)
  · refine FailsOnly.blames (FailsOnly.bind ?_ fun operations _ => ?_)
    · exact FailsOnly.mapM fun compiled _ => failsOnly_other_overrideOperation _ compiled
    · exact failsOnly_other_resultWith state operations

end Build

/-! ## All calls and all builds -/

/-- Whatever calls have come before, a call of a collector adds the one operation that it takes up,
or it leaves its operation out or fails, and then the collector holds what it held. So after any
calls it holds what each of them has taken up. If the inputs of an operation that is not left out
have a compile error, the call fails with an error of the same kind, and its wording is that of the
error with the method and the pattern of the operation in front. If a build fails with a compile
error, it is that of the first declared operation that is neither left out nor taken up, compiled by
itself, with this operation in front. -/
theorem collecting_exact (document : Node) :
    (∀ policy calls visit, CallEnds document policy visit (collected document policy calls)
      (attemptOperation document policy (collected document policy calls) visit)) ∧
    (∀ policy calls,
      collected document policy calls = calls.filterMap (takenBy document policy)) ∧
    (∀ policy visit operation error, policy.skips visit = .ok false →
      compileFields document visit.operation = .error (.refused (.compile operation error)) →
      operation = none ∧ ∀ held, attemptOperation document policy held visit =
        (held, some (.refused (.compile (some visit.title) error)))) ∧
    (∀ title error,
      (Refusal.compile (some title) error).kind = (Refusal.compile none error).kind ∧
      (Refusal.compile (some title) error).message =
        title ++ ": " ++ (Refusal.compile none error).message) ∧
    ∀ settings label error,
      (build settings document).result = .error (.refused (.compile label error)) →
      ∃ before declaration after operation,
        declarations document = before ++ declaration :: after ∧
        FailsFirst settings document before declaration operation error ∧
        label = some (Visit.title ⟨declaration.method, declaration.pattern, operation⟩) := by
  refine ⟨fun policy calls visit => callEnds_attemptOperation document policy visit _,
    collected_eq document, fun policy visit operation error hskips hfields => ?_,
    fun title error => ⟨rfl, rfl⟩, fun settings label error hbuild => ?_⟩
  · obtain ⟨hnone, _⟩ := attemptOperation_of_compileError document policy hskips hfields []
    exact ⟨hnone, fun held =>
      (attemptOperation_of_compileError document policy hskips hfields held).2⟩
  · exact failsFirst_of_build _ hbuild label error rfl

/-- Two parameters, of which the second stands where no parameter can stand. -/
def cookieParameters : Node :=
  .list [
    .map [(.str "name", .str "q"), (.str "in", .str "query"),
      (.str "schema", .map [(.str "type", .str "string")])],
    .map [(.str "name", .str "sid"), (.str "in", .str "cookie"), (.str "schema", .map [])]]

/-- A document with an operation without inputs, a deprecated one, one with these parameters, and one
with a body without content. All but the first one fail when they are compiled. -/
def sessionDocument : Node :=
  .map [(.str "paths", .map [
    (.str "/session", .map [
      (.str "get", .map []),
      (.str "delete", .map [(.str "deprecated", .bool true),
        (.str "parameters", cookieParameters)]),
      (.str "post", .map [(.str "parameters", cookieParameters)])]),
    (.str "/login", .map [
      (.str "put", .map [(.str "requestBody", .map [(.str "content", .map [])])])])])]

/-- A call with an operation that has these parameters. -/
def sessionVisit : Visit where
  method := .post
  pattern := .str "/session"
  operation := .outside (.map [(.str "tags", .list [.str standardTag]),
    (.str "parameters", cookieParameters)])

theorem collecting_exact_session :
    (attemptOperation sessionDocument (.standard true) [] sessionVisit =
      ([], some (.refused (.compile (some "POST /session") (.unknownLocation "cookie" "sid"))))) ∧
    (Refusal.compile (some "POST /session") (.unknownLocation "cookie" "sid")).message =
      "POST /session: Unknown parameter location 'cookie' for parameter 'sid'" ∧
    (declarations sessionDocument).map (·.method) = [.get, .delete, .post, .put] ∧
    ∃ before declaration after operation,
      declarations sessionDocument = before ++ declaration :: after ∧
      FailsFirst ⟨true, standardTag, []⟩ sessionDocument before declaration operation
        (.unknownLocation "cookie" "sid") ∧
      some "POST /session" =
        some (Visit.title ⟨declaration.method, declaration.pattern, operation⟩) := by
  obtain ⟨-, -, hcall, hwording, hbuild⟩ := collecting_exact sessionDocument
  exact ⟨(hcall (.standard true) sessionVisit none _ rfl rfl).2 [], (hwording _ _).2, rfl,
    hbuild ⟨true, standardTag, []⟩ _ _ rfl⟩

end RoutedFields
