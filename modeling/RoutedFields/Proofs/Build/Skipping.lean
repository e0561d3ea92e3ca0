import RoutedFields.Proofs.Build.Collection

/-!
# Leaving out deprecated operations

A build that leaves out deprecated operations runs over the same walk as one that does not. The two
runs agree on everything but the operations, and there the one has those of the other that are not
deprecated.

* `undeprecated`: what was made of those declared operations that are not marked as deprecated.
* `noteEvent_of_other`, `noteEvent_of_declared`: an event in both runs.
* `run_skipping`: all events in both runs.
* `build_skipping`: a build that leaves out deprecated operations is the full one without them.
-/

namespace RoutedFields

/-- Whether a document marks an operation that it declares as deprecated. -/
def Declaration.isDeprecated (declaration : Declaration) : Bool :=
  (declaration.operation.node.entry "deprecated").isTruthy

/-- Of things made one by one from declared operations, those whose operation is not marked as
deprecated. -/
def undeprecated {α : Type} (declared : List Declaration) (made : List α) : List α :=
  ((declared.zip made).filter fun pair => !pair.1.isDeprecated).map (·.2)

theorem undeprecated_cons {α : Type} (declaration : Declaration) (declared : List Declaration)
    (a : α) (made : List α) :
    undeprecated (declaration :: declared) (a :: made) =
      (if declaration.isDeprecated then [] else [a]) ++ undeprecated declared made := by
  unfold undeprecated
  cases h : declaration.isDeprecated <;> simp [h]

/-- What is done to each thing is done to those that are left. -/
theorem forall₂_undeprecated {α β : Type} {R : α → β → Prop} {xs : List α} {ys : List β}
    (h : List.Forall₂ R xs ys) (declared : List Declaration) :
    List.Forall₂ R (undeprecated declared xs) (undeprecated declared ys) := by
  induction h generalizing declared with
  | nil => cases declared <;> exact .nil
  | cons hxy _ ih =>
    cases declared with
    | nil => exact .nil
    | cons declaration declared =>
      rw [undeprecated_cons, undeprecated_cons]
      cases declaration.isDeprecated with
      | true => exact ih declared
      | false => exact .cons hxy (ih declared)

/-! ## One event in both runs -/

section Event

variable {document : Node} {state state' : Collected}

/-- Only operations are treated in different ways, and nothing else depends on the operations that
have been collected. -/
theorem noteEvent_of_other {skip skip' : Bool} {event : Event} (hevent : event.isOperation = false)
    (h : (noteEvent document (.standard skip) state event).result = .ok state')
    (operations : List CompiledOperation) :
    (noteEvent document (.standard skip') { state with operations := operations } event).result =
      .ok { state' with operations := operations } := by
  obtain ⟨hinfo, hresources, _⟩ := noteEvent_eq_ok_iff.mp h
  exact noteEvent_eq_ok_iff.mpr ⟨hinfo, hresources, operationsAfter_of_other operations hevent⟩

/-- A declared operation is left out in the one run if it is deprecated. Otherwise both runs take up
the same compiled operation. -/
theorem noteEvent_of_declared {declaration : Declaration} {operation : Sited}
    (hnormalized : Normalized declaration operation)
    (h : (noteEvent document (.standard false) state
      (.operation ⟨declaration.method, declaration.pattern, operation⟩)).result = .ok state') :
    ∃ compiled, declaration.pattern = .str compiled.pattern ∧
      declaration.method = compiled.method ∧
      state'.operations = state.operations ++ [compiled] ∧
      ∀ operations, (noteEvent document (.standard true) { state with operations := operations }
        (.operation ⟨declaration.method, declaration.pattern, operation⟩)).result = .ok { state' with
          operations := operations ++ if declaration.isDeprecated then [] else [compiled] } := by
  set visit : Visit := ⟨declaration.method, declaration.pattern, operation⟩
  obtain ⟨hinfo, hresources, _⟩ := noteEvent_eq_ok_iff.mp h
  obtain ⟨outcome, houtcome, hoperations⟩ := operations_of_visit h
  have hskips : (OperationPolicy.standard true).skips visit = .ok declaration.isDeprecated :=
    @skips_standard ⟨true, standardTag, []⟩ _ _ hnormalized
  rcases collectOperation_eq_ok houtcome with ⟨hskipped, _⟩ | ⟨fields, compiled, _, hfields,
    hrecord, rfl⟩
  · cases hskipped
  obtain ⟨hpattern, hmethod, _⟩ := recordOperation_eq_ok hrecord
  refine ⟨compiled, hpattern, hmethod, hoperations, fun operations => ?_⟩
  have hcollected : (collectOperation document (.standard true) visit).result =
      .ok (if declaration.isDeprecated then none else some compiled) := by
    have hrecord' : recordOperation (.standard true) visit fields = .ok compiled := hrecord
    rw [result_collectOperation, hskips, hfields]
    cases declaration.isDeprecated with
    | true => rfl
    | false =>
      show recordOperation (.standard true) visit fields >>= _ = _
      rw [hrecord']
      rfl
  refine noteEvent_eq_ok_iff.mpr ⟨hinfo, hresources, ?_⟩
  refine bind_eq_ok_iff.mpr ⟨_, hcollected, ?_⟩
  cases declaration.isDeprecated <;> rfl

end Event

/-! ## All events in both runs -/

section Run

variable {document : Node} {state state' : Collected}

theorem run_of_other {skip skip' : Bool} {events : List Event}
    (hevents : ∀ event ∈ events, event.isOperation = false)
    (h : events.foldlM (fun s event => (noteEvent document (.standard skip) s event).result) state =
      .ok state') (operations : List CompiledOperation) :
    events.foldlM (fun s event => (noteEvent document (.standard skip') s event).result)
      { state with operations := operations } = .ok { state' with operations := operations } := by
  induction events generalizing state with
  | nil =>
    cases h
    rfl
  | cons event events ih =>
    obtain ⟨hevent, hrest⟩ := List.forall_mem_cons.mp hevents
    obtain ⟨next, hnext, h⟩ := bind_eq_ok_iff.mp h
    exact bind_eq_ok_iff.mpr ⟨_, noteEvent_of_other hevent hnext operations, ih hrest h⟩

/-- How a compiled operation stands for a declared one. -/
def Declaration.StandsFor (declaration : Declaration) (compiled : CompiledOperation) : Prop :=
  declaration.pattern = .str compiled.pattern ∧ declaration.method = compiled.method

/-- Over the declared operations the full run adds one operation for each, and the other run those
of them that are not deprecated. -/
theorem run_of_declared {defaultTag : Node} {declared : List Declaration} {events : List Event}
    (hdeclared : List.Forall₂ (fun declaration event => declaration.event defaultTag = .ok event)
      declared events)
    (h : events.foldlM (fun s event => (noteEvent document (.standard false) s event).result)
      state = .ok state') :
    ∃ added, List.Forall₂ Declaration.StandsFor declared added ∧
      state'.operations = state.operations ++ added ∧
      ∀ operations, events.foldlM
        (fun s event => (noteEvent document (.standard true) s event).result)
        { state with operations := operations } =
          .ok { state' with operations := operations ++ undeprecated declared added } := by
  induction hdeclared generalizing state with
  | nil =>
    cases h
    refine ⟨[], .nil, (List.append_nil _).symm, fun operations => ?_⟩
    rw [undeprecated, List.zip_nil_left, List.filter_nil, List.map_nil, List.append_nil]
    rfl
  | @cons declaration event declared events hevent _ ih =>
    obtain ⟨next, hnext, hfold⟩ := bind_eq_ok_iff.mp h
    obtain ⟨operation, rfl, hnormalized⟩ := normalized_of_event hevent
    obtain ⟨compiled, hpattern, hmethod, hadded, hother⟩ :=
      noteEvent_of_declared hnormalized hnext
    obtain ⟨added, hstands, hrest, hfold'⟩ := ih hfold
    refine ⟨compiled :: added, .cons ⟨hpattern, hmethod⟩ hstands, ?_, fun operations => ?_⟩
    · rw [hrest, hadded, List.append_assoc, List.singleton_append]
    · refine bind_eq_ok_iff.mpr ⟨_, hother operations, ?_⟩
      rw [undeprecated_cons, ← List.append_assoc]
      exact hfold' _

/-- A full run over a document, and the run that leaves out deprecated operations. -/
theorem run_skipping {defaultTag : Node}
    (h : (runWalk (noteEvent document (.standard false)) (walk defaultTag .all document)
      .empty).result = .ok state') :
    List.Forall₂ Declaration.StandsFor (declarations document) state'.operations ∧
      (runWalk (noteEvent document (.standard true)) (walk defaultTag .all document)
        .empty).result = .ok { state' with
          operations := undeprecated (declarations document) state'.operations } := by
  obtain ⟨events, hwalk, hfold⟩ := runWalk_eq_ok_iff.mp h
  obtain ⟨operations, tags, hoperations, htags, rfl⟩ := walk_eq_ok hwalk
  obtain ⟨first, hfirst, hfold⟩ := bind_eq_ok_iff.mp hfold
  rw [List.foldlM_append] at hfold
  obtain ⟨second, hsecond, hlast⟩ := bind_eq_ok_iff.mp hfold
  obtain ⟨added, hstands, hadded, hsecond'⟩ :=
    run_of_declared (declarations_event hoperations) hsecond
  have hother : ∀ event ∈ tags ++ [Event.finish], event.isOperation = false := by
    intro event hevent
    rcases List.mem_append.mp hevent with htag | hfinish
    · exact isOperation_of_tagEvents htags htag
    · rw [List.mem_singleton.mp hfinish]
      rfl
  have hfirstOperations : first.operations = [] := operations_of_noteEvent rfl hfirst
  have hlastOperations : state'.operations = added := by
    rw [operations_of_otherEvents hother hlast, hadded, hfirstOperations, List.nil_append]
  rw [hlastOperations]
  refine ⟨hstands, runWalk_eq_ok_iff.mpr ⟨_, hwalk, ?_⟩⟩
  refine bind_eq_ok_iff.mpr ⟨_, noteEvent_of_other rfl hfirst [], ?_⟩
  rw [List.foldlM_append]
  exact bind_eq_ok_iff.mpr ⟨_, hsecond' [], run_of_other hother hlast _⟩

end Run

/-! ## Builds -/

/-- Overrides do not touch what an operation stands for. -/
theorem standsFor_of_override {overrides : List Override} {declared : List Declaration}
    {compiled overridden : List CompiledOperation}
    (hstands : List.Forall₂ Declaration.StandsFor declared compiled)
    (h : List.Forall₂ (fun c c' => (overrideOperation overrides c).result = .ok c')
      compiled overridden) : List.Forall₂ Declaration.StandsFor declared overridden := by
  induction hstands generalizing overridden with
  | nil =>
    cases h
    exact .nil
  | cons hfirst _ ih =>
    obtain _ | ⟨hoverride, hrest⟩ := h
    obtain ⟨fields, _, rfl⟩ := overrideOperation_eq_ok hoverride
    exact .cons hfirst (ih hrest)

/-- If the full build of a document has a result, so has the build that leaves out deprecated
operations. The full one has one operation for each declared one, in order. The other one has those
of these very operations whose declared operation is not marked as deprecated, in the same order,
and nothing else differs. -/
theorem build_skipping {settings : Settings} {document : Node} {full : BuildResult}
    (h : (build { settings with skipDeprecated := false } document).result = .ok full) :
    List.Forall₂ Declaration.StandsFor (declarations document) full.operations ∧
      (build { settings with skipDeprecated := true } document).result =
        .ok { full with operations := undeprecated (declarations document) full.operations } := by
  obtain ⟨state, overridden, hstate, hoverridden, hresult⟩ := build_eq_ok_iff.mp h
  obtain ⟨hstands, hstate'⟩ := run_skipping hstate
  obtain ⟨_, rfl, hothers⟩ := Collected.resultWith_eq_ok hresult
  constructor
  · exact standsFor_of_override hstands hoverridden
  · exact build_eq_ok_iff.mpr
      ⟨_, _, hstate', forall₂_undeprecated hoverridden _, hothers _⟩

/-- A document with three operations, the second of them deprecated, and a parameter for all. -/
def retiringDocument : Node :=
  .map [(.str "paths", .map [(.str "/pets", .map [
      (.str "parameters", .list [.map [(.str "name", .str "limit"), (.str "in", .str "query"),
        (.str "schema", .map [(.str "type", .str "integer")])]]),
      (.str "get", .map [(.str "tags", .list [.str "pets"])]),
      (.str "delete", .map [(.str "deprecated", .bool true), (.str "tags", .list [.str "old"])]),
      (.str "head", .map [(.str "deprecated", .str "")])])]),
    (.str "tags", .list [.map [(.str "name", .str "pets")]])]

/-- Settings with an override for the parameter of that document. -/
def limitSettings : Settings :=
  ⟨false, standardTag, [⟨[(.str "name", .str "limit")], [(.str "default", .int 50)]⟩]⟩

theorem build_skipping_retiring :
    ∃ full, (build { limitSettings with skipDeprecated := false } retiringDocument).result =
        .ok full ∧
      full.operations.map (·.method) = [.get, .delete, .head] ∧
      full.resources.map (·.value) = ["pets", "old", "default"] ∧
      (undeprecated (declarations retiringDocument) full.operations).map (·.method) =
        [.get, .head] ∧
      (build { limitSettings with skipDeprecated := true } retiringDocument).result =
        .ok { full with
          operations := undeprecated (declarations retiringDocument) full.operations } :=
  ⟨_, rfl, rfl, rfl, rfl, (@build_skipping limitSettings _ _ rfl).2⟩

end RoutedFields
