import RoutedFields.Proofs.Build.Collection
import RoutedFields.Proofs.Compile.BodyFields

/-!
# Nothing is lost or doubled in a build

* `Declares`: whether a document declares an operation under a pattern and a method that is not left
  out.
* `BodyInputs`, `FieldPerInput`: the fields of a body and of an operation, one for each input.
* `build_operations`: the operations of the result are the declared ones, each once and in order,
  with one field for each input, and each of them is found under its method and pattern.
-/

namespace RoutedFields

/-- Whether a document declares an operation under a pattern and a method that is not left out. -/
def Declares (settings : Settings) (document : Node) (pattern : String) (method : Method) : Prop :=
  ∃ pathItem operation,
    ((Sited.root document).entry "paths").get? pattern = some pathItem ∧
    pathItem.get? method.name = some operation ∧ operation.node.isMap = true ∧
    ¬(settings.skipDeprecated = true ∧ (operation.node.entry "deprecated").isTruthy = true)

/-- The fields of a body: none for an absent body, one for each property of a schema that has
properties and is no array, and otherwise exactly one. -/
inductive BodyInputs (document : Node) (sited : Sited) : List Field → Prop
  | absent (hnull : sited.node.isNull = true) : BodyInputs document sited []
  | properties (body schema : Sited) (mediaType : String) (fields : List Field)
    (hnull : sited.node.isNull = false) (hbody : resolve document sited = .ok body)
    (hschema : bodySchema document body = .ok (mediaType, schema))
    (hproperties : SchemaKind.of schema.node ≠ .array ∧ hasProperties schema.node = true)
    (hfields : List.Forall₂ (fun entry field => ∃ key, entry.1 = .str key ∧ PropertyField key field)
      (schema.entry "properties").entries fields) : BodyInputs document sited fields
  | whole (body schema : Sited) (mediaType : String) (field : Field)
    (hnull : sited.node.isNull = false) (hbody : resolve document sited = .ok body)
    (hschema : bodySchema document body = .ok (mediaType, schema))
    (hwhole : ¬(SchemaKind.of schema.node ≠ .array ∧ hasProperties schema.node = true)) :
    BodyInputs document sited [field]

/-- The fields of a compiled operation: one for each of the merged parameters, in order, and then
those of the body. -/
structure FieldPerInput (document : Node) (declaration : Declaration)
    (compiled : CompiledOperation) : Prop where
  pattern : declaration.pattern = .str compiled.pattern
  method : declaration.method = compiled.method
  fields : ∃ parameters ofParameters ofBody,
    mergeParameters (declaration.pathItem.entry "parameters").elementsIfAny
      (declaration.operation.entry "parameters").elementsIfAny = .ok parameters ∧
    List.Forall₂ (fun parameter field => compileParameter document parameter = .ok field)
      parameters ofParameters ∧
    BodyInputs document (declaration.operation.entry "requestBody") ofBody ∧
    compiled.fields = ofParameters ++ ofBody

/-! ## One field for each input -/

theorem bodyInputs_of_compile {document : Node} {sited : Sited} {fields : List Field}
    (h : compileBody document sited = .ok fields) : BodyInputs document sited fields := by
  cases bodyFields_of_compile h with
  | absent hnull => exact .absent hnull
  | present body schema mediaType fields hnull hbody hschema hfields =>
    cases hfields with
    | array field hkind =>
      exact .whole body schema mediaType field hnull hbody hschema fun h => h.1 hkind
    | properties _ hkind hproperties hfields =>
      exact .properties body schema mediaType fields hnull hbody hschema ⟨hkind, hproperties⟩
        hfields
    | object field hkind hproperties =>
      refine .whole body schema mediaType field hnull hbody hschema ?_
      rw [hproperties]
      exact fun h => Bool.false_ne_true h.2
    | binary field hkind hproperties =>
      refine .whole body schema mediaType field hnull hbody hschema ?_
      rw [hproperties]
      exact fun h => Bool.false_ne_true h.2
    | scalar field hkind hproperties =>
      refine .whole body schema mediaType field hnull hbody hschema ?_
      rw [hproperties]
      exact fun h => Bool.false_ne_true h.2

theorem fieldPerInput_of_compiledFrom {document : Node} {declaration : Declaration}
    {compiled : CompiledOperation} (h : CompiledFrom document declaration compiled) :
    FieldPerInput document declaration compiled := by
  obtain ⟨parameters, ofParameters, ofBody, hmerged, hparameters, hbody, hfields⟩ := h.fields
  exact ⟨h.pattern, h.method, parameters, ofParameters, ofBody, hmerged, hparameters,
    bodyInputs_of_compile hbody, hfields⟩

/-! ## Each declared operation once -/

section Operations

variable {settings : Settings} {document : Node} {operations : List CompiledOperation}

theorem isSkipped_eq_false_iff {declaration : Declaration} :
    declaration.isSkipped settings = false ↔
      ¬(settings.skipDeprecated = true ∧
        (declaration.operation.node.entry "deprecated").isTruthy = true) := by
  rw [Declaration.isSkipped, ← Bool.and_eq_true_iff, Bool.not_eq_true]

/-- The operations that a build takes up are the declared ones that are not left out. -/
theorem mem_keptDeclarations_iff (hkeys : document.hasDistinctKeys = true) {pattern : String}
    {method : Method} :
    (∃ declaration ∈ keptDeclarations settings document,
      declaration.pattern = .str pattern ∧ declaration.method = method) ↔
      Declares settings document pattern method := by
  constructor
  · rintro ⟨⟨_, pathItem, _, operation⟩, hmem, rfl, rfl⟩
    rw [keptDeclarations, List.mem_filter, Bool.not_eq_true', isSkipped_eq_false_iff] at hmem
    obtain ⟨hpath, hoperation, hmap⟩ := (mem_declarations_iff hkeys).mp hmem.1
    exact ⟨pathItem, operation, hpath, hoperation, hmap, hmem.2⟩
  · rintro ⟨pathItem, operation, hpath, hoperation, hmap, hskipped⟩
    refine ⟨⟨.str pattern, pathItem, method, operation⟩, ?_, rfl, rfl⟩
    rw [keptDeclarations, List.mem_filter, Bool.not_eq_true', isSkipped_eq_false_iff]
    exact ⟨(mem_declarations_iff hkeys).mpr ⟨hpath, hoperation, hmap⟩, hskipped⟩

theorem exists_operation_iff (hkeys : document.hasDistinctKeys = true)
    (h : List.Forall₂ (CompiledFrom document) (keptDeclarations settings document) operations)
    {pattern : String} {method : Method} :
    (∃ compiled ∈ operations, compiled.pattern = pattern ∧ compiled.method = method) ↔
      Declares settings document pattern method := by
  rw [← mem_keptDeclarations_iff hkeys]
  constructor
  · rintro ⟨compiled, hcompiled, rfl, rfl⟩
    obtain ⟨declaration, hdeclaration, hfrom⟩ := exists_left_of_forall₂ h hcompiled
    exact ⟨declaration, hdeclaration, hfrom.pattern, hfrom.method⟩
  · rintro ⟨declaration, hdeclaration, hpattern, hmethod⟩
    obtain ⟨compiled, hcompiled, hfrom⟩ := exists_left_of_forall₂ h.flip hdeclaration
    refine ⟨compiled, hcompiled, ?_, hfrom.method.symm.trans hmethod⟩
    rw [hfrom.pattern] at hpattern
    injection hpattern

theorem nodup_operations (hkeys : document.hasDistinctKeys = true)
    (h : List.Forall₂ (CompiledFrom document) (keptDeclarations settings document) operations) :
    (operations.map fun compiled => (compiled.pattern, compiled.method)).Nodup := by
  have hnodup : ((keptDeclarations settings document).map fun d => (d.pattern, d.method)).Nodup :=
    (nodup_declarations hkeys).sublist (List.filter_sublist.map _)
  have hmap : (keptDeclarations settings document).map (fun d => (d.pattern, d.method)) =
      operations.map fun compiled => (Scalar.str compiled.pattern, compiled.method) := by
    rw [← List.forall₂_eq_eq_eq, List.forall₂_map_left_iff, List.forall₂_map_right_iff]
    refine h.imp fun declaration compiled hfrom => ?_
    rw [hfrom.pattern, hfrom.method]
  rw [hmap] at hnodup
  refine List.Nodup.of_map (fun place => (Scalar.str place.1, place.2)) ?_
  rw [List.map_map]
  exact hnodup

theorem name_injective {method method' : Method} (h : method.name = method'.name) :
    method = method' := by
  have hname := method.ofName?_name
  rw [h, method'.ofName?_name] at hname
  exact (Option.some.inj hname).symm

/-! ## Finding operations -/

theorem findOperation_eq_some_iff {result : BuildResult}
    (hnodup : (result.operations.map fun c => (c.pattern, c.method)).Nodup) {name pattern : String}
    {compiled : CompiledOperation} :
    result.findOperation name pattern = some compiled ↔
      compiled ∈ result.operations ∧ compiled.method.name = Text.asciiLower name ∧
        compiled.pattern = pattern := by
  have hfound {c : CompiledOperation} (hc : result.findOperation name pattern = some c) :
      c ∈ result.operations ∧ c.method.name = Text.asciiLower name ∧ c.pattern = pattern := by
    refine ⟨List.mem_of_find?_eq_some hc, ?_⟩
    have hplace := List.find?_some hc
    rw [Bool.and_eq_true_iff, beq_iff_eq, beq_iff_eq] at hplace
    exact hplace
  constructor
  · exact hfound
  · rintro ⟨hmem, hname, hpattern⟩
    cases hresult : result.findOperation name pattern with
    | none =>
      have hnone := List.find?_eq_none.mp hresult compiled hmem
      rw [hname, hpattern, beq_self_eq_true, beq_self_eq_true] at hnone
      exact absurd rfl hnone
    | some found =>
      obtain ⟨hmem', hname', hpattern'⟩ := hfound hresult
      -- two operations of the result under the same place are one
      have hplace : (found.pattern, found.method) = (compiled.pattern, compiled.method) := by
        rw [hpattern, hpattern', name_injective (hname'.trans hname.symm)]
      rw [List.inj_on_of_nodup_map hnodup hmem' hmem hplace]

end Operations

/-! ## The whole result -/

/-- The operations of a result are the declared ones that are not left out, in order and each once,
with one field for each of their inputs. Each of them is found under its method, in any case, and
its pattern, and nothing else is found. -/
theorem build_operations {settings : Settings} {document : Node} {result : BuildResult}
    (hkeys : document.hasDistinctKeys = true) (hoverrides : settings.overrides = [])
    (h : (build settings document).result = .ok result) :
    List.Forall₂ (FieldPerInput document) (keptDeclarations settings document) result.operations ∧
    (result.operations.map fun compiled => (compiled.pattern, compiled.method)).Nodup ∧
    (∀ pattern method, (∃ compiled ∈ result.operations,
      compiled.pattern = pattern ∧ compiled.method = method) ↔
        Declares settings document pattern method) ∧
    (∀ name pattern compiled, result.findOperation name pattern = some compiled ↔
      compiled ∈ result.operations ∧ compiled.method.name = Text.asciiLower name ∧
        compiled.pattern = pattern) ∧
    ∀ name pattern, result.findOperation name pattern = none ↔
      ∀ method : Method, method.name = Text.asciiLower name →
        ¬Declares settings document pattern method := by
  have hcompiled := operations_of_build hoverrides h
  have hnodup := nodup_operations hkeys hcompiled
  refine ⟨hcompiled.imp fun _ _ hfrom => fieldPerInput_of_compiledFrom hfrom, hnodup,
    fun _ _ => exists_operation_iff hkeys hcompiled,
    fun _ _ _ => findOperation_eq_some_iff hnodup, ?_⟩
  intro name pattern
  constructor
  · intro hnone method hname hdeclares
    obtain ⟨compiled, hmem, hpattern, hmethod⟩ :=
      (exists_operation_iff hkeys hcompiled).mpr hdeclares
    have hsome := (findOperation_eq_some_iff hnodup).mpr ⟨hmem, hmethod ▸ hname, hpattern⟩
    rw [hnone] at hsome
    cases hsome
  · intro hdeclares
    cases hresult : result.findOperation name pattern with
    | none => rfl
    | some compiled =>
      obtain ⟨hmem, hname, hpattern⟩ := (findOperation_eq_some_iff hnodup).mp hresult
      have hdeclared := (exists_operation_iff hkeys hcompiled).mp ⟨compiled, hmem, hpattern, rfl⟩
      exact absurd hdeclared (hdeclares compiled.method hname)

/-- A document with a path that has a summary, a parameter, and three operations, one of them
deprecated. -/
def storeDocument : Node :=
  .map [(.str "paths", .map [(.str "/pets", .map [
    (.str "summary", .str "Pets"),
    (.str "parameters", .list [.map [(.str "name", .str "limit"), (.str "in", .str "query"),
      (.str "schema", .map [(.str "type", .str "integer")])]]),
    (.str "get", .map []),
    (.str "put", .map [(.str "deprecated", .bool true)]),
    (.str "post", .map [(.str "requestBody", .map [(.str "content", .map [
      (.str "application/json", .map [(.str "schema", .map [(.str "properties", .map [
        (.str "name", .map [(.str "type", .str "string")]),
        (.str "tags", .map [(.str "type", .str "array")])])])])])])])])])]

/-- Settings that leave deprecated operations out. -/
def skippingSettings : Settings := ⟨true, standardTag, []⟩

theorem build_operations_store :
    storeDocument.hasDistinctKeys = true ∧ skippingSettings.overrides = [] ∧
    ∃ result, (build skippingSettings storeDocument).result = .ok result ∧
      result.operations.map (·.method) = [.get, .post] ∧
      result.operations.map (·.fields.length) = [1, 3] ∧
      List.Forall₂ (FieldPerInput storeDocument) (keptDeclarations skippingSettings storeDocument)
        result.operations ∧
      (∃ compiled, result.findOperation "POST" "/pets" = some compiled) ∧
      result.findOperation "PUT" "/pets" = none := by
  have hkeys : storeDocument.hasDistinctKeys = true := by decide
  refine ⟨hkeys, rfl, _, rfl, rfl, rfl, (build_operations hkeys rfl rfl).1, ?_, ?_⟩
  · exact ⟨_, rfl⟩
  · rfl

end RoutedFields
