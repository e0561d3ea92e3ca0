import Mathlib.Data.List.ReduceOption
import RoutedFields.Proofs.Build.Collection
import RoutedFields.Proofs.Compile.LargerDocuments

/-!
# Adding a path

A path can be added at the end of the paths of a document, and no operation of the others changes.
References into the document still name the same nodes, even those that go through the paths; only
`#/paths` itself names something else, so it may not be used.

* `carriesOver_collect`: a declared operation adds the same to the build of a document that has grown.
* `operationsOf`: what a build makes of declared operations by themselves.
* `operations_of_addPath`: the operations of a document with one more path.
-/

namespace RoutedFields

/-! ## Operations of a larger document -/

section Larger

variable {document larger : Node} {moved : String} {pathItem operation normalized : Sited}

/-- An operation in normal form holds no reference that neither it nor its path holds. -/
theorem refersTo_of_normalize {defaultTag : String}
    (hpathItem : pathItem.node.refersTo moved = false)
    (hoperation : operation.node.refersTo moved = false)
    (h : normalize (.str defaultTag) pathItem operation = .ok normalized) :
    normalized.node.refersTo moved = false := by
  have hrefersTo := hereditary_refersTo moved
  obtain ⟨merged, hmerged, hpure⟩ := bind_eq_ok_iff.mp h
  obtain rfl := pure_eq_ok_iff.mp hpure
  obtain ⟨ofPath, ofOperation, hofPath, hofOperation, hsubset⟩ := subset_of_mergeParameters hmerged
  have hparameters : (Sited.ofItems merged).node.refersTo moved = false := by
    refine hrefersTo.ofItems fun parameter hparameter => ?_
    rcases List.mem_append.mp (hsubset hparameter) with hmem | hmem
    · exact refersTo_of_elementsIfAny (hrefersTo.entry hpathItem "parameters") hofPath _ hmem
    · exact refersTo_of_elementsIfAny (hrefersTo.entry hoperation "parameters") hofOperation _ hmem
  refine hrefersTo.ofEntries (.put hrefersTo ?_ (by simp) hparameters)
  split
  · exact hrefersTo.entries hoperation
  · exact (hrefersTo.entries hoperation).put hrefersTo (by simp) rfl

/-- A declared operation adds the same to the build of the larger document. -/
theorem carriesOver_collect {declaration : Declaration} (h : Extends document larger moved)
    (hmem : declaration ∈ declarations document) (defaultTag : String) (policy : OperationPolicy) :
    CarriesOver (declaration.collect (.str defaultTag) document policy)
      (declaration.collect (.str defaultTag) larger policy) := by
  obtain ⟨hpathItem, hoperation⟩ := (hereditary_refersTo moved).of_mem_declarations h.refersTo hmem
  refine CarriesOver.bind (.refl _) fun normalized hnormalized => ?_
  have hnode := refersTo_of_normalize hpathItem hoperation (orFault_eq_ok_iff.mp hnormalized)
  rw [result_collectOperation, result_collectOperation]
  refine CarriesOver.bind (.refl _) fun skipped _ => ?_
  split
  · exact .refl _
  · exact ((carriesOver_compileFields h hnode).mapError _).bind fun _ _ => .refl _

end Larger

/-! ## Builds -/

/-- What a build makes of declared operations by themselves: each of them is collected, and then the
overrides are applied. -/
def operationsOf (settings : Settings) (document : Node) (declared : List Declaration) :
    Except Failure (List CompiledOperation) := do
  let outcomes ← declared.mapM
    (·.collect (.str settings.defaultTag) document (.standard settings.skipDeprecated))
  outcomes.reduceOption.mapM fun compiled => (overrideOperation settings.overrides compiled).result

/-- The operations that a path declares, in order. -/
def pathDeclarations (pattern : Scalar) (pathItem : Sited) : List Declaration :=
  pathItem.entries.filterMap (declaration? pattern pathItem)

section Build

variable {settings : Settings} {document pathItem : Node} {pattern : String} {paths : Entries}
  {result longer : BuildResult}

theorem operationsOf_of_build (h : (build settings document).result = .ok result) :
    operationsOf settings document (declarations document) = .ok result.operations := by
  obtain ⟨outcomes, houtcomes, hoverridden⟩ := collect_of_build h
  exact bind_eq_ok_iff.mpr ⟨outcomes, mapM_eq_ok_iff.mpr houtcomes, mapM_eq_ok_iff.mpr hoverridden⟩

/-- What a build makes of operations in two parts is what it makes of each part. -/
theorem operationsOf_append {first second : List Declaration} {operations : List CompiledOperation}
    (h : operationsOf settings document (first ++ second) = .ok operations) :
    ∃ ofFirst ofSecond, operationsOf settings document first = .ok ofFirst ∧
      operationsOf settings document second = .ok ofSecond ∧
      operations = ofFirst ++ ofSecond := by
  obtain ⟨outcomes, houtcomes, h⟩ := bind_eq_ok_iff.mp h
  rw [List.mapM_append] at houtcomes
  obtain ⟨outcomes₁, houtcomes₁, hrest⟩ := bind_eq_ok_iff.mp houtcomes
  obtain ⟨outcomes₂, houtcomes₂, hpure⟩ := bind_eq_ok_iff.mp hrest
  obtain rfl := pure_eq_ok_iff.mp hpure
  rw [List.reduceOption_append, List.mapM_append] at h
  obtain ⟨ofFirst, hofFirst, hrest⟩ := bind_eq_ok_iff.mp h
  obtain ⟨ofSecond, hofSecond, hpure⟩ := bind_eq_ok_iff.mp hrest
  obtain rfl := pure_eq_ok_iff.mp hpure
  exact ⟨ofFirst, ofSecond, bind_eq_ok_iff.mpr ⟨outcomes₁, houtcomes₁, hofFirst⟩,
    bind_eq_ok_iff.mpr ⟨outcomes₂, houtcomes₂, hofSecond⟩, rfl⟩

/-- Each operation that a build makes of declared ones stands where one of them stands. -/
theorem exists_declaration_of_mem {declared : List Declaration}
    {operations : List CompiledOperation} {compiled : CompiledOperation}
    (h : operationsOf settings document declared = .ok operations) (hmem : compiled ∈ operations) :
    ∃ declaration ∈ declared,
      declaration.pattern = .str compiled.pattern ∧ declaration.method = compiled.method := by
  obtain ⟨outcomes, houtcomes, hoverridden⟩ := bind_eq_ok_iff.mp h
  obtain ⟨kept, hkept, hoverride⟩ := exists_left_of_forall₂ (mapM_eq_ok_iff.mp hoverridden) hmem
  obtain ⟨fields, _, rfl⟩ := overrideOperation_eq_ok hoverride
  obtain ⟨declaration, hdeclared, hcollect⟩ :=
    exists_left_of_forall₂ (mapM_eq_ok_iff.mp houtcomes) (List.reduceOption_mem_iff.mp hkept)
  obtain ⟨operation, _, hcollected⟩ := addsTo_of_collect hcollect
  refine ⟨declaration, hdeclared, ?_⟩
  rcases collectOperation_eq_ok hcollected with ⟨_, hnone⟩ | ⟨_, _, _, _, hrecord, hsome⟩
  · cases hnone
  · obtain rfl := Option.some.inj hsome
    obtain ⟨hpattern, hmethod, _⟩ := recordOperation_eq_ok hrecord
    exact ⟨hpattern, hmethod⟩

/-- A path that is added declares its operations after all others, which stay where they are. -/
theorem declarations_addPath (hpaths : document.get? "paths" = some (.map paths)) :
    declarations (document.addPath pattern pathItem) =
      declarations document ++ pathDeclarations (.str pattern) ⟨pathItem, pathSite pattern⟩ := by
  have hold : (Sited.root document).entry "paths" =
      ⟨.map paths, .inside [.key (.str "paths")]⟩ := by
    rw [Sited.entry, Sited.get?, Sited.root, hpaths]
    rfl
  rw [declarations, declarations, Sited.entry_of_get? (paths_addPath hpaths), hold, Sited.entries,
    Node.entries_map, List.map_append, List.flatMap_append, List.map_singleton,
    List.flatMap_singleton]
  rfl

/-- Adding a path changes no other operation. If both documents are built, the operations of the
longer one are those of the other one, unchanged and in order, and then those of the added path,
which have its pattern. The pattern may be any text, and the added path may hold any references. -/
theorem operations_of_addPath (hpaths : document.get? "paths" = some (.map paths))
    (hdocument : document.refersTo "#/paths" = false)
    (h : (build settings document).result = .ok result)
    (hlonger : (build settings (document.addPath pattern pathItem)).result = .ok longer) :
    ∃ added,
      operationsOf settings (document.addPath pattern pathItem)
        (pathDeclarations (.str pattern) ⟨pathItem, pathSite pattern⟩) = .ok added ∧
      (∀ compiled ∈ added, compiled.pattern = pattern) ∧
      longer.operations = result.operations ++ added := by
  have hall := operationsOf_of_build hlonger
  rw [declarations_addPath hpaths] at hall
  obtain ⟨kept, added, hkept, hadded, happend⟩ := operationsOf_append hall
  have hcarried : operationsOf settings (document.addPath pattern pathItem)
      (declarations document) = .ok result.operations := by
    refine CarriesOver.bind (.mapM fun declaration hmem => ?_) (fun _ _ => .refl _) _
      (operationsOf_of_build h)
    exact carriesOver_collect (extends_addPath hpaths hdocument) hmem _ _
  obtain rfl := Except.ok.inj (hkept.symm.trans hcarried)
  refine ⟨added, hadded, fun compiled hmem => ?_, happend⟩
  obtain ⟨declaration, hdeclared, hpattern, _⟩ := exists_declaration_of_mem hadded hmem
  obtain ⟨_, _, hdeclaration⟩ := List.mem_filterMap.mp hdeclared
  obtain ⟨_, _, hplace, _⟩ := declaration?_eq_some_iff.mp hdeclaration
  exact Scalar.str.inj (hpattern.symm.trans hplace)

/-- A path with a parameter of its own, and one that refers to this parameter where it stands. -/
def sharingDocument : Node :=
  .map [(.str "paths", .map [
    (.str "/pets", .map [(.str "get", .map [
      (.str "parameters", .list [.map [(.str "$ref", .str "#/paths/~1stores/parameters/0")]])])]),
    (.str "/stores", .map [
      (.str "parameters", .list [.map [(.str "name", .str "limit"), (.str "in", .str "query"),
        (.str "schema", .map [(.str "type", .str "string")])]]),
      (.str "get", .map []), (.str "delete", .map [])])])]

/-- A path that refers to a parameter of another path, through a third one. -/
def ownersPath : Node :=
  .map [(.str "post", .map [
    (.str "parameters", .list [.map [(.str "$ref", .str "#/paths/~1pets/get/parameters/0")]])])]

/-- Settings that describe a parameter. -/
def describingSettings : Settings :=
  ⟨false, standardTag,
    [{ find := [(.str "name", .str "limit")], replace := [(.str "description", .str "At most")] }]⟩

theorem operations_of_addPath_owners :
    sharingDocument.refersTo "#/paths" = false ∧
    ∃ result longer, (build describingSettings sharingDocument).result = .ok result ∧
      (build describingSettings (sharingDocument.addPath "/owners" ownersPath)).result =
        .ok longer ∧
      result.operations.map (·.name) = ["Get Pets", "Get Stores", "Delete Stores"] ∧
      longer.operations.map (·.name) =
        ["Get Pets", "Get Stores", "Delete Stores", "Post Owners"] ∧
      ∃ added,
        operationsOf describingSettings (sharingDocument.addPath "/owners" ownersPath)
          (pathDeclarations (.str "/owners") ⟨ownersPath, pathSite "/owners"⟩) = .ok added ∧
        (∀ compiled ∈ added, compiled.pattern = "/owners") ∧
        longer.operations = result.operations ++ added := by
  have hdocument : sharingDocument.refersTo "#/paths" = false := by decide
  have hnames : ((build describingSettings sharingDocument).result.map
      (·.operations.map (·.name))).toOption = some ["Get Pets", "Get Stores", "Delete Stores"] := by
    decide +kernel
  have hlongerNames :
      ((build describingSettings (sharingDocument.addPath "/owners" ownersPath)).result.map
        (·.operations.map (·.name))).toOption =
        some ["Get Pets", "Get Stores", "Delete Stores", "Post Owners"] := by
    decide +kernel
  obtain ⟨result, hresult, hnames⟩ := map_eq_ok_iff.mp (toOption_eq_some_iff.mp hnames)
  obtain ⟨longer, hlonger, hlongerNames⟩ := map_eq_ok_iff.mp (toOption_eq_some_iff.mp hlongerNames)
  exact ⟨hdocument, result, longer, hresult, hlonger, hnames, hlongerNames,
    operations_of_addPath rfl hdocument hresult hlonger⟩

end Build

end RoutedFields
