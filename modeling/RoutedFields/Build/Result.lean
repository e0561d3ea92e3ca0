import RoutedFields.Build.Resource
import RoutedFields.Build.Settings
import RoutedFields.Walk.Visitor

/-!
# Builds

A build walks a document once and collects its resources and its operations with their fields; then
overrides are applied to every field.

* `BuildResult`: what a build yields.
* `build`: the build of a document.
* `BuildResult.findOperation`: the operation under a method and a pattern.
-/

namespace RoutedFields

/-- What a build yields. -/
structure BuildResult where
  title : String
  version : String
  resources : List Resource
  operations : List CompiledOperation

namespace BuildResult

/-- A result as a node. -/
def toNode (result : BuildResult) : Node :=
  .map [(.str "title", .str result.title), (.str "version", .str result.version),
    (.str "resources", .list (result.resources.map (·.toNode))),
    (.str "operations", .list (result.operations.map (·.toNode)))]

/-- A result put together from its parts. -/
def check (title version : Node) (resources : List Resource)
    (operations : List CompiledOperation) : Checked BuildResult :=
  (fun title version => ⟨title, version, resources, operations⟩) <$>
  (Check.text title).under (.key "title") <*>
  (Check.text version).under (.key "version")

/-- A result in the form that users see. -/
def serialize (result : BuildResult) : Except Fault Node :=
  result.toNode.serialize (Field.depthOfItems (result.operations.flatMap (·.fields)))

/-- The operation under a method, in any case, and a pattern. Only ASCII letters have to be lowered,
because no other letter has a lower-case form in the name of a method. -/
def findOperation (result : BuildResult) (method pattern : String) : Option CompiledOperation :=
  result.operations.find? fun operation =>
    operation.method.name == Text.asciiLower method && operation.pattern == pattern

end BuildResult

/-! ## Collecting -/

/-- What has been collected in the course of a build. -/
structure Collected where
  info : Sited
  resources : Resources
  operations : List CompiledOperation

/-- The state before a build. -/
def Collected.empty : Collected := ⟨.outside (.map []), .empty, []⟩

/-- An entry of the document's own information as a text, or a text in place of an absent one. A torn
text stays as it is. -/
def infoText (info : Node) (key absent : String) : Except Failure Node :=
  match (info.get? key).getD (.str absent) with
  | .torn text => .ok (.torn text)
  | value => (orFault value.spelled).map .str

/-- The document is met: its information is kept. -/
def noteDocument (document : Node) (state : Collected) : Traced Collected := do
  let info := (← .ofExcept (orFault ((Sited.root document).member "info"))).orEmpty
  if !info.node.isMap then .fail (.fault .notAMap)
  let title ← .ofExcept (infoText info.node "title" "untitled document")
  .report ("Building fields for " ++ title.text)
  return { state with info := info }

/-- An operation is met: its tags are noted, and it is compiled. -/
def noteOperation (document : Node) (policies : Policies) (state : Collected) (visit : Visit) :
    Traced Collected := do
  let resources ← .ofExcept (state.resources.noteOperation visit.operation)
  if !policies.collects visit.method then return { state with resources := resources }
  return { state with
    resources := resources
    operations := ← takeUp document policies.operation state.operations visit }

/-- The outcome of a step that may have got only part of the way. -/
def complete (outcome : Resources × Option Failure) : Except Failure Resources :=
  match outcome with
  | (resources, none) => .ok resources
  | (_, some failure) => .error failure

/-- An event of the walk is met. -/
def noteEvent (document : Node) (policies : Policies) (state : Collected) :
    Event → Traced Collected
  | .document => noteDocument document state
  | .operation visit => noteOperation document policies state visit
  | .tag tag => do
    return { state with
      resources := ← .ofExcept (state.resources.addTag policies.resource tag) }
  | .finish => do
    if !policies.keepsUsedTags then return state
    return { state with
      resources := ← .ofExcept (complete (state.resources.finish policies.resource)) }

/-- Overrides applied to the fields of an operation. -/
def overrideOperation (overrides : List Override) (operation : CompiledOperation) :
    Traced CompiledOperation := do
  return { operation with fields := ← applyOverrides overrides operation.fields }

/-- The build of a document under some policies. -/
def buildWith (policies : Policies) (settings : Settings) (document : Node) :
    Traced BuildResult := do
  let walk := walk (.str settings.defaultTag) .all document
  let state ← runWalk (noteEvent document policies) walk .empty
  let operations ← state.operations.mapM (overrideOperation settings.overrides)
  let title ← .ofExcept (infoText state.info.node "title" "Untitled API")
  let version ← .ofExcept (infoText state.info.node "version" "0.0.0")
  .ofExcept (BuildResult.check title version state.resources.found operations).toExcept

/-- The build of a document. -/
def build (settings : Settings) (document : Node) : Traced BuildResult :=
  buildWith (.standard settings.skipDeprecated) settings document

end RoutedFields
