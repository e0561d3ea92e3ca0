import RoutedFields.Document.Access
import RoutedFields.Reference.Resolve

/-!
# Walking a document

A walk meets the document, then its operations path by path, then its tags, then the end. Operations
are met in normal form: with tags, and with the parameters of their path merged in.

* `Method`: the methods whose entries are operations.
* `mergeParameters`: the parameters of a path and of an operation together.
* `Event`, `Offers`: what a walk meets, and which of it a visitor wants to see.
* `walk`: the events of a walk in order, up to the first failure.
-/

namespace RoutedFields

/-! ## Operations -/

/-- The methods whose entries are operations. -/
inductive Method
  | get
  | put
  | post
  | delete
  | options
  | head
  | patch
  | trace
deriving DecidableEq

namespace Method

/-- The name of a method. -/
def name : Method → String
  | .get => "get"
  | .put => "put"
  | .post => "post"
  | .delete => "delete"
  | .options => "options"
  | .head => "head"
  | .patch => "patch"
  | .trace => "trace"

/-- The method with a name. -/
def ofName? : String → Option Method
  | "get" => some .get
  | "put" => some .put
  | "post" => some .post
  | "delete" => some .delete
  | "options" => some .options
  | "head" => some .head
  | "patch" => some .patch
  | "trace" => some .trace
  | _ => none

/-- The method that a key names. -/
def ofKey? : Scalar → Option Method
  | .str name => ofName? name
  | _ => none

theorem ofName?_name (method : Method) : ofName? method.name = some method := by
  cases method <;> rfl

end Method

/-- An operation, with the method and the pattern under which it stands. -/
structure Visit where
  method : Method
  pattern : Scalar
  operation : Sited

/-- The method in capitals and the pattern of an operation. -/
def Visit.title (visit : Visit) : String :=
  String.ofList (visit.method.name.toList.map Char.toUpper) ++ " " ++ visit.pattern.text

/-! ## Normal form -/

/-- The names of the parameters of an operation that are no references. -/
def ownNames (parameters : List Sited) : Except Fault (List Scalar) :=
  (parameters.filter fun p => p.node.isMap && !p.node.isReference).mapM
    fun p => (p.node.entry "name").asKey

/-- Whether a parameter of a path stays beside parameters of an operation with some names: it is a
reference, or has another name. -/
def isInherited (own : List Scalar) (parameter : Sited) : Except Fault Bool := do
  if parameter.node.isReference then return true
  let name ← (← parameter.member "name").node.asKey
  return !own.any (·.same name)

/-- The parameters of a path that the operation does not give itself, then those of the operation.
-/
def mergeParameters (ofPath ofOperation : Except Fault (List Sited)) :
    Except Fault (List Sited) := do
  let operation ← ofOperation
  let own ← ownNames operation
  let path ← ofPath
  let inherited ← path.filterM (isInherited own)
  return inherited ++ operation

/-- An operation with tags, and with the parameters of its path merged in. -/
def normalize (defaultTag : Node) (pathItem operation : Sited) : Except Fault Sited := do
  let parameters ← mergeParameters (pathItem.entry "parameters").elementsIfAny
    (operation.entry "parameters").elementsIfAny
  let tagged :=
    if (operation.node.entry "tags").isTruthy then operation.entries
    else operation.entries.put (.str "tags") (.outside (.list [defaultTag]))
  return .ofEntries (tagged.put (.str "parameters") (.ofItems parameters))

/-! ## Events -/

/-- What a walk meets. -/
inductive Event
  | document
  | operation (visit : Visit)
  | tag (tag : Node)
  | finish

/-- Which events a visitor wants to see. -/
structure Offers where
  document : Bool
  operation : Bool
  tag : Bool
  finish : Bool
deriving DecidableEq

/-- The visitor that wants to see everything. -/
def Offers.all : Offers := ⟨true, true, true, true⟩

/-- Whether a visitor wants to see an event. -/
def Offers.wants (offers : Offers) : Event → Bool
  | .document => offers.document
  | .operation _ => offers.operation
  | .tag _ => offers.tag
  | .finish => offers.finish

/-- The events of a walk in order; what comes after a failure is not met. -/
abbrev Walk := List (Except Failure Event)

/-- The operations under one path. -/
def pathEvents (defaultTag : Node) (pattern : Scalar) (pathItem : Sited) : Walk :=
  pathItem.entries.filterMap fun e =>
    match Method.ofKey? e.1 with
    | some method =>
      if e.2.node.isMap then
        some ((orFault (normalize defaultTag pathItem e.2)).map fun operation =>
          .operation ⟨method, pattern, operation⟩)
      else none
    | none => none

/-- The operations of a document. -/
def operationEvents (defaultTag : Node) (document : Sited) : Walk :=
  let paths := document.entry "paths"
  if !paths.node.isTruthy then []
  else if !paths.node.isMap then [.error (.fault .notAMap)]
  else paths.entries.flatMap fun e => pathEvents defaultTag e.1 e.2

/-- The tags of a document. -/
def tagEvents (document : Sited) : Walk :=
  match orFault (document.entry "tags").elementsIfAny with
  | .ok tags => tags.map fun tag => .ok (.tag tag.node)
  | .error failure => [.error failure]

/-- The events behind the first one of a walk through a document that a visitor wants to see. -/
def partEvents (defaultTag : Node) (offers : Offers) (document : Sited) : Walk :=
  (if offers.operation then operationEvents defaultTag document else []) ++
  (if offers.tag then tagEvents document else []) ++
  (if offers.finish then [.ok .finish] else [])

/-- The events of a walk through a document that a visitor wants to see. Parts of the document that
it does not want to see are not looked at, but a document without parts is at fault. -/
def walk (defaultTag : Node) (offers : Offers) (document : Node) : Walk :=
  (if offers.document then [.ok .document] else []) ++
  (if document.isMap then partEvents defaultTag offers (Sited.root document)
    else [.error (.fault .notAMap)])

/-- The events before the first failure, and that failure if there is one. -/
def Walk.cut : Walk → List Event × Option Failure
  | [] => ([], none)
  | .ok event :: rest =>
    let (events, failure) := Walk.cut rest
    (event :: events, failure)
  | .error failure :: _ => ([], some failure)

/-- The tag of operations that have none, unless another one is set. -/
def standardTag : String := "default"

end RoutedFields
