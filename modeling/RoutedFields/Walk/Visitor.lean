import RoutedFields.Traced
import RoutedFields.Walk.Event

/-!
# Visitors

Visitors see the events of a walk. A single visitor is shown what it wants to see; several together
are shown every event in turn, each one only what it wants.

* `seenAlone`, `seenTogether`: what visitors see.
* `runWalk`: the events of a walk handled one after another.
-/

namespace RoutedFields

/-- What one visitor sees of a document, and the failure that ends the walk if there is one. -/
def seenAlone (defaultTag : Node) (document : Node) (offers : Offers) :
    List Event × Option Failure :=
  (walk defaultTag offers document).cut

/-- What several visitors together see of a document, each event with the position of the visitor
that sees it, and the failure that ends the walk if there is one. -/
def seenTogether (defaultTag : Node) (document : Node) (visitors : List Offers) :
    List (Nat × Event) × Option Failure :=
  let (events, failure) := (walk defaultTag .all document).cut
  (events.flatMap fun event =>
    (visitors.zipIdx.filter fun v => v.1.wants event).map fun v => (v.2, event), failure)

/-- The events of a walk handled one after another, up to the first failure. -/
def runWalk {σ : Type} (handle : σ → Event → Traced σ) : Walk → σ → Traced σ
  | [], s => pure s
  | .ok event :: rest, s => do runWalk handle rest (← handle s event)
  | .error failure :: _, _ => .fail failure

end RoutedFields
