import RoutedFields.Proofs.Walk.Declaration
import RoutedFields.Walk.Visitor

/-!
# What visitors see

A visitor by itself only sees the parts of a document that it wants to see, and the other parts are
not looked at. Together with others it is shown the events of a whole walk. If that walk comes to
its end, it sees the same either way.

* `runWalk_eq_ok_iff`: a walk is handled to its end when no failure stands in it and no event fails.
* `failsOnly_runWalk`: a walk fails as its events do, and it keeps what they keep.
* `runWalk_append`: two walks one after another.
* `walk_eq_ok`: what a walk meets that comes to its end.
* `walk_of_walk_all`: a visitor by itself sees those events of the whole walk that it wants to see.
* `dispatch`, `runWalk_dispatch`: several visitors together handle each event in turn.
* `seenTogether_exact`: what they see.
-/

namespace RoutedFields

/-! ## Walks that come to their end -/

/-- A walk is handled to its end exactly when no failure stands in it and each event is handled in
turn. -/
theorem runWalk_eq_ok_iff {σ : Type} {handle : σ → Event → Traced σ} {walk : Walk} {s s' : σ} :
    (runWalk handle walk s).result = .ok s' ↔
      ∃ events : List Event, walk = events.map .ok ∧
        events.foldlM (fun s event => (handle s event).result) s = .ok s' := by
  induction walk generalizing s with
  | nil =>
    constructor
    · intro h
      exact ⟨[], rfl, h⟩
    · rintro ⟨events, hevents, h⟩
      rw [eq_comm, List.map_eq_nil_iff] at hevents
      rw [hevents] at h
      exact h
  | cons item walk ih =>
    cases item with
    | error failure =>
      constructor
      · intro h
        cases h
      · rintro ⟨events, hevents, _⟩
        cases events <;> cases hevents
    | ok event =>
      rw [runWalk, Traced.result_bind]
      constructor
      · intro h
        obtain ⟨t, ht, h⟩ := bind_eq_ok_iff.mp h
        obtain ⟨events, rfl, hfold⟩ := ih.mp h
        exact ⟨event :: events, rfl, bind_eq_ok_iff.mpr ⟨t, ht, hfold⟩⟩
      · rintro ⟨_ | ⟨first, events⟩, hevents, hfold⟩
        · cases hevents
        · obtain ⟨hfirst, hrest⟩ := List.cons.inj hevents
          obtain rfl := Except.ok.inj hfirst
          obtain ⟨t, ht, hfold⟩ := bind_eq_ok_iff.mp hfold
          exact bind_eq_ok_iff.mpr ⟨t, ht, ih.mpr ⟨events, hrest, hfold⟩⟩

/-- A walk fails only with failures of some kind, if the failures that stand in it are of that kind
and each event that it meets fails only with those and keeps an invariant of the state. And the walk
keeps the invariant. -/
theorem failsOnly_runWalk {σ : Type} {handle : σ → Event → Traced σ} {I : σ → Prop}
    {E : Event → Prop} {P : Failure → Prop}
    (hstep : ∀ s event, I s → E event → FailsOnly P (handle s event).result ∧
      ∀ next, (handle s event).result = .ok next → I next)
    {walk : Walk} (hwalk : ∀ item ∈ walk, FailsOnly P item ∧ ∀ event, item = .ok event → E event)
    {s : σ} (hs : I s) : FailsOnly P (runWalk handle walk s).result ∧
      ∀ final, (runWalk handle walk s).result = .ok final → I final := by
  induction walk generalizing s with
  | nil =>
    refine ⟨failsOnly_ok P s, fun final hfinal => ?_⟩
    obtain rfl := Except.ok.inj hfinal
    exact hs
  | cons item walk ih =>
    obtain ⟨⟨hitem, hevent⟩, hrest⟩ := List.forall_mem_cons.mp hwalk
    cases item with
    | error failure => exact ⟨failsOnly_error (hitem failure rfl), nofun⟩
    | ok event =>
      obtain ⟨hfails, hkeeps⟩ := hstep s event hs (hevent event rfl)
      rw [runWalk, Traced.result_bind]
      refine ⟨hfails.bind fun next hnext => (ih hrest (hkeeps next hnext)).1, fun final h => ?_⟩
      obtain ⟨next, hnext, hfinal⟩ := bind_eq_ok_iff.mp h
      exact (ih hrest (hkeeps next hnext)).2 final hfinal

/-- Two walks one after another are handled one after another. -/
theorem runWalk_append {σ : Type} (handle : σ → Event → Traced σ) (first second : Walk) (s : σ) :
    (runWalk handle (first ++ second) s).result = (do
      let next ← (runWalk handle first s).result
      (runWalk handle second next).result) := by
  induction first generalizing s with
  | nil => rfl
  | cons item first ih =>
    cases item with
    | error failure => rfl
    | ok event =>
      rw [List.cons_append, runWalk, runWalk, Traced.result_bind, Traced.result_bind]
      cases (handle s event).result with
      | error failure => rfl
      | ok next => exact ih next

theorem cut_eq_none_iff {walk : Walk} {events : List Event} :
    walk.cut = (events, none) ↔ walk = events.map .ok := by
  induction walk generalizing events with
  | nil => cases events <;> simp [Walk.cut]
  | cons item walk ih =>
    cases item with
    | error failure => cases events <;> simp [Walk.cut]
    | ok event =>
      cases events with
      | nil => simp [Walk.cut]
      | cons first events =>
        rw [List.map_cons, List.cons.injEq, Except.ok.injEq, ← ih, Walk.cut]
        simp [Prod.ext_iff, and_assoc]

theorem isMap_of_walk_eq_ok {defaultTag document : Node} {events : List Event}
    (h : walk defaultTag .all document = events.map .ok) : document.isMap = true := by
  cases hmap : document.isMap with
  | true => rfl
  | false =>
    rw [walk, hmap] at h
    cases events with
    | nil => cases h
    | cons event events => cases events <;> cases h

/-- The events of a walk that does not fail: the document, its operations, its tags, and the end. -/
theorem walk_eq_ok {defaultTag document : Node} {events : List Event}
    (h : walk defaultTag .all document = events.map .ok) :
    ∃ operations tags : List Event,
      operationEvents defaultTag (Sited.root document) = operations.map .ok ∧
      tagEvents (Sited.root document) = tags.map .ok ∧
      events = .document :: (operations ++ (tags ++ [.finish])) := by
  have hmap := isMap_of_walk_eq_ok h
  rw [walk, if_pos hmap] at h
  obtain ⟨first, rest, rfl, hfirst, hrest⟩ := List.map_eq_append_iff.mp h.symm
  rw [partEvents, List.append_assoc] at hrest
  obtain ⟨operations, more, rfl, hoperations, hmore⟩ := List.map_eq_append_iff.mp hrest
  obtain ⟨tags, last, rfl, htags, hlast⟩ := List.map_eq_append_iff.mp hmore
  refine ⟨operations, tags, hoperations.symm, htags.symm, ?_⟩
  obtain ⟨event, rfl, hevent⟩ := List.map_eq_singleton_iff.mp hfirst
  obtain ⟨event', rfl, hevent'⟩ := List.map_eq_singleton_iff.mp hlast
  rw [Except.ok.inj hevent, Except.ok.inj hevent']
  rfl

/-- A walk that does not fail at the tags meets one for each item of the list. -/
theorem tagEvents_eq_ok {document : Sited} {tags : List Event}
    (h : tagEvents document = tags.map .ok) :
    ∃ items, (document.entry "tags").elementsIfAny = .ok items ∧
      tags = items.map fun tag => .tag tag.node := by
  rw [tagEvents] at h
  split at h
  · rename_i items hitems
    refine ⟨items, orFault_eq_ok_iff.mp hitems, ?_⟩
    apply List.map_injective_iff.mpr fun _ _ => Except.ok.inj
    rw [List.map_map]
    exact h.symm
  · cases tags <;> cases h

/-- An operation that a walk meets, in normal form, comes from a declared one. -/
def Declaration.MetAs (declaration : Declaration) (event : Event) : Prop :=
  ∃ operation, event = .operation ⟨declaration.method, declaration.pattern, operation⟩ ∧
    Normalized declaration operation

/-- What a walk meets that comes to its end: the document, its declared operations, the items of its
list of tags, and the end. -/
theorem events_of_walk {defaultTag document : Node} {events : List Event}
    (h : walk defaultTag .all document = events.map .ok) :
    ∃ operations tags,
      List.Forall₂ Declaration.MetAs (declarations document) operations ∧
      ((Sited.root document).entry "tags").elementsIfAny = .ok tags ∧
      events = .document :: (operations ++ (tags.map (fun tag => .tag tag.node) ++ [.finish])) := by
  obtain ⟨operations, tags, hoperations, htags, rfl⟩ := walk_eq_ok h
  obtain ⟨items, hitems, rfl⟩ := tagEvents_eq_ok htags
  exact ⟨operations, items, (declarations_event hoperations).imp fun _ _ => normalized_of_event,
    hitems, rfl⟩

/-! ## A visitor by itself -/

section Alone

variable {defaultTag document : Node} {events : List Event}

theorem filter_wants_eq_ite {offers : Offers} {part : List Event} {wanted : Bool}
    (h : ∀ event ∈ part, offers.wants event = wanted) :
    part.filter offers.wants = if wanted then part else [] := by
  cases wanted with
  | true => exact List.filter_eq_self.mpr h
  | false =>
    refine List.filter_eq_nil_iff.mpr fun event hevent => ?_
    rw [h event hevent]
    exact Bool.false_ne_true

theorem wants_operation {operations : List Event} (offers : Offers)
    (h : operationEvents defaultTag (Sited.root document) = operations.map .ok) {event : Event}
    (hevent : event ∈ operations) : offers.wants event = offers.operation := by
  obtain ⟨declaration, _, hdeclaration⟩ := exists_left_of_forall₂ (declarations_event h) hevent
  obtain ⟨operation, rfl, _⟩ := normalized_of_event hdeclaration
  rfl

theorem wants_tag {tags : List Event} (offers : Offers)
    (h : tagEvents (Sited.root document) = tags.map .ok) {event : Event} (hevent : event ∈ tags) :
    offers.wants event = offers.tag := by
  obtain ⟨items, _, rfl⟩ := tagEvents_eq_ok h
  obtain ⟨item, _, rfl⟩ := List.mem_map.mp hevent
  rfl

theorem ite_map_ok (wanted : Bool) (part : List Event) :
    (if wanted then part.map .ok else []) =
      (if wanted then part else []).map (Except.ok : Event → Except Failure Event) := by
  cases wanted <;> rfl

/-- If the whole walk comes to its end, a visitor by itself meets the events of it that it wants to
see. -/
theorem walk_of_walk_all (h : walk defaultTag .all document = events.map .ok) (offers : Offers) :
    walk defaultTag offers document = (events.filter offers.wants).map .ok := by
  obtain ⟨operations, tags, hoperations, htags, rfl⟩ := walk_eq_ok h
  rw [walk, if_pos (isMap_of_walk_eq_ok h), partEvents, hoperations, htags, ite_map_ok, ite_map_ok]
  rw [List.filter_cons, List.filter_append, List.filter_append,
    filter_wants_eq_ite fun _ => wants_operation offers hoperations,
    filter_wants_eq_ite fun _ => wants_tag offers htags]
  cases hdocument : offers.document <;> cases hfinish : offers.finish <;>
    simp [Offers.wants, hdocument, hfinish]

theorem seenAlone_of_walk_all (h : walk defaultTag .all document = events.map .ok)
    (offers : Offers) :
    seenAlone defaultTag document offers = (events.filter offers.wants, none) :=
  cut_eq_none_iff.mpr (walk_of_walk_all h offers)

end Alone

/-! ## Visitors together -/

/-- What visitors are shown of an event, in the order in which they stand: the event, with the
position of each one that wants to see it. -/
def shown (visitors : List Offers) (event : Event) : List (Nat × Event) :=
  (visitors.zipIdx.filter fun v => v.1.wants event).map fun v => (v.2, event)

/-- An event handled by several visitors, one after another. Each has its own way of handling
events, and it is not asked about those that it does not want to see. -/
def dispatch {σ : Type} (handle : Nat → σ → Event → Traced σ) (visitors : List Offers) (s : σ)
    (event : Event) : Traced σ :=
  visitors.zipIdx.foldlM (fun s v => if v.1.wants event then handle v.2 s event else pure s) s

section Together

variable {defaultTag document : Node} {events : List Event} {visitors : List Offers}

theorem dispatch_result {σ : Type} (handle : Nat → σ → Event → Traced σ) (s : σ) (event : Event) :
    (dispatch handle visitors s event).result =
      (shown visitors event).foldlM (fun s seen => (handle seen.1 s seen.2).result) s := by
  rw [dispatch, shown, List.foldlM_map]
  -- by induction on the visitors that are still to come
  induction visitors.zipIdx generalizing s with
  | nil => rfl
  | cons v vs ih =>
    rw [List.foldlM_cons, Traced.result_bind, List.filter_cons]
    split
    · rw [List.foldlM_cons]
      exact congrArg _ (funext ih)
    · exact ih s

/-- Whatever visitors do, and whether or not it fails, together they handle a walk as if they were
called one after another with what each of them is shown. -/
theorem runWalk_dispatch {σ : Type} (handle : Nat → σ → Event → Traced σ) (s : σ) :
    (runWalk (dispatch handle visitors) (events.map .ok) s).result =
      (events.flatMap (shown visitors)).foldlM
        (fun s seen => (handle seen.1 s seen.2).result) s := by
  induction events generalizing s with
  | nil => rfl
  | cons event events ih =>
    rw [List.map_cons, runWalk, Traced.result_bind, dispatch_result, List.flatMap_cons,
      List.foldlM_append]
    exact congrArg _ (funext ih)

theorem filter_zipIdx {α : Type} (xs : List α) (start position : Nat) :
    (xs.zipIdx start).filter (fun v => v.2 = start + position) =
      xs[position]?.toList.map fun x => (x, start + position) := by
  induction xs generalizing start position with
  | nil => rfl
  | cons x xs ih =>
    rw [List.zipIdx_cons]
    cases position with
    | zero =>
      have hrest : (xs.zipIdx (start + 1)).filter (fun v => v.2 = start + 0) = [] := by
        refine List.filter_eq_nil_iff.mpr fun v hv => ?_
        have hle := List.le_snd_of_mem_zipIdx hv
        simp
        omega
      rw [List.filter_cons_of_pos (by simp), hrest]
      rfl
    | succ position =>
      rw [List.filter_cons_of_neg (by simp), List.getElem?_cons_succ, Nat.add_left_comm,
        Nat.add_comm position]
      exact ih (start + 1) position

/-- Of an event, a visitor among others is shown as much as it wants to see. -/
theorem shown_at {position : Nat} {offers : Offers} (hoffers : visitors[position]? = some offers)
    (event : Event) :
    (shown visitors event).filter (fun seen => seen.1 = position) =
      if offers.wants event then [(position, event)] else [] := by
  have h := filter_zipIdx visitors 0 position
  rw [hoffers, Nat.zero_add] at h
  rw [shown, List.filter_map, List.filter_comm, Function.comp_def]
  dsimp only
  rw [h]
  cases hwants : offers.wants event <;> simp [hwants]

/-- Among others, a visitor sees the events that it wants to see. -/
theorem shown_events_at {position : Nat} {offers : Offers}
    (hoffers : visitors[position]? = some offers) :
    ((events.flatMap (shown visitors)).filter fun seen => seen.1 = position).map Prod.snd =
      events.filter offers.wants := by
  induction events with
  | nil => rfl
  | cons event events ih =>
    rw [List.flatMap_cons, List.filter_append, List.map_append, ih, shown_at hoffers,
      List.filter_cons]
    split <;> rfl

/-- What visitors see together of a document whose walk comes to its end. The walk meets the
document, its declared operations in order, the items of its list of tags, and the end. Together,
visitors see each of these events in turn, in the order in which they stand, those of them that want
to see it; and whatever they do about events, they are called in that order. Each one sees what it
sees by itself. -/
theorem seenTogether_exact (h : seenAlone defaultTag document .all = (events, none))
    (visitors : List Offers) :
    (∃ operations tags,
      List.Forall₂ Declaration.MetAs (declarations document) operations ∧
      ((Sited.root document).entry "tags").elementsIfAny = .ok tags ∧
      events =
        .document :: (operations ++ (tags.map (fun tag => .tag tag.node) ++ [.finish]))) ∧
    seenTogether defaultTag document visitors = (events.flatMap (shown visitors), none) ∧
    (∀ {σ : Type} (handle : Nat → σ → Event → Traced σ) (s : σ),
      (runWalk (dispatch handle visitors) (walk defaultTag .all document) s).result =
        (seenTogether defaultTag document visitors).1.foldlM
          (fun s seen => (handle seen.1 s seen.2).result) s) ∧
    ∀ position offers, visitors[position]? = some offers →
      seenAlone defaultTag document offers = (events.filter offers.wants, none) ∧
      ((seenTogether defaultTag document visitors).1.filter fun seen => seen.1 = position).map
        Prod.snd = (seenAlone defaultTag document offers).1 := by
  have htogether : seenTogether defaultTag document visitors =
      (events.flatMap (shown visitors), none) := by
    rw [seenTogether, ← seenAlone, h]
    rfl
  have hwalk := cut_eq_none_iff.mp h
  refine ⟨events_of_walk hwalk, htogether, fun handle s => ?_, fun position offers hoffers => ?_⟩
  · rw [htogether, hwalk]
    exact runWalk_dispatch handle s
  · have halone := seenAlone_of_walk_all hwalk offers
    refine ⟨halone, ?_⟩
    rw [htogether, halone]
    exact shown_events_at hoffers

/-- A document with two operations beside other keys, a path that is no map, and one tag. -/
def mixedDocument : Node :=
  .map [(.str "paths", .map [
      (.str "/pets", .map [(.str "summary", .str "Pets"), (.str "post", .map []),
        (.str "parameters", .null), (.str "get", .map []), (.str "put", .str "none")]),
      (.str "/info", .str "nothing")]),
    (.str "tags", .list [.map [(.str "name", .str "pets")]])]

/-- Four visitors: for tags only, for nothing, for everything, and for operations and the end. -/
def mixedVisitors : List Offers :=
  [⟨false, false, true, false⟩, ⟨false, false, false, false⟩, .all, ⟨false, true, false, true⟩]

theorem seenTogether_exact_mixed :
    ∃ events, seenAlone (.str standardTag) mixedDocument .all = (events, none) ∧
      events.length = 5 ∧
      (seenTogether (.str standardTag) mixedDocument mixedVisitors).1.map (·.1) =
        [2, 2, 3, 2, 3, 0, 2, 2, 3] ∧
      ((seenTogether (.str standardTag) mixedDocument mixedVisitors).1.filter
        fun seen => seen.1 = 3).map Prod.snd =
          (seenAlone (.str standardTag) mixedDocument ⟨false, true, false, true⟩).1 :=
  ⟨_, rfl, rfl, rfl, ((seenTogether_exact rfl mixedVisitors).2.2.2 3 _ rfl).2⟩

end Together

end RoutedFields
