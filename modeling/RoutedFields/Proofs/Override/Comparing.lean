import RoutedFields.Proofs.Override.Matching

/-!
# Matching within limits

Whether a value matches a pattern is found out part by part, by calls one inside another. With enough
of them for the whole pattern, the answer is found. With fewer, either a part of the pattern that
does not match is met before the calls run out, or there is no answer. So a match that is found is
one, and takes enough calls for its whole pattern.

* `Node.Finds`: what a comparison comes to, given how many calls it may need.
* `Node.finds_compareWithin`: every comparison comes to whether the value matches.
* `Node.isMatch_eq_true_iff`, `Node.isMatch_of_calls`, `Node.isMatch_cases`: when a match is found,
  when there is an answer, and why there may be none.
* `Node.compareWithin_of_alike`: alike values are compared alike.
* `Node.isMatch_preorder`: matching is a preorder, as far as it is found out.
* `Node.nestedLists_not_compared`: a value that is not found to match itself.
-/

namespace RoutedFields.Node

/-! ## What a comparison comes to -/

/-- What a comparison comes to if it may need so many calls: its answer if there are as many, and
otherwise none, unless a difference is met first. -/
structure Finds (needed room : Nat) (answer : Bool) (result : Except Fault Bool) : Prop where
  enough : needed ≤ room → result = .ok answer
  short : room < needed → result = .error .nestedTooDeep ∨ (result = .ok false ∧ answer = false)

namespace Finds

variable {needed others calls room : Nat} {answer rest : Bool} {result more : Except Fault Bool}

theorem ok (answer : Bool) : Finds 0 room answer (.ok answer) :=
  ⟨fun _ => rfl, fun h => absurd h (Nat.not_lt_zero _)⟩

/-- A difference that is met at once needs no more calls than are there. -/
theorem different (needed : Nat) : Finds needed room false (.ok false) :=
  ⟨fun _ => rfl, fun _ => .inr ⟨rfl, rfl⟩⟩

theorem inside {inner : Nat → Except Fault Bool}
    (h : calls ≤ room → Finds needed (room - calls) answer (inner (room - calls))) :
    Finds (needed + calls) room answer (RoutedFields.inside calls room inner) := by
  rw [RoutedFields.inside]
  constructor
  · intro hroom
    have hcalls : calls ≤ room := Nat.le_trans (Nat.le_add_left _ _) hroom
    rw [if_pos hcalls]
    exact (h hcalls).enough (Nat.le_sub_of_add_le hroom)
  · intro hroom
    by_cases hcalls : calls ≤ room
    · rw [if_pos hcalls]
      exact (h hcalls).short (Nat.sub_lt_right_of_lt_add hcalls hroom)
    · rw [if_neg hcalls]
      exact .inl rfl

/-- One part is looked for after another. -/
theorem both (h : Finds needed room answer result) (hmore : Finds others room rest more) :
    Finds (max needed others) room (answer && rest)
      (do if ← result then more else return false) := by
  constructor
  · intro hroom
    rw [h.enough (Nat.le_trans (Nat.le_max_left _ _) hroom)]
    cases answer with
    | true => exact hmore.enough (Nat.le_trans (Nat.le_max_right _ _) hroom)
    | false => rfl
  · intro hroom
    by_cases hneeded : needed ≤ room
    · rw [h.enough hneeded]
      cases answer with
      | true =>
        refine hmore.short ?_
        omega
      | false => exact .inr ⟨rfl, rfl⟩
    · rcases h.short (Nat.lt_of_not_le hneeded) with hresult | ⟨hresult, rfl⟩
      · rw [hresult]
        exact .inl rfl
      · rw [hresult]
        exact .inr ⟨rfl, rfl⟩

/-- One of several is sought. -/
theorem any {xs : List Node} {test : Node → Bool} {run : Node → Except Fault Bool}
    (h : ∀ x ∈ xs, Finds needed room (test x) (run x)) :
    Finds needed room (xs.any test) (xs.anyM run) := by
  induction xs with
  | nil => exact different needed
  | cons x xs ih =>
    obtain ⟨hx, hxs⟩ := List.forall_mem_cons.mp h
    rw [List.any_cons, List.anyM]
    constructor
    · intro hroom
      rw [hx.enough hroom]
      cases test x with
      | true => rfl
      | false => exact (ih hxs).enough hroom
    · intro hroom
      rcases hx.short hroom with hrun | ⟨hrun, htest⟩
      · rw [hrun]
        exact .inl rfl
      · rw [hrun, htest]
        exact (ih hxs).short hroom

end Finds

/-- A pattern of one kind does not match a value of another. -/
theorem Finds.mismatch {needed room : Nat} (h : 0 < needed) :
    Finds needed room false (RoutedFields.inside 1 room fun _ => .ok false) := by
  obtain ⟨others, rfl⟩ := Nat.exists_eq_add_of_lt h
  rw [Nat.zero_add]
  exact .inside fun _ => .different others

/-- Every comparison comes to whether the value matches, if there are enough calls for the whole
pattern. -/
theorem finds_compareWithin (pattern : Node) (room : Nat) (value : Node) :
    Finds pattern.patternCalls room (covers pattern value) (compareWithin room pattern value) := by
  -- by induction on the pattern, whose parts are looked for in turn
  induction pattern using induction_on_parts generalizing room value with
  | scalar s =>
    cases value with
    | scalar t =>
      have h : Finds (0 + 1) room (t.equals s) (RoutedFields.inside 1 room fun _ => .ok (t.equals s)) :=
        .inside fun _ => .ok _
      exact h
    | list xs => exact .mismatch Nat.one_pos
    | map es => exact .mismatch Nat.one_pos
  | list ps ih =>
    cases value with
    | scalar t => exact .mismatch (Nat.succ_pos _)
    | map es => exact .mismatch (Nat.succ_pos _)
    | list xs =>
      rw [patternCalls, covers, compareWithin]
      refine .inside fun _ => ?_
      generalize room - partCalls = room
      induction ps with
      | nil => exact .ok true
      | cons p ps ihs =>
        obtain ⟨hp, hps⟩ := List.forall_mem_cons.mp ih
        rw [patternCallsOfItems, coversItems, compareItems]
        exact .both (.inside fun _ => .any fun x _ => hp _ x) (ihs hps)
  | map ps ih =>
    cases value with
    | scalar t => exact .mismatch (Nat.succ_pos _)
    | list xs => exact .mismatch (Nat.succ_pos _)
    | map es =>
      rw [patternCalls, covers, compareWithin]
      refine .inside fun _ => ?_
      generalize room - partCalls = room
      induction ps with
      | nil => exact .ok true
      | cons e ps ihs =>
        obtain ⟨key, p⟩ := e
        obtain ⟨hp, hps⟩ := List.forall_mem_cons.mp ih
        rw [patternCallsOfEntries, coversEntries, compareEntries]
        cases Entries.find? es key with
        | none => exact .different _
        | some v => exact .both (hp room v) (ihs hps)

variable {value pattern : Node}

/-- With enough calls for the whole pattern there is an answer. -/
theorem isMatch_of_calls (h : pattern.patternCalls ≤ deepestCalls) :
    value.isMatch pattern = .ok (value.fits pattern) :=
  (finds_compareWithin pattern deepestCalls value).enough h

/-- A match is found if there is one, and if there are enough calls for the whole pattern. -/
theorem isMatch_eq_true_iff :
    value.isMatch pattern = .ok true ↔
      value.fits pattern = true ∧ pattern.patternCalls ≤ deepestCalls := by
  by_cases hcalls : pattern.patternCalls ≤ deepestCalls
  · rw [isMatch_of_calls hcalls, Except.ok.injEq]
    exact (and_iff_left hcalls).symm
  · refine iff_of_false (fun h => ?_) fun h => hcalls h.2
    rcases (finds_compareWithin pattern deepestCalls value).short (Nat.lt_of_not_le hcalls) with
      hresult | ⟨hresult, _⟩
    · cases h.symm.trans hresult
    · cases h.symm.trans hresult

/-- An answer says whether the value holds what the pattern says. There is none only for want of
calls. -/
theorem isMatch_cases (value pattern : Node) :
    value.isMatch pattern = .ok (value.fits pattern) ∨
      (value.isMatch pattern = .error .nestedTooDeep ∧ deepestCalls < pattern.patternCalls) := by
  by_cases hcalls : pattern.patternCalls ≤ deepestCalls
  · exact .inl (isMatch_of_calls hcalls)
  · have hshort := Nat.lt_of_not_le hcalls
    rcases (finds_compareWithin pattern deepestCalls value).short hshort with
      hresult | ⟨hresult, hcovers⟩
    · exact .inr ⟨hresult, hshort⟩
    · exact .inl (hresult.trans (congrArg Except.ok hcovers.symm))

theorem isMatch_self (h : value.IsComparable) :
    value.isMatch value =
      if value.patternCalls ≤ deepestCalls then .ok true else .error .nestedTooDeep := by
  by_cases hcalls : value.patternCalls ≤ deepestCalls
  · rw [if_pos hcalls, isMatch_of_calls hcalls, fits_self h]
  · rw [if_neg hcalls]
    rcases isMatch_cases value value with hresult | ⟨hresult, _⟩
    · exact absurd (isMatch_eq_true_iff.mp (fits_self h ▸ hresult)).2 hcalls
    · exact hresult

/-! ## Alike values -/

theorem anyM_of_alike {xs ys : List Node} {run : Node → Except Fault Bool}
    (h : List.Forall₂ Alike xs ys) (hrun : ∀ v w, Alike v w → run v = run w) :
    xs.anyM run = ys.anyM run := by
  induction h with
  | nil => rfl
  | cons hxy _ ih => rw [List.anyM, List.anyM, hrun _ _ hxy, ih]

theorem compareEntries_congr {ps es fs : Entries} {room : Nat}
    (h : ∀ p ∈ ps, (Entries.find? es p.1).map (compareWithin room p.2) =
      (Entries.find? fs p.1).map (compareWithin room p.2)) :
    compareEntries room ps es = compareEntries room ps fs := by
  induction ps with
  | nil => rfl
  | cons p ps ih =>
    obtain ⟨hp, hps⟩ := List.forall_mem_cons.mp h
    rw [compareEntries, compareEntries, ih hps]
    generalize Entries.find? es p.1 = found, Entries.find? fs p.1 = found' at hp ⊢
    cases found with
    | none =>
      cases found' with
      | none => rfl
      | some w => cases hp
    | some v =>
      cases found' with
      | none => cases hp
      | some w =>
        dsimp only
        rw [Option.some.inj hp]

/-- Alike values are compared alike, as far as a comparison goes. -/
theorem compareWithin_of_alike (pattern : Node) (room : Nat) {v w : Node} (h : v.Alike w) :
    compareWithin room pattern v = compareWithin room pattern w := by
  induction pattern using induction_on_parts generalizing room v w with
  | scalar s =>
    obtain ⟨a, b, rfl, rfl, hsame⟩ | ⟨_, _, rfl, rfl, _⟩ | ⟨_, _, rfl, rfl, _⟩ := h.kinds
    · rw [compareWithin, compareWithin, Scalar.equals_left hsame]
    · rfl
    · rfl
  | list ps ih =>
    obtain ⟨_, _, rfl, rfl, _⟩ | ⟨xs, ys, rfl, rfl, hitems⟩ | ⟨_, _, rfl, rfl, _⟩ := h.kinds
    · rfl
    · rw [compareWithin, compareWithin]
      refine congrArg (inside partCalls room) (funext fun room => ?_)
      clear h
      induction ps with
      | nil => rfl
      | cons p ps ihs =>
        obtain ⟨hp, hps⟩ := List.forall_mem_cons.mp ih
        have hany (room : Nat) : xs.anyM (compareWithin room p) = ys.anyM (compareWithin room p) :=
          anyM_of_alike hitems fun _ _ => hp room
        rw [compareItems, compareItems, ihs hps, funext hany]
    · rfl
  | map ps ih =>
    obtain ⟨_, _, rfl, rfl, _⟩ | ⟨_, _, rfl, rfl, _⟩ | ⟨es, fs, rfl, rfl, hfind⟩ := h.kinds
    · rfl
    · rfl
    · rw [compareWithin, compareWithin]
      refine congrArg (inside partCalls room) (funext fun room => ?_)
      refine compareEntries_congr fun p hp => ?_
      have hrel := hfind p.1
      generalize Entries.find? es p.1 = found, Entries.find? fs p.1 = found' at hrel ⊢
      cases hrel with
      | none => rfl
      | some hvw => exact congrArg some (ih p hp room hvw)

/-! ## Matching as an order -/

theorem patternCallsOfItems_le_iff {ps : List Node} {n : Nat} :
    patternCallsOfItems ps ≤ n ↔ ∀ p ∈ ps, p.patternCalls + seekCalls ≤ n := by
  induction ps with
  | nil => exact iff_of_true (Nat.zero_le n) (List.forall_mem_nil _)
  | cons p ps ih => rw [patternCallsOfItems, Nat.max_le, ih, List.forall_mem_cons]

theorem patternCallsOfEntries_le_iff {ps : Entries} {n : Nat} :
    patternCallsOfEntries ps ≤ n ↔ ∀ p ∈ ps, p.2.patternCalls ≤ n := by
  induction ps with
  | nil => exact iff_of_true (Nat.zero_le n) (List.forall_mem_nil _)
  | cons p ps ih => rw [patternCallsOfEntries, Nat.max_le, ih, List.forall_mem_cons]

theorem patternCalls_le_of_mem {ps : List Node} :
    ∀ p ∈ ps, p.patternCalls + seekCalls ≤ patternCallsOfItems ps :=
  patternCallsOfItems_le_iff.mp (Nat.le_refl _)

theorem patternCalls_le_of_mem_entries {ps : Entries} :
    ∀ p ∈ ps, p.2.patternCalls ≤ patternCallsOfEntries ps :=
  patternCallsOfEntries_le_iff.mp (Nat.le_refl _)

/-- A pattern takes no more calls than one that it becomes when it gains an entry or an item. -/
theorem Gains.patternCalls_le {trimmed pattern : Node} (h : Gains trimmed pattern) :
    trimmed.patternCalls ≤ pattern.patternCalls := by
  -- what the larger pattern takes is enough for each of its parts
  induction h with
  | entry before after e =>
    have hsub : (before ++ after).Sublist (before ++ e :: after) :=
      (List.Sublist.refl before).append (List.sublist_cons_self e after)
    refine Nat.add_le_add_right (patternCallsOfEntries_le_iff.mpr fun f hf => ?_) _
    exact patternCalls_le_of_mem_entries f (hsub.subset hf)
  | item before after x =>
    have hsub : (before ++ after).Sublist (before ++ x :: after) :=
      (List.Sublist.refl before).append (List.sublist_cons_self x after)
    refine Nat.add_le_add_right (patternCallsOfItems_le_iff.mpr fun y hy => ?_) _
    exact patternCalls_le_of_mem y (hsub.subset hy)
  | @inEntry before after key v w _ ih =>
    have hparts := @patternCalls_le_of_mem_entries (before ++ (key, w) :: after)
    rw [List.forall_mem_append, List.forall_mem_cons] at hparts
    refine Nat.add_le_add_right (patternCallsOfEntries_le_iff.mpr ?_) _
    rw [List.forall_mem_append, List.forall_mem_cons]
    exact ⟨hparts.1, Nat.le_trans ih hparts.2.1, hparts.2.2⟩
  | @inItem before after x y _ ih =>
    have hparts := @patternCalls_le_of_mem (before ++ y :: after)
    rw [List.forall_mem_append, List.forall_mem_cons] at hparts
    refine Nat.add_le_add_right (patternCallsOfItems_le_iff.mpr ?_) _
    rw [List.forall_mem_append, List.forall_mem_cons]
    exact ⟨hparts.1, Nat.le_trans (Nat.add_le_add_right ih _) hparts.2.1, hparts.2.2⟩

theorem patternCalls_le_of_gains {trimmed pattern : Node}
    (h : Relation.ReflTransGen Gains trimmed pattern) :
    trimmed.patternCalls ≤ pattern.patternCalls := by
  induction h with
  | refl => exact Nat.le_refl _
  | tail _ hlast ih => exact Nat.le_trans ih hlast.patternCalls_le

/-- **Matching is a preorder, as far as it is found out.** A value is found to match itself, unless
its parts stand too deep for that, and what is found to match a value that is found to match a third
one is found to match that as well. So a pattern is still found to match a value that has gained
entries or items, and a pattern that has lost some is still found to match. Scalars always have an
answer: they match if they are the same number or else the same scalar. -/
theorem isMatch_preorder :
    (∀ a : Node, a.IsComparable → a.isMatch a =
      if a.patternCalls ≤ deepestCalls then .ok true else .error .nestedTooDeep) ∧
    (∀ a b c : Node, a.isMatch b = .ok true → b.isMatch c = .ok true → a.isMatch c = .ok true) ∧
    (∀ pattern value grown : Node, grown.IsComparable →
      Relation.ReflTransGen Gains value grown →
      value.isMatch pattern = .ok true → grown.isMatch pattern = .ok true) ∧
    (∀ pattern trimmed value : Node, pattern.IsComparable →
      Relation.ReflTransGen Gains trimmed pattern →
      value.isMatch pattern = .ok true → value.isMatch trimmed = .ok true) ∧
    (∀ s t : Scalar, ∃ answer, (Node.scalar s).isMatch (.scalar t) = .ok answer ∧
      (answer = true ↔ (∃ q, s.quantity? = some q ∧ t.quantity? = some q) ∨
        (s.quantity? = none ∧ s = t ∧ s ≠ .float .notANumber))) := by
  refine ⟨fun _ => isMatch_self, ?_, ?_, ?_, ?_⟩
  · intro a b c hab hbc
    rw [isMatch_eq_true_iff] at hab hbc ⊢
    exact ⟨fits_trans hab.1 hbc.1, hbc.2⟩
  · intro pattern value grown hgrown hgains hvalue
    rw [isMatch_eq_true_iff] at hvalue ⊢
    exact ⟨fits_trans (fits_of_gains hgains hgrown).2 hvalue.1, hvalue.2⟩
  · intro pattern trimmed value hpattern hgains hvalue
    rw [isMatch_eq_true_iff] at hvalue ⊢
    exact ⟨fits_trans hvalue.1 (fits_of_gains hgains hpattern).2,
      Nat.le_trans (patternCalls_le_of_gains hgains) hvalue.2⟩
  · intro s t
    exact ⟨s.equals t, isMatch_of_calls (Nat.succ_le_of_lt (by decide)), Scalar.equals_iff⟩

/-- A list of the double 1.0 matches the pattern of a list of true, also after one more entry and
one more item. -/
theorem isMatch_preorder_tags :
    (Node.map [(.str "name", .scalar (.str "tags")),
        (.str "default", .list [.scalar (.float (Double.ofRatio false 1 1)), .scalar .null])]).isMatch
      (.map [(.str "default", .list [.scalar (.bool true)])]) = .ok true := by
  refine isMatch_preorder.2.2.1 _
    (.map [(.str "default", .list [.scalar (.float (Double.ofRatio false 1 1))])]) _
    (isComparable_of_isPlain (by decide +kernel)) ?_
    (isMatch_eq_true_iff.mpr ⟨by decide +kernel, by decide +kernel⟩)
  exact .tail (.tail .refl (.entry [] _ _)) (.inEntry [_] [] _ (.item [_] [] _))

theorem nestedLists_patternCalls (n : Nat) :
    (nestedLists n).patternCalls = n * (partCalls + seekCalls) + partCalls := by
  induction n with
  | zero => rfl
  | succ n ih =>
    rw [nestedLists, patternCalls, patternCallsOfItems, patternCallsOfItems, ih, Nat.max_zero,
      Nat.add_mul]
    omega

/-- Four hundred lists one inside another, as an example may hold them, are not found to match
themselves. -/
theorem nestedLists_not_compared :
    (nestedLists 400).isPlain = true ∧
      (nestedLists 400).isMatch (nestedLists 400) = .error .nestedTooDeep := by
  have hplain := nestedLists_isPlain 400
  refine ⟨hplain, ?_⟩
  rw [isMatch_self (isComparable_of_isPlain hplain), nestedLists_patternCalls]
  rfl

end RoutedFields.Node
