import RoutedFields.Proofs.Reference.Numerals
import RoutedFields.Proofs.Results

/-!
# Positions in lists

In a list a segment names an item by its position. It should be the decimal spelling of a position
and nothing else, but what decides is the integer that is read from it.

* `ComesTo`, `Selects`: how far a reference has been followed, and the item it goes to from a list.
* `SpellsPosition`, `selects_iff`: the segments that select an item.
* `ReadsIndex`: the rule for positions in lists.
* `Misread`: the segments that break it.
* `listSegments_exact`: what a segment selects in a list, and that exactly these break the rule.

**Deviation.** A segment selects an item if it spells its position in any way, or spells the
negative integer that counts to it from the end of the list. The decimal spelling of a position may
be too long to be read, but no list is as long as that.
-/

namespace RoutedFields.Pointer

/-! ## References on their way -/

/-- Whether following a reference from the root of a document comes to a node, with these segments
still to be followed. -/
def ComesTo (document : Node) (reference : String) (s : Sited) (rest : List (List Char)) : Prop :=
  ∃ before, segments? reference = some (before ++ rest) ∧
    navigate reference (.root document) before = .ok s

section Navigation

variable {document : Node} {reference : String} {s t : Sited} {segment : List Char}
  {rest : List (List Char)}

theorem navigate_append (reference : String) (s : Sited) (before rest : List (List Char)) :
    navigate reference s (before ++ rest) =
      (navigate reference s before).bind (navigate reference · rest) := by
  induction before generalizing s with
  | nil => rfl
  | cons segment before ih =>
    rw [List.cons_append, navigate, navigate]
    cases follow reference s segment with
    | error error => rfl
    | ok t => exact ih t

/-- What a reference names is what is left of it names from the node that it has come to. -/
theorem lookup_of_comesTo (h : ComesTo document reference s rest) :
    lookup document reference = navigate reference s rest := by
  obtain ⟨before, hsegments, hbefore⟩ := h
  rw [lookup, hsegments]
  show navigate reference (.root document) (before ++ rest) = _
  rw [navigate_append, hbefore]
  rfl

theorem comesTo_cons_iff (h : ComesTo document reference s (segment :: rest)) :
    ComesTo document reference t rest ↔ follow reference s segment = .ok t := by
  obtain ⟨before, hsegments, hbefore⟩ := h
  have hstep : navigate reference (.root document) (before ++ [segment]) =
      follow reference s segment := by
    rw [navigate_append, hbefore]
    show (follow reference s segment).bind _ = _
    cases follow reference s segment <;> rfl
  have hsplit : before ++ segment :: rest = (before ++ [segment]) ++ rest := by
    rw [List.append_assoc, List.singleton_append]
  constructor
  · rintro ⟨more, hmore, hnavigate⟩
    rw [hsegments, hsplit] at hmore
    obtain rfl := List.append_cancel_right (Option.some.inj hmore)
    rwa [hstep] at hnavigate
  · intro hfollow
    exact ⟨before ++ [segment], by rw [hsegments, hsplit], by rw [hstep, hfollow]⟩

theorem exists_inside_of_follow (hs : ∃ steps, s.site = .inside steps)
    (h : follow reference s segment = .ok t) : ∃ steps, t.site = .inside steps := by
  obtain ⟨steps, hsteps⟩ := hs
  unfold follow at h
  dsimp only at h
  split at h
  · split at h
    · rename_i found hfound
      obtain ⟨node, _, rfl⟩ := Option.map_eq_some_iff.mp hfound
      obtain rfl := Except.ok.inj h
      rw [hsteps]
      exact ⟨_, rfl⟩
    · cases h
  · split at h
    · obtain rfl := Except.ok.inj h
      rw [hsteps]
      exact ⟨_, rfl⟩
    · cases h
  · cases h

theorem exists_inside_of_navigate (hs : ∃ steps, s.site = .inside steps)
    (h : navigate reference s rest = .ok t) : ∃ steps, t.site = .inside steps := by
  induction rest generalizing s with
  | nil =>
    obtain rfl := Except.ok.inj h
    exact hs
  | cons segment rest ih =>
    obtain ⟨next, hnext, hrest⟩ := bind_eq_ok_iff.mp h
    exact ih (exists_inside_of_follow hs hnext) hrest

/-- Whatever a reference comes to is a part of the document and has its place there. -/
theorem exists_inside_of_comesTo (h : ComesTo document reference s rest) :
    ∃ steps, s.site = .inside steps := by
  obtain ⟨before, _, hnavigate⟩ := h
  exact exists_inside_of_navigate ⟨[], rfl⟩ hnavigate

end Navigation

/-! ## Items of lists -/

/-- Whether a segment spells a position in a list, counting from the start of the list or, as a
negative integer, from its end. -/
def SpellsPosition (length : Nat) (segment : List Char) (i : Nat) : Prop :=
  i < length ∧ ∃ n : Int, Spells segment n ∧ (n = i ∨ n = i - length)

section Items

variable {document : Node} {reference : String} {s found : Sited} {segment : List Char}
  {xs : List Node} {i : Nat}

theorem itemIndex?_eq_some_iff {length : Nat} {n : Int} :
    itemIndex? length n = some i ↔ i < length ∧ (n = i ∨ n = i - length) := by
  unfold itemIndex?
  dsimp only
  generalize hposition : (if n < 0 then n + length else n) = position
  have hcount : position = n ∧ 0 ≤ n ∨ position = n + length ∧ n < 0 := by
    split at hposition <;> omega
  split
  · rw [Option.some.injEq]
    omega
  · exact iff_of_false (Option.some_ne_none i).symm (by omega)

theorem position_eq_some_iff {length : Nat} :
    (numeral? (unescape segment)).bind (itemIndex? length) = some i ↔
      SpellsPosition length segment i := by
  simp only [Option.bind_eq_some_iff, numeral?_unescape_iff, itemIndex?_eq_some_iff]
  exact ⟨fun ⟨n, hn, hi, h⟩ => ⟨hi, n, hn, h⟩, fun ⟨hi, n, hn, h⟩ => ⟨n, hn, hi, h⟩⟩

theorem follow_of_list (hlist : s.node = .list xs) :
    follow reference s segment =
      match (numeral? (unescape segment)).bind (itemIndex? xs.length) with
      | some position => .ok ⟨xs.getD position .null, s.site.child (.index position)⟩
      | none => .error (.badIndex reference (String.ofList (unescape segment))) := by
  obtain ⟨node, site⟩ := s
  obtain rfl : node = .list xs := hlist
  calc follow reference ⟨.list xs, site⟩ segment
      = match (numeral? (String.ofList (unescape segment)).toList).bind (itemIndex? xs.length) with
        | some position => .ok ⟨xs.getD position .null, site.child (.index position)⟩
        | none => .error (.badIndex reference (String.ofList (unescape segment))) := rfl
    _ = _ := by rw [String.toList_ofList]

/-- In a list a segment names the item whose position it spells. -/
theorem follow_eq_ok_iff_of_list (hlist : s.node = .list xs) :
    follow reference s segment = .ok found ↔
      ∃ i, SpellsPosition s.items.length segment i ∧ s.items[i]? = some found := by
  rw [follow_of_list hlist, Sited.length_items hlist]
  have hitem (i : Nat) (hi : i < xs.length) :
      s.items[i]? = some ⟨xs.getD i .null, s.site.child (.index i)⟩ := by
    rw [Sited.getElem?_items hlist, List.getElem?_eq_getElem hi, List.getD,
      List.getElem?_eq_getElem hi]
    rfl
  constructor
  · intro h
    split at h
    · rename_i i hi
      obtain rfl := Except.ok.inj h
      have hspells := position_eq_some_iff.mp hi
      exact ⟨i, hspells, hitem i hspells.1⟩
    · cases h
  · rintro ⟨i, hspells, hfound⟩
    rw [hitem i hspells.1] at hfound
    rw [position_eq_some_iff.mpr hspells, ← Option.some.inj hfound]

theorem follow_eq_error_of_list (hlist : s.node = .list xs)
    (h : ∀ i, ¬SpellsPosition s.items.length segment i) :
    follow reference s segment =
      .error (.badIndex reference (String.ofList (unescape segment))) := by
  rw [follow_of_list hlist]
  have hnone : (numeral? (unescape segment)).bind (itemIndex? xs.length) = none := by
    refine Option.eq_none_iff_forall_ne_some.mpr fun i hi => h i ?_
    rw [Sited.length_items hlist]
    exact position_eq_some_iff.mp hi
  rw [hnone]

end Items

/-! ## The rule for positions -/

/-- Whether a reference goes from a list to one of its items, with these segments still to be
followed. -/
def Selects (document : Node) (reference : String) (s : Sited) (rest : List (List Char))
    (i : Nat) : Prop :=
  ∃ item, s.items[i]? = some item ∧ ComesTo document reference item rest

/-- The rule for positions: a segment selects an item exactly if it is the decimal spelling of its
position, and all other segments are refused. -/
structure ReadsIndex (document : Node) (reference : String) (s : Sited) (segment : List Char)
    (rest : List (List Char)) : Prop where
  selects : ∀ i, Selects document reference s rest i ↔
    i < s.items.length ∧ segment = decimalText i
  refuses : (∀ i < s.items.length, segment ≠ decimalText i) →
    lookup document reference = .error (.badIndex reference (String.ofList (unescape segment)))

/-- Segments that break the rule in a list of some length. -/
inductive Misread (length : Nat) (segment : List Char) : Prop
  /-- Another spelling of a position, or an integer that counts from the end of the list. -/
  | lenient {n : Int} (hspells : Spells segment n) (hrange : -length ≤ n ∧ n < length)
    (hother : ∀ i, segment ≠ decimalText i)
  /-- The decimal spelling of a position, with more digits than an integer may have. -/
  | overlong {i : Nat} (hi : i < length) (hsegment : segment = decimalText i)
    (hlength : longestInteger < segment.length)

section Rule

variable {document : Node} {reference : String} {s : Sited} {segment : List Char}
  {rest : List (List Char)} {length i : Nat}

theorem misread_or_decimalText (h : SpellsPosition length segment i) :
    Misread length segment ∨ segment = decimalText i := by
  obtain ⟨hi, n, hspells, hn⟩ := h
  by_cases hother : ∃ j, segment = decimalText j
  · obtain ⟨j, rfl⟩ := hother
    obtain ⟨rfl, _⟩ := spells_decimalText_iff.mp hspells
    have hij : j = i := by omega
    exact .inr (congrArg decimalText hij)
  · exact .inl (.lenient hspells (by omega) (not_exists.mp hother))

theorem spellsPosition_decimalText (hi : i < length)
    (hlength : (decimalText i).length ≤ longestInteger) :
    SpellsPosition length (decimalText i) i :=
  ⟨hi, i, spells_decimalText_iff.mpr ⟨rfl, hlength⟩, .inl rfl⟩

/-- Apart from the segments that are misread, only the decimal spelling of a position spells it. -/
theorem spellsPosition_iff (h : ¬Misread length segment) :
    SpellsPosition length segment i ↔ i < length ∧ segment = decimalText i := by
  constructor
  · intro hspells
    exact ⟨hspells.1, (misread_or_decimalText hspells).resolve_left h⟩
  · rintro ⟨hi, rfl⟩
    refine spellsPosition_decimalText hi (Nat.le_of_not_lt fun hlength => h ?_)
    exact .overlong hi rfl hlength

/-- A reference goes from a list to the item whose position its next segment spells. -/
theorem selects_iff (h : ComesTo document reference s (segment :: rest))
    (hlist : s.node.isList = true) :
    Selects document reference s rest i ↔ SpellsPosition s.items.length segment i := by
  obtain ⟨xs, hxs⟩ := Node.isList_iff.mp hlist
  rw [Selects]
  simp only [comesTo_cons_iff h, follow_eq_ok_iff_of_list hxs]
  constructor
  · rintro ⟨item, hitem, j, hspells, hj⟩
    -- items at two positions are two items, because they stand at two places of the document
    obtain ⟨steps, hsteps⟩ := exists_inside_of_comesTo h
    rw [Sited.getElem?_items hxs, hsteps] at hitem hj
    obtain ⟨_, _, rfl⟩ := Option.map_eq_some_iff.mp hitem
    obtain ⟨_, _, heq⟩ := Option.map_eq_some_iff.mp hj
    injection heq with _ hsite
    injection hsite with hcons
    injection hcons with hstep _
    injection hstep with hindex
    exact hindex ▸ hspells
  · intro hspells
    have hitem := List.getElem?_eq_getElem hspells.1
    exact ⟨_, hitem, i, hspells, hitem⟩

/-- **What a segment selects in a list.** It selects the item whose position it spells, counting
from the start of the list or from its end, and it is refused if it spells none. So the rule for
positions holds exactly at the segments that are not misread. -/
theorem listSegments_exact (h : ComesTo document reference s (segment :: rest))
    (hlist : s.node.isList = true) :
    (∀ i, Selects document reference s rest i ↔ SpellsPosition s.items.length segment i) ∧
      ((∀ i, ¬SpellsPosition s.items.length segment i) → lookup document reference =
        .error (.badIndex reference (String.ofList (unescape segment)))) ∧
      (ReadsIndex document reference s segment rest ↔ ¬Misread s.items.length segment) := by
  have hselects (i : Nat) : Selects document reference s rest i ↔
      SpellsPosition s.items.length segment i := selects_iff h hlist
  have hrefuses : (∀ i, ¬SpellsPosition s.items.length segment i) →
      lookup document reference =
        .error (.badIndex reference (String.ofList (unescape segment))) := by
    intro hnone
    obtain ⟨xs, hxs⟩ := Node.isList_iff.mp hlist
    rw [lookup_of_comesTo h, navigate, follow_eq_error_of_list hxs hnone]
    rfl
  refine ⟨hselects, hrefuses, fun hrule hmisread => ?_, fun hnot => ⟨fun i => ?_, fun hother => ?_⟩⟩
  · cases hmisread with
    | @lenient n hspells hrange hother =>
      have hposition : SpellsPosition s.items.length segment
          (if n < 0 then n + s.items.length else n).toNat := by
        refine ⟨?_, n, hspells, ?_⟩ <;> split <;> omega
      exact hother _ ((hrule.selects _).mp ((hselects _).mpr hposition)).2
    | @overlong i hi hsegment hlength =>
      obtain ⟨_, n, hspells, _⟩ := (hselects i).mp ((hrule.selects i).mpr ⟨hi, hsegment⟩)
      rw [hsegment] at hspells hlength
      exact absurd (spells_decimalText_iff.mp hspells).2 (Nat.not_le_of_lt hlength)
  · rw [hselects, spellsPosition_iff hnot]
  · refine hrefuses fun i hspells => ?_
    obtain ⟨hi, hsegment⟩ := (spellsPosition_iff hnot).mp hspells
    exact hother i hi hsegment

/-- A document with two servers. -/
def serversDocument : Node :=
  .map [(.str "servers", .list [.map [(.str "url", .str "https://one")],
    .map [(.str "url", .str "https://two")]])]

/-- The servers of this document. -/
def servers : Sited :=
  ⟨serversDocument.entry "servers", .inside [.key (.str "servers")]⟩

theorem listSegments_exact_second :
    ComesTo serversDocument "#/servers/1/url" servers ["1".toList, "url".toList] ∧
      servers.node.isList = true ∧
      Selects serversDocument "#/servers/1/url" servers ["url".toList] 1 ∧
      ReadsIndex serversDocument "#/servers/1/url" servers "1".toList ["url".toList] := by
  have hcomes : ComesTo serversDocument "#/servers/1/url" servers ["1".toList, "url".toList] :=
    ⟨["servers".toList], rfl, rfl⟩
  have hnot : ¬Misread servers.items.length "1".toList := by
    rintro (⟨_, _, hother⟩ | ⟨_, _, hlength⟩)
    · exact hother 1 rfl
    · exact absurd hlength (by decide)
  obtain ⟨hselects, _, hrule⟩ := listSegments_exact hcomes rfl
  refine ⟨hcomes, rfl, (hselects 1).mpr ?_, hrule.mpr hnot⟩
  exact spellsPosition_decimalText (by decide) (by decide)

/-- The segment `-1` selects the second server, and so do other spellings of its position. -/
theorem negativeIndex_selects :
    ComesTo serversDocument "#/servers/-1" servers ["-1".toList] ∧ servers.node.isList = true ∧
      Selects serversDocument "#/servers/-1" servers [] 1 ∧
      ¬ReadsIndex serversDocument "#/servers/-1" servers "-1".toList [] ∧
      ∀ reference ∈ ["#/servers/01", "#/servers/+1", "#/servers/ 1", "#/servers/0_1",
        "#/servers/\u0661"], lookup serversDocument reference =
          lookup serversDocument "#/servers/1" := by
  have hselects : Selects serversDocument "#/servers/-1" servers [] 1 :=
    ⟨_, rfl, ["servers".toList, "-1".toList], rfl, rfl⟩
  refine ⟨⟨["servers".toList], rfl, rfl⟩, rfl, hselects, fun hrule => ?_, ?_⟩
  · exact absurd ((hrule.selects 1).mp hselects).2 (by decide)
  · simp only [List.forall_mem_cons]
    exact ⟨rfl, rfl, rfl, rfl, rfl, List.forall_mem_nil _⟩

end Rule

end RoutedFields.Pointer
