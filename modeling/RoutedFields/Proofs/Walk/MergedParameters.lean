import Mathlib.Data.Sum.Basic
import RoutedFields.Proofs.Document.AlikeValues
import RoutedFields.Proofs.Walk.Visiting

/-!
# The normal form of operations

A walk meets an operation with tags and with the parameters of its path merged in; everything else
about it stays as it is. Of the parameters of the path, those are left out that the operation gives
under the same name itself. References have no names: they are never left out, and nothing is left
out because of them.

Names are compared as keys of maps are: the integer 1, the double 1.0 and true are one name, and an
absent name is the name null.

* `mergeParameters_eq_ok_iff`: when parameters are merged, and into which list.
* `MergedParameters`, `mergedParameters_of_merge`: no name is lost or doubled, the operation decides
  about the names that both give, and merging a second time changes nothing.
* `NormalForm`, `normalForm_of_normalize`: what a walk changes about an operation.
* `declaration_of_seen`: a visitor sees only operations that the document declares.
* `operations_inNormalForm`: all of this in one statement.
-/

namespace RoutedFields

/-! ## Names of parameters -/

namespace Sited

/-- Whether a parameter has a name: it is a map and no reference. -/
def isNamed (p : Sited) : Bool :=
  p.node.isMap && !p.node.isReference

/-- What the name of a parameter stands for; lists and maps are no names. -/
def name? (p : Sited) : Option (Magnitude ⊕ Scalar) :=
  match p.node.entry "name" with
  | .scalar name => some name.standsFor
  | _ => none

theorem isNamed_iff {p : Sited} :
    p.isNamed = true ↔ p.node.isMap = true ∧ p.node.isReference = false := by
  rw [isNamed, Bool.and_eq_true, Bool.not_eq_true']

theorem name?_eq_some_iff {p : Sited} {name : Magnitude ⊕ Scalar} :
    p.name? = some name ↔ ∃ key, (p.node.entry "name").asKey = .ok key ∧ key.standsFor = name := by
  unfold name?
  cases p.node.entry "name" <;> simp [Node.asKey]

end Sited

/-- The names of parameters, in their order. -/
def parameterNames (parameters : List Sited) : List (Option (Magnitude ⊕ Scalar)) :=
  (parameters.filter Sited.isNamed).map Sited.name?

theorem mem_parameterNames_iff {parameters : List Sited} {name : Option (Magnitude ⊕ Scalar)} :
    name ∈ parameterNames parameters ↔ ∃ p ∈ parameters, p.isNamed = true ∧ p.name? = name := by
  simp [parameterNames, and_assoc]

theorem parameterNames_append (xs ys : List Sited) :
    parameterNames (xs ++ ys) = parameterNames xs ++ parameterNames ys := by
  simp [parameterNames]

/-! ## Merging -/

/-- Whether a parameter of an operation stands in place of one of its path: neither is a reference,
and they have the same name. -/
def Sited.replaces (q p : Sited) : Bool :=
  q.isNamed && !p.node.isReference && decide (q.name? = p.name?)

/-- Whether a parameter of a path stays beside parameters of an operation. -/
def isKept (own : List Sited) (p : Sited) : Bool :=
  !own.any (·.replaces p)

theorem isKept_eq_false_iff {own : List Sited} {p : Sited} :
    isKept own p = false ↔ p.node.isReference = false ∧
      ∃ q ∈ own, q.isNamed = true ∧ q.name? = p.name? := by
  simp only [isKept, Sited.replaces, Bool.not_eq_false', List.any_eq_true, Bool.and_eq_true,
    Bool.not_eq_true', decide_eq_true_eq]
  exact ⟨fun ⟨q, hq, ⟨hnamed, hreference⟩, hname⟩ => ⟨hreference, q, hq, hnamed, hname⟩,
    fun ⟨hreference, q, hq, hnamed, hname⟩ => ⟨q, hq, ⟨hnamed, hreference⟩, hname⟩⟩

theorem isKept_eq_false_iff_mem {own : List Sited} {p : Sited} :
    isKept own p = false ↔ p.node.isReference = false ∧ p.name? ∈ parameterNames own := by
  rw [isKept_eq_false_iff, mem_parameterNames_iff]

section Merging

variable {path own merged : List Sited} {names : List Scalar}

theorem ownNames_eq_ok (h : ownNames own = .ok names) :
    parameterNames own = names.map fun name => some name.standsFor := by
  have hnames := mapM_eq_ok_iff.mp h
  rw [parameterNames, ← List.forall₂_eq_eq_eq, List.forall₂_map_left_iff,
    List.forall₂_map_right_iff]
  exact hnames.imp fun p name hname => Sited.name?_eq_some_iff.mpr ⟨name, hname, rfl⟩

theorem exists_ownNames_iff :
    (∃ names, ownNames own = .ok names) ↔
      ∀ q ∈ own, q.isNamed = true → q.name?.isSome = true := by
  have hname (q : Sited) :
      q.name?.isSome = true ↔ ∃ key, (q.node.entry "name").asKey = .ok key := by
    simp only [Option.isSome_iff_exists, Sited.name?_eq_some_iff]
    exact ⟨fun ⟨_, key, hkey, _⟩ => ⟨key, hkey⟩, fun ⟨key, hkey⟩ => ⟨_, key, hkey, rfl⟩⟩
  rw [ownNames, exists_mapM_iff]
  simp [Sited.isNamed, hname]

/-- A test whether a parameter of a path stays comes out well for references and for maps with a
name that can be compared. -/
theorem isInherited_eq_ok_iff {p : Sited} {b : Bool}
    (hnames : parameterNames own = names.map fun name => some name.standsFor) :
    isInherited names p = .ok b ↔
      (p.node.isReference = false → p.node.isMap = true ∧ p.name?.isSome = true) ∧
        b = isKept own p := by
  rw [isInherited, eq_comm (a := b)]
  cases hreference : p.node.isReference with
  | true =>
    have hkept : isKept own p = true := by
      rw [← Bool.not_eq_false, isKept_eq_false_iff, hreference]
      exact fun h => nomatch h.1
    simp [pure, Except.pure, hkept]
  | false =>
    cases hmap : p.node.isMap with
    | false => simp [Sited.member, hmap, bind, Except.bind]
    | true =>
      cases hname : p.node.entry "name" with
      | scalar name =>
        have hkept : (!names.any (·.same name)) = isKept own p := by
          rw [← Bool.not_inj_iff, Bool.not_not, Bool.eq_iff_iff, Bool.not_eq_true',
            isKept_eq_false_iff_mem, hnames, Sited.name?, hname]
          simp [Scalar.same_iff, hreference]
        simp [Sited.member, hmap, hname, bind, Except.bind, Node.asKey, pure, Except.pure, hkept,
          Sited.name?]
      | list xs => simp [Sited.member, hmap, hname, bind, Except.bind, Node.asKey, Sited.name?]
      | map es => simp [Sited.member, hmap, hname, bind, Except.bind, Node.asKey, Sited.name?]

/-- Parameters are merged if all names can be compared, and all parameters of the path that are no
references are maps. Then the parameters of the path that stay are followed by those of the
operation. -/
theorem mergeParameters_eq_ok_iff :
    mergeParameters (.ok path) (.ok own) = .ok merged ↔
      (∀ q ∈ own, q.isNamed = true → q.name?.isSome = true) ∧
      (∀ p ∈ path, p.node.isReference = false → p.node.isMap = true ∧ p.name?.isSome = true) ∧
      merged = path.filter (isKept own) ++ own := by
  have hmerge : mergeParameters (.ok path) (.ok own) = .ok merged ↔
      ∃ names, ownNames own = .ok names ∧
        ∃ inherited, path.filterM (isInherited names) = .ok inherited ∧
          merged = inherited ++ own := by
    constructor
    · intro h
      obtain ⟨_, hown, h⟩ := bind_eq_ok_iff.mp h
      obtain rfl := Except.ok.inj hown
      obtain ⟨names, hnames, h⟩ := bind_eq_ok_iff.mp h
      obtain ⟨_, hpath, h⟩ := bind_eq_ok_iff.mp h
      obtain rfl := Except.ok.inj hpath
      obtain ⟨inherited, hinherited, h⟩ := bind_eq_ok_iff.mp h
      exact ⟨names, hnames, inherited, hinherited, (pure_eq_ok_iff.mp h).symm⟩
    · rintro ⟨names, hnames, inherited, hinherited, rfl⟩
      exact bind_eq_ok_iff.mpr ⟨own, rfl, bind_eq_ok_iff.mpr ⟨names, hnames,
        bind_eq_ok_iff.mpr ⟨path, rfl, bind_eq_ok_iff.mpr ⟨inherited, hinherited, rfl⟩⟩⟩⟩
  have hpath {names : List Scalar} (h : ownNames own = .ok names) (inherited : List Sited) :
      path.filterM (isInherited names) = .ok inherited ↔
        (∀ p ∈ path, p.node.isReference = false → p.node.isMap = true ∧ p.name?.isSome = true) ∧
          inherited = path.filter (isKept own) := by
    have htest (p : Sited) (b : Bool) := isInherited_eq_ok_iff (p := p) (b := b) (ownNames_eq_ok h)
    rw [filterM_eq_ok_iff fun p b hb => ((htest p b).mp hb).2]
    simp [htest]
  rw [hmerge, ← exists_ownNames_iff]
  constructor
  · rintro ⟨names, hnames, inherited, hinherited, rfl⟩
    obtain ⟨hall, rfl⟩ := (hpath hnames inherited).mp hinherited
    exact ⟨⟨names, hnames⟩, hall, rfl⟩
  · rintro ⟨⟨names, hnames⟩, hall, rfl⟩
    exact ⟨names, hnames, _, (hpath hnames _).mpr ⟨hall, rfl⟩, rfl⟩

end Merging

/-! ## Merged parameters -/

/-- What parameters of a path and of an operation are merged into. -/
structure MergedParameters (path own merged : List Sited) : Prop where
  /-- Those of the path that no own one replaces, in their order, and then all own ones. -/
  parts : merged = path.filter (isKept own) ++ own
  /-- Names that differ among either of them differ among all. -/
  nodup : (parameterNames path).Nodup → (parameterNames own).Nodup → (parameterNames merged).Nodup
  /-- No name is lost, and none is new. -/
  names : ∀ name, name ∈ parameterNames merged ↔
    name ∈ parameterNames path ∨ name ∈ parameterNames own
  /-- Under the name of an own parameter stands that one. -/
  ownFirst : (parameterNames own).Nodup → ∀ q ∈ own, q.isNamed = true →
    ∀ r ∈ merged, r.isNamed = true → r.name? = q.name? → r = q
  /-- Without references in the path, merging it in once more changes nothing. -/
  again : (∀ p ∈ path, p.node.isReference = false) →
    mergeParameters (.ok path) (.ok merged) = .ok merged

section Merged

variable {path own merged : List Sited}

theorem nodup_mergedNames (hpath : (parameterNames path).Nodup)
    (hown : (parameterNames own).Nodup) :
    (parameterNames (path.filter (isKept own) ++ own)).Nodup := by
  rw [parameterNames_append, List.nodup_append]
  refine ⟨?_, hown, ?_⟩
  · exact hpath.sublist ((List.filter_sublist.filter _).map _)
  · rintro name hname other hother rfl
    obtain ⟨p, hp, hnamed, rfl⟩ := mem_parameterNames_iff.mp hname
    have hkept := (List.mem_filter.mp hp).2
    rw [← Bool.not_eq_false, isKept_eq_false_iff_mem] at hkept
    exact hkept ⟨(Sited.isNamed_iff.mp hnamed).2, hother⟩

theorem mem_mergedNames_iff {name : Option (Magnitude ⊕ Scalar)} :
    name ∈ parameterNames (path.filter (isKept own) ++ own) ↔
      name ∈ parameterNames path ∨ name ∈ parameterNames own := by
  rw [parameterNames_append, List.mem_append]
  refine or_congr_left' fun hown => ?_
  rw [mem_parameterNames_iff, mem_parameterNames_iff]
  constructor
  · rintro ⟨p, hp, hname⟩
    exact ⟨p, (List.mem_filter.mp hp).1, hname⟩
  · rintro ⟨p, hp, hnamed, rfl⟩
    refine ⟨p, List.mem_filter.mpr ⟨hp, ?_⟩, hnamed, rfl⟩
    rw [← Bool.not_eq_false, isKept_eq_false_iff_mem]
    exact fun h => hown h.2

theorem eq_of_name? (hown : (parameterNames own).Nodup) {q r : Sited} (hq : q ∈ own)
    (hnamed : q.isNamed = true) (hr : r ∈ path.filter (isKept own) ++ own)
    (hrnamed : r.isNamed = true) (hname : r.name? = q.name?) : r = q := by
  rcases List.mem_append.mp hr with hpath | hr
  · have hkept := (List.mem_filter.mp hpath).2
    rw [← Bool.not_eq_false, isKept_eq_false_iff] at hkept
    exact absurd ⟨(Sited.isNamed_iff.mp hrnamed).2, q, hq, hnamed, hname.symm⟩ hkept
  · exact List.inj_on_of_nodup_map hown (List.mem_filter.mpr ⟨hr, hrnamed⟩)
      (List.mem_filter.mpr ⟨hq, hnamed⟩) hname

/-- Merging once more drops all parameters of a path without references: each of them is among those
that were merged, or it has been replaced. -/
theorem mergeParameters_again (h : mergeParameters (.ok path) (.ok own) = .ok merged)
    (hreferences : ∀ p ∈ path, p.node.isReference = false) :
    mergeParameters (.ok path) (.ok merged) = .ok merged := by
  obtain ⟨hown, hpath, rfl⟩ := mergeParameters_eq_ok_iff.mp h
  have hnone : path.filter (isKept (path.filter (isKept own) ++ own)) = [] := by
    refine List.filter_eq_nil_iff.mpr fun p hp => ?_
    rw [Bool.not_eq_true, isKept_eq_false_iff_mem, mem_mergedNames_iff]
    have hnamed := Sited.isNamed_iff.mpr ⟨(hpath p hp (hreferences p hp)).1, hreferences p hp⟩
    exact ⟨hreferences p hp, .inl (mem_parameterNames_iff.mpr ⟨p, hp, hnamed, rfl⟩)⟩
  refine mergeParameters_eq_ok_iff.mpr ⟨fun q hq hnamed => ?_, hpath, ?_⟩
  · rcases List.mem_append.mp hq with hq | hq
    · exact (hpath q (List.mem_filter.mp hq).1 (Sited.isNamed_iff.mp hnamed).2).2
    · exact hown q hq hnamed
  · rw [hnone, List.nil_append]

theorem mergedParameters_of_merge (h : mergeParameters (.ok path) (.ok own) = .ok merged) :
    MergedParameters path own merged := by
  have hagain := mergeParameters_again h
  obtain ⟨-, -, rfl⟩ := mergeParameters_eq_ok_iff.mp h
  exact { parts := rfl
          nodup := nodup_mergedNames
          names := fun _ => mem_mergedNames_iff
          ownFirst := fun hown _ hq hnamed _ hr hrnamed hname =>
            eq_of_name? hown hq hnamed hr hrnamed hname
          again := hagain }

end Merged

/-! ## Normal form -/

/-- Whether a key is none of those that a walk sets. -/
def isUntouched (key : Scalar) : Bool :=
  decide (key ≠ .str "tags") && decide (key ≠ .str "parameters")

/-- What a walk makes of an operation that a document declares. -/
structure NormalForm (defaultTag : Node) (declaration : Declaration) (operation : Sited) :
    Prop where
  isMap : operation.node.isMap = true
  /-- The tags are its own ones, unless these do not count as present. -/
  tags : operation.get? "tags" =
    if (declaration.operation.entry "tags").node.isTruthy then declaration.operation.get? "tags"
    else some (.outside (.list [defaultTag]))
  tagsPresent : (operation.entry "tags").node.isTruthy = true
  /-- The parameters are merged from those of its path and its own. -/
  parameters : ∃ path own merged,
    (declaration.pathItem.entry "parameters").elementsIfAny = .ok path ∧
    (declaration.operation.entry "parameters").elementsIfAny = .ok own ∧
    MergedParameters path own merged ∧ operation.get? "parameters" = some (.ofItems merged)
  /-- All other entries are the same, in the same order. -/
  entries : operation.node.entries.filter (fun e => isUntouched e.1) =
    declaration.operation.node.entries.filter fun e => isUntouched e.1
  /-- They keep their places in the document. -/
  places : ∀ key, isUntouched (.str key) = true →
    operation.get? key = declaration.operation.get? key

section NormalForm

theorem SitedEntries.filter_put {p : Scalar → Bool} {key : String} (hp : p (.str key) = false)
    (es : SitedEntries) (value : Sited) :
    (es.put (.str key) value).filter (fun e => p e.1) = es.filter fun e => p e.1 := by
  induction es with
  | nil => simp [SitedEntries.put, hp]
  | cons e es ih =>
    obtain ⟨k, v⟩ := e
    rw [SitedEntries.put]
    split
    · rename_i hsame
      obtain rfl := (Scalar.same_str_iff k key).mp hsame
      rw [List.filter_cons_of_neg (by simp [hp]), List.filter_cons_of_neg (by simp [hp])]
    · rw [List.filter_cons, List.filter_cons, ih]

theorem Sited.filter_entries_ofEntries (p : Scalar → Bool) (es : SitedEntries) :
    (ofEntries es).node.entries.filter (fun e => p e.1) =
      (es.filter fun e => p e.1).map fun e => (e.1, e.2.node) := by
  rw [ofEntries, Node.entries_map, List.filter_map]
  rfl

theorem Sited.map_entries (s : Sited) :
    s.entries.map (fun e => (e.1, e.2.node)) = s.node.entries := by
  rw [entries, List.map_map]
  exact List.map_id' _

/-- The entries of an operation with its tags, before parameters are merged in. -/
def taggedEntries (defaultTag : Node) (operation : Sited) : SitedEntries :=
  if (operation.node.entry "tags").isTruthy then operation.entries
  else operation.entries.put (.str "tags") (.outside (.list [defaultTag]))

theorem lookup_taggedEntries (defaultTag : Node) (operation : Sited) (key : String) :
    (taggedEntries defaultTag operation).lookup (.str key) =
      if key = "tags" ∧ (operation.node.entry "tags").isTruthy = false then
        some (.outside (.list [defaultTag]))
      else operation.get? key := by
  rw [taggedEntries]
  cases htruthy : (operation.node.entry "tags").isTruthy with
  | true => simp [Sited.lookup_entries]
  | false => simp [SitedEntries.lookup_put, Sited.lookup_entries, eq_comm]

theorem filter_taggedEntries (defaultTag : Node) (operation : Sited) :
    (taggedEntries defaultTag operation).filter (fun e => isUntouched e.1) =
      operation.entries.filter fun e => isUntouched e.1 := by
  rw [taggedEntries]
  split
  · rfl
  · exact SitedEntries.filter_put rfl operation.entries _

theorem normalForm_of_normalize {defaultTag : Node} {declaration : Declaration} {operation : Sited}
    (h : normalize defaultTag declaration.pathItem declaration.operation = .ok operation) :
    NormalForm defaultTag declaration operation := by
  obtain ⟨merged, hmerged, hpure⟩ := bind_eq_ok_iff.mp h
  obtain rfl : Sited.ofEntries ((taggedEntries defaultTag declaration.operation).put
    (.str "parameters") (.ofItems merged)) = operation := pure_eq_ok_iff.mp hpure
  obtain ⟨path, own, hpath, hown, -⟩ := subset_of_mergeParameters hmerged
  have hget (key : String) : (Sited.ofEntries ((taggedEntries defaultTag declaration.operation).put
      (.str "parameters") (.ofItems merged))).get? key =
        if key = "parameters" then some (.ofItems merged)
        else (taggedEntries defaultTag declaration.operation).lookup (.str key) := by
    rw [Sited.get?_ofEntries, SitedEntries.lookup_put]
    simp [eq_comm]
  have htags := hget "tags"
  rw [if_neg (by decide), lookup_taggedEntries] at htags
  refine ⟨rfl, ?_, ?_, ?_, ?_, ?_⟩
  · rw [htags, Sited.node_entry]
    cases (declaration.operation.node.entry "tags").isTruthy <;> simp
  · cases htruthy : (declaration.operation.node.entry "tags").isTruthy with
    | true =>
      rw [htruthy, if_neg (by simp)] at htags
      rw [Sited.entry, htags, ← Sited.entry, Sited.node_entry, htruthy]
    | false =>
      rw [htruthy, if_pos ⟨rfl, rfl⟩] at htags
      rw [Sited.entry_of_get? htags]
      rfl
  · rw [hpath, hown] at hmerged
    exact ⟨path, own, merged, hpath, hown, mergedParameters_of_merge hmerged,
      by rw [hget, if_pos rfl]⟩
  · rw [Sited.filter_entries_ofEntries, SitedEntries.filter_put rfl, filter_taggedEntries,
      ← Sited.map_entries, List.filter_map]
    rfl
  · intro key hkey
    simp only [isUntouched, Bool.and_eq_true, decide_eq_true_eq, ne_eq, Scalar.str.injEq] at hkey
    rw [hget, if_neg hkey.2, lookup_taggedEntries, if_neg fun h => hkey.1 h.1]

end NormalForm

/-! ## What a visitor sees -/

theorem mem_of_mem_cut {walk : Walk} {event : Event} (h : event ∈ walk.cut.1) :
    .ok event ∈ walk := by
  induction walk with
  | nil => cases h
  | cons item walk ih =>
    cases item with
    | error failure => cases h
    | ok first =>
      rcases List.mem_cons.mp h with rfl | h
      · exact List.mem_cons_self
      · exact List.mem_cons_of_mem _ (ih h)

section Seen

variable {defaultTag document : Node} {offers : Offers} {visit : Visit}

theorem declaration_of_operationEvents
    (h : .ok (.operation visit) ∈ operationEvents defaultTag (Sited.root document)) :
    ∃ declaration ∈ declarations document,
      declaration.event defaultTag = .ok (.operation visit) := by
  rw [operationEvents_eq ?_] at h
  · exact List.mem_map.mp h
  · intro htruthy
    by_contra hmap
    rw [operationEvents, htruthy, Bool.eq_false_iff.mpr hmap] at h
    cases List.mem_singleton.mp h

theorem operation_not_mem_tagEvents : .ok (.operation visit) ∉ tagEvents (Sited.root document) := by
  rw [tagEvents]
  split <;> simp

/-- An operation that a visitor sees is one that the document declares, in normal form. -/
theorem declaration_of_seen (h : .operation visit ∈ (seenAlone defaultTag document offers).1) :
    ∃ declaration ∈ declarations document,
      declaration.event defaultTag = .ok (.operation visit) := by
  have hpart {wanted : Bool} {part : Walk} {item : Except Failure Event}
      (hitem : item ∈ if wanted then part else []) : item ∈ part := by
    cases wanted
    · cases hitem
    · exact hitem
  have hwalk := mem_of_mem_cut h
  rw [walk, List.mem_append] at hwalk
  rcases hwalk with hdocument | hparts
  · cases List.mem_singleton.mp (hpart hdocument)
  · cases hmap : document.isMap with
    | false =>
      rw [hmap] at hparts
      cases List.mem_singleton.mp hparts
    | true =>
      rw [hmap, if_pos rfl, partEvents, List.mem_append, List.mem_append] at hparts
      rcases hparts with (hoperation | htag) | hfinish
      · exact declaration_of_operationEvents (hpart hoperation)
      · exact absurd (hpart htag) operation_not_mem_tagEvents
      · cases List.mem_singleton.mp (hpart hfinish)

/-- **Operations in normal form.** Every operation that a visitor sees, whether or not the walk
comes to its end, is one that the document declares, in normal form: it has tags that count as
present, its own ones or else the standard one, all its entries but the tags and the parameters, and
as its parameters those of the path and its own ones merged. Of any parameters that are merged, those
of the path stay that are references or whose name no own one has, and all own ones follow; so no
name is lost or doubled, a name that both give is that of the own one, and without references in the
path merging a second time changes nothing. -/
theorem operations_inNormalForm (defaultTag document : Node) :
    (∀ offers visit, .operation visit ∈ (seenAlone defaultTag document offers).1 →
      ∃ declaration ∈ declarations document, visit.method = declaration.method ∧
        visit.pattern = declaration.pattern ∧
        NormalForm defaultTag declaration visit.operation) ∧
    ∀ path own merged, mergeParameters (.ok path) (.ok own) = .ok merged →
      MergedParameters path own merged := by
  refine ⟨fun offers visit h => ?_, fun _ _ _ => mergedParameters_of_merge⟩
  obtain ⟨declaration, hmem, hevent⟩ := declaration_of_seen h
  obtain ⟨operation, hoperation, hvisit⟩ := map_eq_ok_iff.mp hevent
  cases hvisit
  exact ⟨declaration, hmem, rfl, rfl, normalForm_of_normalize (orFault_eq_ok_iff.mp hoperation)⟩

end Seen

/-- Parameters of a path: a reference, two with names and one without. -/
def pathParameters : List Node :=
  [.map [(.str "$ref", .str "#/components/parameters/Trace"), (.str "name", .str "limit")],
    .map [(.str "name", .str "limit"), (.str "in", .str "query")],
    .map [(.str "name", .str "id"), (.str "in", .str "path")],
    .map [(.str "in", .str "header")]]

/-- Parameters of an operation: one of the names of the path in another place, none in place of an
absent one, and a reference beside which the other name stands. -/
def ownParameters : List Node :=
  [.map [(.str "name", .str "limit"), (.str "in", .str "header")],
    .map [(.str "name", .null)],
    .map [(.str "$ref", .str "#/components/parameters/Id"), (.str "name", .str "id")]]

/-- A document with one operation, which has no tags. -/
def limitDocument : Node :=
  .map [(.str "paths", .map [(.str "/pets", .map [
    (.str "parameters", .list pathParameters),
    (.str "get", .map [(.str "tags", .list []), (.str "parameters", .list ownParameters),
      (.str "summary", .str "List")])])])]

theorem operations_inNormalForm_limit :
    ∃ visit declaration merged,
      (seenAlone (.str standardTag) limitDocument ⟨false, true, false, false⟩) =
        ([.operation visit], none) ∧
      declarations limitDocument = [declaration] ∧
      NormalForm (.str standardTag) declaration visit.operation ∧
      mergeParameters (.ok (pathParameters.map .outside)) (.ok (ownParameters.map .outside)) =
        .ok merged ∧
      merged.map (·.node) =
        pathParameters.take 1 ++ (pathParameters.drop 2).take 1 ++ ownParameters ∧
      MergedParameters (pathParameters.map .outside) (ownParameters.map .outside) merged := by
  have hmerge : ∃ merged,
      mergeParameters (.ok (pathParameters.map .outside)) (.ok (ownParameters.map .outside)) =
        .ok merged ∧
      merged.map (·.node) =
        pathParameters.take 1 ++ (pathParameters.drop 2).take 1 ++ ownParameters := ⟨_, rfl, rfl⟩
  obtain ⟨merged, hmerge, hnodes⟩ := hmerge
  have hseen : ∃ visit, seenAlone (.str standardTag) limitDocument ⟨false, true, false, false⟩ =
      ([.operation visit], none) := ⟨_, rfl⟩
  obtain ⟨visit, hseen⟩ := hseen
  have hvisit : .operation visit ∈
      (seenAlone (.str standardTag) limitDocument ⟨false, true, false, false⟩).1 := by
    rw [hseen]
    exact List.mem_singleton_self _
  obtain ⟨declaration, hmem, -, -, hform⟩ := (operations_inNormalForm _ _).1 _ _ hvisit
  exact ⟨visit, declaration, merged, hseen, by rw [List.mem_singleton.mp hmem]; rfl, hform, hmerge,
    hnodes, (operations_inNormalForm (.str standardTag) limitDocument).2 _ _ _ hmerge⟩

end RoutedFields
