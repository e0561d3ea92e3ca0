import RoutedFields.Proofs.Compile.BodyShapes
import RoutedFields.Proofs.Compile.MediaTypes

/-!
# The choice among media types

A body is read from the first JSON entry of its content, else from the first wildcard, else from the
first entry. Content without entries is an error. What is no JSON entry has no part in the choice of
one.

* `IsFirst`, `HasNone`: the first entry of a kind, and entries without any of it.
* `IsPreferred`: the entry that a body is to be read from.
* `Adds`: entries with more of them at any places.
* `findMedia_eq_some_iff`, `selectMedia_eq_some_iff`: what the searches find.
* `mediaTypes_exact`: the grammar of media types and the choice among them.
-/

namespace RoutedFields

/-! ## Entries of a kind -/

section Kinds

variable {α β : Type} {Kind : String → Prop} {entries more : List (Scalar × α)}
  {found : String × α}

/-- No media type among some entries is of a kind. -/
def HasNone (Kind : String → Prop) (entries : List (Scalar × α)) : Prop :=
  ∀ mediaType media, (.str mediaType, media) ∈ entries → ¬Kind mediaType

/-- The first entry with a media type of a kind. -/
inductive IsFirst (Kind : String → Prop) : List (Scalar × α) → String × α → Prop
  | here {mediaType : String} {media : α} {rest : List (Scalar × α)} :
      Kind mediaType → IsFirst Kind ((.str mediaType, media) :: rest) (mediaType, media)
  | later {mediaType : String} {media : α} {rest : List (Scalar × α)} {found : String × α} :
      ¬Kind mediaType → IsFirst Kind rest found →
        IsFirst Kind ((.str mediaType, media) :: rest) found

/-- The entry that a body is to be read from. -/
inductive IsPreferred (entries : List (Scalar × α)) (found : String × α) : Prop
  | json : IsFirst IsJsonType entries found → IsPreferred entries found
  | wildcard : HasNone IsJsonType entries → IsFirst IsWildcardType entries found →
      IsPreferred entries found
  | first : HasNone IsJsonType entries → HasNone IsWildcardType entries →
      entries.head? = some (.str found.1, found.2) → IsPreferred entries found

/-- Entries with more of them, at any places, none of which is of a kind. -/
inductive Adds (Kind : String → Prop) : List (Scalar × α) → List (Scalar × α) → Prop
  | nil : Adds Kind [] []
  | kept {entries more : List (Scalar × α)} (e : Scalar × α) :
      Adds Kind entries more → Adds Kind (e :: entries) (e :: more)
  | added {entries more : List (Scalar × α)} {mediaType : String} (media : α) :
      ¬Kind mediaType → Adds Kind entries more → Adds Kind entries ((.str mediaType, media) :: more)

theorem hasNone_cons_iff {mediaType : String} {media : α} :
    HasNone Kind ((.str mediaType, media) :: entries) ↔ ¬Kind mediaType ∧ HasNone Kind entries := by
  constructor
  · intro h
    exact ⟨h mediaType media List.mem_cons_self,
      fun other value hmem => h other value (List.mem_cons_of_mem _ hmem)⟩
  · rintro ⟨hfirst, hrest⟩ other value hmem
    rcases List.mem_cons.mp hmem with heq | hmem
    · cases heq
      exact hfirst
    · exact hrest other value hmem

theorem isFirst_cons_iff {mediaType : String} {media : α} :
    IsFirst Kind ((.str mediaType, media) :: entries) found ↔
      (Kind mediaType ∧ found = (mediaType, media)) ∨
      (¬Kind mediaType ∧ IsFirst Kind entries found) := by
  constructor
  · rintro (hkind | ⟨hkind, hfound⟩)
    · exact .inl ⟨hkind, rfl⟩
    · exact .inr ⟨hkind, hfound⟩
  · rintro (⟨hkind, rfl⟩ | ⟨hkind, hfound⟩)
    · exact .here hkind
    · exact .later hkind hfound

theorem IsFirst.kind (h : IsFirst Kind entries found) : Kind found.1 := by
  induction h with
  | here hkind => exact hkind
  | later _ _ ih => exact ih

/-- Which entry is the first of a kind does not depend on the others that are added. -/
theorem Adds.isFirst_iff (h : Adds Kind entries more) :
    IsFirst Kind entries found ↔ IsFirst Kind more found := by
  induction h with
  | nil => exact Iff.rfl
  | kept e _ ih =>
    obtain ⟨key, media⟩ := e
    cases key with
    | str mediaType => rw [isFirst_cons_iff, isFirst_cons_iff, ih]
    | _ => exact iff_of_false nofun nofun
  | added media hkind _ ih =>
    rw [isFirst_cons_iff, ih]
    simp [hkind]

theorem Adds.map (value : Scalar → α → β) (h : Adds Kind entries more) :
    Adds Kind (entries.map fun e => (e.1, value e.1 e.2))
      (more.map fun e => (e.1, value e.1 e.2)) := by
  induction h with
  | nil => exact .nil
  | kept e _ ih => exact .kept _ ih
  | added _ hkind _ ih => exact .added _ hkind ih

/-- If a JSON entry is preferred, then as the first of these. -/
theorem isPreferred_iff_of_isJsonType (hjson : IsJsonType found.1) :
    IsPreferred entries found ↔ IsFirst IsJsonType entries found := by
  refine ⟨fun h => ?_, .json⟩
  cases h with
  | json hfirst => exact hfirst
  | wildcard _ hfirst => exact absurd hfirst.kind hjson.not_isWildcardType
  | first hnone _ hfirst =>
    obtain ⟨rest, rfl⟩ := List.head?_eq_some_iff.mp hfirst
    exact absurd hjson (hasNone_cons_iff.mp hnone).1

end Kinds

/-! ## The searches -/

section Searches

variable {entries : SitedEntries} {found : String × Sited} {test : String → Bool}
  {Kind : String → Prop}

/-- Whether all media types are texts for which a test decides a kind. -/
def Decides (test : String → Bool) (Kind : String → Prop) (entries : SitedEntries) : Prop :=
  ∀ e ∈ entries, ∃ mediaType, e.1 = .str mediaType ∧ (test mediaType = true ↔ Kind mediaType)

/-- Whether all media types are lines of ASCII characters. -/
def HasAsciiMedia (entries : SitedEntries) : Prop :=
  ∀ e ∈ entries, ∃ mediaType, e.1 = .str mediaType ∧ IsAsciiLine mediaType.toList

theorem HasAsciiMedia.nil : HasAsciiMedia [] :=
  List.forall_mem_nil _

theorem HasAsciiMedia.cons {mediaType : String} {media : Sited}
    (h : IsAsciiLine mediaType.toList) (hrest : HasAsciiMedia entries) :
    HasAsciiMedia ((.str mediaType, media) :: entries) :=
  List.forall_mem_cons.mpr ⟨⟨mediaType, rfl, h⟩, hrest⟩

theorem HasAsciiMedia.decides (h : HasAsciiMedia entries)
    (htest : ∀ mediaType : String, IsAsciiLine mediaType.toList →
      (test mediaType = true ↔ Kind mediaType)) : Decides test Kind entries :=
  fun e he => (h e he).imp fun mediaType hmedia => ⟨hmedia.1, htest mediaType hmedia.2⟩

/-- A search finds the first entry of its kind. -/
theorem findMedia_eq_some_iff (h : Decides test Kind entries) :
    findMedia test entries = .ok (some found) ↔ IsFirst Kind entries found := by
  induction entries with
  | nil => exact iff_of_false nofun nofun
  | cons e entries ih =>
    obtain ⟨key, media⟩ := e
    obtain ⟨⟨mediaType, rfl, hkind⟩, hrest⟩ := List.forall_mem_cons.mp h
    rw [findMedia, isFirst_cons_iff, ← hkind, ← ih hrest]
    by_cases htest : test mediaType = true <;> simp [htest, eq_comm]

/-- A search finds nothing, if there is nothing of its kind. -/
theorem findMedia_eq_none_iff (h : Decides test Kind entries) :
    findMedia test entries = .ok none ↔ HasNone Kind entries := by
  induction entries with
  | nil => exact iff_of_true rfl fun _ _ hmem => absurd hmem List.not_mem_nil
  | cons e entries ih =>
    obtain ⟨key, media⟩ := e
    obtain ⟨⟨mediaType, rfl, hkind⟩, hrest⟩ := List.forall_mem_cons.mp h
    rw [findMedia, hasNone_cons_iff, ← hkind, ← ih hrest]
    by_cases htest : test mediaType = true <;> simp [htest]

theorem findMedia_all_eq_some_iff (h : HasAsciiMedia entries) :
    findMedia (fun _ => true) entries = .ok (some found) ↔
      entries.head? = some (.str found.1, found.2) := by
  cases entries with
  | nil => exact iff_of_false nofun nofun
  | cons e entries =>
    obtain ⟨key, media⟩ := e
    obtain ⟨⟨mediaType, rfl, _⟩, _⟩ := List.forall_mem_cons.mp h
    simp [findMedia, Prod.ext_iff]

theorem decides_isJsonType (h : HasAsciiMedia entries) : Decides isJsonMedia IsJsonType entries :=
  h.decides fun _ => isJsonMedia_iff

theorem decides_isWildcardType (h : HasAsciiMedia entries) :
    Decides isWildcardMedia IsWildcardType entries :=
  h.decides fun _ => isWildcardMedia_iff

/-- A body is read from the entry that is preferred. -/
theorem selectMedia_eq_some_iff (h : HasAsciiMedia entries) :
    selectMedia entries = .ok (some found) ↔ IsPreferred entries found := by
  have hjson := decides_isJsonType h
  have hwildcard := decides_isWildcardType h
  constructor
  · intro hselect
    obtain ⟨json, hfound, hselect⟩ := bind_eq_ok_iff.mp hselect
    cases json with
    | some first =>
      obtain rfl := Option.some.inj (Except.ok.inj hselect)
      exact .json ((findMedia_eq_some_iff hjson).mp hfound)
    | none =>
      have hnone := (findMedia_eq_none_iff hjson).mp hfound
      obtain ⟨wildcard, hfound, hselect⟩ := bind_eq_ok_iff.mp hselect
      cases wildcard with
      | some first =>
        obtain rfl := Option.some.inj (Except.ok.inj hselect)
        exact .wildcard hnone ((findMedia_eq_some_iff hwildcard).mp hfound)
      | none =>
        exact .first hnone ((findMedia_eq_none_iff hwildcard).mp hfound)
          ((findMedia_all_eq_some_iff h).mp hselect)
  · rintro (hfirst | ⟨hnone, hfirst⟩ | ⟨hnone, hnone', hfirst⟩)
    · rw [selectMedia, (findMedia_eq_some_iff hjson).mpr hfirst]
      rfl
    · rw [selectMedia, (findMedia_eq_none_iff hjson).mpr hnone,
        (findMedia_eq_some_iff hwildcard).mpr hfirst]
      rfl
    · rw [selectMedia, (findMedia_eq_none_iff hjson).mpr hnone,
        (findMedia_eq_none_iff hwildcard).mpr hnone', (findMedia_all_eq_some_iff h).mpr hfirst]
      rfl

end Searches

/-! ## Content -/

section Content

variable {content larger : Sited} {found : String × Sited}

theorem contentEntries_of_isMap (h : content.node.isMap = true) :
    contentEntries content = .ok content.entries :=
  contentEntries_of_isAbsentOr (Node.isAbsentOr_iff.mpr (.inr h))

theorem findJsonMedia_eq_some_iff (hmap : content.node.isMap = true)
    (h : HasAsciiMedia content.entries) :
    findJsonMedia content = .ok (some found) ↔ IsFirst IsJsonType content.entries found := by
  rw [← findMedia_eq_some_iff (decides_isJsonType h), findJsonMedia, contentEntries_of_isMap hmap]
  rfl

theorem selectBody_eq_some_iff (hmap : content.node.isMap = true)
    (h : HasAsciiMedia content.entries) :
    selectBody content = .ok (some found) ↔ IsPreferred content.entries found := by
  rw [← selectMedia_eq_some_iff h, selectBody, contentEntries_of_isMap hmap]
  rfl

/-- Which JSON entry a body is read from does not depend on the other entries. -/
theorem selectBody_iff_of_adds (hmap : content.node.isMap = true)
    (h : HasAsciiMedia content.entries) (hmap' : larger.node.isMap = true)
    (h' : HasAsciiMedia larger.entries) (hsite : larger.site = content.site)
    (hadds : Adds IsJsonType content.node.entries larger.node.entries)
    (hjson : IsJsonType found.1) :
    selectBody content = .ok (some found) ↔ selectBody larger = .ok (some found) := by
  have hentries : Adds IsJsonType content.entries larger.entries := by
    rw [Sited.entries, Sited.entries, hsite]
    exact hadds.map fun key node => (⟨node, content.site.child (.key key)⟩ : Sited)
  rw [selectBody_eq_some_iff hmap h, selectBody_eq_some_iff hmap' h',
    isPreferred_iff_of_isJsonType hjson, isPreferred_iff_of_isJsonType hjson, hentries.isFirst_iff]

/-- Content with entries has one that a body is read from. -/
theorem exists_selectBody_of_ascii (hmap : content.node.isMap = true)
    (h : HasAsciiMedia content.entries) (hne : content.node.entries ≠ []) :
    ∃ found, selectBody content = .ok (some found) := by
  have hkind := Node.isAbsentOr_iff.mpr (.inr hmap)
  have htexts : ∀ e ∈ content.entries, e.1.isText = true := fun e he =>
    Scalar.isText_iff.mpr ((h e he).imp fun _ hmedia => hmedia.1)
  obtain ⟨found, hfound⟩ := exists_selectMedia htexts
  rw [ne_eq, ← selectBody_eq_none_iff hkind] at hne
  have hselect : selectBody content = .ok found := by
    rw [selectBody, contentEntries_of_isMap hmap]
    exact hfound
  cases found with
  | none => exact absurd hselect hne
  | some found => exact ⟨found, hselect⟩

end Content

/-- **Media types.** On a line of ASCII characters, the tests for JSON media types and for wildcards
decide their grammar, and no media type passes both. Of content that has such media types, the first
JSON entry is found, and a body is read from this one, else from the first wildcard, else from the
first entry of all. There is no such entry, which is an error, exactly if the content is empty. A
choice of a JSON entry stays the same if other entries are added anywhere. -/
theorem mediaTypes_exact (document : Node) :
    (∀ mediaType : String, IsAsciiLine mediaType.toList →
      (isJsonMedia mediaType = true ↔ IsJsonType mediaType) ∧
      (isWildcardMedia mediaType = true ↔ IsWildcardType mediaType) ∧
      ¬(isJsonMedia mediaType = true ∧ isWildcardMedia mediaType = true)) ∧
    ∀ content : Sited, content.node.isMap = true → HasAsciiMedia content.entries →
      (∀ body : Sited, body.node.isMap = true → body.entry "content" = content →
        (bodySchema document body = .error (.ofCompile .emptyContent) ↔
          content.node.entries = [])) ∧
      (selectBody content = .ok none ↔ content.node.entries = []) ∧
      (content.node.entries ≠ [] → ∃ found, selectBody content = .ok (some found)) ∧
      (∀ found, selectBody content = .ok (some found) ↔ IsPreferred content.entries found) ∧
      (∀ found, findJsonMedia content = .ok (some found) ↔
        IsFirst IsJsonType content.entries found) ∧
      ∀ larger : Sited, larger.node.isMap = true → HasAsciiMedia larger.entries →
        larger.site = content.site →
        Adds IsJsonType content.node.entries larger.node.entries →
        ∀ found : String × Sited, IsJsonType found.1 →
          (selectBody content = .ok (some found) ↔ selectBody larger = .ok (some found)) := by
  constructor
  · intro mediaType h
    refine ⟨isJsonMedia_iff h, isWildcardMedia_iff h, ?_⟩
    rw [isJsonMedia_iff h, isWildcardMedia_iff h]
    exact fun hboth => hboth.1.not_isWildcardType hboth.2
  · intro content hmap h
    have hkind := Node.isAbsentOr_iff.mpr (.inr hmap)
    refine ⟨?_, selectBody_eq_none_iff hkind, exists_selectBody_of_ascii hmap h,
      fun _ => selectBody_eq_some_iff hmap h, fun _ => findJsonMedia_eq_some_iff hmap h,
      fun larger hmap' h' hsite hadds found hjson =>
        selectBody_iff_of_adds hmap h hmap' h' hsite hadds hjson⟩
    rintro body hbody rfl
    rw [Sited.node_entry] at hkind ⊢
    rw [bodySchema_error_iff hbody hkind]
    exact and_iff_left rfl

/-- Content with a wildcard before two JSON entries, the first of them in mixed case and with
parameters. -/
def vendorContent : Node :=
  .map [(.str "image/*", .null), (.str "Application/vnd.api+JSON ; v=1", .map []),
    (.str "application/json", .null)]

/-- The same content with more entries at the front and in between. -/
def largerContent : Node :=
  .map [(.str "application/jsonp", .null), (.str "image/*", .null), (.str "*/*", .null),
    (.str "Application/vnd.api+JSON ; v=1", .map []), (.str "application/json", .null)]

theorem mediaTypes_exact_vendor :
    IsAsciiLine "application/jsonp".toList ∧
    IsJsonType "Application/vnd.api+JSON ; v=1" ∧ ¬IsJsonType "application/jsonp" ∧
    IsWildcardType "*/*" ∧
    selectBody (.outside vendorContent) =
      .ok (some ("Application/vnd.api+JSON ; v=1", .outside (.map []))) ∧
    IsPreferred (Sited.outside vendorContent).entries
      ("Application/vnd.api+JSON ; v=1", .outside (.map [])) ∧
    selectBody (.outside largerContent) =
      .ok (some ("Application/vnd.api+JSON ; v=1", .outside (.map []))) := by
  obtain ⟨hgrammar, hchoice⟩ := mediaTypes_exact (.map [])
  have hvendor : IsJsonType "Application/vnd.api+JSON ; v=1" :=
    (hgrammar _ (by decide)).1.mp (by decide)
  have hjsonp : ¬IsJsonType "application/jsonp" := fun h =>
    absurd ((hgrammar _ (by decide)).1.mpr h) (by decide)
  have hstar : IsWildcardType "*/*" := (hgrammar _ (by decide)).2.1.mp (by decide)
  have hascii : HasAsciiMedia (Sited.outside vendorContent).entries :=
    .cons (by decide) (.cons (by decide) (.cons (by decide) .nil))
  have hascii' : HasAsciiMedia (Sited.outside largerContent).entries :=
    .cons (by decide) (.cons (by decide) (.cons (by decide) (.cons (by decide)
      (.cons (by decide) .nil))))
  have hadds : Adds IsJsonType vendorContent.entries largerContent.entries :=
    .added _ hjsonp (.kept _ (.added _ (fun h => h.not_isWildcardType hstar)
      (.kept _ (.kept _ .nil))))
  obtain ⟨_, _, _, hpreferred, _, hlarger⟩ := hchoice (.outside vendorContent) rfl hascii
  have hselect : selectBody (.outside vendorContent) =
      .ok (some ("Application/vnd.api+JSON ; v=1", .outside (.map []))) := rfl
  exact ⟨by decide, hvendor, hjsonp, hstar, hselect, (hpreferred _).mp hselect,
    (hlarger (.outside largerContent) rfl hascii' rfl hadds _ hvendor).mp hselect⟩

end RoutedFields
