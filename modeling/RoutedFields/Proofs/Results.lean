import Mathlib.Data.List.Forall2
import RoutedFields.Document.Access
import RoutedFields.Field.Checked
import RoutedFields.Traced

/-!
# Laws of results

When results, checks and computations with a trace come out well.

* `bind_eq_ok_iff`, `foldlM_invariant`, `mapM_eq_ok_iff`, `mapM_eq_error_iff`,
  `mapM_congr_forall₂`: steps one after another, and a step for each item of a list.
* `FailsOnly`: steps that fail with failures of one kind only; `FailsOnly.bind`, `FailsOnly.mapM`,
  `exists_mapM`, `exists_filterM`: several of them.
* `filterM_eq_ok_iff`, `subset_of_filterM`: selections by tests that may fail.
* `CarriesOver`: steps that come out the same in another place; `CarriesOver.bind`,
  `CarriesOver.mapM`: several of them.
* `Checked.seq_eq_valid_iff`, `Check.needed_eq_valid_iff`, `Check.optional_eq_valid_iff`: a joined
  check is valid when every part of it is.
* `Traced` obeys the laws of monads.
-/

namespace RoutedFields

/-! ## Steps one after another -/

section Except

variable {ε ε' α β γ : Type}

theorem bind_eq_ok_iff {x : Except ε α} {f : α → Except ε β} {b : β} :
    (x >>= f) = .ok b ↔ ∃ a, x = .ok a ∧ f a = .ok b := by
  cases x <;> simp [bind, Except.bind]

theorem pure_eq_ok_iff {a b : α} : (pure a : Except ε α) = .ok b ↔ a = b := by
  simp [pure, Except.pure]

theorem map_eq_ok_iff {x : Except ε α} {f : α → β} {b : β} :
    x.map f = .ok b ↔ ∃ a, x = .ok a ∧ f a = b := by
  cases x <;> simp [Except.map]

theorem mapError_eq_ok_iff {x : Except ε α} {f : ε → ε'} {a : α} :
    x.mapError f = .ok a ↔ x = .ok a := by
  cases x <;> simp [Except.mapError]

theorem bind_pure_eq_error_iff {x : Except ε α} {f : α → β} {e : ε} :
    (x >>= fun a => pure (f a)) = .error e ↔ x = .error e := by
  cases x <;> simp [bind, Except.bind, pure, Except.pure]

theorem orFault_eq_ok_iff {x : Except Fault α} {a : α} : orFault x = .ok a ↔ x = .ok a :=
  mapError_eq_ok_iff

theorem toOption_eq_some_iff {x : Except ε α} {a : α} : x.toOption = some a ↔ x = .ok a := by
  cases x <;> simp [Except.toOption]

/-- A step for each item comes out well when every single one does, and the values are those of the
steps in order. -/
theorem mapM_eq_ok_iff {f : α → Except ε β} {xs : List α} {ys : List β} :
    xs.mapM f = .ok ys ↔ List.Forall₂ (fun x y => f x = .ok y) xs ys := by
  induction xs generalizing ys with
  | nil =>
    rw [List.mapM_nil, pure_eq_ok_iff]
    exact ⟨fun h => h ▸ .nil, fun h => by cases h; rfl⟩
  | cons x xs ih =>
    rw [List.mapM_cons, bind_eq_ok_iff]
    constructor
    · rintro ⟨y, hy, h⟩
      obtain ⟨zs, hzs, hpure⟩ := bind_eq_ok_iff.mp h
      rw [pure_eq_ok_iff] at hpure
      exact hpure ▸ .cons hy (ih.mp hzs)
    · rintro (_ | ⟨hy, hys⟩)
      exact ⟨_, hy, bind_eq_ok_iff.mpr ⟨_, ih.mpr hys, rfl⟩⟩

/-- A step for each item fails when the one for some item does and those before it come out well. -/
theorem mapM_eq_error_iff {f : α → Except ε β} {xs : List α} {failure : ε} :
    xs.mapM f = .error failure ↔
      ∃ before x after, xs = before ++ x :: after ∧ (∀ y ∈ before, ∃ z, f y = .ok z) ∧
        f x = .error failure := by
  induction xs with
  | nil =>
    refine iff_of_false (fun h => by cases h) ?_
    rintro ⟨before, x, after, hxs, _⟩
    exact List.cons_ne_nil x after (List.append_eq_nil_iff.mp hxs.symm).2
  | cons first xs ih =>
    rw [List.mapM_cons]
    cases hfirst : f first with
    | error other =>
      constructor
      · intro h
        obtain rfl : other = failure := Except.error.inj h
        exact ⟨[], first, xs, rfl, List.forall_mem_nil _, hfirst⟩
      · rintro ⟨_ | ⟨y, before⟩, x, after, hxs, hbefore, hx⟩
        · obtain ⟨rfl, _⟩ := List.cons.inj hxs
          cases hfirst.symm.trans hx
          rfl
        · obtain ⟨rfl, _⟩ := List.cons.inj hxs
          obtain ⟨z, hz⟩ := hbefore first List.mem_cons_self
          cases hfirst.symm.trans hz
    | ok value =>
      have hrest :
          ((Except.ok value : Except ε β) >>= fun y => xs.mapM f >>= fun ys => pure (y :: ys)) =
              .error failure ↔ xs.mapM f = .error failure := by
        cases xs.mapM f with
        | error other => exact Iff.of_eq rfl
        | ok values => exact iff_of_false nofun nofun
      rw [hrest, ih]
      constructor
      · rintro ⟨before, x, after, rfl, hbefore, hx⟩
        exact ⟨first :: before, x, after, rfl,
          List.forall_mem_cons.mpr ⟨⟨value, hfirst⟩, hbefore⟩, hx⟩
      · rintro ⟨_ | ⟨y, before⟩, x, after, hxs, hbefore, hx⟩
        · obtain ⟨rfl, _⟩ := List.cons.inj hxs
          cases hfirst.symm.trans hx
        · obtain ⟨rfl, rfl⟩ := List.cons.inj hxs
          exact ⟨before, x, after, rfl, (List.forall_mem_cons.mp hbefore).2, hx⟩

theorem mapM_eq_some_iff {f : α → Option β} {xs : List α} {ys : List β} :
    xs.mapM f = some ys ↔ List.Forall₂ (fun x y => f x = some y) xs ys := by
  induction xs generalizing ys with
  | nil =>
    rw [List.mapM_nil, Option.pure_def, Option.some.injEq]
    exact ⟨fun h => h ▸ .nil, fun h => by cases h; rfl⟩
  | cons x xs ih =>
    rw [List.mapM_cons, Option.bind_eq_bind, Option.bind_eq_some_iff]
    constructor
    · rintro ⟨y, hy, h⟩
      obtain ⟨zs, hzs, hpure⟩ := Option.bind_eq_some_iff.mp h
      rw [Option.pure_def, Option.some.injEq] at hpure
      exact hpure ▸ .cons hy (ih.mp hzs)
    · rintro (_ | ⟨hy, hys⟩)
      exact ⟨_, hy, Option.bind_eq_some_iff.mpr ⟨_, ih.mpr hys, rfl⟩⟩

/-- Steps that agree item by item have the same outcome. -/
theorem mapM_congr_forall₂ {m : Type → Type} [Monad m] [LawfulMonad m] {f : α → m γ} {g : β → m γ}
    {xs : List α} {ys : List β} (h : List.Forall₂ (fun x y => f x = g y) xs ys) :
    xs.mapM f = ys.mapM g := by
  induction h with
  | nil => rw [List.mapM_nil, List.mapM_nil]
  | cons hxy _ ih => rw [List.mapM_cons, List.mapM_cons, hxy, ih]

/-- What each step preserves is preserved by all of them. -/
theorem foldlM_invariant {P : α → Prop} {f : α → β → Except ε α} {xs : List β} {a b : α}
    (hstep : ∀ a x b, P a → f a x = .ok b → P b) (h : xs.foldlM f a = .ok b) (ha : P a) : P b := by
  induction xs generalizing a with
  | nil =>
    cases h
    exact ha
  | cons x xs ih =>
    obtain ⟨next, hnext, h⟩ := bind_eq_ok_iff.mp h
    exact ih h (hstep a x next ha hnext)

/-- A value on the right has a partner on the left. -/
theorem exists_left_of_forall₂ {R : α → β → Prop} {xs : List α} {ys : List β}
    (h : List.Forall₂ R xs ys) {y : β} (hy : y ∈ ys) : ∃ x ∈ xs, R x y := by
  induction h with
  | nil => cases hy
  | cons hxy _ ih =>
    rcases List.mem_cons.mp hy with rfl | hy
    · exact ⟨_, List.mem_cons_self, hxy⟩
    · obtain ⟨x, hx, hR⟩ := ih hy
      exact ⟨x, List.mem_cons_of_mem _ hx, hR⟩

/-- Properties that partners share hold of all values on the left exactly if they hold of all values
on the right. -/
theorem forall_mem_iff_of_forall₂ {R : α → β → Prop} {P : α → Prop} {Q : β → Prop} {xs : List α}
    {ys : List β} (h : List.Forall₂ R xs ys) (hR : ∀ x y, R x y → (P x ↔ Q y)) :
    (∀ x ∈ xs, P x) ↔ ∀ y ∈ ys, Q y := by
  induction h with
  | nil => exact iff_of_true (List.forall_mem_nil _) (List.forall_mem_nil _)
  | cons hxy _ ih => rw [List.forall_mem_cons, List.forall_mem_cons, hR _ _ hxy, ih]

theorem isEmpty_of_forall₂ {R : α → β → Prop} {xs : List α} {ys : List β}
    (h : List.Forall₂ R xs ys) : xs.isEmpty = ys.isEmpty := by
  cases h <;> rfl

theorem forall₂_of_map_eq {f : α → γ} {g : β → γ} {xs : List α} {ys : List β}
    (h : xs.map f = ys.map g) : List.Forall₂ (fun x y => f x = g y) xs ys := by
  rw [← List.forall₂_eq_eq_eq, List.forall₂_map_left_iff, List.forall₂_map_right_iff] at h
  exact h

end Except

/-! ## Steps that fail -/

section Failing

variable {ε ε' α β : Type} {P Q : ε → Prop}

/-- Whether a step fails with failures of some kind only, if it fails at all. -/
def FailsOnly (P : ε → Prop) (x : Except ε α) : Prop :=
  ∀ failure, x = .error failure → P failure

theorem failsOnly_ok (P : ε → Prop) (a : α) : FailsOnly P (.ok a) := by
  intro failure h
  cases h

theorem failsOnly_error {failure : ε} (h : P failure) :
    FailsOnly P (.error failure : Except ε α) := by
  intro other hother
  cases hother
  exact h

theorem failsOnly_of_eq_ok {x : Except ε α} {a : α} (h : x = .ok a) : FailsOnly P x :=
  h ▸ failsOnly_ok P a

theorem FailsOnly.mono {x : Except ε α} (hx : FailsOnly P x)
    (h : ∀ failure, P failure → Q failure) : FailsOnly Q x := by
  intro failure hfailure
  exact h failure (hx failure hfailure)

/-- Of two steps one after another, the second one only counts for values that the first one has. -/
theorem FailsOnly.bind {x : Except ε α} {f : α → Except ε β} (hx : FailsOnly P x)
    (hf : ∀ a, x = .ok a → FailsOnly P (f a)) : FailsOnly P (x >>= f) := by
  intro failure h
  cases hvalue : x with
  | ok a =>
    rw [hvalue] at h
    exact hf a hvalue failure h
  | error other =>
    rw [hvalue] at h
    obtain rfl : other = failure := Except.error.inj h
    exact hx other hvalue

theorem FailsOnly.mapError {x : Except ε α} {f : ε → ε'} {P : ε' → Prop}
    (hx : FailsOnly (fun failure => P (f failure)) x) : FailsOnly P (x.mapError f) := by
  intro failure h
  cases hvalue : x with
  | ok a =>
    rw [hvalue] at h
    cases h
  | error other =>
    rw [hvalue] at h
    obtain rfl : f other = failure := Except.error.inj h
    exact hx other hvalue

theorem FailsOnly.map {x : Except ε α} {f : α → β} (hx : FailsOnly P x) :
    FailsOnly P (x.map f) := by
  intro failure h
  cases hvalue : x with
  | ok a =>
    rw [hvalue] at h
    cases h
  | error other =>
    rw [hvalue] at h
    obtain rfl : other = failure := Except.error.inj h
    exact hx other hvalue

theorem FailsOnly.mapM {f : α → Except ε β} {xs : List α} (h : ∀ x ∈ xs, FailsOnly P (f x)) :
    FailsOnly P (xs.mapM f) := by
  induction xs with
  | nil => exact failsOnly_ok P []
  | cons x xs ih =>
    obtain ⟨hx, hxs⟩ := List.forall_mem_cons.mp h
    rw [List.mapM_cons]
    refine hx.bind fun y _ => (ih hxs).bind fun ys _ => ?_
    exact failsOnly_ok P (y :: ys)

/-- A step for each item comes out well if every single one does. -/
theorem exists_mapM {f : α → Except ε β} {xs : List α} (h : ∀ x ∈ xs, ∃ y, f x = .ok y) :
    ∃ ys, xs.mapM f = .ok ys := by
  induction xs with
  | nil => exact ⟨[], rfl⟩
  | cons x xs ih =>
    obtain ⟨⟨y, hy⟩, hxs⟩ := List.forall_mem_cons.mp h
    obtain ⟨ys, hys⟩ := ih hxs
    refine ⟨y :: ys, ?_⟩
    rw [List.mapM_cons, hy, hys]
    rfl

theorem exists_mapM_iff {f : α → Except ε β} {xs : List α} :
    (∃ ys, xs.mapM f = .ok ys) ↔ ∀ x ∈ xs, ∃ y, f x = .ok y := by
  refine ⟨fun ⟨ys, hys⟩ x hx => ?_, exists_mapM⟩
  obtain ⟨y, _, hy⟩ := exists_left_of_forall₂ (mapM_eq_ok_iff.mp hys).flip hx
  exact ⟨y, hy⟩

/-- A selection by tests that may fail comes out well if every single test does, and then selects as
a test without failures does that agrees with them. -/
theorem filterM_eq_ok_iff {f : α → Except ε Bool} {p : α → Bool} {xs ys : List α}
    (hp : ∀ x b, f x = .ok b → b = p x) :
    xs.filterM f = .ok ys ↔ (∀ x ∈ xs, ∃ b, f x = .ok b) ∧ ys = xs.filter p := by
  have hselected (selected : List α) (h : ∀ x ∈ xs, ∃ b, f x = .ok b) :
      xs.filterAuxM f selected = .ok ((xs.filter p).reverse ++ selected) := by
    induction xs generalizing selected with
    | nil => rfl
    | cons x xs ih =>
      obtain ⟨⟨b, hb⟩, hxs⟩ := List.forall_mem_cons.mp h
      rw [List.filterAuxM, hb]
      show xs.filterAuxM f (cond b (x :: selected) selected) = _
      rw [ih _ hxs, List.filter_cons, ← hp x b hb]
      cases b <;> simp
  have htests (xs selected all : List α) (h : xs.filterAuxM f selected = .ok all) :
      ∀ x ∈ xs, ∃ b, f x = .ok b := by
    induction xs generalizing selected with
    | nil => exact List.forall_mem_nil _
    | cons x xs ih =>
      obtain ⟨b, hb, hrest⟩ := bind_eq_ok_iff.mp h
      exact List.forall_mem_cons.mpr ⟨⟨b, hb⟩, ih _ hrest⟩
  rw [List.filterM]
  constructor
  · intro h
    obtain ⟨all, hall, hreverse⟩ := bind_eq_ok_iff.mp h
    have htests := htests xs [] all hall
    obtain rfl := Except.ok.inj ((hselected [] htests).symm.trans hall)
    refine ⟨htests, ?_⟩
    rw [← pure_eq_ok_iff.mp hreverse]
    simp
  · rintro ⟨htests, rfl⟩
    rw [hselected [] htests]
    simp [bind, Except.bind, pure, Except.pure]

/-- A test that may fail agrees with one that passes where it comes out as true. -/
theorem eq_beq_toOption {f : α → Except ε Bool} (x : α) (b : Bool) (h : f x = .ok b) :
    b = ((f x).toOption == some true) := by
  rw [h]
  cases b <;> rfl

/-- What is selected is part of the list. -/
theorem subset_of_filterM {f : α → Except ε Bool} {xs ys : List α} (h : xs.filterM f = .ok ys) :
    ys ⊆ xs := by
  obtain ⟨_, rfl⟩ := (filterM_eq_ok_iff eq_beq_toOption).mp h
  exact List.filter_subset_self xs

/-- A selection comes out well if every single test does. -/
theorem exists_filterM {f : α → Except ε Bool} {xs : List α} (h : ∀ x ∈ xs, ∃ b, f x = .ok b) :
    ∃ ys, xs.filterM f = .ok ys :=
  ⟨_, (filterM_eq_ok_iff eq_beq_toOption).mpr ⟨h, rfl⟩⟩

end Failing

/-! ## The same steps in another place -/

section Carrying

variable {ε ε' α β : Type} {x y : Except ε α}

/-- Whether a value that comes out of one step comes out of another one as well. -/
def CarriesOver (x y : Except ε α) : Prop :=
  ∀ a, x = .ok a → y = .ok a

theorem CarriesOver.refl (x : Except ε α) : CarriesOver x x :=
  fun _ h => h

theorem carriesOver_error (failure : ε) (y : Except ε α) : CarriesOver (.error failure) y := by
  intro a h
  cases h

/-- Of two steps one after another, the second one only counts for values that the first one has. -/
theorem CarriesOver.bind {f g : α → Except ε β} (hxy : CarriesOver x y)
    (hfg : ∀ a, x = .ok a → CarriesOver (f a) (g a)) : CarriesOver (x >>= f) (y >>= g) := by
  intro b h
  obtain ⟨a, ha, hb⟩ := bind_eq_ok_iff.mp h
  exact bind_eq_ok_iff.mpr ⟨a, hxy a ha, hfg a ha b hb⟩

theorem CarriesOver.mapError (hxy : CarriesOver x y) (f : ε → ε') :
    CarriesOver (x.mapError f) (y.mapError f) :=
  fun a h => mapError_eq_ok_iff.mpr (hxy a (mapError_eq_ok_iff.mp h))

theorem CarriesOver.mapM {f g : α → Except ε β} {xs : List α}
    (h : ∀ x ∈ xs, CarriesOver (f x) (g x)) : CarriesOver (xs.mapM f) (xs.mapM g) := by
  induction xs with
  | nil => exact .refl _
  | cons x xs ih =>
    obtain ⟨hx, hxs⟩ := List.forall_mem_cons.mp h
    rw [List.mapM_cons, List.mapM_cons]
    exact hx.bind fun _ _ => (ih hxs).bind fun _ _ => .refl _

end Carrying

/-! ## Checks -/

namespace Checked

variable {α β : Type}

theorem map_eq_valid_iff {f : α → β} {x : Checked α} {b : β} :
    f <$> x = .valid b ↔ ∃ a, x = .valid a ∧ f a = b := by
  cases x <;> simp [Functor.map, map]

theorem seq_eq_valid_iff {f : Checked (α → β)} {x : Checked α} {b : β} :
    f <*> x = .valid b ↔ ∃ g a, f = .valid g ∧ x = .valid a ∧ g a = b := by
  cases f <;> cases x <;> simp [Seq.seq, seq]

theorem under_eq_valid_iff {x : Checked α} {segment : Segment} {a : α} :
    x.under segment = .valid a ↔ x = .valid a := by
  cases x <;> simp [under]

theorem toExcept_eq_ok_iff {x : Checked α} {a : α} : x.toExcept = .ok a ↔ x = .valid a := by
  cases x <;> simp [toExcept]

end Checked

namespace Check

variable {α : Type} {entries : Entries} {key : String} {check : Node → Checked α}

theorem needed_eq_valid_iff {a : α} :
    needed entries key check = .valid a ↔ ∃ v, entries.get? key = some v ∧ check v = .valid a := by
  unfold needed neededAs findEntry
  cases h : entries.get? key <;> simp [Checked.under_eq_valid_iff]

theorem optional_eq_valid_iff {absent a : α} :
    optional entries key absent check = .valid a ↔
      (entries.get? key = none ∧ absent = a) ∨
        ∃ v, entries.get? key = some v ∧ check v = .valid a := by
  unfold optional optionalAs findEntry
  cases h : entries.get? key <;> simp [Checked.under_eq_valid_iff]

theorem text_eq_valid_iff {node : Node} {s : String} : text node = .valid s ↔ node = .str s := by
  unfold text
  split <;> simp_all [Checked.issue]

/-- The items of a list are texts exactly if they are read as such. -/
theorem itemsFrom_text_eq_valid_iff {position : Nat} {items : List Node} {texts : List String} :
    itemsFrom text position items = .valid texts ↔ items = texts.map .str := by
  induction items generalizing position texts with
  | nil => cases texts <;> simp [itemsFrom]
  | cons item items ih =>
    rw [itemsFrom]
    simp only [Checked.seq_eq_valid_iff, Checked.map_eq_valid_iff, Checked.under_eq_valid_iff]
    constructor
    · rintro ⟨_, rest, ⟨first, hfirst, rfl⟩, hrest, rfl⟩
      rw [text_eq_valid_iff.mp hfirst, ih.mp hrest]
      rfl
    · intro h
      cases texts with
      | nil => cases h
      | cons first rest =>
        obtain ⟨rfl, hrest⟩ := List.cons.inj h
        exact ⟨_, rest, ⟨first, rfl, rfl⟩, ih.mpr hrest, rfl⟩

end Check

/-! ## Computations with a trace -/

namespace Traced

instance : LawfulMonad Traced := LawfulMonad.mk' Traced
  (by
    intro α x
    obtain ⟨messages, result⟩ := x
    cases result <;> simp [Functor.map, bind])
  (by intro α β a f; simp [Bind.bind, bind, pure])
  (by
    intro α β γ x f g
    obtain ⟨messages, result⟩ := x
    cases result with
    | error failure => rfl
    | ok a => cases h : (f a).result <;> simp [Bind.bind, bind, h])

/-- A step with a trace for each item of a list has the results of the steps. -/
theorem result_mapM {α β : Type} (f : α → Traced β) (xs : List α) :
    (xs.mapM f).result = xs.mapM fun x => (f x).result := by
  induction xs with
  | nil => rfl
  | cons x xs ih =>
    rw [List.mapM_cons, List.mapM_cons, Traced.result_bind]
    refine congrArg (Except.bind _) (funext fun y => ?_)
    rw [Traced.result_bind, ih]
    rfl

end Traced

end RoutedFields
