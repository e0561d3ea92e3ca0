import Mathlib.Algebra.Order.Field.Basic
import Mathlib.Data.Rat.Cast.Order
import Mathlib.Logic.Relation
import RoutedFields.Override.Match
import RoutedFields.Proofs.Document.AlikeValues

/-!
# Matching as an order

To match a pattern is to hold at least what the pattern holds. This is a preorder: a value matches
itself, and what matches a value matches all that the value matches. So a match outlasts whatever
a value gains and whatever a pattern loses.

A value matches itself if no part of it is not a number and the keys of its maps differ, as those of
JSON values do. What is not a number is equal to nothing.

* `Scalar.quantity?`, `Scalar.equals_iff`: scalars are compared as exact numbers, or else as they
  stand.
* `Node.IsComparable`: values without a part that is not a number, whose maps have different keys.
* `Node.coversItems_iff`, `Node.coversEntries_iff`: lists and maps match part by part.
* `Node.fits_self`, `Node.fits_trans`: matching is a preorder.
* `Node.Gains`: a value that gains one entry or one item at some place within it.
* `Node.fits_of_gains`: a value that has gained entries and items matches what it was.
-/

namespace RoutedFields

/-! ## Scalars -/

namespace Double

/-- The number that a finite double stands for. -/
def quantity (negative : Bool) (significand scale : Nat) : ℚ :=
  (if negative then -1 else 1) * significand * 2 ^ scale / 2 ^ unitBits

theorem quantity_eq (negative : Bool) (significand scale : Nat) :
    quantity negative significand scale = units negative significand scale / 2 ^ unitBits := by
  cases negative <;> simp [quantity, units, twoPow]

end Double

namespace Scalar

/-- The number that a scalar stands for: 0 and 1 for the truth values. -/
def quantity? : Scalar → Option ℚ
  | .bool b => some (if b then 1 else 0)
  | .int n => some n
  | .float (.finite negative significand scale) => some (Double.quantity negative significand scale)
  | _ => none

theorem cast_twoPow (n : Nat) : ((twoPow n : Nat) : ℚ) = 2 ^ n :=
  Nat.cast_pow 2 n

theorem some_eq_iff_of_units {p q : ℚ} {units : Int} (h : p = units / 2 ^ Double.unitBits) :
    some p = some q ↔ ∃ amount : Int, some (Magnitude.finite units) = some (.finite amount) ∧
      q = amount / 2 ^ Double.unitBits := by
  rw [Option.some.injEq, h]
  constructor
  · rintro rfl
    exact ⟨units, rfl, rfl⟩
  · rintro ⟨amount, hamount, rfl⟩
    cases hamount
    rfl

theorem quantity?_eq_some_iff {s : Scalar} {q : ℚ} :
    s.quantity? = some q ↔
      ∃ units : Int, s.magnitude? = some (.finite units) ∧ q = units / 2 ^ Double.unitBits := by
  have hunit : (2 : ℚ) ^ Double.unitBits ≠ 0 := pow_ne_zero _ two_ne_zero
  cases s with
  | bool b =>
    refine some_eq_iff_of_units ?_
    cases b with
    | true => rw [if_pos rfl, if_pos rfl, Int.cast_natCast, cast_twoPow, div_self hunit]
    | false => rw [if_neg nofun, if_neg nofun, Int.cast_zero, zero_div]
  | int n =>
    refine some_eq_iff_of_units ?_
    rw [Int.cast_mul, Int.cast_natCast, cast_twoPow, mul_div_cancel_right₀ _ hunit]
  | float x =>
    cases x with
    | finite negative significand scale =>
      exact some_eq_iff_of_units (Double.quantity_eq negative significand scale)
    | _ => exact iff_of_false nofun fun ⟨_, h, _⟩ => nomatch h
  | _ => exact iff_of_false nofun fun ⟨_, h, _⟩ => nomatch h

theorem magnitude?_eq_notANumber_iff {s : Scalar} :
    s.magnitude? = some .notANumber ↔ s = .float .notANumber := by
  cases s with
  | float x =>
    cases x with
    | notANumber => exact iff_of_true rfl rfl
    | _ => exact iff_of_false nofun nofun
  | _ => exact iff_of_false nofun nofun

/-- What stands for no number is the same only as itself. -/
theorem same_iff_eq {a b : Scalar} (h : a.quantity? = none) : a.same b = true ↔ a = b := by
  rw [same_iff]
  constructor
  · intro hsame
    cases a with
    | bool _ => cases h
    | int _ => cases h
    | float x =>
      cases x with
      | finite _ _ _ => cases h
      | _ =>
        cases b with
        | float y =>
          cases y <;> cases hsame
          rfl
        | _ => cases hsame
    | _ =>
      cases b with
      | float y => cases y <;> cases hsame
      | _ => cases hsame <;> rfl
  · exact congrArg standsFor

/-- Two scalars are equal in a comparison if they stand for the same number, or if they are no
numbers and the same scalar. Each infinity is equal to itself, what is not a number to nothing. -/
theorem equals_iff {a b : Scalar} :
    a.equals b = true ↔
      (∃ q, a.quantity? = some q ∧ b.quantity? = some q) ∨
        (a.quantity? = none ∧ a = b ∧ a ≠ .float .notANumber) := by
  have hequals : a.equals b = true ↔ a.same b = true ∧ a ≠ .float .notANumber := by
    rw [equals, Bool.and_eq_true, bne_iff_ne, Ne, magnitude?_eq_notANumber_iff]
  rw [hequals]
  cases hquantity : a.quantity? with
  | none => simp [same_iff_eq hquantity]
  | some q =>
    obtain ⟨units, ha, rfl⟩ := quantity?_eq_some_iff.mp hquantity
    have hnumber : a ≠ .float .notANumber := by
      rintro rfl
      cases ha
    have hsame : a.same b = true ↔ b.magnitude? = some (.finite units) := by
      rw [same, ha]
      cases b.magnitude? with
      | none => simp
      | some amount =>
        dsimp only
        rw [beq_iff_eq, Option.some.injEq, eq_comm]
    simp only [hsame, hnumber, Option.some.injEq, exists_eq_left', reduceCtorEq, false_and,
      or_false, ne_eq, not_false_eq_true, and_true, quantity?_eq_some_iff]
    constructor
    · exact fun hb => ⟨units, hb, rfl⟩
    · rintro ⟨units', hb, hunits⟩
      have hunit : (2 : ℚ) ^ Double.unitBits ≠ 0 := pow_ne_zero _ two_ne_zero
      rw [Int.cast_injective ((div_left_inj' hunit).mp hunits)]
      exact hb

end Scalar

/-! ## Maps with different keys -/

namespace Entries

/-- Whether the keys of a map count as different ones. -/
def KeysDiffer (es : Entries) : Prop :=
  es.Pairwise fun e f => e.1.same f.1 = false

theorem find?_of_mem {es : Entries} (hkeys : es.KeysDiffer) {e : Scalar × Node} (he : e ∈ es) :
    es.find? e.1 = some e.2 := by
  induction hkeys with
  | nil => cases he
  | @cons f es hfirst _ ih =>
    rw [find?_cons]
    rcases List.mem_cons.mp he with rfl | hmem
    · rw [if_pos (Scalar.same_iff.mpr rfl)]
    · rw [if_neg (Bool.eq_false_iff.mp (hfirst e hmem)), ih hmem]

end Entries

namespace Node

/-! ## Matching -/

theorem coversItems_iff {ps xs : List Node} :
    coversItems ps xs = true ↔ ∀ p ∈ ps, ∃ x ∈ xs, covers p x = true := by
  induction ps with
  | nil => exact iff_of_true rfl (List.forall_mem_nil _)
  | cons p ps ih => rw [coversItems, Bool.and_eq_true, List.any_eq_true, ih, List.forall_mem_cons]

theorem coversEntries_iff {ps es : Entries} :
    coversEntries ps es = true ↔
      ∀ p ∈ ps, ∃ v, Entries.find? es p.1 = some v ∧ covers p.2 v = true := by
  induction ps with
  | nil => exact iff_of_true rfl (List.forall_mem_nil _)
  | cons p ps ih =>
    rw [coversEntries, Bool.and_eq_true, ih, List.forall_mem_cons]
    cases Entries.find? es p.1 <;> simp

/-- Values of which no part is not a number and whose maps have different keys. -/
inductive IsComparable : Node → Prop
  | scalar {s : Scalar} (h : s ≠ .float .notANumber) : IsComparable (.scalar s)
  | list {xs : List Node} (h : ∀ x ∈ xs, IsComparable x) : IsComparable (.list xs)
  | map {es : Entries} (hkeys : es.KeysDiffer) (h : ∀ e ∈ es, IsComparable e.2) :
    IsComparable (.map es)

/-- Plain values are comparable. -/
theorem isComparable_of_isPlain {value : Node} (h : value.isPlain = true) : value.IsComparable := by
  induction value using induction_on_parts with
  | scalar s =>
    refine .scalar ?_
    rintro rfl
    cases h
  | list xs ih => exact .list fun x hx => ih x hx (isPlain_list_iff.mp h x hx)
  | map es ih =>
    obtain ⟨hnodup, hparts⟩ := isPlain_map_iff.mp h
    refine .map ?_ fun e he => ih e he (hparts e he).2
    refine (List.pairwise_map.mp hnodup).imp_of_mem fun {e f} _ hf hdiffer => ?_
    obtain ⟨text, htext⟩ := Scalar.isText_iff.mp (hparts f hf).1
    rw [Bool.eq_false_iff, htext, Ne, Scalar.same_str_iff, ← htext]
    exact hdiffer

/-- A value matches itself. -/
theorem fits_self {value : Node} (h : value.IsComparable) : value.fits value = true := by
  induction h with
  | @scalar s h =>
    rw [fits, covers, Scalar.equals_iff]
    cases hquantity : s.quantity? with
    | some q => exact .inl ⟨q, rfl, rfl⟩
    | none => exact .inr ⟨rfl, rfl, h⟩
  | list _ ih =>
    rw [fits, covers, coversItems_iff]
    exact fun x hx => ⟨x, hx, ih x hx⟩
  | map hkeys _ ih =>
    rw [fits, covers, coversEntries_iff]
    exact fun e he => ⟨e.2, Entries.find?_of_mem hkeys he, ih e he⟩

/-- What matches a value matches all that the value matches. -/
theorem fits_trans {a b c : Node} (hab : a.fits b = true) (hbc : b.fits c = true) :
    a.fits c = true := by
  rw [fits] at hab hbc ⊢
  -- by induction on the last pattern: its parts choose parts of `b`, and these choose parts of `a`
  induction c using induction_on_parts generalizing a b with
  | scalar s =>
    cases b with
    | list _ => cases hbc
    | map _ => cases hbc
    | scalar t =>
      cases a with
      | list _ => cases hab
      | map _ => cases hab
      | scalar u =>
        rw [covers] at hab hbc ⊢
        rw [Scalar.equals, Bool.and_eq_true] at hab
        rw [Scalar.equals_left hab.1, hbc]
  | list cs ih =>
    cases b with
    | scalar _ => cases hbc
    | map _ => cases hbc
    | list bs =>
      cases a with
      | scalar _ => cases hab
      | map _ => cases hab
      | list as =>
        rw [covers, coversItems_iff] at hab hbc ⊢
        intro z hz
        obtain ⟨y, hy, hyz⟩ := hbc z hz
        obtain ⟨x, hx, hxy⟩ := hab y hy
        exact ⟨x, hx, ih z hz hxy hyz⟩
  | map cs ih =>
    cases b with
    | scalar _ => cases hbc
    | list _ => cases hbc
    | map bs =>
      cases a with
      | scalar _ => cases hab
      | list _ => cases hab
      | map as =>
        rw [covers, coversEntries_iff] at hab hbc ⊢
        intro e he
        obtain ⟨y, hy, hye⟩ := hbc e he
        obtain ⟨key, hmem, hkey⟩ := Entries.exists_of_find? hy
        obtain ⟨x, hx, hxy⟩ := hab _ hmem
        exact ⟨x, Entries.find?_congr hkey ▸ hx, ih e he hxy hye⟩

/-! ## Growth -/

/-- Whether a value is what another one becomes when it gains one entry or one item, itself or in
one of its parts. -/
inductive Gains : Node → Node → Prop
  | entry (before after : Entries) (e : Scalar × Node) :
    Gains (.map (before ++ after)) (.map (before ++ e :: after))
  | item (before after : List Node) (x : Node) :
    Gains (.list (before ++ after)) (.list (before ++ x :: after))
  | inEntry (before after : Entries) (key : Scalar) {v w : Node} (h : Gains v w) :
    Gains (.map (before ++ (key, v) :: after)) (.map (before ++ (key, w) :: after))
  | inItem (before after : List Node) {x y : Node} (h : Gains x y) :
    Gains (.list (before ++ x :: after)) (.list (before ++ y :: after))

/-- A value that has gained one entry or item matches what it was, which was comparable too. -/
theorem Gains.fits {value grown : Node} (h : Gains value grown) (hgrown : grown.IsComparable) :
    value.IsComparable ∧ grown.fits value = true := by
  induction h with
  | entry before after e =>
    obtain _ | _ | ⟨hkeys, hparts⟩ := hgrown
    have hsub : (before ++ after).Sublist (before ++ e :: after) :=
      (List.Sublist.refl before).append (List.sublist_cons_self e after)
    refine ⟨.map (hkeys.sublist hsub) fun f hf => hparts f (hsub.subset hf), ?_⟩
    rw [Node.fits, covers, coversEntries_iff]
    intro f hf
    exact ⟨f.2, Entries.find?_of_mem hkeys (hsub.subset hf), fits_self (hparts f (hsub.subset hf))⟩
  | item before after x =>
    obtain _ | hitems | _ := hgrown
    have hsub : (before ++ after).Sublist (before ++ x :: after) :=
      (List.Sublist.refl before).append (List.sublist_cons_self x after)
    refine ⟨.list fun y hy => hitems y (hsub.subset hy), ?_⟩
    rw [Node.fits, covers, coversItems_iff]
    exact fun y hy => ⟨y, hsub.subset hy, fits_self (hitems y (hsub.subset hy))⟩
  | @inEntry before after key v w _ ih =>
    obtain _ | _ | ⟨hkeys, hparts⟩ := hgrown
    obtain ⟨hbefore, hw, hafter⟩ : (∀ e ∈ before, IsComparable e.2) ∧ IsComparable w ∧
        ∀ e ∈ after, IsComparable e.2 := by
      simpa [List.forall_mem_append, or_imp, forall_and] using hparts
    obtain ⟨hv, hfits⟩ := ih hw
    refine ⟨.map ?_ ?_, ?_⟩
    · simpa [Entries.KeysDiffer, List.pairwise_append, List.pairwise_cons] using hkeys
    · exact List.forall_mem_append.mpr ⟨hbefore, List.forall_mem_cons.mpr ⟨hv, hafter⟩⟩
    rw [Node.fits, covers, coversEntries_iff, List.forall_mem_append, List.forall_mem_cons]
    have hfound : ∀ e ∈ before ++ (key, w) :: after, Entries.find? _ e.1 = some e.2 :=
      fun e he => Entries.find?_of_mem hkeys he
    rw [List.forall_mem_append, List.forall_mem_cons] at hfound
    exact ⟨fun e he => ⟨e.2, hfound.1 e he, fits_self (hbefore e he)⟩, ⟨w, hfound.2.1, hfits⟩,
      fun e he => ⟨e.2, hfound.2.2 e he, fits_self (hafter e he)⟩⟩
  | @inItem before after x y _ ih =>
    obtain _ | hitems | _ := hgrown
    rw [List.forall_mem_append, List.forall_mem_cons] at hitems
    obtain ⟨hbefore, hy, hafter⟩ := hitems
    obtain ⟨hx, hfits⟩ := ih hy
    refine ⟨.list (List.forall_mem_append.mpr ⟨hbefore, List.forall_mem_cons.mpr ⟨hx, hafter⟩⟩), ?_⟩
    rw [Node.fits, covers, coversItems_iff, List.forall_mem_append, List.forall_mem_cons]
    exact ⟨fun z hz => ⟨z, by simp [hz], fits_self (hbefore z hz)⟩, ⟨y, by simp, hfits⟩,
      fun z hz => ⟨z, by simp [hz], fits_self (hafter z hz)⟩⟩

/-- A value that has gained entries and items matches what it was. -/
theorem fits_of_gains {value grown : Node} (h : Relation.ReflTransGen Gains value grown)
    (hgrown : grown.IsComparable) : value.IsComparable ∧ grown.fits value = true := by
  induction h using Relation.ReflTransGen.head_induction_on with
  | refl => exact ⟨hgrown, fits_self hgrown⟩
  | head hstep _ ih =>
    obtain ⟨hnext, hfits⟩ := ih
    obtain ⟨hvalue, hfirst⟩ := hstep.fits hnext
    exact ⟨hvalue, fits_trans hfits hfirst⟩

end Node
end RoutedFields
