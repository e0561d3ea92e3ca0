import Mathlib.Data.List.TakeDrop
import Mathlib.Data.List.TakeWhile
import RoutedFields.Json.Reader
import RoutedFields.Proofs.Results

/-!
# JSON texts beyond the limits

A reader takes something off the front of a text and leaves the rest. It goes beyond a limit only if
the text has more digits in a row, or opens more lists and maps, than the limit allows.

* `Exceeds`: when a text goes beyond a limit.
* `Tracks`: whether a reader leaves a rest of its text and stops at a limit only for a text beyond it.
* `tracksText`: the readers of values do so.
* `exceeds_of_readWithin`: a text whose reading stops at a limit is beyond it.
-/

namespace RoutedFields.Json

/-- How many lists and maps are opened in a text. -/
def openings (s : List Char) : Nat :=
  s.countP fun c => c == '[' || c == '\x7b'

/-- Whether a text goes beyond a limit: it has too many digits in a row, or more than `depth` lists
and maps are opened in it. -/
inductive Exceeds (limits : Limits) (depth : Nat) (s : List Char) : Limit → Prop
  | digits (run : List Char) (hrun : run <:+: s) (hdigits : ∀ c ∈ run, c.isDigit = true)
      (hlength : limits.digits < run.length) : Exceeds limits depth s .digits
  | depth (hopenings : depth < openings s) : Exceeds limits depth s .depth

/-- Whether an outcome leaves a rest of a text, and a limit is met only if the text is beyond it. -/
def Tracks {α : Type} (limits : Limits) (depth : Nat) (s : List Char) :
    Except Failed (α × List Char) → Prop
  | .ok (_, rest) => rest <:+ s
  | .error (.beyond limit) => Exceeds limits depth s limit
  | .error (.found _ _) => True

section Tracks

variable {α β : Type} {limits : Limits} {depth : Nat} {s t : List Char} {limit : Limit}

theorem openings_le_of_suffix (h : t <:+ s) : openings t ≤ openings s :=
  h.sublist.countP_le

theorem Exceeds.of_suffix (h : Exceeds limits depth t limit) (hsuffix : t <:+ s) :
    Exceeds limits depth s limit := by
  cases h with
  | digits run hrun hdigits hlength =>
    exact .digits run (hrun.trans hsuffix.isInfix) hdigits hlength
  | depth hopenings => exact .depth (hopenings.trans_le (openings_le_of_suffix hsuffix))

theorem Tracks.of_suffix {r : Except Failed (α × List Char)} (h : Tracks limits depth t r)
    (hsuffix : t <:+ s) : Tracks limits depth s r := by
  match r, h with
  | .ok (_, rest), h => exact List.IsSuffix.trans h hsuffix
  | .error (.beyond limit), h => exact Exceeds.of_suffix h hsuffix
  | .error (.found _ _), _ => trivial

/-- What opens a list or a map allows one level less behind it. -/
theorem Tracks.of_opening {r : Except Failed (α × List Char)} {c : Char}
    (h : Tracks limits depth t r) (hsuffix : t <:+ s) (hc : c = '[' ∨ c = '\x7b') :
    Tracks limits (depth + 1) (c :: s) r := by
  have hopens : openings (c :: s) = openings s + 1 := by
    unfold openings
    rw [List.countP_cons_of_pos (by rcases hc with rfl | rfl <;> rfl)]
  match r, h with
  | .ok (_, rest), h => exact (List.IsSuffix.trans h hsuffix).trans (List.suffix_cons c s)
  | .error (.beyond .digits), .digits run hrun hdigits hlength =>
    exact .digits run (hrun.trans (hsuffix.trans (List.suffix_cons c s)).isInfix) hdigits hlength
  | .error (.beyond .depth), .depth hopenings =>
    have hle := openings_le_of_suffix hsuffix
    exact .depth (by omega)
  | .error (.found _ _), _ => trivial

/-- Of two readers one after another, the second one reads what the first one leaves. -/
theorem Tracks.bind {x : Except Failed (α × List Char)}
    {f : α × List Char → Except Failed (β × List Char)} (hx : Tracks limits depth s x)
    (hf : ∀ a rest, rest <:+ s → Tracks limits depth rest (f (a, rest))) :
    Tracks limits depth s (x >>= f) := by
  match x, hx with
  | .ok (a, rest), hx => exact (hf a rest hx).of_suffix hx
  | .error (.beyond limit), hx => exact hx
  | .error (.found _ _), _ => trivial

theorem Tracks.map {r : Except Failed (α × List Char)} (h : Tracks limits depth s r) (f : α → β) :
    Tracks limits depth s (r.map fun p => (f p.1, p.2)) := by
  match r, h with
  | .ok (_, rest), h => exact h
  | .error (.beyond limit), h => exact h
  | .error (.found _ _), _ => trivial

end Tracks

section Readers

variable {limits : Limits} {depth : Nat} {s : List Char}

theorem skip_suffix (s : List Char) : skip s <:+ s :=
  List.dropWhile_suffix isSpace

theorem tracks_codeEscape (s : List Char) : Tracks limits depth s (codeEscape s) := by
  unfold codeEscape
  split
  · rename_i a b c d next more
    have hnext : next :: more <:+ a :: b :: c :: d :: next :: more := ⟨[a, b, c, d], rfl⟩
    split
    · trivial
    · split
      · rename_i e f g h last rest heq
        rw [heq] at hnext ⊢
        have hpair : last :: rest <:+ '\\' :: 'u' :: e :: f :: g :: h :: last :: rest :=
          ⟨['\\', 'u', e, f, g, h], rfl⟩
        split
        · split
          · trivial
          · split
            · exact hpair.trans hnext
            · exact hnext
        · exact hnext
      · exact hnext
  · trivial

theorem tracks_piece (opening s : List Char) : Tracks limits depth s (piece opening s) := by
  unfold piece
  split
  · trivial
  · trivial
  · exact List.suffix_cons _ _
  · rename_i rest
    exact ((tracks_codeEscape rest).map some).of_suffix ⟨['\\', 'u'], rfl⟩
  · rename_i e rest _
    cases escaped? e with
    | none => trivial
    | some c => exact ⟨['\\', e], rfl⟩
  · rename_i c rest _ _ _ _
    split
    · trivial
    · exact List.suffix_cons c rest

theorem tracks_stringBody (opening : List Char) (fuel : Nat) (s : List Char) :
    Tracks limits depth s (stringBody opening fuel s) := by
  induction fuel generalizing s with
  | zero => trivial
  | succ fuel ih =>
    unfold stringBody
    refine (tracks_piece opening s).bind fun c rest _ => ?_
    cases c with
    | none => exact List.suffix_rfl
    | some c => exact (ih rest).bind fun cs after _ => List.suffix_rfl

theorem tracks_string (s : List Char) : Tracks limits depth s (string s) := by
  refine Tracks.bind ((tracks_stringBody s s.length s.tail).of_suffix (List.tail_suffix s)) ?_
  exact fun cs rest _ => List.suffix_rfl

theorem digits_suffix (s : List Char) : (digits s).2 <:+ s := by
  unfold digits
  rw [List.span_eq_takeWhile_dropWhile]
  exact List.dropWhile_suffix Char.isDigit

theorem append_of_wholeDigits? {whole rest : List Char}
    (h : wholeDigits? s = some (whole, rest)) :
    s = whole ++ rest ∧ ∀ c ∈ whole, c.isDigit = true := by
  unfold wholeDigits? at h
  split at h
  · cases h
    exact ⟨rfl, List.forall_mem_singleton.mpr rfl⟩
  · split at h
    · unfold digits at h
      rw [List.span_eq_takeWhile_dropWhile] at h
      cases h
      exact ⟨List.takeWhile_append_dropWhile.symm, fun c hc => List.mem_takeWhile_imp hc⟩
    · cases h
  · cases h

theorem fractionDigits_suffix (s : List Char) : (fractionDigits s).2 <:+ s := by
  unfold fractionDigits
  split
  · split
    · exact (digits_suffix _).trans (List.suffix_cons _ _)
    · exact List.suffix_rfl
  · exact List.suffix_rfl

theorem suffix_of_exponent? {size : Int} {rest : List Char} (h : exponent? s = some (size, rest)) :
    rest <:+ s := by
  unfold exponent? at h
  split at h
  · rename_i letter behind
    split at h
    · split at h
      rename_i negative digitsBehind hsign
      have hsuffix : digitsBehind <:+ behind := by
        split at hsign
        · cases hsign
          exact List.suffix_cons _ _
        · cases hsign
          exact List.suffix_cons _ _
        · cases hsign
          exact List.suffix_rfl
      split at h
      · cases h
      · rename_i hdigits
        cases h
        have hrest := digits_suffix digitsBehind
        rw [hdigits] at hrest
        exact hrest.trans (hsuffix.trans (List.suffix_cons letter behind))
    · cases h
  · cases h

/-- Whether the digits of an integer stand in a text. -/
def Numeral.IsIn (s : List Char) : Numeral → Prop
  | .integer _ digits => digits <:+: s ∧ ∀ c ∈ digits, c.isDigit = true
  | .double _ => True

theorem isIn_of_unsigned? {negative : Bool} {numeral : Numeral} {rest : List Char}
    (h : unsigned? negative s = some (numeral, rest)) : numeral.IsIn s ∧ rest <:+ s := by
  unfold unsigned? at h
  split at h
  · cases h
  · rename_i whole afterWhole hwhole
    obtain ⟨rfl, hdigits⟩ := append_of_wholeDigits? hwhole
    have hbehind : afterWhole <:+ whole ++ afterWhole := List.suffix_append whole afterWhole
    have hfraction := (fractionDigits_suffix afterWhole).trans hbehind
    dsimp only at h
    split at h
    · cases h
      exact ⟨⟨(List.prefix_append whole _).isInfix, hdigits⟩, hbehind⟩
    · cases h
      exact ⟨trivial, hfraction⟩
    · rename_i hpower
      cases h
      exact ⟨trivial, (suffix_of_exponent? hpower).trans hfraction⟩

theorem isIn_of_number? {numeral : Numeral} {rest : List Char}
    (h : number? s = some (numeral, rest)) : numeral.IsIn s ∧ rest <:+ s := by
  unfold number? at h
  split at h
  · rename_i unsigned
    obtain ⟨hnumeral, hrest⟩ := isIn_of_unsigned? h
    have hbehind : unsigned <:+ '-' :: unsigned := List.suffix_cons '-' unsigned
    refine ⟨?_, hrest.trans hbehind⟩
    cases numeral with
    | integer negative digits => exact ⟨hnumeral.1.trans hbehind.isInfix, hnumeral.2⟩
    | double x => trivial
  · exact isIn_of_unsigned? h

theorem tracks_atom (s : List Char) : Tracks limits depth s (atom limits s) := by
  unfold atom
  split
  · rename_i found hfound
    obtain ⟨l, _, hafter⟩ := List.exists_of_findSome?_eq_some hfound
    obtain ⟨rest, hrest, rfl⟩ := Option.map_eq_some_iff.mp hafter
    unfold after? at hrest
    split at hrest
    · cases hrest
      exact List.drop_suffix _ s
    · cases hrest
  · split
    · rename_i numeral rest hnumber
      obtain ⟨hnumeral, hrest⟩ := isIn_of_number? hnumber
      cases numeral with
      | double x => exact hrest
      | integer negative digits =>
        unfold Numeral.value
        dsimp only
        by_cases hlength : limits.digits < digits.length
        · rw [if_pos hlength]
          exact Exceeds.digits digits hnumeral.1 hnumeral.2 hlength
        · rw [if_neg hlength]
          exact hrest
    · trivial

/-! ## Values -/

/-- Whether the readers of values with some fuel track their texts. -/
structure TracksText (limits : Limits) (fuel : Nat) : Prop where
  value : ∀ depth s, Tracks limits depth s (value limits fuel depth s)
  items : ∀ depth s, Tracks limits depth s (items limits fuel depth s)
  members : ∀ depth es s, Tracks limits depth s (members limits fuel depth es s)

section Values

variable {fuel : Nat} (ih : TracksText limits fuel)
include ih

theorem TracksText.value_succ (depth : Nat) (s : List Char) :
    Tracks limits depth s (Json.value limits (fuel + 1) depth s) := by
  unfold Json.value
  split
  · rename_i rest
    exact (tracks_string _).bind fun text after _ => List.suffix_rfl
  · exact .depth (by simp [openings])
  · exact .depth (by simp [openings])
  · rename_i rest inner
    refine Tracks.of_opening (s := rest) (t := skip rest) ?_ (skip_suffix rest) (.inl rfl)
    split
    · rename_i after hskip
      rw [hskip]
      exact List.suffix_cons ']' after
    · exact (ih.items inner _).bind fun xs after _ => List.suffix_rfl
  · rename_i rest inner
    refine Tracks.of_opening (s := rest) (t := skip rest) ?_ (skip_suffix rest) (.inr rfl)
    split
    · rename_i after hskip
      rw [hskip]
      exact List.suffix_cons '\x7d' after
    · exact (ih.members inner [] _).bind fun es after _ => List.suffix_rfl
  · exact tracks_atom s

theorem TracksText.items_succ (depth : Nat) (s : List Char) :
    Tracks limits depth s (Json.items limits (fuel + 1) depth s) := by
  unfold Json.items
  refine (ih.value depth s).bind fun x rest _ => Tracks.of_suffix ?_ (skip_suffix rest)
  dsimp only
  split
  · rename_i after hskip
    rw [hskip]
    exact List.suffix_cons ']' after
  · rename_i after hskip
    rw [hskip]
    refine Tracks.of_suffix ?_ ((skip_suffix after).trans (List.suffix_cons ',' after))
    exact (ih.items depth _).bind fun xs behind _ => List.suffix_rfl
  · trivial

theorem TracksText.members_succ (depth : Nat) (es : Entries) (s : List Char) :
    Tracks limits depth s (Json.members limits (fuel + 1) depth es s) := by
  unfold Json.members
  split
  · refine (tracks_string _).bind fun name rest _ => Tracks.of_suffix ?_ (skip_suffix rest)
    dsimp only
    split
    · rename_i after hskip
      rw [hskip]
      refine Tracks.of_suffix ?_ ((skip_suffix after).trans (List.suffix_cons ':' after))
      refine (ih.value depth _).bind fun v behind _ => Tracks.of_suffix ?_ (skip_suffix behind)
      dsimp only
      split
      · rename_i last hlast
        rw [hlast]
        exact List.suffix_cons '\x7d' last
      · rename_i more hmore
        rw [hmore]
        exact (ih.members depth _ _).of_suffix
          ((skip_suffix more).trans (List.suffix_cons ',' more))
      · trivial
    · trivial
  · trivial

end Values

theorem tracksText (limits : Limits) (fuel : Nat) : TracksText limits fuel := by
  induction fuel with
  | zero => exact ⟨fun _ _ => trivial, fun _ _ => trivial, fun _ _ _ => trivial⟩
  | succ fuel ih => exact ⟨ih.value_succ, ih.items_succ, ih.members_succ⟩

theorem exceeds_of_readAll {limit : Limit} (h : readAll limits s = .error (.beyond limit)) :
    Exceeds limits limits.depth s limit := by
  have htracks := (tracksText limits (2 * s.length + 2)).value limits.depth (skip s)
  unfold readAll at h
  cases hvalue : value limits (2 * s.length + 2) limits.depth (skip s) with
  | ok r =>
    rw [hvalue] at h
    dsimp only [bind, Except.bind] at h
    split at h <;> cases h
  | error failed =>
    rw [hvalue] at h htracks
    cases h
    exact Exceeds.of_suffix htracks (skip_suffix s)

/-- A text whose reading stops at a limit is beyond it. -/
theorem exceeds_of_readWithin {text : String} {limit : Limit}
    (h : readWithin limits text = .error (.beyond limit)) :
    Exceeds limits limits.depth text.toList limit := by
  unfold readWithin at h
  dsimp only at h
  split at h
  · cases h
  · cases hall : readAll limits text.toList with
    | ok v =>
      rw [hall] at h
      cases h
    | error failed =>
      rw [hall] at h
      cases failed with
      | found problem rest => cases h
      | beyond other =>
        cases h
        exact exceeds_of_readAll hall

end Readers

end RoutedFields.Json
