import Mathlib.Data.Option.Basic
import RoutedFields.CommandLine.Arguments

/-!
# Options that are read from two states

What each single option does carries over from one state to another one: so does what a whole
command line does. From this, a command line with one more option in front is read like the one
without it.

* `OptionEffect.Carries`: an effect keeps a relation of two states.
* `readOptions_rel`: reading options keeps it.
* `parse_output`: an output file in front of a command line that names none.
-/

namespace RoutedFields

variable {α : Type} {R : α → α → Prop} {specs : List (OptionSpec α)} {a b : α}

/-! ## Relations of two states -/

/-- Whether an effect keeps a relation of two states. -/
def OptionEffect.Carries (R : α → α → Prop) : OptionEffect α → Prop
  | .flag set => ∀ a b, R a b → R (set a) (set b)
  | .value set => ∀ v a b, R a b → R (set v a) (set v b)

/-- Whether two outcomes of reading an argument are in a relation, and wait for the same value. -/
def AlikePending (R : α → α → Prop) (x y : α × Option (String → α → α)) : Prop :=
  R x.1 y.1 ∧ x.2 = y.2 ∧ ∀ set, x.2 = some set → (OptionEffect.value set).Carries R

section Reading

variable (hspecs : ∀ spec ∈ specs, spec.effect.Carries R)
include hspecs

theorem carries_of_findOption {name : String} {effect : OptionEffect α}
    (h : findOption specs name = some effect) : effect.Carries R := by
  obtain ⟨spec, hspec, rfl⟩ := Option.map_eq_some_iff.mp h
  exact hspecs spec (List.mem_of_find?_eq_some hspec)

theorem readLetters_rel (hR : R a b) (letters : List Char) :
    Option.Rel (AlikePending R) (readLetters specs a letters) (readLetters specs b letters) := by
  induction letters generalizing a b with
  | nil => exact .some ⟨hR, rfl, fun _ h => by cases h⟩
  | cons c rest ih =>
    unfold readLetters
    cases hfind : findOption specs (String.ofList ['-', c]) with
    | none => exact .none
    | some effect =>
      have hcarries := carries_of_findOption hspecs hfind
      cases effect with
      | flag set => exact ih (hcarries a b hR)
      | value set =>
        dsimp only
        split
        · exact .some ⟨hR, rfl, fun _ h => Option.some.inj h ▸ hcarries⟩
        · exact .some ⟨hcarries _ a b hR, rfl, fun _ h => by cases h⟩

theorem readLong_rel (hR : R a b) (s : List Char) :
    Option.Rel (AlikePending R) (readLong specs a s) (readLong specs b s) := by
  unfold readLong
  cases hfind : findOption specs (String.ofList (s.takeWhile (· != '='))) with
  | none => exact .none
  | some effect =>
    have hcarries := carries_of_findOption hspecs hfind
    cases effect with
    | flag set =>
      cases s.dropWhile (· != '=') with
      | nil => exact .some ⟨hcarries a b hR, rfl, fun _ h => by cases h⟩
      | cons c value => exact .none
    | value set =>
      cases s.dropWhile (· != '=') with
      | nil => exact .some ⟨hR, rfl, fun _ h => Option.some.inj h ▸ hcarries⟩
      | cons c value => exact .some ⟨hcarries _ a b hR, rfl, fun _ h => by cases h⟩

theorem readOption_rel (hR : R a b) (argument : String) :
    Option.Rel (AlikePending R) (readOption specs a argument) (readOption specs b argument) := by
  unfold readOption
  split
  · exact readLong_rel hspecs hR _
  · exact readLetters_rel hspecs hR _

/-- Reading options keeps a relation of two states, and leaves the same arguments. -/
theorem readOptions_rel (anywhere : Bool) : ∀ {a b : α} (_ : R a b) (arguments : List String),
    Option.Rel (fun x y => R x.1 y.1 ∧ x.2 = y.2) (readOptions specs anywhere a arguments)
      (readOptions specs anywhere b arguments)
  | _, _, hR, [] => .some ⟨hR, rfl⟩
  | a, b, hR, argument :: rest => by
    unfold readOptions
    split
    · exact .some ⟨hR, rfl⟩
    · split
      · have hread := readOption_rel hspecs hR argument
        generalize readOption specs a argument = x at hread ⊢
        generalize readOption specs b argument = y at hread ⊢
        cases hread with
        | none => exact .none
        | @some x y halike =>
          obtain ⟨a, pending⟩ := x
          obtain ⟨b, pending'⟩ := y
          obtain ⟨hR, rfl, hpending⟩ := halike
          cases pending with
          | none => exact readOptions_rel anywhere hR rest
          | some set =>
            match rest with
            | [] => exact .none
            | value :: more => exact readOptions_rel anywhere (hpending set rfl value a b hR) more
      · split
        · have hrest := readOptions_rel anywhere hR rest
          generalize readOptions specs anywhere a rest = x at hrest ⊢
          generalize readOptions specs anywhere b rest = y at hrest ⊢
          cases hrest with
          | none => exact .none
          | some h => exact .some ⟨h.1, congrArg (argument :: ·) h.2⟩
        · exact .some ⟨hR, rfl⟩

end Reading

/-! ## An output file in front -/

/-- Whether two readings differ in the output file at most: one has the given file while the other
one has none. -/
def DifferInOutput (path : String) (a b : RootOptions) : Prop :=
  a.output = none ∧ b = { a with output := some path } ∨ a.output ≠ none ∧ b = a

theorem carries_differInOutput (path : String) :
    ∀ spec ∈ rootSpecs, spec.effect.Carries (DifferInOutput path) := by
  -- an option that leaves the output file alone does the same to both readings
  have hflag (set : RootOptions → RootOptions) (hkept : ∀ o, (set o).output = o.output)
      (hset : ∀ o, set { o with output := some path } = { set o with output := some path }) :
      (OptionEffect.flag set).Carries (DifferInOutput path) := by
    rintro a b (⟨hnone, rfl⟩ | ⟨hsome, rfl⟩)
    · exact .inl ⟨(hkept a).trans hnone, hset a⟩
    · exact .inr ⟨(hkept b).symm ▸ hsome, rfl⟩
  have houtput : (OptionEffect.value fun v (o : RootOptions) =>
      { o with output := some v }).Carries (DifferInOutput path) := by
    rintro v a b (⟨_, rfl⟩ | ⟨_, rfl⟩)
    · exact .inr ⟨Option.some_ne_none v, rfl⟩
    · exact .inr ⟨Option.some_ne_none v, rfl⟩
  unfold rootSpecs
  simp only [List.forall_mem_cons]
  refine ⟨?_, ?_, ?_, ?_, ?_, ?_, houtput, fun _ h => absurd h List.not_mem_nil⟩
  all_goals exact hflag _ (fun _ => rfl) fun _ => rfl

/-- An output file in front of a command line that names none is the one in use. -/
theorem parse_output {arguments : List String} {options : RootOptions} {command : Command}
    (h : Invocation.parse arguments = some (.run options command)) (houtput : options.output = none)
    (path : String) :
    Invocation.parse ("-o" :: path :: arguments) =
      some (.run { options with output := some path } command) := by
  have hfront : readOptions rootSpecs false ⟨false, false, false, false, false, false, none⟩
      ("-o" :: path :: arguments) =
        readOptions rootSpecs false ⟨false, false, false, false, false, false, some path⟩
          arguments := by
    rfl
  have hread := readOptions_rel (carries_differInOutput path) false
    (.inl ⟨rfl, rfl⟩ : DifferInOutput path ⟨false, false, false, false, false, false, none⟩
      ⟨false, false, false, false, false, false, some path⟩) arguments
  unfold Invocation.parse at h ⊢
  rw [hfront]
  generalize readOptions rootSpecs false _ arguments = x at hread h
  generalize readOptions rootSpecs false _ arguments = y at hread ⊢
  cases hread with
  | none => cases h
  | @some x y hdiffer =>
    obtain ⟨plain, rest⟩ := x
    obtain ⟨filed, rest'⟩ := y
    obtain ⟨hdiffer, rfl⟩ := hdiffer
    dsimp only at h hdiffer ⊢
    split at h
    · cases h
    · rename_i hversion
      obtain ⟨command', hcommand, heq⟩ := Option.map_eq_some_iff.mp h
      obtain ⟨rfl, rfl⟩ := Invocation.run.inj heq
      rcases hdiffer with ⟨_, rfl⟩ | ⟨hsome, _⟩
      · rw [if_neg hversion, hcommand]
        rfl
      · exact absurd houtput hsome

end RoutedFields
