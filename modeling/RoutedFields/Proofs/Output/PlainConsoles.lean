import Mathlib.Data.List.Infix
import Mathlib.Data.List.TakeWhile
import RoutedFields.Output.Manager

/-!
# Messages on a console

A message without marks of style that fits a line looks the same plainly and on a console.

* `HasNoMarks`, `EndsEscaping`: texts in which a console finds nothing to take out, and texts that
  would change a mark behind them.
* `Console.ShowsLines`: consoles that show such texts as they are, and the styles of messages not at
  all.
* `Message.FitsLine`, `Message.EscapesMark`: messages of this kind, and those that change the mark
  behind them.
* `Message.written_eq_plain`: what is written for such a message.
* `Console.showsLines_unmarked`: the console that takes marks out is of this kind.
-/

namespace RoutedFields

namespace Console

/-- Whether a text begins with what is not shown as it is: a mark, or a backslash that escapes a
bracket. -/
def startsMark : List Char → Bool
  | '[' :: s => (mark? s).isSome
  | '\\' :: s => s.head? == some '['
  | _ => false

/-- Whether a text has no marks of style and escapes no bracket. -/
def Markless (s : List Char) : Prop :=
  ∀ t ∈ s.tails, startsMark t = false

theorem unmarked_cons {c : Char} {s : List Char} :
    Markless (c :: s) ↔ startsMark (c :: s) = false ∧ Markless s := by
  unfold Markless
  rw [List.tails_cons, List.forall_mem_cons]

theorem Markless.of_suffix {s t : List Char} (h : Markless s) (hsuffix : t <:+ s) : Markless t :=
  fun u hu => h u ((List.mem_tails _ _).mpr (((List.mem_tails _ _).mp hu).trans hsuffix))

/-- A text without marks has none behind one without brackets that escapes nothing. -/
theorem Markless.append {s t : List Char} (hs : '[' ∉ s) (hend : s.getLast? ≠ some '\\')
    (ht : Markless t) : Markless (s ++ t) := by
  induction s with
  | nil => exact ht
  | cons c s ih =>
    obtain ⟨hc, hlater⟩ := not_or.mp (mt List.mem_cons.mpr hs)
    refine unmarked_cons.mpr ⟨?_, ?_⟩
    · unfold startsMark
      split
      · rename_i heq
        exact absurd (List.cons.inj heq).1.symm hc
      · rename_i heq
        obtain ⟨rfl, rfl⟩ := List.cons.inj heq
        cases s with
        | nil => exact absurd rfl hend
        | cons d s =>
          have hd : d ≠ '[' := by
            rintro rfl
            exact hlater List.mem_cons_self
          simpa using hd
      · rfl
    · cases s with
      | nil => exact ht
      | cons d s => exact ih hlater (by rwa [List.getLast?_cons_cons] at hend)

end Console

/-- Whether a text has no marks of style and escapes no bracket. -/
def HasNoMarks (text : String) : Prop :=
  Console.Markless text.toList

instance (text : String) : Decidable (HasNoMarks text) :=
  inferInstanceAs (Decidable (∀ s ∈ text.toList.tails, Console.startsMark s = false))

/-- Whether a text ends with a backslash, which would escape a bracket behind it. -/
def EndsEscaping (text : String) : Prop :=
  text.toList.getLast? = some '\\'

instance (text : String) : Decidable (EndsEscaping text) :=
  inferInstanceAs (Decidable (text.toList.getLast? = some '\\'))

theorem HasNoMarks.append {label text : String} (hlabel : '[' ∉ label.toList)
    (hend : ¬EndsEscaping label) (htext : HasNoMarks text) : HasNoMarks (label ++ text) := by
  unfold HasNoMarks
  rw [String.toList_append]
  exact Console.Markless.append hlabel hend htext

/-- The styles that messages are written in. -/
def messageStyles : List String := ["yellow", "bold red", "dim"]

/-- Whether a console shows texts that fit a line: those without marks as they are, and the styles
of messages not at all. -/
structure Console.ShowsLines (console : Console) (fits : String → Prop) : Prop where
  plain : ∀ text, HasNoMarks text → fits text → console text = text
  labelled : ∀ style ∈ messageStyles, ∀ label text, HasNoMarks label → ¬EndsEscaping label →
    HasNoMarks text → fits (label ++ text) → console (styled style label ++ text) = label ++ text
  bracketed : ∀ style ∈ messageStyles, ∀ text, HasNoMarks text → ¬EndsEscaping text →
    fits ("[" ++ text) → console (styled style ("\\[" ++ text)) = "[" ++ text

/-! ## Messages -/

namespace Message

/-- The text of a message without its label. -/
def text : Message → String
  | .info text | .warning text | .error text | .debug text => text

/-- Whether a message carries no markup and fits a line with its label. -/
structure FitsLine (fits : String → Prop) (message : Message) : Prop where
  marks : HasNoMarks message.text
  fits : fits message.plain

/-- Whether a message escapes the mark behind it, which ends the style: only a trace has one. -/
def EscapesMark : Message → Prop
  | .debug text => EndsEscaping text
  | _ => False

/-- What is written for a message without marks that fits a line is its plain form, whether to a
console or not, unless in colour it escapes the mark behind it. -/
theorem written_eq_plain {console : Console} {fits : String → Prop} {message : Message}
    {settings : OutputSettings} (hconsole : console.ShowsLines fits) (h : message.FitsLine fits)
    (hcolor : settings.noColor = false → ¬message.EscapesMark) :
    message.written console settings = message.plain := by
  obtain ⟨hmarks, hfits⟩ := h
  unfold written
  cases hnoColor : settings.noColor with
  | true => rfl
  | false =>
    rw [if_neg Bool.false_ne_true]
    cases message with
    | info text => exact hconsole.plain text hmarks hfits
    | warning text =>
      have hrest : HasNoMarks (" " ++ text) := .append (by decide) (by decide) hmarks
      have hplain : plain (.warning text) = "Warning:" ++ (" " ++ text) := by
        rw [← String.append_assoc]
        rfl
      rw [hplain] at hfits ⊢
      rw [marked, String.append_assoc]
      exact hconsole.labelled "yellow" (by decide) _ _ (by decide) (by decide) hrest hfits
    | error text =>
      have hrest : HasNoMarks (" " ++ text) := .append (by decide) (by decide) hmarks
      have hplain : plain (.error text) = "Error:" ++ (" " ++ text) := by
        rw [← String.append_assoc]
        rfl
      rw [hplain] at hfits ⊢
      rw [marked, String.append_assoc]
      exact hconsole.labelled "bold red" (by decide) _ _ (by decide) (by decide) hrest hfits
    | debug text =>
      have hrest : HasNoMarks ("debug] " ++ text) := .append (by decide) (by decide) hmarks
      have hplain : plain (.debug text) = "[" ++ ("debug] " ++ text) := by
        rw [← String.append_assoc]
        rfl
      have hmarked : marked (.debug text) = styled "dim" ("\\[" ++ ("debug] " ++ text)) := by
        rw [← String.append_assoc]
        rfl
      rw [hplain] at hfits ⊢
      have hend : ¬EndsEscaping ("debug] " ++ text) := by
        have htext : ¬EndsEscaping text := hcolor hnoColor
        unfold EndsEscaping at htext ⊢
        rw [String.toList_append, List.getLast?_append]
        cases hlast : text.toList.getLast? with
        | none => decide
        | some c => rwa [hlast] at htext
      rw [hmarked]
      exact hconsole.bracketed "dim" (by decide) _ hrest hend hfits

end Message

/-! ## Marks that are taken out -/

namespace Console

/-- What a mark is: an inside without brackets up to the closing one. -/
theorem mark?_eq_some_iff {s inner : List Char} :
    mark? s = some inner ↔
      isMark inner = true ∧ (∀ c ∈ inner, c ≠ '[' ∧ c ≠ ']') ∧ ∃ rest, s = inner ++ ']' :: rest := by
  unfold mark?
  constructor
  · intro h
    dsimp only at h
    split at h
    · rename_i hmark
      obtain ⟨hmark, hclose⟩ := Bool.and_eq_true_iff.mp hmark
      have hinner := Option.some.inj h
      rw [hinner] at hmark hclose
      have hchars : ∀ c ∈ inner, c ≠ '[' ∧ c ≠ ']' := by
        intro c hc
        rw [← hinner] at hc
        simpa using List.mem_takeWhile_imp hc
      obtain ⟨rest, hrest⟩ := List.head?_eq_some_iff.mp (beq_iff_eq.mp hclose)
      refine ⟨hmark, hchars, rest, ?_⟩
      rw [← hrest, ← hinner]
      exact (List.prefix_iff_eq_append.mp (List.takeWhile_prefix _)).symm
    · cases h
  · rintro ⟨hmark, hchars, rest, rfl⟩
    have hinner : (inner ++ ']' :: rest).takeWhile (fun c => c != '[' && c != ']') = inner := by
      rw [List.takeWhile_append_of_pos (by simpa using hchars)]
      simp
    simp [hinner, hmark]

/-- A mark in front of a bracket has nothing to do with what the bracket begins. -/
theorem mark?_append_bracket {s rest inner : List Char}
    (h : mark? (s ++ '[' :: rest) = some inner) : ∃ t, s = inner ++ ']' :: t := by
  obtain ⟨_, hinner, t, heq⟩ := mark?_eq_some_iff.mp h
  obtain ⟨u, hinner', hrest⟩ | ⟨u, hs, hrest⟩ := List.append_eq_append_iff.mp heq
  · cases u with
    | nil => exact absurd (List.cons.inj hrest).1 (by decide)
    | cons c u =>
      obtain ⟨rfl, -⟩ := List.cons.inj hrest
      exact absurd rfl (hinner '[' (by simp [hinner'])).1
  · cases u with
    | nil => exact absurd (List.cons.inj hrest).1 (by decide)
    | cons c u =>
      obtain ⟨rfl, -⟩ := List.cons.inj hrest
      exact ⟨u, hs⟩

theorem mark?_append_eq_none {s rest : List Char} (h : mark? s = none)
    (hrest : rest ≠ [] → rest.head? = some '[') : mark? (s ++ rest) = none := by
  cases rest with
  | nil => rwa [List.append_nil]
  | cons c rest =>
    obtain rfl := Option.some.inj (hrest (List.cons_ne_nil _ _))
    refine Option.eq_none_iff_forall_ne_some.mpr fun inner hsome => ?_
    obtain ⟨t, rfl⟩ := mark?_append_bracket hsome
    obtain ⟨hmark, hinner, _⟩ := mark?_eq_some_iff.mp hsome
    exact Option.some_ne_none inner
      ((mark?_eq_some_iff.mpr ⟨hmark, hinner, t, rfl⟩).symm.trans h)

/-- A bracket that is not escaped has no backslash in front of it. -/
theorem Markless.eq_zero {escapes : Nat} {s : List Char}
    (h : Markless (List.replicate escapes '\\' ++ '[' :: s)) : escapes = 0 := by
  cases escapes with
  | zero => rfl
  | succ escapes =>
    have hescaped : '\\' :: '[' :: s <:+ List.replicate (escapes + 1) '\\' ++ '[' :: s := by
      rw [List.replicate_succ', List.append_assoc]
      exact List.suffix_append _ _
    exact absurd (h _ ((List.mem_tails _ _).mpr hescaped)) (by simp [startsMark])

theorem getLast?_ne_of_append_cons {front s : List Char} {c d : Char}
    (h : (front ++ c :: s).getLast? ≠ some d) : s.getLast? ≠ some d := by
  intro hlast
  exact h (by simp [List.getLast?_append, List.getLast?_cons, hlast])

/-- A text without marks, with backslashes in front, stays as it is in front of a bracket that it
does not escape, and at the end. -/
theorem unmarkedFrom_append (escapes : Nat) {s rest : List Char}
    (h : Markless (List.replicate escapes '\\' ++ s))
    (hrest : rest ≠ [] → rest.head? = some '[' ∧
      (List.replicate escapes '\\' ++ s).getLast? ≠ some '\\') :
    unmarkedFrom 0 escapes (s ++ rest) =
      List.replicate escapes '\\' ++ (s ++ unmarkedFrom 0 0 rest) := by
  induction s generalizing escapes with
  | nil =>
    cases rest with
    | nil => simp [unmarkedFrom]
    | cons c rest =>
      cases escapes with
      | zero => rfl
      | succ escapes =>
        refine absurd ?_ (hrest (List.cons_ne_nil _ _)).2
        rw [List.append_nil, List.replicate_succ']
        exact List.getLast?_concat
  | cons c s ih =>
    have hsuffix : s <:+ List.replicate escapes '\\' ++ c :: s :=
      (List.suffix_cons c s).trans (List.suffix_append _ _)
    have hlater : unmarkedFrom 0 0 (s ++ rest) = s ++ unmarkedFrom 0 0 rest := by
      refine ih 0 (h.of_suffix hsuffix) fun hne => ⟨(hrest hne).1, ?_⟩
      exact getLast?_ne_of_append_cons (hrest hne).2
    rw [List.cons_append, unmarkedFrom]
    split
    · rename_i hc
      subst hc
      have hmove : List.replicate (escapes + 1) '\\' ++ s =
          List.replicate escapes '\\' ++ '\\' :: s := by
        rw [List.replicate_succ', List.append_assoc]
        rfl
      rw [ih (escapes + 1) (hmove ▸ h) (hmove ▸ hrest), ← List.append_assoc, hmove, List.append_assoc]
    · split
      · rename_i hc
        subst hc
        have hnone : mark? (s ++ rest) = none := by
          have hfront : (mark? s).isSome = false :=
            h _ ((List.mem_tails _ _).mpr (List.suffix_append _ ('[' :: s)))
          exact mark?_append_eq_none (by simpa using hfront) fun hne => (hrest hne).1
        rw [hnone, h.eq_zero, hlater]
        rfl
      · rw [hlater]
        rfl

theorem unmarkedFrom_skipped (skipped : List Char) (escapes : Nat) (rest : List Char) :
    unmarkedFrom skipped.length escapes (skipped ++ rest) = unmarkedFrom 0 escapes rest := by
  induction skipped with
  | nil => rfl
  | cons c skipped ih => exact ih

/-- A mark is taken out. -/
theorem unmarkedFrom_mark (inner : List Char) (hmark : isMark inner = true)
    (hinner : ∀ c ∈ inner, c ≠ '[' ∧ c ≠ ']') (rest : List Char) :
    unmarkedFrom 0 0 ('[' :: (inner ++ ']' :: rest)) = unmarkedFrom 0 0 rest := by
  have hsome : mark? (inner ++ ']' :: rest) = some inner :=
    mark?_eq_some_iff.mpr ⟨hmark, hinner, rest, rfl⟩
  have hskipped := unmarkedFrom_skipped (inner ++ [']']) 0 rest
  rw [List.length_append, List.append_assoc] at hskipped
  rw [unmarkedFrom, if_neg (by decide), if_pos rfl, hsome]
  exact hskipped

theorem unmarkedFrom_eq_self {s : List Char} (h : Markless s) : unmarkedFrom 0 0 s = s := by
  have hself : unmarkedFrom 0 0 (s ++ []) = s ++ unmarkedFrom 0 0 [] :=
    unmarkedFrom_append 0 h fun hne => absurd rfl hne
  rwa [List.append_nil, unmarkedFrom, List.replicate_zero, List.append_nil] at hself

theorem unmarkedFrom_append_bracket {s : List Char} (h : Markless s) (hend : s.getLast? ≠ some '\\')
    (rest : List Char) :
    unmarkedFrom 0 0 (s ++ '[' :: rest) = s ++ unmarkedFrom 0 0 ('[' :: rest) :=
  unmarkedFrom_append 0 h fun _ => ⟨rfl, hend⟩

/-- An escaped bracket is shown, whether it begins a mark or not. -/
theorem unmarkedFrom_escaped {s : List Char} (h : Markless s) (hend : s.getLast? ≠ some '\\')
    (rest : List Char) :
    unmarkedFrom 0 0 ('\\' :: '[' :: (s ++ '[' :: rest)) =
      '[' :: (s ++ unmarkedFrom 0 0 ('[' :: rest)) := by
  have hfirst : unmarkedFrom 0 0 ('\\' :: '[' :: (s ++ '[' :: rest)) =
      unmarkedFrom 0 1 ('[' :: (s ++ '[' :: rest)) := by
    rw [unmarkedFrom, if_pos rfl]
  rw [hfirst, unmarkedFrom, if_neg (by decide), if_pos rfl]
  cases hmark : mark? (s ++ '[' :: rest) with
  | none =>
    dsimp only
    rw [unmarkedFrom_append_bracket h hend]
    rfl
  | some inner =>
    obtain ⟨t, rfl⟩ := mark?_append_bracket hmark
    have hsuffix : t <:+ inner ++ ']' :: t := ⟨inner ++ [']'], by simp⟩
    have ht : t.getLast? ≠ some '\\' := getLast?_ne_of_append_cons hend
    have hskipped := unmarkedFrom_skipped (inner ++ [']']) 0 (t ++ '[' :: rest)
    rw [List.length_append, List.length_singleton,
      unmarkedFrom_append_bracket (h.of_suffix hsuffix) ht] at hskipped
    have hshape : inner ++ ']' :: t ++ '[' :: rest = inner ++ [']'] ++ (t ++ '[' :: rest) := by
      simp
    dsimp only
    rw [hshape, hskipped]
    simp

/-- The marks of a style that messages are written in are taken out. -/
theorem unmarkedFrom_style {style : String} (hstyle : style ∈ messageStyles) (rest : List Char) :
    unmarkedFrom 0 0 ('[' :: (style.toList ++ ']' :: rest)) = unmarkedFrom 0 0 rest ∧
    unmarkedFrom 0 0 ('[' :: '/' :: (style.toList ++ ']' :: rest)) = unmarkedFrom 0 0 rest := by
  have hstyles : ∀ style ∈ messageStyles, isMark style.toList = true ∧
      '[' ∉ style.toList ∧ ']' ∉ style.toList := by
    decide
  obtain ⟨hmark, hopen, hclose⟩ := hstyles style hstyle
  have hchars : ∀ c ∈ style.toList, c ≠ '[' ∧ c ≠ ']' :=
    fun c hc => ⟨ne_of_mem_of_not_mem hc hopen, ne_of_mem_of_not_mem hc hclose⟩
  refine ⟨unmarkedFrom_mark _ hmark hchars rest, unmarkedFrom_mark ('/' :: _) rfl ?_ rest⟩
  exact List.forall_mem_cons.mpr ⟨⟨by decide, by decide⟩, hchars⟩

theorem toList_styled_append (style label text : String) :
    (styled style label ++ text).toList = '[' :: (style.toList ++ ']' :: (label.toList ++
      '[' :: '/' :: (style.toList ++ ']' :: text.toList))) := by
  simp [styled]

/-- What is left of a text with a style around its front. -/
theorem unmarked_styled_append {style label shown text : String} (hstyle : style ∈ messageStyles)
    (hlabel : ∀ rest, unmarkedFrom 0 0 (label.toList ++ '[' :: rest) =
      shown.toList ++ unmarkedFrom 0 0 ('[' :: rest)) (htext : HasNoMarks text) :
    unmarked (styled style label ++ text) = shown ++ text := by
  unfold unmarked
  rw [toList_styled_append, (unmarkedFrom_style hstyle _).1, hlabel,
    (unmarkedFrom_style hstyle _).2, unmarkedFrom_eq_self htext, String.ofList_append,
    String.ofList_toList, String.ofList_toList]

/-- The console that takes marks out shows texts without marks as they are, and the styles of
messages not at all. -/
theorem showsLines_unmarked : unmarked.ShowsLines fun _ => True where
  plain text h _ := by
    unfold unmarked
    rw [unmarkedFrom_eq_self h, String.ofList_toList]
  labelled style hstyle label text hlabel hend htext _ :=
    unmarked_styled_append hstyle (unmarkedFrom_append_bracket hlabel hend) htext
  bracketed style hstyle text htext hend _ := by
    have hshown : unmarked (styled style ("\\[" ++ text) ++ "") = "[" ++ text ++ "" := by
      refine unmarked_styled_append hstyle (fun rest => ?_) (by decide)
      rw [String.toList_append, String.toList_append]
      exact unmarkedFrom_escaped htext hend rest
    rwa [String.append_empty, String.append_empty] at hshown

end Console

end RoutedFields
