import RoutedFields.Proofs.Document.Parts
import RoutedFields.Proofs.Number.DecimalText
import RoutedFields.Proofs.Text.Pieces
import RoutedFields.Reference.Pointer

/-!
# The segments of a reference

* `escape`, `unescape_escape`: a key is spelled so that it is read back.
* `eq_of_unescape`: a key without slashes and tildes is spelled in one way only.
* `PathStep`, `reference`, `segments?_reference`: the reference that spells a path.
* `follow_of_isMap`, `follow_eq_ok_iff`: what a segment names in a map.
-/

namespace RoutedFields.Pointer

/-! ## Keys -/

section Pairs

variable {first second replacement c : Char} {s : List Char}

theorem replacePair_cons_of_ne (h : c ≠ first) (s : List Char) :
    replacePair first second replacement (c :: s) =
      c :: replacePair first second replacement s := by
  cases s with
  | nil => rfl
  | cons d s => rw [replacePair, if_neg fun hpair => h hpair.1]

theorem replacePair_pair (s : List Char) :
    replacePair first second replacement (first :: second :: s) =
      replacement :: replacePair first second replacement s := by
  rw [replacePair, if_pos ⟨rfl, rfl⟩]

theorem replacePair_cons_cons_of_ne {d : Char} (h : d ≠ second) (s : List Char) :
    replacePair first second replacement (c :: d :: s) =
      c :: replacePair first second replacement (d :: s) := by
  rw [replacePair, if_neg fun hpair => h hpair.2]

theorem replacePair_of_first_not_mem (h : first ∉ s) :
    replacePair first second replacement s = s := by
  induction s with
  | nil => rfl
  | cons c s ih =>
    rw [List.mem_cons, not_or] at h
    rw [replacePair_cons_of_ne (Ne.symm h.1), ih h.2]

theorem replacePair_of_not_mem (h : replacement ∉ replacePair first second replacement s) :
    replacePair first second replacement s = s := by
  induction s using replacePair.induct first second with
  | case1 => rfl
  | case2 c => rfl
  | case3 c d rest hpair _ =>
    rw [replacePair, if_pos hpair] at h
    exact absurd List.mem_cons_self h
  | case4 c d rest hpair ih =>
    rw [replacePair, if_neg hpair] at h ⊢
    rw [ih fun hmem => h (List.mem_cons_of_mem c hmem)]

end Pairs

/-- A key without slashes and tildes is spelled in one way only. -/
theorem eq_of_unescape {segment key : List Char} (h : unescape segment = key) (hslash : '/' ∉ key)
    (htilde : '~' ∉ key) : segment = key := by
  rw [unescape] at h
  rw [← h, replacePair_of_not_mem (h ▸ htilde)] at hslash
  rw [replacePair_of_not_mem (h ▸ htilde), replacePair_of_not_mem hslash] at h
  exact h

theorem unescape_of_not_mem {segment : List Char} (h : '~' ∉ segment) :
    unescape segment = segment := by
  rw [unescape, replacePair_of_first_not_mem h, replacePair_of_first_not_mem h]

/-- The segment that spells a key: a tilde is written `~0`, and a slash `~1`. -/
def escape (key : List Char) : List Char :=
  key.flatMap fun c => if c = '~' then ['~', '0'] else if c = '/' then ['~', '1'] else [c]

/-- A key with its tildes written `~0`. -/
def escapeTildes (key : List Char) : List Char :=
  key.flatMap fun c => if c = '~' then ['~', '0'] else [c]

/-- Reading `~1` first turns exactly the slashes back: between a tilde and a `1` of a key there is
a `0` by then. -/
theorem replacePair_escape (key : List Char) :
    replacePair '~' '1' '/' (escape key) = escapeTildes key := by
  induction key with
  | nil => rfl
  | cons c key ih =>
    rw [escape, escapeTildes, List.flatMap_cons, List.flatMap_cons, ← escape, ← escapeTildes]
    by_cases htilde : c = '~'
    · rw [if_pos htilde, if_pos htilde, ← ih]
      exact (replacePair_cons_cons_of_ne (by decide) _).trans
        (congrArg _ (replacePair_cons_of_ne (by decide) _))
    · rw [if_neg htilde, if_neg htilde, ← ih]
      by_cases hslash : c = '/'
      · rw [if_pos hslash, hslash]
        exact replacePair_pair _
      · rw [if_neg hslash]
        exact replacePair_cons_of_ne htilde _

theorem replacePair_escapeTildes (key : List Char) :
    replacePair '~' '0' '~' (escapeTildes key) = key := by
  induction key with
  | nil => rfl
  | cons c key ih =>
    rw [escapeTildes, List.flatMap_cons, ← escapeTildes]
    by_cases htilde : c = '~'
    · rw [if_pos htilde, htilde]
      exact (replacePair_pair _).trans (congrArg _ ih)
    · rw [if_neg htilde]
      exact (replacePair_cons_of_ne htilde _).trans (congrArg _ ih)

/-- A key is read back from the segment that spells it. -/
theorem unescape_escape (key : List Char) : unescape (escape key) = key := by
  rw [unescape, replacePair_escape, replacePair_escapeTildes]

example : unescape "~01".toList = "~1".toList := by decide

theorem slash_not_mem_escape (key : List Char) : '/' ∉ escape key := by
  intro hmem
  obtain ⟨c, _, hc⟩ := List.mem_flatMap.mp hmem
  split at hc
  · revert hc
    decide
  · split at hc
    · revert hc
      decide
    · rename_i hslash
      exact hslash (List.mem_singleton.mp hc).symm

/-! ## References -/

/-- A step along a path into a document: a text key of a map, or a position in a list. -/
inductive PathStep
  | key (key : String)
  | index (position : Nat)

/-- The segment that spells a step. -/
def PathStep.segment : PathStep → List Char
  | .key text => escape text.toList
  | .index position => decimalText position

/-- The reference that spells a path. -/
def reference (path : List PathStep) : String :=
  String.ofList ('#' :: '/' :: ['/'].intercalate (path.map (·.segment)))

theorem slash_not_mem_segment (step : PathStep) : '/' ∉ step.segment := by
  cases step with
  | key text => exact slash_not_mem_escape text.toList
  | index position =>
    intro hmem
    exact absurd (isDigit_of_mem_decimalText hmem) (by decide)

theorem segments?_reference {path : List PathStep} (hne : path ≠ []) :
    segments? (reference path) = some (path.map (·.segment)) := by
  rw [segments?, reference, String.toList_ofList]
  show some (Text.splitOn '/' _) = _
  rw [Text.splitOn_intercalate (by simpa using hne)
    (List.forall_mem_map.mpr fun step _ => slash_not_mem_segment step)]

theorem exists_of_segments? {reference : String} {segments : List (List Char)}
    (h : segments? reference = some segments) :
    ∃ text, reference.toList = '#' :: '/' :: text ∧ segments = Text.splitOn '/' text := by
  unfold segments? at h
  split at h
  · rename_i text htext
    exact ⟨text, htext, (Option.some.inj h).symm⟩
  · cases h

/-! ## What a segment names in a map -/

section Maps

variable {reference : String} {s found : Sited} {segment : List Char}

theorem follow_of_isMap (hmap : s.node.isMap = true) :
    follow reference s segment =
      match s.get? (String.ofList (unescape segment)) with
      | some found => .ok found
      | none => .error (.missingKey reference (String.ofList (unescape segment))) := by
  obtain ⟨node, site⟩ := s
  cases node with
  | scalar a => cases hmap
  | list xs => cases hmap
  | map es => rfl

theorem follow_eq_ok_iff (hmap : s.node.isMap = true) :
    follow reference s segment = .ok found ↔
      s.get? (String.ofList (unescape segment)) = some found := by
  rw [follow_of_isMap hmap]
  cases s.get? (String.ofList (unescape segment)) <;> simp

end Maps

end RoutedFields.Pointer
