import RoutedFields.Files.Store
import RoutedFields.Proofs.Results

/-!
# Files that are written

A text that is written to a path is what is read from it afterwards, the path still leads to the
same place and can be written again, and no other file changes.

* `FileStore.locate_withText`: where a path leads to does not change.
* `FileStore.writable_withText`: what could be written can be written again.
* `FileStore.read?_withText`: a text that is written is read back.
* `FileStore.read?_withText_of_ne`: other files stay.
* `FileStore.withText_withText`: of two texts written to one place, the later one stays.
* `decodeText_toUTF8`: the bytes of a text are read as this text, with its line breaks in one form.
-/

namespace RoutedFields

namespace FileStore

variable {store : FileStore} {path text : String} {names : List String}

/-! ## One file set -/

theorem any_put (files : List (List String × ByteArray)) (names : List String)
    (content : ByteArray) (p : List String → Bool) :
    (put files names content).any (fun f => p f.1) = (files.any (fun f => p f.1) || p names) := by
  induction files with
  | nil => simp [put]
  | cons f files ih =>
    obtain ⟨n, c⟩ := f
    by_cases h : n = names
    · subst h
      cases hp : p n <;> simp [put, hp]
    · simp [put, h, ih, Bool.or_assoc]

theorem find?_put (files : List (List String × ByteArray)) (names other : List String)
    (content : ByteArray) :
    (put files names content).find? (·.1 == other) =
      if names = other then some (names, content) else files.find? (·.1 == other) := by
  induction files with
  | nil => by_cases h : names = other <;> simp [put, h]
  | cons f files ih =>
    obtain ⟨n, c⟩ := f
    by_cases h : n = names
    · subst h
      by_cases ho : n = other <;> simp [put, ho]
    · by_cases ho : n = other
      · subst ho
        simp [put, h, Ne.symm h]
      · have hbeq : (n == other) = false := by simpa using ho
        simp [put, h, hbeq, ih]

theorem put_put (files : List (List String × ByteArray)) (names : List String)
    (content later : ByteArray) :
    put (put files names content) names later = put files names later := by
  induction files with
  | nil => simp [put]
  | cons f files ih =>
    obtain ⟨n, c⟩ := f
    by_cases h : n = names <;> simp [put, h, ih]

/-! ## The way to a file -/

/-- The files with a text in place of what names lead to. -/
def withText (store : FileStore) (names : List String) (text : String) : FileStore :=
  { store with files := put store.files names text.toUTF8 }

theorem write_eq_ok_iff {after : FileStore} :
    store.write path text = .ok after ↔
      ∃ names, store.writable path = .ok names ∧ store.withText names text = after := by
  unfold write
  rw [bind_eq_ok_iff]
  simp only [pure_eq_ok_iff, withText]

/-- A new file makes directories of the places in front of it, and of no other ones. -/
theorem isDirectory_withText (store : FileStore) (names place : List String) (text : String) :
    (store.withText names text).isDirectory place =
      (store.isDirectory place || (place.isPrefixOf names && names != place)) := by
  unfold isDirectory withText
  rw [any_put _ _ _ fun n => place.isPrefixOf n && n != place, Bool.or_assoc, Bool.or_assoc,
    Bool.or_assoc]

theorem isDirectory_withText_of_isDirectory {place : List String}
    (h : store.isDirectory place = true) :
    (store.withText names text).isDirectory place = true := by
  rw [isDirectory_withText, h, Bool.true_or]

theorem follow_withText {start rest place : List String} (h : store.follow start rest = .ok place) :
    (store.withText names text).follow start rest = .ok place := by
  induction rest generalizing start with
  | nil => exact h
  | cons next rest ih =>
    unfold follow at h ⊢
    cases hdirectory : store.isDirectory start with
    | false =>
      rw [hdirectory] at h
      cases h
    | true =>
      rw [hdirectory] at h
      rw [isDirectory_withText_of_isDirectory hdirectory]
      simp only [Bool.not_true, Bool.false_eq_true, if_false] at h ⊢
      by_cases hup : (next == "..") = true
      · rw [if_pos hup] at h ⊢
        exact ih h
      · rw [if_neg hup] at h ⊢
        exact ih h

/-- A path leads to the same place after a text has been written. -/
theorem locate_withText {path : FilePath} {place : List String} (h : store.locate path = .ok place) :
    (store.withText names text).locate path = .ok place :=
  follow_withText h

/-! ## Reading what is written -/

theorem writable_eq_ok_iff :
    store.writable path = .ok names ↔ store.locate (.ofText path) = .ok names ∧
      store.isDirectory names = false ∧ path.toList.getLast? ≠ some '/' := by
  unfold writable
  rw [bind_eq_ok_iff]
  constructor
  · rintro ⟨place, hplace, h⟩
    cases hdirectory : store.isDirectory place with
    | true =>
      rw [hdirectory] at h
      cases h
    | false =>
      by_cases hlast : path.toList.getLast? = some '/'
      · simp [hdirectory, hlast, bind, Except.bind, throw, throwThe, MonadExceptOf.throw] at h
      · simp [hdirectory, hlast, pure, Except.pure] at h
        subst h
        exact ⟨hplace, hdirectory, hlast⟩
  · rintro ⟨hplace, hdirectory, hlast⟩
    refine ⟨names, hplace, ?_⟩
    simp [hdirectory, hlast, pure, Except.pure]

/-- What can be written can be written again. -/
theorem writable_withText (h : store.writable path = .ok names) :
    (store.withText names text).writable path = .ok names := by
  obtain ⟨hplace, hdirectory, hlast⟩ := writable_eq_ok_iff.mp h
  refine writable_eq_ok_iff.mpr ⟨locate_withText hplace, ?_, hlast⟩
  rw [isDirectory_withText, hdirectory, bne_self_eq_false, Bool.and_false, Bool.or_false]

/-- A text that is written is read back. -/
theorem read?_withText (h : store.writable path = .ok names) :
    (store.withText names text).read? (.ofText path) = some text.toUTF8 := by
  obtain ⟨hplace, _, _⟩ := writable_eq_ok_iff.mp h
  unfold read?
  rw [locate_withText hplace]
  simp [Except.toOption, withText, find?_put]

/-- A file that is at another place stays as it is. -/
theorem read?_withText_of_ne {other : FilePath} {place : List String}
    (hplace : store.locate other = .ok place) (hne : place ≠ names) :
    (store.withText names text).read? other = store.read? other := by
  unfold read?
  rw [locate_withText hplace, hplace]
  simp [Except.toOption, withText, find?_put, hne.symm]

/-- Of two texts that are written to one place, the later one stays. -/
theorem withText_withText (store : FileStore) (names : List String) (text later : String) :
    (store.withText names text).withText names later = store.withText names later := by
  unfold withText
  rw [put_put]

end FileStore

/-- The bytes of a text are read as this text, with its line breaks in one form. -/
theorem decodeText_toUTF8 (text : String) :
    decodeText text.toUTF8 = .ok (String.ofList (unifyLines text.toList)) := by
  have hdecode : String.fromUTF8? text.toUTF8 = some text := by
    unfold String.fromUTF8?
    rw [String.toUTF8_eq_toByteArray, dif_pos text.isValidUTF8]
    rfl
  rw [decodeText, hdecode]

end RoutedFields
