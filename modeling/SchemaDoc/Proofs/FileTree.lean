import SchemaDoc.FileTree

/-!
Contract: reading the files of a tree in which one file was written.

A write to a file that can be read replaces its contents and nothing else: paths lead where they
led before, and every other file is as it was.
-/

namespace SchemaDoc.FileTree

variable {tree : FileTree} {path : Path} {place : List Text} {old new : Bytes}

theorem find?_replaced (files : List (List Text × Bytes)) (place other : List Text) (new : Bytes) :
    ((files.map fun entry => if entry.1 = place then (place, new) else entry).find?
        (·.1 = other)).map Prod.snd =
      if other = place then (files.find? (·.1 = other)).map fun _ => new
      else (files.find? (·.1 = other)).map Prod.snd := by
  induction files with
  | nil => simp
  | cons entry files inductionHypothesis =>
      rw [List.map_cons, List.find?_cons, List.find?_cons]
      by_cases replaced : entry.1 = place
      · by_cases found : place = other
        · simp [replaced, found]
        · simpa [replaced, found, Ne.symm found] using inductionHypothesis
      · by_cases found : entry.1 = other
        · simp [found, show other ≠ place from found ▸ replaced]
        · simpa [replaced, found] using inductionHypothesis

/-! ## Replacing the contents of a file -/

section Put

variable (isFile : (tree.file? place).isSome)
include isFile

theorem file?_put (other : List Text) :
    (tree.put place new).file? other = if other = place then some new else tree.file? other := by
  rw [put, if_pos isFile, file?, find?_replaced]
  split
  · next same =>
      subst same
      rw [file?, Option.isSome_map] at isFile
      obtain ⟨entry, found⟩ := Option.isSome_iff_exists.mp isFile
      rw [found, Option.map_some]
  · rfl

theorem isSome_file?_put (other : List Text) :
    ((tree.put place new).file? other).isSome = (tree.file? other).isSome := by
  rw [file?_put isFile]
  split
  · next same => rw [same, isFile, Option.isSome_some]
  · rfl

theorem hasDirectory_put (other : List Text) :
    (tree.put place new).hasDirectory other = tree.hasDirectory other := by
  have sameName : ∀ entry : List Text × Bytes,
      (if entry.1 = place then (place, new) else entry).1 = entry.1 := by
    intro entry
    split
    · next same => exact same.symm
    · rfl
  rw [put, if_pos isFile, hasDirectory, hasDirectory, List.any_map]
  simp only [Function.comp_def, sameName]

theorem follow_put (parts : List Text) (start : List Text) :
    (tree.put place new).follow start parts = tree.follow start parts := by
  induction parts generalizing start with
  | nil => rfl
  | cons part parts inductionHypothesis =>
      simp only [follow, isSome_file?_put isFile, hasDirectory_put isFile, inductionHypothesis]

theorem placeOf_put (path : Path) : (tree.put place new).placeOf path = tree.placeOf path := by
  simp only [placeOf, follow_put isFile]

end Put

/-! ## Reading and writing -/

theorem read_eq_ok_iff {bytes : Bytes} :
    tree.read path = .ok bytes ↔
      ∃ place, tree.placeOf path = .ok place ∧ tree.file? place = some bytes := by
  unfold read
  cases tree.placeOf path with
  | error fault => simp [bind, Except.bind]
  | ok place =>
      simp only [bind, Except.bind, Except.ok.injEq, exists_eq_left']
      cases tree.file? place <;> simp

theorem write_eq_put (leads : tree.placeOf path = .ok place) (bytes : Bytes) :
    tree.write path bytes = tree.put place bytes := by
  rw [write, leads]

/-- What is written is read. -/
theorem read_write (isRead : tree.read path = .ok old) :
    (tree.write path new).read path = .ok new := by
  obtain ⟨place, leads, found⟩ := read_eq_ok_iff.mp isRead
  have isFile : (tree.file? place).isSome := by rw [found, Option.isSome_some]
  rw [write_eq_put leads, read_eq_ok_iff]
  exact ⟨place, (placeOf_put isFile path).trans leads, by rw [file?_put isFile, if_pos rfl]⟩

/-- A write leaves the other files alone. -/
theorem file?_write (isRead : tree.read path = .ok old) {other : List Text}
    (elsewhere : tree.placeOf path ≠ .ok other) :
    (tree.write path new).file? other = tree.file? other := by
  obtain ⟨place, leads, found⟩ := read_eq_ok_iff.mp isRead
  have isFile : (tree.file? place).isSome := by rw [found, Option.isSome_some]
  rw [write_eq_put leads, file?_put isFile, if_neg]
  rintro rfl
  exact elsewhere leads

end SchemaDoc.FileTree
