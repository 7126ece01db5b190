import EdgeReveal.Files.Journal

/-!
# What is saved is read back

A path leads through folders to the place of a file. Writing the file there keeps every folder on
the way a folder, so the path leads to the same place afterwards and finds what was written.
-/
namespace EdgeReveal.Files

variable {fs after : Files} {place other : Place} {content : List UInt8} {path : String}

/-- The place at which a file is written: the way to it has to be there, and no folder may be. -/
def target (fs : Files) (path : String) : Except OsFault Place :=
  if '\x00' ∈ path.toList then .error .nulInPath
  else if path.isEmpty then .error .notFound
  else if longestPath < path.utf8ByteSize then .error .nameTooLong
  else
    match fs.walk (if Path.isAbsolute path then [] else fs.current) (Path.parts path) with
    | .error fault => .error fault
    | .ok place => if fs.at? place = some .folder then .error .isDirectory else .ok place

/-- The files after a content has been saved at a path. -/
def save (fs : Files) (path : String) (content : List UInt8) : Except OsFault Files :=
  (fs.target path).map (fs.put · content)

theorem at?_put_self (fs : Files) (place : Place) (content : List UInt8) :
    (fs.put place content).at? place = some (.file content) := by
  simp [put, at?]

/-- A folder elsewhere is still there: what lay below it lies there, or the new file does. -/
theorem at?_put_folder (elsewhere : other ≠ place) (folder : fs.at? other = some .folder) :
    (fs.put place content).at? other = some .folder := by
  unfold at? at folder ⊢
  split at folder
  next => cases folder
  next absent =>
    have absent' : (fs.put place content).files.find? (·.1 == other) = none := by
      rw [List.find?_eq_none] at absent ⊢
      intro file within
      rcases List.mem_cons.mp within with rfl | within
      · simpa using elsewhere.symm
      · exact absent file (List.mem_filter.mp within).1
    have below : fs.files.any (fun file => other.isPrefixOf file.1) = true →
        (fs.put place content).files.any (fun file => other.isPrefixOf file.1) = true := by
      simp only [List.any_eq_true]
      rintro ⟨file, within, under⟩
      by_cases replaced : file.1 = place
      · exact ⟨(place, content), List.mem_cons_self, replaced ▸ under⟩
      · exact ⟨file, List.mem_cons_of_mem _ (List.mem_filter.mpr ⟨within, by simpa⟩), under⟩
    rw [absent']
    rw [Option.ite_none_right_eq_some] at folder
    refine if_pos ?_
    simp only [Bool.or_eq_true] at folder ⊢
    exact folder.1.imp_right below

theorem walk_put (free : fs.at? place ≠ some .folder) {parts : List String} {start : Place}
    (walked : fs.walk start parts = .ok other) :
    (fs.put place content).walk start parts = .ok other := by
  induction parts generalizing start with
  | nil => exact walked
  | cons part rest ih =>
    rw [walk] at walked ⊢
    split at walked
    next => cases walked
    next => cases walked
    next folder =>
      have elsewhere : start ≠ place := fun same => free (same ▸ folder)
      rw [at?_put_folder elsewhere folder]
      dsimp only
      split
      next stay => exact ih (by simpa only [if_pos stay] using walked)
      next step =>
        rw [if_neg step] at walked
        split
        next up => exact ih (by simpa only [if_pos up] using walked)
        next down =>
          rw [if_neg down] at walked
          split at walked
          next => cases walked
          next short =>
            rw [if_neg short]
            exact ih walked

/-- What is saved at a path is what is read there. -/
theorem read_save (saved : fs.save path content = .ok after) : after.read path = .ok content := by
  unfold save target at saved
  split at saved
  next => cases saved
  next clean =>
  split at saved
  next => cases saved
  next nonempty =>
  split at saved
  next => cases saved
  next short =>
  split at saved
  next => cases saved
  next place walked =>
  split at saved
  next => cases saved
  next free =>
    cases saved
    have current : (fs.put place content).current = fs.current := rfl
    simp only [read, lookup, if_neg clean, if_neg nonempty, if_neg short, current,
      walk_put free walked, at?_put_self]

end EdgeReveal.Files
