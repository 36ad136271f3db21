import DeviceLink.Files.Tree

/-!
# Reading what was written

A file that is written is read back as it was, and all other files are read as
before. Directories that are made on the way change no file.
-/

namespace DeviceLink.FileTree

/-! ## Texts and bytes -/

/-- Listing bytes goes through all that remain, one after another. -/
theorem toList_loop (bytes : ByteArray) (remaining : Nat) :
    ∀ (index : Nat) (done : List UInt8), index + remaining = bytes.size →
      ByteArray.toList.loop bytes index done = done.reverse ++ bytes.data.toList.drop index := by
  induction remaining with
  | zero =>
      intro index done atEnd
      have nothing : bytes.data.toList.drop index = [] := by
        apply List.drop_eq_nil_of_le
        simpa using Nat.le_of_eq atEnd.symm
      rw [ByteArray.toList.loop, if_neg (by omega), nothing, List.append_nil]
  | succ remaining inductionHypothesis =>
      intro index done more
      have inside : index < bytes.size := by omega
      have next : bytes.data.toList.drop index =
          bytes.get! index :: bytes.data.toList.drop (index + 1) := by
        rw [List.drop_eq_getElem_cons (by simpa using inside)]
        simp [ByteArray.get!, inside]
      rw [ByteArray.toList.loop, if_pos inside, inductionHypothesis _ _ (by omega), next]
      simp

/-- The bytes of a text are read as this text. -/
@[simp]
theorem textOf_toUTF8 (text : String) : textOf text.toUTF8.toList = .ok text := by
  have bytes : (⟨text.toUTF8.toList.toArray⟩ : ByteArray) = text.toUTF8 := by
    rw [ByteArray.toList, toList_loop _ _ 0 [] (Nat.zero_add _)]
    simp
  have read : String.fromUTF8? text.toUTF8 = some text := dif_pos text.isValidUTF8
  rw [textOf, bytes, read]

/-! ## The file at a place -/

/-- The bytes of the file at a place, if one stands there. -/
def file? (tree : FileTree) (place : Place) : Option (List UInt8) :=
  match tree.at? place with
  | some (.file bytes) => some bytes
  | _ => none

/-- The text at a place, if one can be read there. -/
def text? (tree : FileTree) (place : Place) : Option String :=
  (tree.readText place).toOption

/-- Why a file is not read makes no difference to the text that is read. -/
theorem text?_eq (tree : FileTree) (place : Place) :
    tree.text? place = (tree.file? place).bind fun bytes => (textOf bytes).toOption := by
  unfold text? readText readBytes file?
  cases tree.at? place with
  | none => rfl
  | some entry => cases entry <;> rfl

/-- Only entries count as files; what an entry implies is a directory. -/
theorem file?_eq (tree : FileTree) (place : Place) :
    tree.file? place = (tree.entries.lookup place).bind fun
      | .file bytes => some bytes
      | .directory => none := by
  unfold file? at?
  cases tree.entries.lookup place with
  | none =>
      cases tree.entries.any fun entry => place.isPrefixOf entry.1 <;> rfl
  | some entry => cases entry <;> rfl

/-! ## Putting an entry -/

theorem lookup_cons_of_ne
    {place other : Place}
    (apart : other ≠ place)
    (entry : FileEntry)
    (entries : List (Place × FileEntry)) :
    ((place, entry) :: entries).lookup other = entries.lookup other := by
  have passed : (other == place) = false := by simpa using apart
  rw [List.lookup_cons, passed]

/-- Entries at other places are found as before one is taken away, and that one no more. -/
theorem lookup_filter_ne (entries : List (Place × FileEntry)) (place other : Place) :
    (entries.filter fun entry => entry.1 != place).lookup other =
      if other = place then none else entries.lookup other := by
  induction entries with
  | nil => simp
  | cons entry entries inductionHypothesis =>
      obtain ⟨here, content⟩ := entry
      by_cases taken : here = place
      · subst taken
        rw [List.filter_cons_of_neg (by simp), inductionHypothesis]
        by_cases same : other = here
        · simp [same]
        · rw [if_neg same, if_neg same, lookup_cons_of_ne same]
      · rw [List.filter_cons_of_pos (by simpa using taken)]
        by_cases found : other = here
        · subst found
          rw [if_neg taken, List.lookup_cons_self, List.lookup_cons_self]
        · rw [lookup_cons_of_ne found, lookup_cons_of_ne found, inductionHypothesis]

@[simp]
theorem working_put (tree : FileTree) (place : Place) (entry : FileEntry) :
    (tree.put place entry).working = tree.working :=
  rfl

theorem lookup_put (tree : FileTree) (place other : Place) (entry : FileEntry) :
    (tree.put place entry).entries.lookup other =
      if other = place then some entry else tree.entries.lookup other := by
  rw [put, List.lookup_append, lookup_filter_ne]
  by_cases same : other = place
  · simp [same]
  · rw [if_neg same, if_neg same, lookup_cons_of_ne same, List.lookup_nil, Option.or_none]

@[simp]
theorem file?_put_self (tree : FileTree) (place : Place) (bytes : List UInt8) :
    (tree.put place (.file bytes)).file? place = some bytes := by
  simp [file?_eq, lookup_put]

/-- An entry changes no file but the one in its place. -/
theorem file?_put_of_ne
    {place other : Place}
    (apart : other ≠ place)
    (tree : FileTree)
    (entry : FileEntry) :
    (tree.put place entry).file? other = tree.file? other := by
  simp [file?_eq, lookup_put, apart]

/-- A directory in an empty place changes no file. -/
theorem file?_put_directory
    {tree : FileTree}
    {place : Place}
    (free : tree.at? place = none)
    (other : Place) :
    (tree.put place .directory).file? other = tree.file? other := by
  by_cases same : other = place
  · subst same
    have nothing : tree.file? other = none := by simp [file?, free]
    rw [nothing, file?_eq, lookup_put]
    simp
  · exact file?_put_of_ne same tree .directory

/-! ## Writing -/

/-- Writing a text, where it works, puts its bytes in the place. -/
theorem eq_put_of_writeText
    {tree later : FileTree}
    {place : Place}
    {text : String}
    (written : tree.writeText place text = .ok later) :
    later = tree.put place (.file text.toUTF8.toList) := by
  unfold writeText write at written
  split at written <;> simp_all

theorem working_of_writeText
    {tree later : FileTree}
    {place : Place}
    {text : String}
    (written : tree.writeText place text = .ok later) :
    later.working = tree.working := by
  rw [eq_put_of_writeText written, working_put]

/-- What was written is read back. -/
theorem text?_of_writeText
    {tree later : FileTree}
    {place : Place}
    {text : String}
    (written : tree.writeText place text = .ok later) :
    later.text? place = some text := by
  rw [eq_put_of_writeText written, text?_eq, file?_put_self, Option.bind_some, textOf_toUTF8]
  rfl

/-- Writing a file leaves the texts at all other places. -/
theorem text?_of_writeText_of_ne
    {tree later : FileTree}
    {place other : Place}
    {text : String}
    (written : tree.writeText place text = .ok later)
    (apart : other ≠ place) :
    later.text? other = tree.text? other := by
  rw [eq_put_of_writeText written, text?_eq, text?_eq, file?_put_of_ne apart]

/-- Making directories changes neither the working directory nor any file. -/
theorem makeDirectories_spec
    {tree later : FileTree}
    {place : Place}
    (made : tree.makeDirectories place = .ok later) :
    later.working = tree.working ∧ ∀ other, later.text? other = tree.text? other := by
  unfold makeDirectories at made
  split at made
  · cases made
  · split at made
    · cases made
      exact ⟨rfl, fun _ => rfl⟩
    · cases made
    · rename_i free
      cases made
      refine ⟨working_put _ _ _, fun other => ?_⟩
      rw [text?_eq, text?_eq, file?_put_directory free]

end DeviceLink.FileTree
