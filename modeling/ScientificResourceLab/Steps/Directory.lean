import Mathlib.Data.List.AList

/-!
# Directories as finite maps

A directory holds at most one file under each name.  The lemmas below state
what a lookup finds after a file was put or removed, in the form in which
invariants quantify over files.
-/

namespace ScientificResourceLab.Steps

universe u v

/-- Files of contents `α` under names `κ`. -/
abbrev Directory (κ : Type u) (α : Type v) := AList fun _ : κ => α

namespace Directory

variable {κ : Type u} {α : Type v} [DecidableEq κ]
variable {directory : Directory κ α} {name other : κ} {file content : α}

theorem mem_iff_lookup :
    name ∈ directory ↔ ∃ file, directory.lookup name = some file := by
  rw [← AList.lookup_isSome, Option.isSome_iff_exists]

theorem mem_of_lookup (found : directory.lookup name = some file) :
    name ∈ directory :=
  mem_iff_lookup.mpr ⟨file, found⟩

/-- A put file is found under its name; the others stay. -/
theorem lookup_insert_eq_some :
    (directory.insert name file).lookup other = some content ↔
      other = name ∧ content = file ∨
        other ≠ name ∧ directory.lookup other = some content := by
  by_cases same : other = name
  · subst same
    simp [eq_comm]
  · simp [same, AList.lookup_insert_ne same]

/-- A removed file is gone; the others stay. -/
theorem lookup_erase_eq_some :
    (directory.erase name).lookup other = some content ↔
      other ≠ name ∧ directory.lookup other = some content := by
  by_cases same : other = name
  · subst same
    simp
  · simp [same, AList.lookup_erase_ne same]

/-- The listed files are those that a lookup finds. -/
theorem mem_files :
    (name, file) ∈ directory.entries.map (fun entry =>
      (entry.1, entry.2)) ↔ directory.lookup name = some file := by
  rw [List.mem_map]
  constructor
  · rintro ⟨⟨key, content⟩, isEntry, same⟩
    obtain ⟨rfl, rfl⟩ := Prod.mk.inj same
    exact AList.mem_lookup_iff.mpr isEntry
  · intro found
    exact ⟨⟨name, file⟩, AList.mem_lookup_iff.mp found, rfl⟩

/-- A new file is listed before the others. -/
theorem keys_insert_of_not_mem (absent : name ∉ directory) :
    (directory.insert name file).keys = name :: directory.keys := by
  have unlisted := mt AList.mem_keys.mpr absent
  rw [AList.keys_insert, List.erase_of_not_mem unlisted]

/-! ## Counting files -/

/-- Overwriting a file leaves the number of files. -/
theorem length_keys_insert_of_mem (present : name ∈ directory) :
    (directory.insert name file).keys.length = directory.keys.length := by
  have listed := AList.mem_keys.mp present
  have positive := List.length_pos_of_mem listed
  rw [AList.keys_insert, List.length_cons,
    List.length_erase_of_mem listed]
  omega

theorem length_keys_insert_of_empty (empty : directory.keys = []) :
    (directory.insert name file).keys.length = 1 := by
  rw [AList.keys_insert, empty]
  rfl

theorem length_keys_erase_le :
    (directory.erase name).keys.length ≤ directory.keys.length := by
  rw [AList.keys_erase]
  exact List.length_erase_le

end Directory

end ScientificResourceLab.Steps
