import Mathlib.Data.List.Basic

/-!
# Tables of rows with a key

A table is the list of its rows. A row is found by its key, replaced in place and
inserted at the end when its key is new.
-/

namespace Effects

namespace Rows

variable {α κ : Type} [DecidableEq κ] (key : α → κ)

/-- The row of a key. -/
def find (rows : List α) (k : κ) : Option α := rows.find? fun row => key row = k

/-- Put a row in place of the row with its key. -/
def replace (rows : List α) (new : α) : List α :=
  rows.map fun row => if key row = key new then new else row

variable {key} {rows : List α} {row new : α} {k : κ}

/-- A row that is found has the key. -/
theorem key_of_find (h : find key rows k = some row) : key row = k := by
  simpa using List.find?_some h

/-- A row that is found is in the table. -/
theorem mem_of_find (h : find key rows k = some row) : row ∈ rows :=
  List.mem_of_find?_eq_some h

/-- Where keys are unique, a row is found under its key. -/
theorem find_of_mem (hkeys : (rows.map key).Nodup) (h : row ∈ rows) :
    find key rows (key row) = some row := by
  induction rows with
  | nil => cases h
  | cons head rows ih =>
    rw [List.map_cons, List.nodup_cons] at hkeys
    rcases List.mem_cons.mp h with rfl | hmem
    · simp [find]
    · have hne : key head ≠ key row := fun heq => hkeys.1 (heq ▸ List.mem_map_of_mem hmem)
      have hrest := ih hkeys.2 hmem
      simp only [find] at hrest
      simp [find, hne, hrest]

/-- No row is found where none has the key. -/
theorem find_eq_none : find key rows k = none ↔ ∀ row ∈ rows, key row ≠ k := by
  simp [find]

/-- The row with the key of a replaced row is the new one, if there was one. -/
theorem find_replace_self (h : find key rows (key new) ≠ none) :
    find key (replace key rows new) (key new) = some new := by
  induction rows with
  | nil => exact absurd rfl h
  | cons head rows ih =>
    by_cases hkey : key head = key new
    · simp [find, replace, hkey]
    · have hrest : find key rows (key new) ≠ none := by simpa [find, hkey] using h
      have hfound := ih hrest
      simp only [find, replace] at hfound
      simp [find, replace, hkey, hfound]

/-- Replacing a row changes no other row. -/
theorem find_replace_other (h : key new ≠ k) :
    find key (replace key rows new) k = find key rows k := by
  induction rows with
  | nil => rfl
  | cons head rows ih =>
    simp only [find, replace] at ih
    by_cases hkey : key head = key new
    · have hne : key head ≠ k := fun heq => h (hkey ▸ heq)
      simp [find, replace, hkey, h, ih]
    · by_cases hk : key head = k
      · subst hk
        simp [find, replace, hkey]
      · simp [find, replace, hkey, hk, ih]

/-- A row after a replacement was there or is the new one. -/
theorem mem_replace (h : row ∈ replace key rows new) : row ∈ rows ∨ row = new := by
  obtain ⟨old, hold, heq⟩ := List.mem_map.mp h
  split at heq
  · exact .inr heq.symm
  · exact .inl (heq ▸ hold)

/-- The rows after a replacement. -/
theorem mem_replace_iff : row ∈ replace key rows new ↔
    (row ∈ rows ∧ key row ≠ key new) ∨ (row = new ∧ ∃ old ∈ rows, key old = key new) := by
  unfold replace
  rw [List.mem_map]
  constructor
  · rintro ⟨old, hold, heq⟩
    by_cases hkey : key old = key new
    · rw [if_pos hkey] at heq
      exact .inr ⟨heq.symm, old, hold, hkey⟩
    · rw [if_neg hkey] at heq
      subst heq
      exact .inl ⟨hold, hkey⟩
  · rintro (⟨hmem, hkey⟩ | ⟨rfl, old, hold, hkey⟩)
    · exact ⟨row, hmem, if_neg hkey⟩
    · exact ⟨old, hold, if_pos hkey⟩

/-- A replacement keeps the keys. -/
theorem map_key_replace : (replace key rows new).map key = rows.map key := by
  unfold replace
  rw [List.map_map]
  refine List.map_congr_left fun row _ => ?_
  by_cases hkey : key row = key new <;> simp [hkey]

/-- A row inserted under a new key is found. -/
theorem find_insert_self (h : find key rows (key new) = none) :
    find key (rows ++ [new]) (key new) = some new := by
  simp only [find] at h
  simp [find, List.find?_append, h]

/-- An insertion changes no other row. -/
theorem find_insert_other (h : key new ≠ k) :
    find key (rows ++ [new]) k = find key rows k := by
  simp [find, List.find?_append, h]

/-- A row that is found is still found after an insertion. -/
theorem find_insert_of_some (h : find key rows k = some row) :
    find key (rows ++ [new]) k = some row := by
  simp only [find] at h
  simp [find, List.find?_append, h]

end Rows

end Effects
