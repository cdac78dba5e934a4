/-
A table with a key: rows in the order they were inserted, no two of one key.  Rows are found,
rewritten and taken out by their key.
-/
import Mathlib.Data.List.Nodup

namespace OpsCure

universe u v

variable {ρ : Type u} {κ : Type v}

structure Keyed (key : ρ → κ) where
  rows : List ρ
  unique : (rows.map key).Nodup

namespace Keyed

variable {key : ρ → κ}

def empty : Keyed key := ⟨[], List.nodup_nil⟩

section Keys

variable [DecidableEq κ]

def get (table : Keyed key) (k : κ) : Option ρ := table.rows.find? fun row => key row = k

/-- A row is added behind the others; a key that is taken is refused. -/
def insert (table : Keyed key) (row : ρ) : Option (Keyed key) :=
  if hfree : key row ∉ table.rows.map key then
    some {
      rows := table.rows ++ [row]
      unique := by
        rw [List.map_append, List.map_singleton]
        apply List.nodup_append.mpr
        refine ⟨table.unique, List.nodup_singleton _, ?_⟩
        intro k hk other hother hsame
        rw [hsame, List.mem_singleton.mp hother] at hk
        exact hfree hk }
  else none

def change (table : Keyed key) (rewrite : ρ → ρ) (hkey : ∀ row, key (rewrite row) = key row) :
    Keyed key where
  rows := table.rows.map rewrite
  unique := by
    rw [List.map_map]
    have hsame : key ∘ rewrite = key := funext hkey
    rw [hsame]
    exact table.unique

def modify (table : Keyed key) (k : κ) (rewrite : ρ → ρ)
    (hkey : ∀ row, key (rewrite row) = key row) : Keyed key :=
  table.change (fun row => if key row = k then rewrite row else row) fun row => by
    split
    · exact hkey row
    · rfl

/-- The rows that are to go are taken out. -/
def without (table : Keyed key) (goes : ρ → Bool) : Keyed key where
  rows := table.rows.filter fun row => !goes row
  unique := (List.filter_sublist.map key).nodup table.unique

def upsert (table : Keyed key) (row : ρ) (rewrite : ρ → ρ)
    (hkey : ∀ row, key (rewrite row) = key row) : Keyed key :=
  match table.insert row with
  | some after => after
  | none => table.modify (key row) rewrite hkey

variable {table : Keyed key} {k : κ} {row : ρ}

theorem key_of_get (hrow : table.get k = some row) : key row = k := by
  have hkey := List.find?_some hrow
  exact of_decide_eq_true hkey

theorem mem_of_get (hrow : table.get k = some row) : row ∈ table.rows :=
  List.mem_of_find?_eq_some hrow

theorem get_of_mem (hrow : row ∈ table.rows) : table.get (key row) = some row := by
  cases hfound : table.get (key row) with
  | none =>
      have habsent := List.find?_eq_none.mp hfound row hrow
      simp at habsent
  | some =>
      have hsame := List.inj_on_of_nodup_map table.unique (mem_of_get hfound) hrow
        (key_of_get hfound)
      rw [hsame]

theorem get_eq_some_iff : table.get k = some row ↔ row ∈ table.rows ∧ key row = k := by
  constructor
  · intro hrow
    exact ⟨mem_of_get hrow, key_of_get hrow⟩
  · rintro ⟨hrow, rfl⟩
    exact get_of_mem hrow

theorem get_eq_none_iff : table.get k = none ↔ k ∉ table.rows.map key := by
  rw [get, List.find?_eq_none]
  simp

@[simp]
theorem get_empty : (empty : Keyed key).get k = none := rfl

theorem insert_of_none (hfree : table.get (key row) = none) :
    ∃ after, table.insert row = some after ∧ after.rows = table.rows ++ [row] := by
  unfold insert
  rw [dif_pos (get_eq_none_iff.1 hfree)]
  exact ⟨_, rfl, rfl⟩

theorem insert_of_some {found : ρ} (htaken : table.get (key row) = some found) :
    table.insert row = none := by
  unfold insert
  rw [dif_neg]
  intro hfree
  rw [get_eq_none_iff.2 hfree] at htaken
  cases htaken

variable {after : Keyed key} {rewrite : ρ → ρ}

theorem rows_insert (hinsert : table.insert row = some after) :
    after.rows = table.rows ++ [row] := by
  unfold insert at hinsert
  split at hinsert
  · cases hinsert
    rfl
  · cases hinsert

theorem get_insert_self (hinsert : table.insert row = some after) :
    after.get (key row) = some row := by
  apply get_of_mem
  rw [rows_insert hinsert]
  exact List.mem_append_right _ List.mem_cons_self

theorem get_insert_of_ne (hinsert : table.insert row = some after) (hother : k ≠ key row) :
    after.get k = table.get k := by
  have hnot : key row ≠ k := fun hsame => hother hsame.symm
  unfold get
  rw [rows_insert hinsert, List.find?_append]
  simp [hnot]

theorem get_change (rewrite : ρ → ρ) (hkey : ∀ row, key (rewrite row) = key row) :
    (table.change rewrite hkey).get k = (table.get k).map rewrite := by
  have hsame : (fun row => decide (key row = k)) ∘ rewrite = fun row => decide (key row = k) := by
    funext row
    simp [hkey]
  rw [get, change, List.find?_map, hsame]
  rfl

theorem get_modify_self (hkey : ∀ row, key (rewrite row) = key row)
    (hrow : table.get k = some row) : (table.modify k rewrite hkey).get k = some (rewrite row) := by
  rw [modify, get_change, hrow, Option.map_some, if_pos (key_of_get hrow)]

theorem get_modify_of_ne {other : κ} (hkey : ∀ row, key (rewrite row) = key row)
    (hother : other ≠ k) : (table.modify k rewrite hkey).get other = table.get other := by
  rw [modify, get_change]
  cases hrow : table.get other with
  | none => rfl
  | some row =>
      have hnot : ¬ key row = k := by
        rw [key_of_get hrow]
        exact hother
      rw [Option.map_some, if_neg hnot]

theorem get_upsert_self (hkey : ∀ row, key (rewrite row) = key row) :
    (table.upsert row rewrite hkey).get (key row) =
      some (((table.get (key row)).map rewrite).getD row) := by
  unfold upsert
  cases hfound : table.get (key row) with
  | none =>
      obtain ⟨after, hinsert, _⟩ := insert_of_none hfound
      rw [hinsert]
      exact get_insert_self hinsert
  | some =>
      rw [insert_of_some hfound]
      exact get_modify_self hkey hfound

theorem get_upsert_of_ne {other : κ} (hkey : ∀ row, key (rewrite row) = key row)
    (hother : other ≠ key row) : (table.upsert row rewrite hkey).get other = table.get other := by
  unfold upsert
  cases hinsert : table.insert row with
  | none => exact get_modify_of_ne hkey hother
  | some => exact get_insert_of_ne hinsert hother

theorem get_without (goes : ρ → Bool) :
    (table.without goes).get k = (table.get k).filter fun row => !goes row := by
  cases hrow : table.get k with
  | none =>
      rw [get_eq_none_iff] at hrow
      rw [Option.filter_none, get_eq_none_iff]
      intro hin
      apply hrow
      obtain ⟨row, hmem, hkey⟩ := List.mem_map.mp hin
      exact List.mem_map.mpr ⟨row, (List.mem_filter.mp hmem).1, hkey⟩
  | some row =>
      obtain ⟨hmem, hkey⟩ := get_eq_some_iff.1 hrow
      by_cases hgoes : goes row = true
      · have hnone : (table.without goes).get k = none := by
          rw [get_eq_none_iff]
          intro hin
          obtain ⟨other, hother, hsame⟩ := List.mem_map.mp hin
          obtain ⟨hold, hstays⟩ := List.mem_filter.mp hother
          have hequal := List.inj_on_of_nodup_map table.unique hold hmem (hsame.trans hkey.symm)
          rw [hequal, hgoes] at hstays
          cases hstays
        simp [hnone, Option.filter, hgoes]
      · have hsome : (table.without goes).get k = some row := by
          rw [get_eq_some_iff]
          refine ⟨List.mem_filter.mpr ⟨hmem, ?_⟩, hkey⟩
          simpa using hgoes
        simp [hsome, Option.filter, hgoes]

end Keys

end Keyed

end OpsCure
