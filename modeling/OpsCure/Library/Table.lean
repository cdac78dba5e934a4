/-
Tables as lists of rows, a row's identity being its position.  A query filters
the numbered rows, orders them stably and takes the first.
-/
import Mathlib.Data.List.Sort
import Mathlib.Tactic.Common

namespace OpsCure.Table

universe u

variable {α : Type u}

/-- The rows of a table a condition keeps, each with its identity. -/
def selectWhere (keep : α → Bool) (table : List α) : List (α × Nat) :=
  table.zipIdx.filter fun row => keep row.1

def orderBy (before : α → α → Bool) (rows : List (α × Nat)) : List (α × Nat) :=
  rows.insertionSort fun left right => before left.1 right.1

def firstBy (before : α → α → Bool) (rows : List (α × Nat)) :
    Option (α × Nat) :=
  (orderBy before rows).head?

variable {table : List α} {row old : α} {id other : Nat} {keep : α → Bool} {before : α → α → Bool}
  {rows : List (α × Nat)} {found : Option (α × Nat)}

theorem getElem?_concat_eq_some {found : α} (hfound : (table ++ [row])[id]? = some found) :
    table[id]? = some found ∨ id = table.length ∧ found = row := by
  by_cases hlt : id < table.length
  · rw [List.getElem?_append_left hlt] at hfound
    exact Or.inl hfound
  · have hbound := (List.getElem?_eq_some_iff.mp hfound).1
    rw [List.length_append, List.length_singleton] at hbound
    have hid : id = table.length := by omega
    subst hid
    rw [List.getElem?_concat_length] at hfound
    exact Or.inr ⟨rfl, (Option.some.inj hfound).symm⟩

theorem modify_concat (table : List α) (row : α) (change : α → α) :
    (table ++ [row]).modify table.length change = table ++ [change row] := by
  induction table with
  | nil => rfl
  | cons first table ih => simpa using ih

/-- Replace the row with the given identity. -/
def update (table : List α) (id : Nat) (row : α) : List α :=
  table.set id row

@[simp]
theorem mem_selectWhere {row : α × Nat} :
    row ∈ selectWhere keep table ↔ table[row.2]? = some row.1 ∧ keep row.1 := by
  simp [selectWhere, List.mem_zipIdx_iff_getElem?]

theorem selectWhere_concat (keep : α → Bool) (table : List α) (row : α) :
    selectWhere keep (table ++ [row]) =
      selectWhere keep table ++ (if keep row then [(row, table.length)] else []) := by
  by_cases hrow : keep row
  · simp [selectWhere, List.zipIdx_append, hrow]
  · simp [selectWhere, List.zipIdx_append, hrow]

theorem pairwise_selectWhere (keep : α → Bool) (table : List α) :
    (selectWhere keep table).Pairwise fun left right => left.2 ≠ right.2 := by
  apply List.Pairwise.filter
  have hnodup : (table.zipIdx.map Prod.snd).Nodup := by
    rw [List.zipIdx_map_snd]
    exact List.nodup_range'
  exact List.pairwise_map.mp hnodup

theorem selectWhere_unique (hrow : table[id]? = some row) (hkeep : keep row)
    (hunique : ∀ (other : Nat) (found : α), table[other]? = some found → keep found → other = id) :
    selectWhere keep table = [(row, id)] := by
  have hmem : ∀ found, found ∈ selectWhere keep table ↔ found = (row, id) := by
    rintro ⟨found, other⟩
    rw [mem_selectWhere]
    constructor
    · rintro ⟨hfound, hkept⟩
      have hid := hunique other found hfound hkept
      subst hid
      have hsame : found = row := Option.some.inj (hfound.symm.trans hrow)
      rw [hsame]
    · intro hsame
      rw [hsame]
      exact ⟨hrow, hkeep⟩
  have hnodup : (selectWhere keep table).Nodup :=
    (pairwise_selectWhere keep table).imp fun hne hsame => hne (congrArg Prod.snd hsame)
  exact List.perm_singleton.mp
    ((List.perm_ext_iff_of_nodup hnodup (List.nodup_singleton _)).mpr fun found => by
      rw [hmem, List.mem_singleton])

@[simp]
theorem mem_orderBy {row : α × Nat} : row ∈ orderBy before rows ↔ row ∈ rows :=
  (List.perm_insertionSort _ rows).mem_iff

theorem pairwise_orderBy (hrows : rows.Pairwise fun left right => left.2 ≠ right.2) :
    (orderBy before rows).Pairwise fun left right => left.2 ≠ right.2 :=
  hrows.perm (List.perm_insertionSort _ rows).symm fun hne => hne.symm

theorem mem_of_firstBy_eq_some {row : α × Nat} (hfirst : firstBy before rows = some row) :
    row ∈ rows := by
  have hmem := List.mem_of_head? hfirst
  exact (List.perm_insertionSort _ rows).mem_iff.mp hmem

theorem zipIdx_take (table : List α) (limit : Nat) :
    (table.take limit).zipIdx = table.zipIdx.take limit := by
  refine List.ext_getElem? fun i => ?_
  by_cases hlt : i < limit <;> simp [hlt]

theorem firstBy_selectWhere {row : α × Nat}
    (hfirst : firstBy before (selectWhere keep table) = some row) :
    table[row.2]? = some row.1 ∧ keep row.1 :=
  mem_selectWhere.1 (mem_of_firstBy_eq_some hfirst)

theorem not_keep_of_firstBy_none (hnone : firstBy before (selectWhere keep table) = none)
    (hrow : table[id]? = some row) : ¬ keep row := by
  intro hkeep
  have hordered : (row, id) ∈ orderBy before (selectWhere keep table) :=
    mem_orderBy.2 (mem_selectWhere.2 ⟨hrow, hkeep⟩)
  rw [firstBy, List.head?_eq_none_iff] at hnone
  rw [hnone] at hordered
  cases hordered

theorem firstBy_eq_none_iff :
    firstBy before (selectWhere keep table) = none ↔
      ∀ (id : Nat) (row : α), table[id]? = some row → ¬ keep row := by
  constructor
  · intro hnone id row hrow
    exact not_keep_of_firstBy_none hnone hrow
  · intro hall
    cases hfirst : firstBy before (selectWhere keep table) with
    | none => rfl
    | some found =>
        obtain ⟨hrow, hkeep⟩ := firstBy_selectWhere hfirst
        exact absurd hkeep (hall found.2 found.1 hrow)

theorem getElem?_update_self (hold : table[id]? = some old) :
    (update table id row)[id]? = some row := by
  have hlt : id < table.length := (List.getElem?_eq_some_iff.mp hold).1
  simp [update, hlt]

theorem getElem?_update_of_ne (hne : id ≠ other) :
    (update table id row)[other]? = table[other]? := by
  simp [update, hne]

theorem getElem?_update_eq_some {found : α} (hfound : (update table id row)[other]? = some found) :
    id = other ∧ found = row ∨ table[other]? = some found := by
  by_cases hid : id = other
  · have hlt := (List.getElem?_eq_some_iff.mp hfound).1
    rw [update, List.length_set] at hlt
    rw [update, hid, List.getElem?_set_self hlt] at hfound
    exact Or.inl ⟨hid, (Option.some.inj hfound).symm⟩
  · rw [getElem?_update_of_ne hid] at hfound
    exact Or.inr hfound

theorem update_self (hrow : table[id]? = some row) : update table id row = table := by
  obtain ⟨hlt, rfl⟩ := List.getElem?_eq_some_iff.mp hrow
  simp [update]

theorem countP_le_of_kept {kept : α → Bool} {after : List α}
    (hkept : ∀ (id : Nat) (row : α), after[id]? = some row → kept row →
      ∃ old, table[id]? = some old ∧ keep old) : after.countP kept ≤ table.countP keep := by
  induction after generalizing table with
  | nil => exact Nat.zero_le _
  | cons row after ih =>
      cases table with
      | nil =>
          apply Nat.le_of_eq
          rw [List.countP_eq_zero.mpr, List.countP_nil]
          intro found hmem hfound
          obtain ⟨id, hid⟩ := List.getElem?_of_mem hmem
          obtain ⟨old, hold, _⟩ := hkept id found hid hfound
          cases hold
      | cons old table =>
          have hrest : after.countP kept ≤ table.countP keep := by
            apply ih
            intro id found hfound hcounted
            exact hkept (id + 1) found hfound hcounted
          rw [List.countP_cons, List.countP_cons]
          by_cases hrow : kept row
          · obtain ⟨first, hfirst, hold⟩ := hkept 0 row rfl hrow
            rw [← Option.some.inj hfirst] at hold
            rw [if_pos hrow, if_pos hold]
            omega
          · rw [if_neg hrow]
            omega

theorem countP_update_le (hold : table[id]? = some old) :
    (update table id row).countP keep ≤ table.countP keep + if keep row then 1 else 0 := by
  obtain ⟨hlt, _⟩ := List.getElem?_eq_some_iff.mp hold
  rw [update, List.countP_set hlt]
  omega

/-! ## The one row that meets a condition -/

/-- The rows of a table that meet a condition: none, or this one alone. -/
def Sole (keep : α → Bool) (table : List α) : Option (α × Nat) → Prop
  | none => ∀ (id : Nat) (row : α), table[id]? = some row → ¬ keep row
  | some (row, id) => table[id]? = some row ∧ keep row ∧
      ∀ (other : Nat) (found : α), table[other]? = some found → keep found → other = id

theorem firstBy_of_sole (hsole : Sole keep table found) :
    firstBy before (selectWhere keep table) = found := by
  cases found with
  | none =>
      have hempty : selectWhere keep table = [] := by
        apply List.eq_nil_iff_forall_not_mem.mpr
        intro row hrow
        rcases mem_selectWhere.1 hrow with ⟨hfound, hkeep⟩
        exact hsole row.2 row.1 hfound hkeep
      rw [hempty]
      rfl
  | some =>
      rcases hsole with ⟨hrow, hkeep, honly⟩
      rw [selectWhere_unique hrow hkeep honly]
      rfl

theorem Sole.congr {after : List α} (hsole : Sole keep table found)
    (hsame : ∀ (id : Nat) (row : α), keep row → (table[id]? = some row ↔ after[id]? = some row)) :
    Sole keep after found := by
  cases found with
  | none =>
      intro id row hrow hkeep
      exact hsole id row ((hsame id row hkeep).mpr hrow) hkeep
  | some =>
      rcases hsole with ⟨hrow, hkeep, honly⟩
      refine ⟨(hsame _ _ hkeep).mp hrow, hkeep, ?_⟩
      intro other found hfound hkept
      exact honly other found ((hsame other found hkept).mpr hfound) hkept

theorem Sole.update (hsole : Sole keep table (some (old, id))) (hkeep : keep row) :
    Sole keep (update table id row) (some (row, id)) := by
  refine ⟨getElem?_update_self hsole.1, hkeep, ?_⟩
  intro other found hfound hkept
  by_contra hne
  rw [getElem?_update_of_ne (Ne.symm hne)] at hfound
  exact hne (hsole.2.2 other found hfound hkept)

/-- The one row, rewritten so that it meets the condition no more. -/
theorem Sole.retire (hsole : Sole keep table (some (old, id))) (hkeep : ¬ keep row) :
    Sole keep (Table.update table id row) none := by
  intro other found hfound hkept
  by_cases hid : id = other
  · subst hid
    rw [getElem?_update_self hsole.1] at hfound
    rw [Option.some.inj hfound] at hkeep
    exact hkeep hkept
  · rw [getElem?_update_of_ne hid] at hfound
    exact hid (hsole.2.2 other found hfound hkept).symm

theorem Sole.update_none (hsole : Sole keep table none) (hold : table[id]? = some old)
    (hkeep : ¬ keep row) : Sole keep (Table.update table id row) none := by
  intro other found hfound hkept
  by_cases hid : id = other
  · subst hid
    rw [getElem?_update_self hold] at hfound
    rw [Option.some.inj hfound] at hkeep
    exact hkeep hkept
  · rw [getElem?_update_of_ne hid] at hfound
    exact hsole other found hfound hkept

theorem Sole.append (hsole : Sole keep table none) (hkeep : keep row) :
    Sole keep (table ++ [row]) (some (row, table.length)) := by
  refine ⟨List.getElem?_concat_length, hkeep, ?_⟩
  intro other found hfound hkept
  rcases getElem?_concat_eq_some hfound with hstood | ⟨hid, _⟩
  · exact absurd hkept (hsole other found hstood)
  · exact hid

/-- A table that is rewritten so that the same rows meet a condition. -/
theorem Sole.map {β : Type u} {kept : β → Bool} {change : α → β} (hsole : Sole keep table found)
    (hsame : ∀ row, kept (change row) = keep row) :
    Sole kept (table.map change) (found.map fun row => (change row.1, row.2)) := by
  have hback : ∀ (id : Nat) (row : β), (table.map change)[id]? = some row → kept row →
      ∃ old, table[id]? = some old ∧ keep old := by
    intro id row hrow hkept
    obtain ⟨old, hold, hchange⟩ := Option.map_eq_some_iff.mp ((List.getElem?_map ..).symm.trans hrow)
    rw [← hchange, hsame] at hkept
    exact ⟨old, hold, hkept⟩
  cases found with
  | none =>
      intro id row hrow hkept
      obtain ⟨old, hold, hkeep⟩ := hback id row hrow hkept
      exact hsole id old hold hkeep
  | some =>
      obtain ⟨hrow, hkeep, honly⟩ := hsole
      refine ⟨?_, ?_, ?_⟩
      · rw [List.getElem?_map, hrow]
        rfl
      · rw [hsame]
        exact hkeep
      · intro other found hfound hkept
        obtain ⟨old, hold, hkeep⟩ := hback other found hfound hkept
        exact honly other old hold hkeep

theorem Sole.eq (hsole : Sole keep table found) {rival : α} (hrow : table[id]? = some row)
    (hkeep : keep row) (hrival : table[other]? = some rival) (hkept : keep rival) : id = other := by
  cases found with
  | none => exact absurd hkeep (hsole id row hrow)
  | some =>
      rw [hsole.2.2 id row hrow hkeep, hsole.2.2 other rival hrival hkept]

theorem nodup_eraseDups [BEq α] [LawfulBEq α] (items : List α) : items.eraseDups.Nodup := by
  induction hlength : items.length using Nat.strong_induction_on generalizing items with
  | _ length ih =>
      cases items with
      | nil => exact List.nodup_nil
      | cons =>
          rw [List.eraseDups_cons, List.nodup_cons]
          constructor
          · simp [List.mem_eraseDups]
          · apply ih _ _ _ rfl
            rw [← hlength]
            exact Nat.lt_succ_of_le (List.length_filter_le _ _)

end OpsCure.Table
