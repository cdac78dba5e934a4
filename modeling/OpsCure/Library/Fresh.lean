/-
The first name that is free.  A name is tried, and then numbered ones; where the numbered ones
all differ, one of them is free after as many as there are used ones.
-/
import Mathlib.Data.List.Perm.Subperm
import Mathlib.Data.List.Nodup
import Mathlib.Tactic.Common

namespace Fresh

universe u v

variable {α : Type u} {κ : Type v} [DecidableEq κ]

/-- The first of the names that has no used key; numbers count from two. -/
def firstFree (key : α → κ) (used : List κ) (first : α) (numbered : Nat → α) : α :=
  if key first ∉ used then first
  else (((List.range (used.length + 1)).map fun i => numbered (i + 2)).find?
    fun name => key name ∉ used).getD first

theorem exists_free {names : Nat → κ} (hinj : Function.Injective names) (used : List κ) :
    ∃ i < used.length + 1, names i ∉ used := by
  by_contra hall
  push Not at hall
  have hnodup : ((List.range (used.length + 1)).map names).Nodup :=
    List.nodup_range.map hinj
  have hsubset : (List.range (used.length + 1)).map names ⊆ used := by
    intro name hname
    obtain ⟨i, hi, rfl⟩ := List.mem_map.mp hname
    exact hall i (List.mem_range.mp hi)
  have hle := (List.subperm_of_subset hnodup hsubset).length_le
  rw [List.length_map, List.length_range] at hle
  omega

theorem key_firstFree {key : α → κ} {used : List κ} {first : α} {numbered : Nat → α}
    (hinj : Function.Injective fun i => key (numbered i)) :
    key (firstFree key used first numbered) ∉ used := by
  unfold firstFree
  split
  next hfree => exact hfree
  next =>
    have hshifted : Function.Injective fun i => key (numbered (i + 2)) := by
      intro i j hsame
      have hnumbers : i + 2 = j + 2 := hinj hsame
      omega
    obtain ⟨i, hi, hfree⟩ := exists_free hshifted used
    cases hfound : ((List.range (used.length + 1)).map fun i => numbered (i + 2)).find?
        fun name => key name ∉ used with
    | some => simpa using List.find?_some hfound
    | none =>
        have htaken := List.find?_eq_none.mp hfound (numbered (i + 2))
          (List.mem_map.mpr ⟨i, List.mem_range.mpr hi, rfl⟩)
        exact absurd hfree (by simpa using htaken)

end Fresh
