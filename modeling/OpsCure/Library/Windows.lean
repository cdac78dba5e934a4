/-
Windows on a log.  A query reads the first entries of a log up to a limit, where the last ones may
be meant, and counts or filters what it has read.  What is said of the window holds of the whole
log when nothing that counts lies behind the limit.
-/
import Mathlib.Algebra.BigOperators.Group.List.Basic
import Mathlib.Data.List.DropRight
import Mathlib.Data.List.Nodup
import Mathlib.Algebra.GroupWithZero.Nat

namespace OpsCure.Windows

universe u v

section Counting

variable {α : Type u}

theorem countP_eq_iff_of_imp {strict loose : α → Bool} {log : List α}
    (himp : ∀ entry ∈ log, strict entry = true → loose entry = true) :
    log.countP strict = log.countP loose ↔
      ∀ entry ∈ log, loose entry = true → strict entry = true := by
  induction log with
  | nil => simp
  | cons entry log ih =>
      have hrest := ih fun other hother => himp other (List.mem_cons_of_mem entry hother)
      have hle : log.countP strict ≤ log.countP loose :=
        List.countP_mono_left fun other hother => himp other (List.mem_cons_of_mem entry hother)
      have hhere := himp entry List.mem_cons_self
      rw [List.forall_mem_cons, ← hrest, List.countP_cons, List.countP_cons]
      cases hstrict : strict entry with
      | true =>
          rw [hhere hstrict]
          simp
      | false =>
          cases hloose : loose entry with
          | true =>
              simp only [Bool.false_eq_true, if_false, if_true]
              constructor
              · intro hsame
                omega
              · rintro ⟨habsurd, _⟩
                exact absurd (habsurd trivial) (by decide)
          | false => simp

theorem length_take_eq_iff {log : List α} {limit : Nat} :
    (log.take limit).length = log.length ↔ log.length ≤ limit := by
  rw [List.length_take]
  omega

end Counting

section Tail

variable {α : Type u} {front back : List α} {n : Nat}

theorem eq_nil_of_rtake_subset (hnodup : (front ++ back).Nodup) (hpos : n ≠ 0)
    (hsub : (front ++ back).rtake n ⊆ front) : back = [] := by
  rcases List.eq_nil_or_concat back with hnil | ⟨before, last, rfl⟩
  · exact hnil
  · obtain ⟨count, rfl⟩ := Nat.exists_eq_succ_of_ne_zero hpos
    rw [List.concat_eq_append, ← List.append_assoc, Nat.succ_eq_add_one,
      List.rtake_concat_succ] at hsub
    have hfront : last ∈ front := hsub (List.mem_append_right _ List.mem_cons_self)
    have hback : last ∈ before.concat last := by simp
    exact absurd rfl ((List.nodup_append.mp hnodup).2.2 last hfront last hback)

theorem rtake_front_iff (hnodup : (front ++ back).Nodup) :
    front.rtake n = (front ++ back).rtake n ↔ n = 0 ∨ back = [] := by
  constructor
  · intro hsame
    by_cases hzero : n = 0
    · exact Or.inl hzero
    · right
      apply eq_nil_of_rtake_subset hnodup hzero
      rw [← hsame]
      exact List.drop_subset _ _
  · rintro (rfl | rfl)
    · rw [List.rtake_zero, List.rtake_zero]
    · rw [List.append_nil]

theorem front_eq_rtake_iff (hnodup : (front ++ back).Nodup) (hfits : n ≠ 0 → front.length ≤ n) :
    front = (front ++ back).rtake n ↔ if n = 0 then front = [] else back = [] := by
  by_cases hzero : n = 0
  · rw [if_pos hzero, hzero, List.rtake_zero]
  · rw [if_neg hzero]
    constructor
    · intro hsame
      apply eq_nil_of_rtake_subset hnodup hzero
      rw [← hsame]
      exact List.Subset.refl front
    · rintro rfl
      rw [List.append_nil, List.rtake, Nat.sub_eq_zero_of_le (hfits hzero)]
      rfl

end Tail

section Latest

variable {α : Type u} {β : Type v}

def Latest (reads : α → Option β) (window : List α) (told : β) : Prop :=
  ∃ before entry after, window = before ++ entry :: after ∧ reads entry = some told ∧
    ∀ later ∈ after, reads later = none

theorem findSome?_reverse_eq_some_iff {reads : α → Option β} {window : List α} {told : β} :
    window.reverse.findSome? reads = some told ↔ Latest reads window told := by
  rw [List.findSome?_eq_some_iff]
  constructor
  · rintro ⟨after, entry, before, hwindow, htold, hnone⟩
    refine ⟨before.reverse, entry, after.reverse, ?_, htold, ?_⟩
    · rw [← List.reverse_reverse window, hwindow]
      simp
    · intro later hlater
      exact hnone later (List.mem_reverse.mp hlater)
  · rintro ⟨before, entry, after, rfl, htold, hnone⟩
    refine ⟨after.reverse, entry, before.reverse, by simp, htold, ?_⟩
    intro later hlater
    exact hnone later (List.mem_reverse.mp hlater)

theorem findSome?_reverse_eq_iff {reads : α → Option β} {window other : List α} :
    window.reverse.findSome? reads = other.reverse.findSome? reads ↔
      ∀ told, Latest reads window told ↔ Latest reads other told := by
  simp only [← findSome?_reverse_eq_some_iff]
  exact Option.ext_iff

end Latest

section Sums

variable {α : Type u} {β : Type v} [DecidableEq β]

theorem sum_map_key (weight : β → Nat) (key : α → β) {ids : List β} (hnodup : ids.Nodup)
    (rows : List α) (hkeys : ∀ row ∈ rows, key row ∈ ids) :
    (rows.map fun row => weight (key row)).sum =
      (ids.map fun id => rows.countP (fun row => key row = id) * weight id).sum := by
  induction rows with
  | nil => simp
  | cons row rows ih =>
      have hrest := ih fun other hother => hkeys other (List.mem_cons_of_mem row hother)
      have hone : (ids.map fun id => if id = key row then weight id else 0).sum =
          weight (key row) := by
        rw [List.sum_map_eq_nsmul_single (key row) _ fun other hother _ => if_neg hother,
          List.count_eq_one_of_mem hnodup (hkeys row List.mem_cons_self), if_pos rfl, one_nsmul]
      rw [List.map_cons, List.sum_cons, hrest, ← hone, ← List.sum_map_add]
      congr 1
      apply List.map_congr_left
      intro id _
      rw [List.countP_cons]
      by_cases hkey : key row = id
      · simp [hkey, Nat.add_mul, Nat.add_comm]
      · simp [hkey, Ne.symm hkey]

end Sums

end OpsCure.Windows
