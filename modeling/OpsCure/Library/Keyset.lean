/-
Keyset paging: rows read in the order of a key, a page at a time, each page beginning where
the key of the last row read left off.
-/
import Mathlib.Data.List.Sort
import Mathlib.Tactic.Common

namespace OpsCure.Keyset

universe u v

variable {α : Type u} {K : Type v} [LinearOrder K] (key : α → K)

/-- The rows in the order of their keys. -/
def ascending (rows : List α) : List α :=
  rows.insertionSort fun left right => key left ≤ key right

def descending (rows : List α) : List α :=
  rows.insertionSort fun left right => key right ≤ key left

/-- The row comes after the place a cursor marks; without a cursor every row does. -/
def isAfter (cursor : Option K) (row : α) : Bool :=
  match cursor with
  | none => true
  | some place => place < key row

def ahead (rows : List α) (cursor : Option K) : List α :=
  (ascending key rows).filter (isAfter key cursor)

variable {key}

variable {rows : List α}

@[simp]
theorem mem_ascending {row : α} : row ∈ ascending key rows ↔ row ∈ rows :=
  List.mem_insertionSort _

@[simp]
theorem mem_ahead {cursor : Option K} {row : α} :
    row ∈ ahead key rows cursor ↔ row ∈ rows ∧ isAfter key cursor row := by
  rw [ahead, List.mem_filter, mem_ascending]

theorem perm_ascending (rows : List α) : (ascending key rows).Perm rows :=
  List.perm_insertionSort _ rows

theorem length_ascending (rows : List α) : (ascending key rows).length = rows.length :=
  List.length_insertionSort _ rows

theorem pairwise_ascending (hnodup : (rows.map key).Nodup) :
    (ascending key rows).Pairwise fun left right => key left < key right := by
  have hsorted : (ascending key rows).Pairwise fun left right => key left ≤ key right := by
    have : Std.Total (fun left right : α => key left ≤ key right) :=
      ⟨fun left right => le_total _ _⟩
    have : IsTrans α (fun left right : α => key left ≤ key right) :=
      ⟨fun _ _ _ hleft hright => le_trans hleft hright⟩
    exact List.pairwise_insertionSort _ rows
  have hkeys : (ascending key rows).Pairwise fun left right => key left ≠ key right := by
    have hperm : ((ascending key rows).map key).Nodup :=
      ((perm_ascending rows).map key).nodup_iff.mpr hnodup
    exact List.pairwise_map.mp hperm
  exact (hsorted.and hkeys).imp fun hboth => lt_of_le_of_ne hboth.1 hboth.2

theorem pairwise_ahead (hnodup : (rows.map key).Nodup) (cursor : Option K) :
    (ahead key rows cursor).Pairwise fun left right => key left < key right :=
  (pairwise_ascending hnodup).filter _

theorem ascending_filter (hnodup : (rows.map key).Nodup) (keep : α → Bool) :
    ascending key (rows.filter keep) = (ascending key rows).filter keep := by
  have hkept : ((rows.filter keep).map key).Nodup :=
    (List.filter_sublist.map key).nodup hnodup
  have hperm : (ascending key (rows.filter keep)).Perm ((ascending key rows).filter keep) :=
    (perm_ascending _).trans ((perm_ascending rows).filter keep).symm
  apply hperm.eq_of_pairwise _ ((pairwise_ascending hkept).imp le_of_lt)
    (((pairwise_ascending hnodup).filter keep).imp le_of_lt)
  intro left right hleft hright hle hge
  have hmem : left ∈ rows := List.mem_of_mem_filter (mem_ascending.1 hleft)
  have hother : right ∈ rows := mem_ascending.1 (List.mem_of_mem_filter hright)
  exact List.inj_on_of_nodup_map hnodup hmem hother (le_antisymm hle hge)

theorem insertionSort_eq_ascending {before : α → α → Prop} [DecidableRel before]
    (hbefore : ∀ left right, before left right ↔ key left ≤ key right) (rows : List α) :
    rows.insertionSort before = ascending key rows := by
  have hsame : before = fun left right => key left ≤ key right := by
    funext left right
    exact propext (hbefore left right)
  subst hsame
  unfold ascending
  congr

theorem reverse_take_descending (hnodup : (rows.map key).Nodup) (limit : Nat) :
    ((descending key rows).take limit).reverse =
      (ascending key rows).drop (rows.length - limit) := by
  have hsame : (descending key rows).reverse = ascending key rows := by
    have hperm : ((descending key rows).reverse).Perm (ascending key rows) :=
      (List.reverse_perm _).trans
        ((List.perm_insertionSort _ rows).trans (perm_ascending rows).symm)
    have hdescending : (descending key rows).Pairwise fun left right => key right ≤ key left := by
      have : Std.Total (fun left right : α => key right ≤ key left) :=
        ⟨fun left right => le_total _ _⟩
      have : IsTrans α (fun left right : α => key right ≤ key left) :=
        ⟨fun _ _ _ hleft hright => le_trans hright hleft⟩
      exact List.pairwise_insertionSort _ rows
    have hascending := pairwise_ascending hnodup
    apply hperm.eq_of_pairwise _ (List.pairwise_reverse.mpr hdescending)
      (hascending.imp le_of_lt)
    intro left right hleft hright hle hge
    have hmem : left ∈ rows := mem_ascending.1 (hperm.mem_iff.mp hleft)
    exact List.inj_on_of_nodup_map hnodup hmem (mem_ascending.1 hright) (le_antisymm hle hge)
  rw [List.reverse_take, hsame, descending, List.length_insertionSort]

theorem filter_append_filter {keep : α → Bool}
    (hup : rows.Pairwise fun left right => keep left → keep right) :
    rows.filter (fun row => ! keep row) ++ rows.filter keep = rows := by
  induction rows with
  | nil => rfl
  | cons row rows ih =>
      rw [List.pairwise_cons] at hup
      by_cases hrow : keep row
      · have hall : ∀ other ∈ rows, keep other := fun other hother => hup.1 other hother hrow
        have hnone : rows.filter (fun other => ! keep other) = [] := by
          rw [List.filter_eq_nil_iff]
          intro other hother
          simp [hall other hother]
        rw [List.filter_cons_of_neg (by simp [hrow]), List.filter_cons_of_pos hrow, hnone,
          List.filter_eq_self.mpr hall]
        rfl
      · rw [List.filter_cons_of_pos (by simp [hrow]), List.filter_cons_of_neg hrow,
          List.cons_append, ih hup.2]

/-- A page that is fetched from a coarser place than the cursor's: the rows up to the cursor
come first and take their part of it. -/
theorem page_after {coarse : α → Bool} (hnodup : (rows.map key).Nodup) (cursor : Option K)
    (hcoarse : ∀ row, isAfter key cursor row → coarse row) (limit : Nat) :
    (((ascending key rows).filter coarse).take limit).filter (isAfter key cursor) =
      (ahead key rows cursor).take
        (limit - rows.countP fun row => coarse row && ! isAfter key cursor row) := by
  have hup : ((ascending key rows).filter coarse).Pairwise
      fun left right => isAfter key cursor left → isAfter key cursor right := by
    apply ((pairwise_ascending hnodup).filter coarse).imp
    intro left right hless
    cases cursor with
    | none => exact id
    | some =>
        intro hleft
        exact decide_eq_true (lt_trans (of_decide_eq_true hleft) hless)
  have hahead : ((ascending key rows).filter coarse).filter (isAfter key cursor) =
      ahead key rows cursor := by
    rw [List.filter_filter, ahead]
    apply List.filter_congr
    intro row _
    cases hrow : isAfter key cursor row with
    | false => rfl
    | true => rw [hcoarse row hrow]; rfl
  have hcount : (((ascending key rows).filter coarse).filter
      fun row => ! isAfter key cursor row).length =
        rows.countP fun row => coarse row && ! isAfter key cursor row := by
    rw [List.filter_filter, ← List.countP_eq_length_filter, (perm_ascending rows).countP_eq]
    apply List.countP_congr
    intro row _
    rw [Bool.and_comm]
  have hsplit := filter_append_filter hup
  rw [hahead] at hsplit
  rw [← hsplit, List.take_append, hcount, List.filter_append]
  have hnone : ((((ascending key rows).filter coarse).filter
      fun row => ! isAfter key cursor row).take limit).filter (isAfter key cursor) = [] := by
    rw [List.filter_eq_nil_iff]
    intro row hrow hafter
    have hnot := (List.mem_filter.mp (List.mem_of_mem_take hrow)).2
    rw [hafter] at hnot
    cases hnot
  have hall : ((ahead key rows cursor).take
      (limit - rows.countP fun row => coarse row && ! isAfter key cursor row)).filter
        (isAfter key cursor) = (ahead key rows cursor).take
          (limit - rows.countP fun row => coarse row && ! isAfter key cursor row) := by
    rw [List.filter_eq_self]
    intro row hrow
    exact (mem_ahead.1 (List.mem_of_mem_take hrow)).2
  rw [hnone, hall, List.nil_append]

theorem ahead_of_split (hnodup : (rows.map key).Nodup) {cursor : Option K} {front back : List α}
    {last : α} (hsplit : ahead key rows cursor = front ++ last :: back) :
    ahead key rows (some (key last)) = back := by
  have hlast : isAfter key cursor last := by
    have hmem : last ∈ ahead key rows cursor := by
      rw [hsplit]
      exact List.mem_append_right front List.mem_cons_self
    exact (mem_ahead.1 hmem).2
  have hagain : ahead key rows (some (key last)) =
      (ahead key rows cursor).filter (isAfter key (some (key last))) := by
    rw [ahead, ahead, List.filter_filter]
    apply List.filter_congr
    intro row _
    cases hrow : isAfter key (some (key last)) row with
    | false => rfl
    | true =>
        cases cursor with
        | none => rfl
        | some =>
            have hless := lt_trans (of_decide_eq_true hlast) (of_decide_eq_true hrow)
            exact (decide_eq_true hless).symm
  have hpairwise := pairwise_ahead hnodup cursor
  rw [hsplit, List.pairwise_append, List.pairwise_cons] at hpairwise
  obtain ⟨_, ⟨hback, _⟩, hfront⟩ := hpairwise
  rw [hagain, hsplit, List.filter_append]
  have hnone : front.filter (isAfter key (some (key last))) = [] := by
    rw [List.filter_eq_nil_iff]
    intro row hrow hafter
    exact lt_asymm (of_decide_eq_true hafter) (hfront row hrow last List.mem_cons_self)
  have hself : isAfter key (some (key last)) last = false :=
    decide_eq_false (lt_irrefl _)
  have hall : back.filter (isAfter key (some (key last))) = back := by
    rw [List.filter_eq_self]
    intro row hrow
    exact decide_eq_true (hback row hrow)
  rw [hnone, List.filter_cons_of_neg (by rw [hself]; exact Bool.false_ne_true), hall,
    List.nil_append]

end OpsCure.Keyset
