/-
Escalation by levels.  A thing that is idle is warned level by level up to the last one, at which it
is finished.  A pass takes it from the level it has been warned of to the level it has reached, over
all levels between.  Passes absorb one another: those at lower levels leave no trace behind one at a
higher level.
-/
import Mathlib.Data.List.Basic
import Mathlib.Data.List.Range

namespace OpsCure.Escalation

universe u v

structure Ladder (X : Type u) where
  top : Nat
  count : X → Nat
  warn : X → Nat → X
  finish : X → X
  count_warn : ∀ x level, count (warn x level) = level
  count_finish : ∀ x, count (finish x) = top

def levels (top count tier : Nat) : List Nat :=
  (List.range' 1 (min tier (top - 1))).filter (count < ·)

def Ladder.warned {X : Type u} (ladder : Ladder X) (tier : Nat) (x : X) : X :=
  (levels ladder.top (ladder.count x) tier).foldl ladder.warn x

/-- A pass at a level. -/
def Ladder.advance {X : Type u} (ladder : Ladder X) (tier : Nat) (x : X) : X :=
  if ladder.count x < tier then
    if tier = ladder.top then ladder.finish (ladder.warned tier x) else ladder.warned tier x
  else x

section Levels

variable {top count tier between : Nat}

theorem levels_eq (top count tier : Nat) :
    levels top count tier = List.range' (count + 1) (min tier (top - 1) - count) := by
  rw [levels]
  generalize min tier (top - 1) = last
  induction last with
  | zero => simp
  | succ last ih =>
      rw [List.range'_concat, List.filter_append, ih]
      by_cases hlater : count < last + 1
      · have hmore : last + 1 - count = last - count + 1 := by omega
        have hnext : count + 1 + (last - count) = 1 + last := by omega
        rw [hmore, List.range'_concat]
        simp [hnext, Nat.add_comm, hlater]
      · have hnone : last + 1 - count = last - count := by omega
        rw [hnone]
        simp [Nat.add_comm, hlater]

theorem levels_sublist (top count tier : Nat) :
    (levels top count tier).Sublist (List.range' 1 (top - 1)) := by
  have hlevels : (levels top count tier).Sublist (List.range' 1 (min tier (top - 1))) :=
    List.filter_sublist
  apply hlevels.trans
  have hall : List.range' 1 (top - 1) = List.range' 1 (min tier (top - 1)) ++
      List.range' (1 + min tier (top - 1)) (top - 1 - min tier (top - 1)) := by
    rw [List.range'_append_1]
    congr 1
    omega
  rw [hall]
  exact List.sublist_append_left _ _

theorem levels_append (hcount : count ≤ between) (hbelow : between < top) (htier : between ≤ tier) :
    levels top count between ++ levels top between tier = levels top count tier := by
  rw [levels_eq, levels_eq, levels_eq]
  have hfirst : min between (top - 1) - count = between - count := by omega
  have hstart : between + 1 = count + 1 + (between - count) := by omega
  have hlength : min tier (top - 1) - count =
      (between - count) + (min tier (top - 1) - between) := by omega
  rw [hfirst, hstart, hlength, List.range'_append_1]

end Levels

section Advance

variable {X : Type u} (ladder : Ladder X) {x : X} {tier between : Nat}

theorem advance_of_le (hreached : tier ≤ ladder.count x) : ladder.advance tier x = x :=
  if_neg (Nat.not_lt.mpr hreached)

theorem count_warned (hbelow : ladder.count x < tier) (htop : tier < ladder.top) :
    ladder.count (ladder.warned tier x) = tier := by
  have hlast : min tier (ladder.top - 1) - ladder.count x =
      (tier - ladder.count x - 1) + 1 := by omega
  have htier : ladder.count x + 1 + (tier - ladder.count x - 1) = tier := by omega
  rw [Ladder.warned, levels_eq, hlast, List.range'_concat, List.foldl_append, List.foldl_cons,
    List.foldl_nil, ladder.count_warn, Nat.one_mul, htier]

theorem count_advance (htop : tier ≤ ladder.top) :
    ladder.count (ladder.advance tier x) = max (ladder.count x) tier := by
  by_cases hbelow : ladder.count x < tier
  · rw [Nat.max_eq_right hbelow.le, Ladder.advance, if_pos hbelow]
    by_cases hfinal : tier = ladder.top
    · rw [if_pos hfinal, ladder.count_finish, hfinal]
    · rw [if_neg hfinal]
      exact count_warned ladder hbelow (Nat.lt_of_le_of_ne htop hfinal)
  · rw [advance_of_le ladder (Nat.not_lt.mp hbelow), Nat.max_eq_left (Nat.not_lt.mp hbelow)]

theorem advance_advance (hbetween : between ≤ tier) (htop : tier ≤ ladder.top) :
    ladder.advance tier (ladder.advance between x) = ladder.advance tier x := by
  by_cases hbelow : ladder.count x < between
  · have hcount := count_advance ladder (x := x) (hbetween.trans htop)
    rw [Nat.max_eq_right hbelow.le] at hcount
    by_cases hsame : between = tier
    · rw [hsame] at hcount ⊢
      exact advance_of_le ladder hcount.ge
    · have hless : between < tier := Nat.lt_of_le_of_ne hbetween hsame
      have hmiddle : between < ladder.top := hless.trans_le htop
      have hpass : ladder.advance between x = ladder.warned between x := by
        rw [Ladder.advance, if_pos hbelow, if_neg hmiddle.ne]
      have hwarned : ladder.warned tier (ladder.advance between x) = ladder.warned tier x := by
        rw [Ladder.warned, hcount, hpass, Ladder.warned, ← List.foldl_append,
          levels_append hbelow.le hmiddle hbetween]
        rfl
      have hafter : ladder.count (ladder.advance between x) < tier := by
        rw [hcount]
        exact hless
      rw [Ladder.advance, if_pos hafter, hwarned, Ladder.advance, if_pos (hbelow.trans hless)]
  · rw [advance_of_le ladder (x := x) (Nat.not_lt.mp hbelow)]

theorem apply_warned {Y : Type v} (view : X → Y)
    (hwarn : ∀ y level, view (ladder.warn y level) = view y) (tier : Nat) (x : X) :
    view (ladder.warned tier x) = view x := by
  rw [Ladder.warned]
  generalize levels ladder.top (ladder.count x) tier = all
  induction all generalizing x with
  | nil => rfl
  | cons level all ih => rw [List.foldl_cons, ih, hwarn]

theorem advance_of_count_eq_top (hdone : ladder.count x = ladder.top) (htop : tier ≤ ladder.top) :
    ladder.advance tier x = x := by
  apply advance_of_le
  rw [hdone]
  exact htop

end Advance

section Schedule

variable {X : Type u} {T : Type v} (ladder : Ladder X) (reached : T → X → Nat)

/-- A pass at a time, whose level is read off the thing itself. -/
def Ladder.sweep (time : T) (x : X) : X :=
  ladder.advance (reached time x) x

/-- Levels end at the last one, and a warning does not change which are reached. -/
structure Ladder.Steady : Prop where
  reached_le : ∀ time x, reached time x ≤ ladder.top
  reached_warn : ∀ time x level, reached time (ladder.warn x level) = reached time x

variable {ladder reached}

theorem Ladder.Steady.sweep_sweep (hsteady : ladder.Steady reached) {earlier later : T} {x : X}
    (hmore : reached earlier x ≤ reached later x) :
    ladder.sweep reached later (ladder.sweep reached earlier x) = ladder.sweep reached later x := by
  have hlater := hsteady.reached_le later x
  have hearlier := hsteady.reached_le earlier x
  by_cases hbelow : ladder.count x < reached earlier x
  · by_cases hfinal : reached earlier x = ladder.top
    · -- finished: no level is left, and the later pass finishes as well
      have hend : reached later x = reached earlier x := by omega
      have hcount : ladder.count (ladder.sweep reached earlier x) = ladder.top := by
        rw [Ladder.sweep, count_advance ladder hearlier]
        omega
      rw [Ladder.sweep, advance_of_count_eq_top ladder hcount (hsteady.reached_le _ _)]
      rw [Ladder.sweep, Ladder.sweep, hend]
    · have hpass : ladder.sweep reached earlier x = ladder.warned (reached earlier x) x := by
        rw [Ladder.sweep, Ladder.advance, if_pos hbelow, if_neg hfinal]
      have hsame : reached later (ladder.sweep reached earlier x) = reached later x := by
        rw [hpass]
        exact apply_warned ladder (reached later) (hsteady.reached_warn later) _ x
      rw [Ladder.sweep, hsame]
      exact advance_advance ladder hmore hlater
  · have hnothing : ladder.sweep reached earlier x = x :=
      advance_of_le ladder (Nat.not_lt.mp hbelow)
    rw [hnothing]

theorem apply_sweep {Y : Type v} (view : X → Y)
    (hwarn : ∀ y level, view (ladder.warn y level) = view y)
    (hfinish : ∀ y, view (ladder.finish y) = view y) (time : T) (x : X) :
    view (ladder.sweep reached time x) = view x := by
  rw [Ladder.sweep, Ladder.advance]
  split_ifs
  · rw [hfinish, apply_warned ladder view hwarn]
  · exact apply_warned ladder view hwarn _ x
  · rfl

theorem Ladder.Steady.sweep_foldl (hsteady : ladder.Steady reached) {P : X → Prop}
    (hkeeps : ∀ time x, P x → P (ladder.sweep reached time x)) {times : List T} {last : T}
    (hbefore : ∀ time ∈ times, ∀ x, P x → reached time x ≤ reached last x) {x : X} (hx : P x) :
    ladder.sweep reached last (times.foldl (fun y time => ladder.sweep reached time y) x) =
      ladder.sweep reached last x := by
  induction times generalizing x with
  | nil => rfl
  | cons time times ih =>
      have hlater := ih (fun other hother => hbefore other (List.mem_cons_of_mem time hother))
        (hkeeps time x hx)
      rw [List.foldl_cons, hlater]
      exact hsteady.sweep_sweep (hbefore time List.mem_cons_self x hx)

end Schedule

end OpsCure.Escalation
