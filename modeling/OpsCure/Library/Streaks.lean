/-
Runs of hits at the end of a log.  A counter that is set back by some entries only counts the hits
since the last of them; it tells the length of the last streak exactly when no hit is followed by
anything but hits and what sets it back.
-/
import Mathlib.Data.List.Induction
import Mathlib.Data.List.TakeWhile

namespace Streaks

universe u

variable {α : Type u}

/-- How many hits the log ends with. -/
def streak (hit : α → Bool) (log : List α) : Nat := (log.reverse.takeWhile hit).length

/-- What stands behind the last entry that sets back. -/
def since (resets : α → Bool) (log : List α) : List α :=
  (log.reverse.takeWhile fun entry => !resets entry).reverse

/-- The hits behind the last entry that sets back. -/
def hitsSince (resets hit : α → Bool) (log : List α) : Nat := (since resets log).countP hit

/-- No hit is followed by anything but hits, unless by what sets back. -/
def Unbroken (resets hit : α → Bool) (log : List α) : Prop :=
  ∀ before entry after, log = before ++ entry :: after → hit entry = true →
    (∀ later ∈ after, resets later = false) → ∀ later ∈ after, hit later = true

variable {resets hit : α → Bool}

@[simp]
theorem streak_nil (hit : α → Bool) : streak hit [] = 0 := rfl

@[simp]
theorem hitsSince_nil (resets hit : α → Bool) : hitsSince resets hit [] = 0 := rfl

theorem streak_concat (hit : α → Bool) (log : List α) (entry : α) :
    streak hit (log ++ [entry]) = if hit entry then streak hit log + 1 else 0 := by
  rw [streak, List.reverse_concat, List.takeWhile_cons]
  split
  · rfl
  · rfl

theorem since_concat (resets : α → Bool) (log : List α) (entry : α) :
    since resets (log ++ [entry]) = if resets entry then [] else since resets log ++ [entry] := by
  rw [since, List.reverse_concat, List.takeWhile_cons]
  cases resets entry with
  | true => rfl
  | false => exact List.reverse_cons

theorem hitsSince_concat (resets hit : α → Bool) (log : List α) (entry : α) :
    hitsSince resets hit (log ++ [entry]) =
      if resets entry then 0
      else if hit entry then hitsSince resets hit log + 1 else hitsSince resets hit log := by
  rw [hitsSince, since_concat]
  split
  · rfl
  · rw [List.countP_append, List.countP_singleton]
    split
    · rfl
    · rfl

variable {log after : List α} {entry last : α}

theorem since_append (hafter : ∀ later ∈ after, resets later = false) :
    since resets (log ++ after) = since resets log ++ after := by
  induction after using List.reverseRecOn with
  | nil => rw [List.append_nil, List.append_nil]
  | append_singleton after last ih =>
      have hlast : resets last = false := hafter last (List.mem_append_right after (by simp))
      have hrest := ih fun later hlater => hafter later (List.mem_append_left [last] hlater)
      rw [← List.append_assoc, since_concat, hlast, hrest, List.append_assoc]
      rfl

theorem since_mem (hmem : entry ∈ since resets log) : resets entry = false := by
  have hkept := List.mem_takeWhile_imp (List.mem_reverse.mp hmem)
  simpa using hkept

theorem exists_since (resets : α → Bool) (log : List α) :
    ∃ before, log = before ++ since resets log := by
  refine ⟨(log.reverse.dropWhile fun entry => !resets entry).reverse, ?_⟩
  rw [since, ← List.reverse_append, List.takeWhile_append_dropWhile, List.reverse_reverse]

theorem append_cons_eq_concat {before : List α} (hlog : log ++ [last] = before ++ entry :: after) :
    (after = [] ∧ entry = last) ∨
      ∃ more, after = more ++ [last] ∧ log = before ++ entry :: more := by
  rcases List.eq_nil_or_concat after with rfl | ⟨more, other, rfl⟩
  · obtain ⟨-, hsame⟩ := List.append_inj' hlog rfl
    exact Or.inl ⟨rfl, (List.cons.inj hsame).1.symm⟩
  · rw [List.concat_eq_append] at hlog ⊢
    have hmoved : log ++ [last] = (before ++ entry :: more) ++ [other] := by
      rw [hlog, List.append_assoc]
      rfl
    obtain ⟨hrest, hsame⟩ := List.append_inj' hmoved rfl
    rw [(List.cons.inj hsame).1]
    exact Or.inr ⟨more, rfl, hrest⟩

theorem hit_mem_since (hapart : ∀ entry, hit entry = true → resets entry = false)
    {before : List α} (hhit : hit entry = true) (hafter : ∀ later ∈ after, resets later = false) :
    entry ∈ since resets (before ++ entry :: after) := by
  have hlater : ∀ later ∈ entry :: after, resets later = false := by
    intro later hmem
    rcases List.mem_cons.mp hmem with rfl | hrest
    · exact hapart later hhit
    · exact hafter later hrest
  rw [since_append hlater]
  exact List.mem_append_right _ List.mem_cons_self

theorem forall_mem_concat {P : α → Prop} (hlog : ∀ entry ∈ log, P entry) (hlast : P last) :
    ∀ entry ∈ log ++ [last], P entry := by
  intro entry hmem
  rcases List.mem_append.mp hmem with hhere | hhere
  · exact hlog entry hhere
  · rw [List.mem_singleton.mp hhere]
    exact hlast

theorem unbroken_nil (resets hit : α → Bool) : Unbroken resets hit [] := by
  intro before entry after hlog
  exact absurd hlog.symm (List.append_ne_nil_of_right_ne_nil _ (List.cons_ne_nil _ _))

theorem unbroken_concat_reset (hresets : resets last = true) (hmiss : hit last = false) :
    Unbroken resets hit (log ++ [last]) := by
  intro before entry after hlog hhit hafter
  rcases append_cons_eq_concat hlog with ⟨-, rfl⟩ | ⟨more, rfl, -⟩
  · rw [hmiss] at hhit
    cases hhit
  · rw [hafter last (List.mem_append_right more List.mem_cons_self)] at hresets
    cases hresets

theorem unbroken_concat_hit (hkeeps : resets last = false) (hlast : hit last = true) :
    Unbroken resets hit (log ++ [last]) ↔ Unbroken resets hit log := by
  constructor
  · intro hunbroken before entry after hlog hhit hafter later hlater
    have hlonger : log ++ [last] = before ++ entry :: (after ++ [last]) := by
      rw [hlog, List.append_assoc]
      rfl
    exact hunbroken before entry _ hlonger hhit (forall_mem_concat hafter hkeeps) later
      (List.mem_append_left [last] hlater)
  · intro hunbroken before entry after hlog hhit hafter
    rcases append_cons_eq_concat hlog with ⟨rfl, -⟩ | ⟨more, rfl, hrest⟩
    · exact fun later hlater => absurd hlater List.not_mem_nil
    · have hmore := hunbroken before entry more hrest hhit fun later hlater =>
        hafter later (List.mem_append_left [last] hlater)
      exact forall_mem_concat hmore hlast

theorem unbroken_concat_miss (hapart : ∀ entry, hit entry = true → resets entry = false)
    (hkeeps : resets last = false) (hmiss : hit last = false) :
    Unbroken resets hit (log ++ [last]) ↔ ∀ entry ∈ since resets log, ¬ hit entry = true := by
  constructor
  · intro hunbroken entry hmem hhit
    obtain ⟨before, hbefore⟩ := exists_since resets log
    obtain ⟨start, after, hsplit⟩ := List.append_of_mem hmem
    have hlog : log ++ [last] = (before ++ start) ++ entry :: (after ++ [last]) := by
      rw [hbefore, hsplit]
      simp
    have hafter : ∀ later ∈ after, resets later = false := by
      intro later hlater
      have hhere : later ∈ since resets log := by
        rw [hsplit]
        exact List.mem_append_right start (List.mem_cons_of_mem entry hlater)
      exact since_mem hhere
    have hhits := hunbroken _ entry _ hlog hhit (forall_mem_concat hafter hkeeps) last
      (List.mem_append_right after List.mem_cons_self)
    rw [hmiss] at hhits
    cases hhits
  · intro hnone before entry after hlog hhit hafter
    rcases append_cons_eq_concat hlog with ⟨-, rfl⟩ | ⟨more, rfl, rfl⟩
    · rw [hmiss] at hhit
      cases hhit
    · have hmore : ∀ later ∈ more, resets later = false := fun later hlater =>
        hafter later (List.mem_append_left [last] hlater)
      exact absurd hhit (hnone entry (hit_mem_since hapart hhit hmore))

theorem hitsSince_eq_streak_iff (hapart : ∀ entry, hit entry = true → resets entry = false)
    (log : List α) : hitsSince resets hit log = streak hit log ↔ Unbroken resets hit log := by
  induction log using List.reverseRecOn with
  | nil => exact iff_of_true rfl (unbroken_nil resets hit)
  | append_singleton log last ih =>
      rw [hitsSince_concat, streak_concat]
      cases hhit : hit last with
      | true =>
          have hkeeps := hapart last hhit
          rw [hkeeps, unbroken_concat_hit hkeeps hhit, ← ih]
          exact Nat.add_right_cancel_iff
      | false =>
          cases hresets : resets last with
          | true => exact iff_of_true rfl (unbroken_concat_reset hresets hhit)
          | false =>
              rw [unbroken_concat_miss hapart hresets hhit]
              exact List.countP_eq_zero

end Streaks
