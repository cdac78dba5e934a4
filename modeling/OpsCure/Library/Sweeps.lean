/-
Sweeps with a limit.  A sweep looks at the first `limit` candidates of a store, takes out those that
are due and leaves the others where they are.  It returns how many it took.  Repeated until it
returns zero it ends, and what it cannot have cleared is what lies behind `limit` candidates that are
not due.
-/
import Mathlib.Data.List.Basic
import Mathlib.Order.Monotone.Basic

namespace OpsCure.Sweeps

universe u v w

section Takes

variable {ρ : Type u} {τ : Type v}

/-- Of the rows that are looked at, those that are kept, and how many are taken.  A sweep may read
its clock anew for each row. -/
inductive Takes (due : τ → ρ → Bool) (clock : Nat → τ) : List ρ → List ρ → Nat → Prop where
  | nil : Takes due clock [] [] 0
  | take {row : ρ} {rows kept : List ρ} {count : Nat} (reading : Nat)
      (hdue : due (clock reading) row = true) (hrest : Takes due clock rows kept count) :
      Takes due clock (row :: rows) kept (count + 1)
  | keep {row : ρ} {rows kept : List ρ} {count : Nat} (reading : Nat)
      (hwaits : due (clock reading) row = false) (hrest : Takes due clock rows kept count) :
      Takes due clock (row :: rows) (row :: kept) count

variable {due : τ → ρ → Bool} {clock : Nat → τ} {rows kept : List ρ} {count : Nat}

theorem Takes.length (htakes : Takes due clock rows kept count) :
    count + kept.length = rows.length := by
  induction htakes with
  | nil => rfl
  | take reading hdue hrest ih =>
      rw [List.length_cons]
      omega
  | keep reading hwaits hrest ih =>
      rw [List.length_cons, List.length_cons]
      omega

theorem Takes.kept_of_zero (htakes : Takes due clock rows kept count) (hzero : count = 0) :
    kept = rows := by
  induction htakes with
  | nil => rfl
  | take => cases hzero
  | keep reading hwaits hrest ih => rw [ih hzero]

theorem takes_filter (due : τ → ρ → Bool) (clock : Nat → τ) (rows : List ρ) :
    Takes due clock rows (rows.filter fun row => !due (clock 0) row)
      (rows.countP (due (clock 0))) := by
  induction rows with
  | nil => exact .nil
  | cons row rows ih =>
      cases hdue : due (clock 0) row with
      | true =>
          rw [List.filter_cons_of_neg (by simp [hdue]), List.countP_cons_of_pos hdue]
          exact .take 0 hdue ih
      | false =>
          rw [List.filter_cons_of_pos (by simp [hdue]),
            List.countP_cons_of_neg (by simp [hdue])]
          exact .keep 0 hdue ih

theorem takes_zipped (due : τ → ρ → Bool) (clock : Nat → τ) (reading : Nat → Nat)
    (places : List (ρ × Nat)) :
    Takes due clock (places.map Prod.fst)
      ((places.filter fun place => !due (clock (reading place.2)) place.1).map Prod.fst)
      (places.countP fun place => due (clock (reading place.2)) place.1) := by
  induction places with
  | nil => exact .nil
  | cons place places ih =>
      cases hdue : due (clock (reading place.2)) place.1 with
      | true =>
          rw [List.filter_cons_of_neg (by simp [hdue]), List.countP_cons_of_pos (by simp [hdue])]
          exact .take _ hdue ih
      | false =>
          rw [List.filter_cons_of_pos (by simp [hdue]),
            List.countP_cons_of_neg (by simp [hdue])]
          exact .keep _ hdue ih

end Takes

/-! ## Rows with a key -/

section Batches

variable {ρ : Type u} {κ : Type v} {rows : List ρ}

/-- Only rows of the batch go, so that the rows behind it stay as they are. -/
theorem filter_batch {key : ρ → κ} {goes : ρ → Bool} {limit : Nat}
    (hunique : (rows.map key).Nodup)
    (hbatch : ∀ row, goes row = true → key row ∈ (rows.take limit).map key) :
    rows.filter (fun row => !goes row) =
      (rows.take limit).filter (fun row => !goes row) ++ rows.drop limit := by
  have hbehind : (rows.drop limit).filter (fun row => !goes row) = rows.drop limit := by
    apply List.filter_eq_self.mpr
    intro row hrow
    rw [Bool.not_eq_true']
    apply Bool.eq_false_iff.mpr
    intro hgoes
    rw [← List.take_append_drop limit rows, List.map_append] at hunique
    have hapart := (List.nodup_append.mp hunique).2.2
    exact hapart _ (hbatch row hgoes) _ (List.mem_map_of_mem hrow) rfl
  conv_lhs => rw [← List.take_append_drop limit rows]
  rw [List.filter_append, hbehind]

theorem filter_map_goes {candidate goes : ρ → Bool} {rewrite : ρ → ρ}
    (hgoes : ∀ row, goes row = true → candidate (rewrite row) = false)
    (hstays : ∀ row, goes row = false → rewrite row = row) (rows : List ρ) :
    (rows.map rewrite).filter candidate =
      (rows.filter candidate).filter fun row => !goes row := by
  induction rows with
  | nil => rfl
  | cons row rows ih =>
      rw [List.map_cons]
      cases hrow : goes row with
      | true =>
          rw [List.filter_cons_of_neg (by simp [hgoes row hrow]), ih]
          by_cases hcandidate : candidate row = true
          · rw [List.filter_cons_of_pos hcandidate, List.filter_cons_of_neg (by simp [hrow])]
          · rw [List.filter_cons_of_neg hcandidate]
      | false =>
          rw [hstays row hrow]
          by_cases hcandidate : candidate row = true
          · rw [List.filter_cons_of_pos hcandidate, List.filter_cons_of_pos hcandidate,
              List.filter_cons_of_pos (by simp [hrow]), ih]
          · rw [List.filter_cons_of_neg hcandidate, List.filter_cons_of_neg hcandidate, ih]

end Batches

/-! ## Sweepers -/

/-- A store that is swept. -/
structure Sweeper (σ : Type u) (ρ : Type v) (τ : Type w) [Preorder τ] where
  candidates : σ → List ρ
  due : τ → ρ → Bool
  due_later : ∀ {now later : τ} {row : ρ}, now ≤ later → due now row = true → due later row = true
  limit : Nat
  limit_pos : 0 < limit
  sweep : σ → (Nat → τ) → Nat × σ
  takes : ∀ s clock, ∃ kept, Takes due clock ((candidates s).take limit) kept (sweep s clock).1 ∧
    candidates (sweep s clock).2 = kept ++ (candidates s).drop limit

/-- The readings of a clock do not go back, and each sweep begins after those before it. -/
def InOrder {τ : Type w} [Preorder τ] (clocks : List (Nat → τ)) : Prop :=
  (∀ clock ∈ clocks, Monotone clock) ∧
    clocks.Pairwise fun earlier later => ∀ reading, earlier reading ≤ later 0

namespace Sweeper

variable {σ : Type u} {ρ : Type v} {τ : Type w} [Preorder τ] (sweeper : Sweeper σ ρ τ)

/-- Nothing that is due is left. -/
def Clean (s : σ) (now : τ) : Prop :=
  ∀ row ∈ sweeper.candidates s, sweeper.due now row = false

/-- Every candidate that is due lies behind fewer than `limit` candidates that are not. -/
def Unblocked (s : σ) (now : τ) : Prop :=
  ∀ before row after, sweeper.candidates s = before ++ row :: after →
    sweeper.due now row = true →
    before.countP (fun row => !sweeper.due now row) < sweeper.limit

inductive Repeats : σ → List (Nat → τ) → σ → Prop where
  | stop {s : σ} {clock : Nat → τ} (hzero : (sweeper.sweep s clock).1 = 0) :
      Repeats s [clock] (sweeper.sweep s clock).2
  | again {s final : σ} {clock : Nat → τ} {clocks : List (Nat → τ)}
      (htook : (sweeper.sweep s clock).1 ≠ 0)
      (hrest : Repeats (sweeper.sweep s clock).2 clocks final) :
      Repeats s (clock :: clocks) final

variable {sweeper} {s final : σ} {now : τ} {clock : Nat → τ}

theorem length_sweep (s : σ) (clock : Nat → τ) :
    (sweeper.sweep s clock).1 + (sweeper.candidates (sweeper.sweep s clock).2).length =
      (sweeper.candidates s).length := by
  obtain ⟨kept, htakes, hafter⟩ := sweeper.takes s clock
  have hlength := htakes.length
  have hsplit := congrArg List.length (List.take_append_drop sweeper.limit (sweeper.candidates s))
  rw [List.length_append] at hsplit
  rw [hafter, List.length_append]
  omega

theorem repeats (s : σ) (schedule : Nat → Nat → τ) :
    ∃ count final, sweeper.Repeats s ((List.range (count + 1)).map schedule) final := by
  generalize hlength : (sweeper.candidates s).length = length
  induction length using Nat.strong_induction_on generalizing s schedule with
  | _ length ih =>
      by_cases hzero : (sweeper.sweep s (schedule 0)).1 = 0
      · exact ⟨0, _, .stop hzero⟩
      · have hshorter := sweeper.length_sweep s (schedule 0)
        obtain ⟨count, final, hrest⟩ := ih _ (by omega) (sweeper.sweep s (schedule 0)).2
          (fun sweep => schedule (sweep + 1)) rfl
        have hschedule : (List.range (count + 1 + 1)).map schedule =
            schedule 0 :: (List.range (count + 1)).map fun sweep => schedule (sweep + 1) := by
          rw [List.range_succ_eq_map, List.map_cons, List.map_map]
          rfl
        refine ⟨count + 1, final, ?_⟩
        rw [hschedule]
        exact .again hzero hrest

theorem countP_kept {rows kept : List ρ} {count : Nat}
    (htakes : Takes sweeper.due clock rows kept count) (hpast : ∀ reading, clock reading ≤ now) :
    kept.countP (fun row => !sweeper.due now row) =
      rows.countP fun row => !sweeper.due now row := by
  induction htakes with
  | nil => rfl
  | take reading hdue hrest ih =>
      have hstill := sweeper.due_later (hpast reading) hdue
      rw [List.countP_cons_of_neg (by simp [hstill]), ih]
  | keep reading hwaits hrest ih => rw [List.countP_cons, List.countP_cons, ih]

theorem unblocked_sweep (hpast : ∀ reading, clock reading ≤ now) :
    sweeper.Unblocked (sweeper.sweep s clock).2 now ↔ sweeper.Unblocked s now := by
  obtain ⟨kept, htakes, hafter⟩ := sweeper.takes s clock
  have hcount := countP_kept htakes hpast
  have hkept := htakes.length
  have htake := List.length_take_le sweeper.limit (sweeper.candidates s)
  constructor
  · intro hafterwards before row after hcandidates hdue
    by_contra hblocked
    have hlong : sweeper.limit ≤ before.length :=
      le_trans (Nat.not_lt.mp hblocked) List.countP_le_length
    have hbefore : before = (sweeper.candidates s).take sweeper.limit ++
        before.drop sweeper.limit := by
      rw [hcandidates, List.take_append_of_le_length hlong, List.take_append_drop]
    have hrest : (sweeper.candidates s).drop sweeper.limit =
        before.drop sweeper.limit ++ row :: after := by
      rw [hcandidates, List.drop_append_of_le_length hlong]
    have hfewer := hafterwards (kept ++ before.drop sweeper.limit) row after
      (by rw [hafter, hrest, List.append_assoc]) hdue
    rw [List.countP_append, hcount, ← List.countP_append, ← hbefore] at hfewer
    exact hblocked hfewer
  · intro hunblocked before row after hcandidates hdue
    rw [hafter] at hcandidates
    rcases List.append_eq_append_iff.mp hcandidates with ⟨rest, hbefore, hrest⟩ | ⟨rest, hsplit, _⟩
    · have hfewer := hunblocked ((sweeper.candidates s).take sweeper.limit ++ rest) row after
        (by rw [List.append_assoc, ← hrest, List.take_append_drop]) hdue
      rw [List.countP_append, ← hcount, ← List.countP_append, ← hbefore] at hfewer
      exact hfewer
    · cases rest with
      | nil =>
          rw [List.append_nil] at hsplit
          have hrest : (sweeper.candidates s).drop sweeper.limit = row :: after := by
            subst hsplit
            exact List.append_cancel_left hcandidates
          have hfewer := hunblocked ((sweeper.candidates s).take sweeper.limit) row after
            (by rw [← hrest, List.take_append_drop]) hdue
          rw [← hcount, hsplit] at hfewer
          exact hfewer
      | cons first rest =>
          have hshort := congrArg List.length hsplit
          rw [List.length_append, List.length_cons] at hshort
          have hle : before.countP (fun row => !sweeper.due now row) ≤ before.length :=
            List.countP_le_length
          omega

theorem waits_of_zero (hmono : Monotone clock) {rows kept : List ρ} {count : Nat}
    (htakes : Takes sweeper.due clock rows kept count) (hzero : count = 0) :
    ∀ row ∈ rows, sweeper.due (clock 0) row = false := by
  induction htakes with
  | nil =>
      intro row hrow
      cases hrow
  | take => cases hzero
  | keep reading hwaits hrest ih =>
      intro row hrow
      rcases List.mem_cons.mp hrow with hfirst | hbehind
      · rw [hfirst]
        apply Bool.eq_false_iff.mpr
        intro hdue
        have hlater := sweeper.due_later (hmono (Nat.zero_le reading)) hdue
        rw [hwaits] at hlater
        cases hlater
      · exact ih hzero row hbehind

theorem clean_iff_of_zero (hmono : Monotone clock) (hzero : (sweeper.sweep s clock).1 = 0) :
    sweeper.Clean (sweeper.sweep s clock).2 (clock 0) ↔ sweeper.Unblocked s (clock 0) := by
  obtain ⟨kept, htakes, hafter⟩ := sweeper.takes s clock
  have hwaits := waits_of_zero hmono htakes hzero
  rw [htakes.kept_of_zero hzero, List.take_append_drop] at hafter
  unfold Clean
  rw [hafter]
  constructor
  · intro hclean before row after hcandidates hdue
    have hrow : row ∈ sweeper.candidates s := by
      rw [hcandidates]
      exact List.mem_append_right _ List.mem_cons_self
    rw [hclean row hrow] at hdue
    cases hdue
  · intro hunblocked row hrow
    apply Bool.eq_false_iff.mpr
    intro hdue
    obtain ⟨before, after, hcandidates⟩ := List.append_of_mem hrow
    have hfewer := hunblocked before row after hcandidates hdue
    have hlong : sweeper.limit ≤ before.length := by
      by_contra hshort
      have hlooked : row ∈ (sweeper.candidates s).take sweeper.limit := by
        rw [hcandidates, List.take_append, List.take_of_length_le (by omega)]
        apply List.mem_append_right
        obtain ⟨places, hplaces⟩ := Nat.exists_eq_succ_of_ne_zero
          (show sweeper.limit - before.length ≠ 0 by omega)
        rw [hplaces]
        exact List.mem_cons_self
      rw [hwaits row hlooked] at hdue
      cases hdue
    have hlooked : before.take sweeper.limit = (sweeper.candidates s).take sweeper.limit := by
      rw [hcandidates, List.take_append_of_le_length hlong]
    have hall : (before.take sweeper.limit).countP (fun row => !sweeper.due (clock 0) row) =
        (before.take sweeper.limit).length := by
      apply List.countP_eq_length.mpr
      intro other hother
      rw [hlooked] at hother
      simp [hwaits other hother]
    have hle : (before.take sweeper.limit).countP (fun row => !sweeper.due (clock 0) row) ≤
        before.countP fun row => !sweeper.due (clock 0) row :=
      (List.take_sublist sweeper.limit before).countP_le
    rw [hall, List.length_take_of_le hlong] at hle
    omega

theorem Repeats.clean_iff {clocks : List (Nat → τ)} {last : Nat → τ}
    (hrepeats : sweeper.Repeats s clocks final) (hordered : InOrder clocks)
    (hlast : clocks.getLast? = some last) :
    sweeper.Clean final (last 0) ↔ sweeper.Unblocked s (last 0) := by
  induction hrepeats with
  | @stop s clock hzero =>
      cases hlast
      exact clean_iff_of_zero (hordered.1 _ List.mem_cons_self) hzero
  | @again s final clock clocks htook hrest ih =>
      have hnonempty : clocks ≠ [] := by
        intro hnil
        subst hnil
        cases hrest
      have hlater : clocks.getLast? = some last := by
        rw [List.getLast?_cons_of_ne_nil hnonempty] at hlast
        exact hlast
      have hrests : InOrder clocks :=
        ⟨fun clock hclock => hordered.1 clock (List.mem_cons_of_mem _ hclock),
          (List.pairwise_cons.mp hordered.2).2⟩
      have hpast : ∀ reading, clock reading ≤ last 0 :=
        (List.pairwise_cons.mp hordered.2).1 last (List.mem_of_getLast? hlater)
      rw [ih hrests hlater]
      exact unblocked_sweep hpast

end Sweeper

end OpsCure.Sweeps
