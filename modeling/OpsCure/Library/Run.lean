/-
Runs of a deterministic step function over a list of operations, and the two
shapes of run property the development uses: a property of every state of a
run, and a property of every step of a run.
-/
import Mathlib.Data.List.Infix

namespace OpsCure.Run

universe u v

variable {S : Type u} {O : Type v}

/-- The state a list of operations leads to. -/
def run (step : S → O → S) (s : S) (ops : List O) : S :=
  ops.foldl step s

/-- `P` holds in every state a run passes through, the first one included. -/
def Throughout (step : S → O → S) (P : S → Prop) (s : S) (ops : List O) : Prop :=
  ∀ done, done <+: ops → P (run step s done)

/-- `C` holds of every operation of a run, together with the state it meets. -/
def Along (step : S → O → S) (C : S → O → Prop) (s : S) (ops : List O) : Prop :=
  ∀ done op, done ++ [op] <+: ops → C (run step s done) op

/-- Once `P` holds in a state of a run, it holds in all later ones. -/
def Absorbs (step : S → O → S) (P : S → Prop) (s : S) (ops : List O) : Prop :=
  ∀ done more, done ++ more <+: ops → P (run step s done) →
    P (run step s (done ++ more))

@[simp]
theorem run_nil (step : S → O → S) (s : S) : run step s [] = s := rfl

@[simp]
theorem run_cons (step : S → O → S) (s : S) (op : O) (ops : List O) :
    run step s (op :: ops) = run step (step s op) ops := rfl

theorem run_append (step : S → O → S) (s : S) (done more : List O) :
    run step s (done ++ more) = run step (run step s done) more :=
  List.foldl_append

@[simp]
theorem run_concat (step : S → O → S) (s : S) (done : List O) (op : O) :
    run step s (done ++ [op]) = step (run step s done) op := by
  simp [run_append]

theorem along_nil (step : S → O → S) (C : S → O → Prop) (s : S) : Along step C s [] := by
  intro done op hop
  simp at hop

variable {step : S → O → S} {s : S} {ops : List O}

theorem along_cons {C : S → O → Prop} {op : O} (hfirst : C s op)
    (hrest : Along step C (step s op) ops) : Along step C s (op :: ops) := by
  intro done other hother
  cases done with
  | nil =>
      have hsame : other = op := by
        rcases hother with ⟨more, hmore⟩
        exact (List.cons.inj hmore).1
      rw [hsame]
      exact hfirst
  | cons first done =>
      rw [List.cons_append, List.cons_prefix_cons] at hother
      rcases hother with ⟨rfl, hother⟩
      exact hrest done other hother

theorem along_cons_iff {C : S → O → Prop} {op : O} :
    Along step C s (op :: ops) ↔ C s op ∧ Along step C (step s op) ops := by
  constructor
  · intro hall
    refine ⟨hall [] op ⟨ops, rfl⟩, ?_⟩
    intro done other hother
    exact hall (op :: done) other ((List.prefix_cons_inj op).mpr hother)
  · intro hboth
    exact along_cons hboth.1 hboth.2

/-- A run is checked step by step. -/
instance decidableAlong {step : S → O → S} {C : S → O → Prop} [∀ s op, Decidable (C s op)] :
    (s : S) → (ops : List O) → Decidable (Along step C s ops)
  | s, [] => .isTrue (along_nil step C s)
  | s, op :: ops =>
      have : Decidable (Along step C (step s op) ops) := decidableAlong (step s op) ops
      decidable_of_iff (C s op ∧ Along step C (step s op) ops) along_cons_iff.symm

theorem Along.drop {C : S → O → Prop} {done more : List O} (hall : Along step C s ops)
    (hmore : done ++ more <+: ops) : Along step C (run step s done) more := by
  intro first op hop
  rw [← run_append]
  apply hall
  rw [List.append_assoc]
  exact ((List.prefix_append_right_inj done).mpr hop).trans hmore

theorem Along.take {C : S → O → Prop} {done : List O} (hall : Along step C s ops)
    (hdone : done <+: ops) : Along step C s done := by
  intro first op hop
  exact hall first op (hop.trans hdone)

/-- The invariant rule: a property of the first state that every step of the
run preserves holds in every state of the run. -/
theorem throughout_of_preserved {P : S → Prop} (hstart : P s)
    (hstep : Along step (fun t op => P t → P (step t op)) s ops) : Throughout step P s ops := by
  intro done hdone
  induction done using List.reverseRecOn with
  | nil => exact hstart
  | append_singleton done op ih =>
      rw [run_concat]
      exact hstep done op hdone (ih ((List.prefix_append done [op]).trans hdone))

/-- When, from a state satisfying `P`, a step keeps `P` exactly under `C`, a
run keeps `P` throughout exactly when every one of its steps meets `C`. -/
theorem throughout_iff_along {P : S → Prop} {C : S → O → Prop} (hstart : P s)
    (hstep : ∀ t op, P t → (P (step t op) ↔ C t op)) :
    Throughout step P s ops ↔ Along step C s ops := by
  constructor
  · intro hall done op hop
    have hhere : P (run step s done) :=
      hall done ((List.prefix_append done [op]).trans hop)
    have hnext := hall (done ++ [op]) hop
    rw [run_concat] at hnext
    exact (hstep _ op hhere).mp hnext
  · intro hall
    refine throughout_of_preserved hstart ?_
    intro done op hop hhere
    exact (hstep _ op hhere).mpr (hall done op hop)

/-- The same under an invariant that every step preserves. -/
theorem throughout_iff_along_under {I P : S → Prop} {C : S → O → Prop} (hinv : I s)
    (hkeep : ∀ t op, I t → I (step t op)) (hstart : P s)
    (hstep : ∀ t op, I t → P t → (P (step t op) ↔ C t op)) :
    Throughout step P s ops ↔ Along step C s ops := by
  have hinvs : Throughout step I s ops :=
    throughout_of_preserved hinv fun _ _ _ => hkeep _ _
  have hboth : Throughout step (fun t => I t ∧ P t) s ops ↔ Throughout step P s ops :=
    ⟨fun hall done hdone => (hall done hdone).2,
      fun hall done hdone => ⟨hinvs done hdone, hall done hdone⟩⟩
  rw [← hboth]
  apply throughout_iff_along ⟨hinv, hstart⟩
  rintro t op ⟨ht, hp⟩
  rw [hstep t op ht hp]
  exact and_iff_right (hkeep t op ht)

/-- Two conditions on steps that come to the same under an invariant, which a step that meets
them keeps, come to the same along a run. -/
theorem along_iff_along_under {I : S → Prop} {Q C : S → O → Prop} (hinv : I s)
    (hsame : ∀ t op, I t → (Q t op ↔ C t op)) (hkeep : ∀ t op, I t → Q t op → I (step t op)) :
    Along step Q s ops ↔ Along step C s ops := by
  have hrun : Along step Q s ops ∨ Along step C s ops → Throughout step I s ops := by
    intro hall done hdone
    induction done using List.reverseRecOn with
    | nil => exact hinv
    | append_singleton done op ih =>
        have hhere := ih ((List.prefix_append done [op]).trans hdone)
        rw [run_concat]
        apply hkeep _ op hhere
        rcases hall with hall | hall
        · exact hall done op hdone
        · exact (hsame _ op hhere).mpr (hall done op hdone)
  constructor
  · intro hall done op hop
    have hhere := hrun (Or.inl hall) done ((List.prefix_append done [op]).trans hop)
    exact (hsame _ op hhere).mp (hall done op hop)
  · intro hall done op hop
    have hhere := hrun (Or.inr hall) done ((List.prefix_append done [op]).trans hop)
    exact (hsame _ op hhere).mpr (hall done op hop)

/-- When, from a state satisfying `P`, a step keeps `P` and meets `Q` exactly under `C`, a run
does so in every state and at every step exactly when every one of its steps meets `C`. -/
theorem throughout_and_along_iff {P : S → Prop} {Q C : S → O → Prop} (hstart : P s)
    (hstep : ∀ t op, P t → (P (step t op) ∧ Q t op ↔ C t op)) :
    Throughout step P s ops ∧ Along step Q s ops ↔ Along step C s ops := by
  constructor
  · rintro ⟨hall, halong⟩ done op hop
    have hhere := hall done ((List.prefix_append done [op]).trans hop)
    have hnext := hall (done ++ [op]) hop
    rw [run_concat] at hnext
    exact (hstep _ op hhere).mp ⟨hnext, halong done op hop⟩
  · intro halong
    have hall : Throughout step P s ops := by
      apply throughout_of_preserved hstart
      intro done op hop hhere
      exact ((hstep _ op hhere).mpr (halong done op hop)).1
    refine ⟨hall, ?_⟩
    intro done op hop
    have hhere := hall done ((List.prefix_append done [op]).trans hop)
    exact ((hstep _ op hhere).mpr (halong done op hop)).2

theorem absorbs_iff_along {P : S → Prop} :
    Absorbs step P s ops ↔ Along step (fun t op => P t → P (step t op)) s ops := by
  constructor
  · intro habsorbs done op hop hhere
    simpa using habsorbs done [op] hop hhere
  · intro hstep done more
    induction more using List.reverseRecOn with
    | nil => intro _ hhere; simpa using hhere
    | append_singleton more op ih =>
        intro hmore hhere
        rw [← List.append_assoc] at hmore ⊢
        rw [run_concat]
        refine hstep (done ++ more) op hmore (ih ?_ hhere)
        exact (List.prefix_append (done ++ more) [op]).trans hmore

end OpsCure.Run
