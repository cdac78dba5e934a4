/-
Fallible computations over `Except`: a guard, a lookup that must succeed, and
the inversion rules that take a successful computation apart.
-/
import Mathlib.Data.List.Forall2
import Mathlib.Tactic.Common

namespace OpsCure.Fallible

universe u v

variable {ε : Type u} {α β : Type v}

/-- A guard: go on when the condition holds, raise otherwise. -/
def require (condition : Prop) [Decidable condition] (error : ε) :
    Except ε PUnit.{v + 1} :=
  if condition then .ok ⟨⟩ else .error error

/-- The value of a lookup, or the error raised when it finds nothing. -/
def orRaise (found : Option α) (error : ε) : Except ε α :=
  match found with
  | some value => .ok value
  | none => .error error

/-- The state a transaction leaves: the committed one, or the one it started
from when it raised and was rolled back. -/
def committed (before : α) : Except ε α → α
  | .ok after => after
  | .error _ => before

variable {error : ε} {value before after : α} {step : α → β → Except ε α} {items : List β}

@[simp]
theorem require_eq_ok {condition : Prop} [Decidable condition] {done : PUnit.{v + 1}} :
    require condition error = .ok done ↔ condition := by
  unfold require
  split <;> simp_all

@[simp]
theorem require_eq_error {condition : Prop} [Decidable condition] {raised : ε} :
    (require condition error : Except ε PUnit.{v + 1}) = .error raised ↔
      ¬condition ∧ error = raised := by
  unfold require
  split <;> simp_all

@[simp]
theorem orRaise_eq_ok {found : Option α} :
    orRaise found error = .ok value ↔ found = some value := by
  cases found <;> simp [orRaise]

@[simp]
theorem bind_eq_ok {first : Except ε α} {next : α → Except ε β} {value : β} :
    (first >>= next) = .ok value ↔
      ∃ middle, first = .ok middle ∧ next middle = .ok value := by
  cases first <;> simp [bind, Except.bind]

@[simp]
theorem pure_eq_ok {result : α} : (pure value : Except ε α) = .ok result ↔ value = result := by
  simp [pure, Except.pure]

@[simp]
theorem map_eq_ok {first : Except ε α} {next : α → β} {value : β} :
    next <$> first = .ok value ↔ ∃ middle, first = .ok middle ∧ next middle = value := by
  cases first <;> simp [Functor.map, Except.map]

@[simp]
theorem exists_unit_eq_ok {check : Except ε PUnit.{v + 1}} :
    (∃ done, check = .ok done) ↔ check = .ok ⟨⟩ := by
  constructor
  · rintro ⟨⟨⟩, hok⟩
    exact hok
  · exact fun hok => ⟨⟨⟩, hok⟩

@[simp]
theorem committed_ok (before after : α) :
    committed before (.ok after : Except ε α) = after := rfl

@[simp]
theorem committed_error (before : α) (error : ε) :
    committed before (.error error) = before := rfl

@[simp]
theorem mapError_eq_ok {ε' : Type u} {rename : ε → ε'} {step : Except ε α} :
    step.mapError rename = .ok value ↔ step = .ok value := by
  cases step <;> simp [Except.mapError]

variable {f : α → Except ε β} {values : List α} {results : List β}

theorem mapM_eq_ok :
    values.mapM f = .ok results ↔
      List.Forall₂ (fun value result => f value = .ok result) values results := by
  induction values generalizing results with
  | nil =>
      rw [List.mapM_nil, List.forall₂_nil_left_iff]
      constructor
      · intro hnone
        cases hnone
        rfl
      · intro hnone
        rw [hnone]
        rfl
  | cons value values ih =>
      rw [List.mapM_cons, List.forall₂_cons_left_iff]
      constructor
      · intro hresults
        obtain ⟨result, hfirst, hrest⟩ := bind_eq_ok.1 hresults
        obtain ⟨others, hothers, hpure⟩ := bind_eq_ok.1 hrest
        cases hpure
        exact ⟨result, others, hfirst, ih.mp hothers, rfl⟩
      · intro ⟨result, others, hfirst, hothers, hsame⟩
        rw [hfirst, ih.mpr hothers, hsame]
        rfl

theorem exists_of_mem_mapM {result : β} (hresults : values.mapM f = .ok results)
    (hmem : result ∈ results) : ∃ value ∈ values, f value = .ok result := by
  have hall := mapM_eq_ok.1 hresults
  clear hresults
  induction hall with
  | nil => cases hmem
  | cons hfirst _ ih =>
      rcases List.mem_cons.mp hmem with hhead | htail
      · rw [hhead]
        exact ⟨_, List.mem_cons_self, hfirst⟩
      · obtain ⟨value, hvalue, hresult⟩ := ih htail
        exact ⟨value, List.mem_cons_of_mem _ hvalue, hresult⟩

theorem foldlM_keeps_done {P : List β → α → Prop}
    (hstep : ∀ done s item t, item ∈ items → P done s → step s item = .ok t →
      P (done ++ [item]) t) (hbefore : P [] before) (hok : items.foldlM step before = .ok after) :
    P items after := by
  have hrest : ∀ (rest done : List β) (s : α), (∀ item ∈ rest, item ∈ items) → P done s →
      rest.foldlM step s = .ok after → P (done ++ rest) after := by
    intro rest
    induction rest with
    | nil =>
        intro done s _ hdone hfold
        cases hfold
        rw [List.append_nil]
        exact hdone
    | cons item rest ih =>
        intro done s hitems hdone hfold
        rw [List.foldlM_cons, bind_eq_ok] at hfold
        obtain ⟨between, hfirst, hfold⟩ := hfold
        have hnext := hstep done s item between (hitems item List.mem_cons_self) hdone hfirst
        have hall := ih (done ++ [item]) between
          (fun other hother => hitems other (List.mem_cons_of_mem item hother)) hnext hfold
        rw [List.append_assoc] at hall
        exact hall
  exact hrest items [] before (fun _ hitem => hitem) hbefore hok

theorem foldlM_keeps_of_mem {P : α → Prop}
    (hstep : ∀ s item t, item ∈ items → P s → step s item = .ok t → P t) (hbefore : P before)
    (hok : items.foldlM step before = .ok after) : P after :=
  foldlM_keeps_done (P := fun _ => P) (fun _ => hstep) hbefore hok

theorem foldlM_keeps {P : α → Prop} (hstep : ∀ s item t, P s → step s item = .ok t → P t)
    (hbefore : P before) (hok : items.foldlM step before = .ok after) : P after :=
  foldlM_keeps_of_mem (fun s item t _ => hstep s item t) hbefore hok

end OpsCure.Fallible
