/-
Programs that open several database sessions.  Each session commits or rolls
back by itself; a program that raises keeps what its earlier sessions committed.
-/
import OpsCure.Library.Fallible

namespace OpsCure.Session

open Fallible

universe u

variable {ε S α β : Type u}

/-- A program over a committed state: it may raise, and keeps the state either way. -/
abbrev Program (ε S α : Type u) := ExceptT ε (StateM S) α

/-- What a program returns or raises, and the state it leaves. -/
def exec (program : Program ε S α) (s : S) : Except ε α × S :=
  program.run.run s

/-- One session: its changes are committed together when it does not raise. -/
def transaction (body : S → Except ε (α × S)) : Program ε S α :=
  ExceptT.mk fun s =>
    match body s with
    | .ok (value, after) => (.ok value, after)
    | .error error => (.error error, s)

def query (read : S → Except ε α) : Program ε S α :=
  transaction fun s => (read s).map fun value => (value, s)

/-- `try: … except Exception: log`. -/
def attempt (program : Program ε S α) : Program ε S PUnit :=
  ExceptT.mk fun s => (.ok ⟨⟩, (exec program s).2)

@[simp]
theorem exec_pure (value : α) (s : S) :
    exec (pure value : Program ε S α) s = (.ok value, s) := rfl

@[simp]
theorem exec_attempt (program : Program ε S α) (s : S) :
    exec (attempt program) s = (.ok ⟨⟩, (exec program s).2) := rfl

theorem exec_transaction (body : S → Except ε (α × S)) (s : S) :
    exec (transaction body) s =
      match body s with
      | .ok (value, after) => (.ok value, after)
      | .error error => (.error error, s) := rfl

theorem exec_bind (program : Program ε S α) (next : α → Program ε S β) (s : S) :
    exec (program >>= next) s =
      match exec program s with
      | (.ok value, after) => exec (next value) after
      | (.error error, after) => (.error error, after) := by
  change exec (ExceptT.bind program next) s = _
  unfold exec ExceptT.bind ExceptT.mk ExceptT.bindCont
  simp only [ExceptT.run, StateT.run, bind, StateT.bind]
  rcases program s with ⟨outcome, after⟩
  cases outcome <;> rfl

variable {body : S → Except ε (α × S)} {s after : S} {program : Program ε S α}
  {next : α → Program ε S β}

@[simp]
theorem exec_transaction_ok {value : α} :
    exec (transaction body) s = (.ok value, after) ↔ body s = .ok (value, after) := by
  rw [exec_transaction]
  cases body s <;> simp [Prod.ext_iff]

@[simp]
theorem exec_transaction_error {error : ε} :
    exec (transaction body) s = (.error error, after) ↔
      body s = .error error ∧ after = s := by
  rw [exec_transaction]
  cases body s <;> simp [eq_comm]

@[simp]
theorem exec_query (read : S → Except ε α) (s : S) :
    exec (query read) s = (read s, s) := by
  rw [query, exec_transaction]
  cases read s <;> rfl

@[simp]
theorem exec_throw (error : ε) (s : S) :
    exec (throw error : Program ε S α) s = (.error error, s) := rfl

theorem exec_bind_ok {value : β} :
    exec (program >>= next) s = (.ok value, after) ↔
      ∃ middle between, exec program s = (.ok middle, between) ∧
        exec (next middle) between = (.ok value, after) := by
  rw [exec_bind]
  rcases exec program s with ⟨outcome, between⟩
  cases outcome <;> simp

theorem exec_bind_error {error : ε} :
    exec (program >>= next) s = (.error error, after) ↔
      exec program s = (.error error, after) ∨
        ∃ middle between, exec program s = (.ok middle, between) ∧
          exec (next middle) between = (.error error, after) := by
  rw [exec_bind]
  rcases exec program s with ⟨outcome, between⟩
  cases outcome <;> simp

theorem exec_transaction_state (body : S → Except ε (α × S)) (s : S) :
    (exec (transaction body) s).2 = committed s ((body s).map Prod.snd) := by
  rw [exec_transaction]
  cases body s <;> rfl

theorem exec_forM_ok {ι : Type u} (items : List ι) {body : ι → Program ε S PUnit}
    (hbody : ∀ item t, (exec (body item) t).1 = .ok ⟨⟩) (s : S) :
    exec (items.forM body) s =
      (.ok ⟨⟩, items.foldl (fun t item => (exec (body item) t).2) s) := by
  induction items generalizing s with
  | nil => rfl
  | cons item items ih =>
      have hfirst : exec ((item :: items).forM body) s =
          exec (items.forM body) (exec (body item) s).2 := by
        change exec (body item >>= fun _ => items.forM body) s = _
        rw [exec_bind]
        rcases hitem : exec (body item) s with ⟨outcome, after⟩
        have hok := hbody item s
        rw [hitem] at hok
        cases hok
        rfl
      rw [hfirst]
      exact ih _

theorem exec_forM_attempt {ι : Type u} (items : List ι) (body : ι → Program ε S α) (s : S) :
    exec (items.forM fun item => attempt (body item)) s =
      (.ok ⟨⟩, items.foldl (fun t item => (exec (body item) t).2) s) :=
  exec_forM_ok items (fun _ _ => rfl) s

/-- A property a program keeps, whether it returns or raises. -/
def Keeps (P : S → Prop) (program : Program ε S α) : Prop :=
  ∀ s, P s → P (exec program s).2

theorem keeps_transaction {P : S → Prop}
    (hbody : ∀ s value after, P s → body s = .ok (value, after) → P after) :
    Keeps P (transaction body) := by
  intro s hs
  rw [exec_transaction]
  rcases hresult : body s with error | ⟨value, after⟩
  · exact hs
  · exact hbody s value after hs hresult

theorem keeps_bind {P : S → Prop} (hfirst : Keeps P program)
    (hnext : ∀ value, Keeps P (next value)) : Keeps P (program >>= next) := by
  intro s hs
  have hbetween := hfirst s hs
  rw [exec_bind]
  rcases hresult : exec program s with ⟨outcome, between⟩
  rw [hresult] at hbetween
  cases outcome with
  | error => exact hbetween
  | ok value => exact hnext value between hbetween

theorem keeps_attempt {P : S → Prop} (hprogram : Keeps P program) : Keeps P (attempt program) :=
  hprogram

theorem keeps_forM {ι : Type u} {P : S → Prop} {body : ι → Program ε S PUnit}
    (items : List ι) (hbody : ∀ item ∈ items, Keeps P (body item)) :
    Keeps P (items.forM body) := by
  induction items with
  | nil => exact fun _ hs => hs
  | cons item items ih =>
      refine keeps_bind (hbody item List.mem_cons_self) fun _ => ?_
      exact ih fun other hother => hbody other (List.mem_cons_of_mem item hother)

def KeepsRaising (P : S → Prop) (program : Program ε S α) : Prop :=
  ∀ s error after, P s → exec program s = (.error error, after) → P after

theorem keeps_query (P : S → Prop) (read : S → Except ε α) : Keeps P (query read) := by
  intro s hs
  rw [exec_query]
  exact hs

theorem Keeps.raising {P : S → Prop} (hkeeps : Keeps P program) : KeepsRaising P program := by
  intro s error after hs hraised
  have hafter := hkeeps s hs
  rw [hraised] at hafter
  exact hafter

theorem keepsRaising_transaction (P : S → Prop) (body : S → Except ε (α × S)) :
    KeepsRaising P (transaction body) := by
  intro s error after hs hraised
  rw [(exec_transaction_error.1 hraised).2]
  exact hs

theorem keepsRaising_bind {P : S → Prop} (hfirst : Keeps P program)
    (hnext : ∀ value, KeepsRaising P (next value)) : KeepsRaising P (program >>= next) := by
  intro s error after hs hraised
  rcases exec_bind_error.1 hraised with hhere | ⟨value, between, hreturned, hthere⟩
  · exact hfirst.raising s error after hs hhere
  · have hbetween := hfirst s hs
    rw [hreturned] at hbetween
    exact hnext value between error after hbetween hthere

theorem keepsRaising_bind_returns {P : S → Prop} (hfirst : KeepsRaising P program)
    (hnext : ∀ value s, ∃ done after, exec (next value) s = (.ok done, after)) :
    KeepsRaising P (program >>= next) := by
  intro s error after hs hraised
  rcases exec_bind_error.1 hraised with hhere | ⟨value, between, _, hthere⟩
  · exact hfirst s error after hs hhere
  · rcases hnext value between with ⟨done, left, hreturned⟩
    rw [hreturned] at hthere
    cases hthere

end OpsCure.Session
