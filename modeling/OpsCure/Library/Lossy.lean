/-
Calls over a connection that may break.  A call that is lost may have reached the server or not;
its caller cannot tell.
-/
import OpsCure.Library.Session

namespace OpsCure.Lossy

open Session

universe u

variable {S ε α : Type u}

/-- What becomes of a call: it is answered, or lost on the way there or on the way back. -/
inductive Fate where
  | delivered
  | lostBefore
  | lostAfter
deriving DecidableEq, Repr

/-- The call reaches the server. -/
def Fate.arrives : Fate → Bool
  | .delivered | .lostAfter => true
  | .lostBefore => false

/-- A call of a server that changes its state whether it answers with a value or an error. -/
def call (lost : ε) (fate : Fate) (serve : S → S × Except ε α) : Program ε S α :=
  ExceptT.mk fun s =>
    match fate with
    | .delivered => ((serve s).2, (serve s).1)
    | .lostBefore => (.error lost, s)
    | .lostAfter => (.error lost, (serve s).1)

theorem exec_call (lost : ε) (fate : Fate) (serve : S → S × Except ε α) (s : S) :
    exec (call lost fate serve) s =
      match fate with
      | .delivered => ((serve s).2, (serve s).1)
      | .lostBefore => (.error lost, s)
      | .lostAfter => (.error lost, (serve s).1) := by
  cases fate <;> rfl

theorem exec_call_state (lost : ε) (fate : Fate) (serve : S → S × Except ε α) (s : S) :
    (exec (call lost fate serve) s).2 = if fate.arrives then (serve s).1 else s := by
  cases fate <;> rfl

theorem exec_call_ok {lost : ε} {fate : Fate} {serve : S → S × Except ε α} {s after : S}
    {value : α} :
    exec (call lost fate serve) s = (.ok value, after) ↔
      fate = .delivered ∧ serve s = (after, .ok value) := by
  cases fate with
  | delivered =>
      rw [exec_call]
      simp only [Prod.ext_iff, true_and]
      exact and_comm
  | lostBefore => simp [exec_call]
  | lostAfter => simp [exec_call]

theorem keeps_call {P : S → Prop} (lost : ε) (fate : Fate) {serve : S → S × Except ε α}
    (hserve : ∀ s, P s → P (serve s).1) : Keeps P (call lost fate serve) := by
  intro s hs
  rw [exec_call_state]
  split
  · exact hserve s hs
  · exact hs

end OpsCure.Lossy
