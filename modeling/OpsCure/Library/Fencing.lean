/-
Fencing tokens: the history of the tokens issued and withdrawn under keys, and the token a
history leaves in force under each.
-/
import Mathlib.Data.List.Basic
import Mathlib.Data.List.Nodup

namespace OpsCure.Fencing

universe u v

variable {K : Type u} {T : Type v}

inductive Mark (K : Type u) (T : Type v) where
  | issued (key : K) (token : T)
  | withdrawn (key : K)
deriving DecidableEq, Repr

def Mark.key : Mark K T → K
  | issued key _ => key
  | withdrawn key => key

def Mark.token? : Mark K T → Option T
  | issued _ token => some token
  | withdrawn _ => none

variable [DecidableEq K]

def inForce (history : List (Mark K T)) (key : K) : Option T :=
  (history.filter (·.key = key)).getLast?.bind Mark.token?

theorem inForce_issued (history : List (Mark K T)) (key : K) (token : T) :
    inForce (history ++ [.issued key token]) key = some token := by
  have hfilter : (history ++ [Mark.issued key token]).filter (·.key = key) =
      history.filter (·.key = key) ++ [Mark.issued key token] := by
    simp [Mark.key]
  rw [inForce, hfilter, List.getLast?_concat]
  rfl

theorem inForce_append_of_others {history more : List (Mark K T)} {key : K}
    (hothers : ∀ mark ∈ more, mark.key ≠ key) :
    inForce (history ++ more) key = inForce history key := by
  have hnone : more.filter (·.key = key) = [] := by
    apply List.filter_eq_nil_iff.mpr
    intro mark hmark
    simpa using hothers mark hmark
  rw [inForce, inForce, List.filter_append, hnone, List.append_nil]

theorem not_inForce_of_superseded {before between after : List (Mark K T)} {key : K}
    {token : T} {mark : Mark K T} (hmark : mark.key = key)
    (hfresh : ((before ++ .issued key token :: (between ++ mark :: after)).filterMap
      Mark.token?).Nodup) :
    inForce (before ++ .issued key token :: (between ++ mark :: after)) key ≠ some token := by
  intro hforce
  let later := (mark :: after).filter (·.key = key)
  have hlater : later ≠ [] := by
    intro hnone
    have habsent := List.filter_eq_nil_iff.mp hnone mark List.mem_cons_self
    exact habsent (by simpa using hmark)
  have hlast : inForce (before ++ .issued key token :: (between ++ mark :: after)) key =
      later.getLast?.bind Mark.token? := by
    have hsplit : before ++ Mark.issued key token :: (between ++ mark :: after) =
        (before ++ Mark.issued key token :: between) ++ (mark :: after) := by simp
    rw [inForce, hsplit, List.filter_append]
    congr 1
    exact List.getLast?_append_of_ne_nil _ hlater
  rw [hlast] at hforce
  rcases Option.bind_eq_some_iff.mp hforce with ⟨last, hgot, htoken⟩
  have hmem : last ∈ mark :: after :=
    List.mem_of_mem_filter (List.mem_of_getLast? hgot)
  rw [List.filterMap_append, List.filterMap_cons] at hfresh
  have hrest := (List.nodup_append.mp hfresh).2.1
  simp only [Mark.token?, List.nodup_cons, List.mem_filterMap] at hrest
  apply hrest.1
  exact ⟨last, List.mem_append_right between hmem, htoken⟩

end OpsCure.Fencing
