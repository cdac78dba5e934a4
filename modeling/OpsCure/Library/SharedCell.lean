/-
Programs that share one cell.  Each reads and writes the cell whole, one access at a time, and
between two accesses of one program the others may have written it.
-/
import Mathlib.Data.List.Basic
import Mathlib.Tactic.Common

namespace OpsCure.SharedCell

universe u v w

/-- A program over a cell that holds a `V`. -/
inductive Program (V : Type u) (α : Type v) where
  | done (result : α)
  | read (next : V → Program V α)
  | write (value : V) (next : Program V α)

inductive Access (V : Type u) where
  | read (value : V)
  | write (value : V)
deriving DecidableEq, Repr

def Access.value {V : Type u} : Access V → V
  | read value | write value => value

namespace Program

variable {V : Type u} {α : Type v} {β : Type w}

protected def bind : Program V α → (α → Program V β) → Program V β
  | done result, next => next result
  | read rest, next => read fun cell => (rest cell).bind next
  | write value rest, next => write value (rest.bind next)

instance : Monad (Program V) where
  pure := done
  bind := Program.bind

def load : Program V V := read done

def store (value : V) : Program V Unit := write value (done ())

def alone : Program V α → V → α × List (Access V)
  | done result, _ => (result, [])
  | read next, cell => ((next cell |>.alone cell).1, .read cell :: (next cell |>.alone cell).2)
  | write value next, _ => ((next.alone value).1, .write value :: (next.alone value).2)

/-- The program has made some accesses, reading whatever was in the cell then, and this is left
of it. -/
inductive Follows : Program V α → List (Access V) → Program V α → Prop
  | here (program : Program V α) : Follows program [] program
  | read {next : V → Program V α} {cell : V} {accesses : List (Access V)} {left : Program V α} :
      Follows (next cell) accesses left → Follows (.read next) (.read cell :: accesses) left
  | write {value : V} {next left : Program V α} {accesses : List (Access V)} :
      Follows next accesses left → Follows (.write value next) (.write value :: accesses) left

def Gives (program : Program V α) (accesses : List (Access V)) (result : α) : Prop :=
  Follows program accesses (.done result)

variable {accesses : List (Access V)}

@[simp]
theorem gives_pure {value result : α} :
    (pure value : Program V α).Gives accesses result ↔ accesses = [] ∧ result = value := by
  constructor
  · intro hgives
    cases hgives with
    | here => exact ⟨rfl, rfl⟩
  · rintro ⟨rfl, rfl⟩
    exact .here _

@[simp]
theorem gives_load {result : V} :
    (load : Program V V).Gives accesses result ↔ accesses = [.read result] := by
  constructor
  · intro hgives
    cases hgives with
    | read hrest =>
        cases hrest with
        | here => rfl
  · rintro rfl
    exact .read (.here _)

@[simp]
theorem gives_store {value : V} {result : Unit} :
    (store value).Gives accesses result ↔ accesses = [.write value] := by
  constructor
  · intro hgives
    cases hgives with
    | write hrest =>
        cases hrest with
        | here => rfl
  · rintro rfl
    exact .write (.here _)

theorem gives_bind {program : Program V α} {next : α → Program V β} {result : β} :
    (program.bind next).Gives accesses result ↔
      ∃ middle front back, accesses = front ++ back ∧ program.Gives front middle ∧
        (next middle).Gives back result := by
  induction program generalizing accesses with
  | done value =>
      constructor
      · intro hgives
        exact ⟨value, [], accesses, rfl, .here _, hgives⟩
      · rintro ⟨middle, front, back, rfl, hfront, hback⟩
        cases hfront with
        | here => exact hback
  | read rest ih =>
      constructor
      · intro hgives
        cases hgives with
        | read hrest =>
            obtain ⟨middle, front, back, rfl, hfront, hback⟩ := (ih _).mp hrest
            exact ⟨middle, _ :: front, back, rfl, .read hfront, hback⟩
      · rintro ⟨middle, front, back, rfl, hfront, hback⟩
        cases hfront with
        | read hrest => exact .read ((ih _).mpr ⟨middle, _, back, rfl, hrest, hback⟩)
  | write value rest ih =>
      constructor
      · intro hgives
        cases hgives with
        | write hrest =>
            obtain ⟨middle, front, back, rfl, hfront, hback⟩ := ih.mp hrest
            exact ⟨middle, _ :: front, back, rfl, .write hfront, hback⟩
      · rintro ⟨middle, front, back, rfl, hfront, hback⟩
        cases hfront with
        | write hrest => exact .write (ih.mpr ⟨middle, _, back, rfl, hrest, hback⟩)

@[simp]
theorem gives_bind_iff {program : Program V α} {β : Type v} {next : α → Program V β} {result : β} :
    (program >>= next).Gives accesses result ↔
      ∃ middle front back, accesses = front ++ back ∧ program.Gives front middle ∧
        (next middle).Gives back result :=
  gives_bind

theorem gives_alone (program : Program V α) (cell : V) :
    program.Gives (program.alone cell).2 (program.alone cell).1 := by
  induction program generalizing cell with
  | done => exact .here _
  | read next ih => exact .read (ih cell cell)
  | write value next ih => exact .write (ih value)

end Program

end OpsCure.SharedCell
