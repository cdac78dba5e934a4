/-
A set under a sequence of edits that put elements in and take elements out.  What the edits leave is
decided, element by element, by the last edit that names the element.
-/
import Mathlib.Data.List.Induction
import Mathlib.Data.Set.Basic

namespace OpsCure.SetEdits

universe u

variable {α : Type u}

inductive Edit (α : Type u) where
  | add (items : List α)
  | remove (items : List α)

def Edit.items : Edit α → List α
  | .add items | .remove items => items

/-- The edit leaves what it names in the set. -/
def Edit.keeps : Edit α → Bool
  | .add _ => true
  | .remove _ => false

def Edit.apply (s : Set α) : Edit α → Set α
  | .add items => {x | x ∈ s ∨ x ∈ items}
  | .remove items => {x | x ∈ s ∧ x ∉ items}

def applyAll (s : Set α) (edits : List (Edit α)) : Set α := edits.foldl Edit.apply s

/-- Whether the last edit that names `x` left it in; none if no edit names it. -/
def lastNaming [DecidableEq α] (x : α) (edits : List (Edit α)) : Option Bool :=
  (edits.reverse.find? fun edit => x ∈ edit.items).map Edit.keeps

@[simp]
theorem applyAll_nil (s : Set α) : applyAll s [] = s := rfl

@[simp]
theorem applyAll_cons (s : Set α) (edit : Edit α) (edits : List (Edit α)) :
    applyAll s (edit :: edits) = applyAll (edit.apply s) edits := rfl

theorem applyAll_concat (s : Set α) (edits : List (Edit α)) (edit : Edit α) :
    applyAll s (edits ++ [edit]) = edit.apply (applyAll s edits) := by
  simp [applyAll, List.foldl_append]

theorem mem_apply_of_mem (s : Set α) {edit : Edit α} {x : α} (hnamed : x ∈ edit.items) :
    x ∈ edit.apply s ↔ edit.keeps = true := by
  cases edit with
  | add items =>
      have hadded : x ∈ items := hnamed
      simp [Edit.apply, Edit.keeps, hadded]
  | remove items =>
      have hremoved : x ∈ items := hnamed
      simp [Edit.apply, Edit.keeps, hremoved]

theorem mem_apply_of_notMem (s : Set α) {edit : Edit α} {x : α} (hother : x ∉ edit.items) :
    x ∈ edit.apply s ↔ x ∈ s := by
  cases edit with
  | add items =>
      have hnot : x ∉ items := hother
      simp [Edit.apply, hnot]
  | remove items =>
      have hnot : x ∉ items := hother
      simp [Edit.apply, hnot]

theorem mem_applyAll_iff [DecidableEq α] (s : Set α) (edits : List (Edit α)) (x : α) :
    x ∈ applyAll s edits ↔
      lastNaming x edits = some true ∨ (lastNaming x edits = none ∧ x ∈ s) := by
  induction edits using List.reverseRecOn with
  | nil => simp [lastNaming]
  | append_singleton edits edit ih =>
      rw [applyAll_concat]
      by_cases hnamed : x ∈ edit.items
      · have hlast : lastNaming x (edits ++ [edit]) = some edit.keeps := by
          simp [lastNaming, hnamed]
        simp [hlast, mem_apply_of_mem _ hnamed]
      · have hlast : lastNaming x (edits ++ [edit]) = lastNaming x edits := by
          simp [lastNaming, hnamed]
        rw [hlast, mem_apply_of_notMem _ hnamed, ih]

end OpsCure.SetEdits
