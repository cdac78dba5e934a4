/-
Integers in decimal: which characters they are written with, and that no two are written alike.
-/
import Mathlib.Data.Nat.Notation

namespace OpsCure.Numerals

theorem isDigit_of_mem_repr {value : Nat} {c : Char} (hc : c ∈ value.repr.toList) :
    c.isDigit := by
  rw [Nat.toList_repr] at hc
  exact Nat.isDigit_of_mem_toDigits (by decide) (by decide) hc

theorem repr_inj {one other : Nat} (hsame : one.repr = other.repr) : one = other := by
  have hdigits := congrArg String.toList hsame
  rw [Nat.toList_repr, Nat.toList_repr] at hdigits
  have hread := congrArg (Nat.ofDigitChars 10 · 0) hdigits
  simp only [Nat.ofDigitChars_ten_toDigits] at hread
  exact hread

theorem toList_negSucc (value : Nat) :
    (toString (Int.negSucc value)).toList = '-' :: (value + 1).repr.toList := by
  have hminus : toString (Int.negSucc value) = "-" ++ (value + 1).repr := rfl
  rw [hminus, String.toList_append]
  rfl

theorem mem_toString {value : Int} {c : Char} (hc : c ∈ (toString value).toList) :
    c.isDigit ∨ c = '-' := by
  cases value with
  | ofNat => exact Or.inl (isDigit_of_mem_repr hc)
  | negSucc =>
      rw [toList_negSucc, List.mem_cons] at hc
      rcases hc with hsign | hdigit
      · exact Or.inr hsign
      · exact Or.inl (isDigit_of_mem_repr hdigit)

theorem repr_ne_negSucc (one other : Nat) :
    (toString (Int.ofNat one)) ≠ toString (Int.negSucc other) := by
  intro hsame
  have hlists := congrArg String.toList hsame
  rw [toList_negSucc] at hlists
  have hsign : '-' ∈ one.repr.toList := by
    have hmem : '-' ∈ (toString (Int.ofNat one)).toList := by
      rw [hlists]
      exact List.mem_cons_self
    exact hmem
  exact absurd (isDigit_of_mem_repr hsign) (by decide)

theorem toString_inj {one other : Int} (hsame : toString one = toString other) : one = other := by
  cases one with
  | ofNat one =>
      cases other with
      | ofNat => exact congrArg Int.ofNat (repr_inj hsame)
      | negSucc other => exact absurd hsame (repr_ne_negSucc one other)
  | negSucc one =>
      cases other with
      | ofNat other => exact absurd hsame.symm (repr_ne_negSucc other one)
      | negSucc =>
          have hlists := congrArg String.toList hsame
          rw [toList_negSucc, toList_negSucc] at hlists
          have hdigits := String.toList_injective (List.cons.inj hlists).2
          exact congrArg Int.negSucc (Nat.succ.inj (repr_inj hdigits))

theorem toString_append_inj {one other : Int} {sep : Char} {rest more : List Char}
    (hsep : ¬ (sep.isDigit ∨ sep = '-'))
    (hsame : (toString one).toList ++ sep :: rest = (toString other).toList ++ sep :: more) :
    one = other ∧ rest = more := by
  have hcut : ∀ (value : Int) (later : List Char),
      ((toString value).toList ++ sep :: later).takeWhile (fun c => decide (c ≠ sep)) =
        (toString value).toList := by
    intro value later
    have hall : ∀ c ∈ (toString value).toList, decide (c ≠ sep) = true := by
      intro c hc
      apply decide_eq_true
      intro heq
      rw [heq] at hc
      exact hsep (mem_toString hc)
    rw [List.takeWhile_append_of_pos hall]
    simp
  have hfront : (toString one).toList = (toString other).toList := by
    rw [← hcut one rest, hsame, hcut]
  rw [hfront] at hsame
  exact ⟨toString_inj (String.toList_injective hfront),
    (List.cons.inj (List.append_cancel_left hsame)).2⟩

end OpsCure.Numerals
