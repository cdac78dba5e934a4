/-
Numbers written with a fixed number of decimal digits: texts that open with such a number
are ordered by the number first, and by what follows it then.
-/
import Mathlib.Data.String.Basic
import Mathlib.Tactic.Common
import Mathlib.Order.Basic

namespace OpsCure.Padded

/-- The last `width` decimal digits of a number, zeros in front. -/
def digits : Nat → Nat → List Char
  | 0, _ => []
  | width + 1, value => digits width (value / 10) ++ [Nat.digitChar (value % 10)]

/-- A number of at most `width` digits, padded, before a text. -/
def key (width value : Nat) (text : String) : String :=
  String.ofList (digits width value ++ text.toList)

theorem digitChar_lt_iff {left right : Nat} (hleft : left < 10) (hright : right < 10) :
    Nat.digitChar left < Nat.digitChar right ↔ left < right := by
  have hall : ∀ one < 10, ∀ other < 10,
      (Nat.digitChar one < Nat.digitChar other ↔ one < other) := by decide
  exact hall left hleft right hright

theorem digitChar_eq_iff {left right : Nat} (hleft : left < 10) (hright : right < 10) :
    Nat.digitChar left = Nat.digitChar right ↔ left = right := by
  have hall : ∀ one < 10, ∀ other < 10,
      (Nat.digitChar one = Nat.digitChar other ↔ one = other) := by decide
  exact hall left hleft right hright

theorem digits_append_lt_iff {width left right : Nat} {before after : List Char}
    (hleft : left < 10 ^ width) (hright : right < 10 ^ width) :
    digits width left ++ before < digits width right ++ after ↔
      left < right ∨ left = right ∧ before < after := by
  induction width generalizing left right before after with
  | zero =>
      have hzero : left = 0 := by omega
      have hother : right = 0 := by omega
      simp [digits, hzero, hother]
  | succ width ih =>
      have hpower : 10 ^ (width + 1) = 10 ^ width * 10 := pow_succ 10 width
      have hhigh : left / 10 < 10 ^ width := by omega
      have hhigh' : right / 10 < 10 ^ width := by omega
      have hlow : left % 10 < 10 := Nat.mod_lt _ (by decide)
      have hlow' : right % 10 < 10 := Nat.mod_lt _ (by decide)
      simp only [digits, List.append_assoc, List.singleton_append]
      rw [ih hhigh hhigh', List.cons_lt_cons_iff, digitChar_lt_iff hlow hlow',
        digitChar_eq_iff hlow hlow']
      constructor
      · rintro (hmore | ⟨hsame, hless | ⟨heq, htail⟩⟩)
        · left
          omega
        · left
          omega
        · right
          exact ⟨by omega, htail⟩
      · rintro (hless | ⟨rfl, htail⟩)
        · by_cases hsame : left / 10 = right / 10
          · right
            exact ⟨hsame, Or.inl (by omega)⟩
          · left
            omega
        · exact Or.inr ⟨rfl, Or.inr ⟨rfl, htail⟩⟩

theorem key_lt_key_iff {width left right : Nat} {before after : String}
    (hleft : left < 10 ^ width) (hright : right < 10 ^ width) :
    key width left before < key width right after ↔
      left < right ∨ left = right ∧ before < after := by
  rw [String.lt_iff_toList_lt, key, key, String.toList_ofList, String.toList_ofList,
    digits_append_lt_iff hleft hright, ← String.lt_iff_toList_lt]

end OpsCure.Padded
