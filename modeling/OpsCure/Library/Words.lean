/-
The parts of a separated text: which words stand between two separators.
-/
import Mathlib.Data.List.Basic
import OpsCure.Library.Text

namespace OpsCure.Text

universe u

section Splitting

variable {α : Type u}

theorem splitOn_map [BEq α] [LawfulBEq α] {sep : α} {rename : α → α}
    (hrename : ∀ c, rename c = sep ↔ c = sep) (values : List α) :
    (values.map rename).splitOn sep = (values.splitOn sep).map (List.map rename) := by
  induction values with
  | nil => rfl
  | cons first rest ih =>
      rw [List.map_cons, List.splitOn_cons_eq_if_modifyHead, List.splitOn_cons_eq_if_modifyHead, ih]
      by_cases hfirst : first = sep
      · have hrenamed := (hrename first).mpr hfirst
        simp [hfirst, hfirst ▸ hrenamed]
      · have hrenamed : rename first ≠ sep := fun hsame => hfirst ((hrename first).mp hsame)
        obtain ⟨head, tail, hsplit⟩ := List.exists_cons_of_ne_nil (List.splitOn_ne_nil sep rest)
        simp [hfirst, hrenamed, hsplit]

theorem mem_dropLast_splitOn [BEq α] [LawfulBEq α] {sep : α} {word values : List α}
    (hword : sep ∉ word) :
    word ∈ (values.splitOn sep).dropLast ↔
      word ++ [sep] <+: values ∨ [sep] ++ word ++ [sep] <:+: values := by
  constructor
  · intro hmem
    have hfound := @token_within α sep _ _ hmem
    rw [List.intercalate_splitOn] at hfound
    exact hfound
  · intro hfound
    rcases hfound with ⟨rest, hvalues⟩ | ⟨before, rest, hvalues⟩
    · have hsplit : values.splitOn sep = word :: rest.splitOn sep := by
        rw [← hvalues, List.append_assoc]
        exact List.splitOn_append_cons_self_of_not_mem hword rest
      rw [hsplit, List.dropLast_cons_of_ne_nil (List.splitOn_ne_nil sep rest)]
      exact List.mem_cons_self
    · have hsplit : values.splitOn sep = before.splitOn sep ++ (word :: rest.splitOn sep) := by
        rw [← List.splitOn_append_cons_self_of_not_mem hword rest, ← List.splitOn_append_cons_self,
          ← hvalues]
        simp
      rw [hsplit, List.dropLast_append_of_ne_nil (List.cons_ne_nil _ _),
        List.dropLast_cons_of_ne_nil (List.splitOn_ne_nil sep rest)]
      exact List.mem_append_right _ List.mem_cons_self

end Splitting

end OpsCure.Text
