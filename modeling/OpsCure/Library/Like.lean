/-
SQL's `LIKE` as SQLite computes it: `%` stands for any text and `_` for one character, the letters
of ASCII are compared without their case, and a text is read up to its first NUL.
-/
import Mathlib.Data.List.Infix
import Mathlib.Data.List.TakeWhile
import Mathlib.Tactic.Common

namespace OpsCure.Like

/-- `patternCompare`, on what is left of a pattern and of a text. -/
def patternCompare : List Char → List Char → Bool
  | [], text => text.isEmpty
  | c :: pattern, text =>
      if c = '%' then text.tails.any (patternCompare pattern)
      else match text with
        | [] => false
        | d :: rest => (c = '_' || c.toLower = d.toLower) && patternCompare pattern rest

def readText (text : String) : List Char :=
  text.toList.takeWhile (· ≠ '\x00')

/-- `text LIKE pattern`. -/
def like (pattern text : String) : Bool :=
  patternCompare (readText pattern) (readText text)

example : like "a%_c" "AbbC" = true ∧ like "a%_c" "ac" = false := by decide

variable {pattern text word : List Char}

theorem patternCompare_percent :
    patternCompare ('%' :: pattern) text ↔
      ∃ rest, rest <:+ text ∧ patternCompare pattern rest := by
  simp [patternCompare]

theorem patternCompare_end : patternCompare ['%'] text := by
  apply patternCompare_percent.2
  exact ⟨[], List.nil_suffix, rfl⟩

/-- What a pattern holds no wildcard in, it finds letter by letter. -/
def IsLiteral (word : List Char) : Prop :=
  ∀ c ∈ word, c ≠ '%' ∧ c ≠ '_'

instance (word : List Char) : Decidable (IsLiteral word) := List.decidableBAll _ word

theorem patternCompare_literal (hword : IsLiteral word) :
    patternCompare (word ++ pattern) text ↔
      ∃ first rest, first ++ rest = text ∧ first.map Char.toLower = word.map Char.toLower ∧
        patternCompare pattern rest := by
  induction word generalizing text with
  | nil =>
      constructor
      · intro hmatch
        exact ⟨[], text, rfl, rfl, hmatch⟩
      · intro ⟨first, rest, htext, hfirst, hmatch⟩
        have hnone : first = [] := List.map_eq_nil_iff.mp hfirst
        rw [hnone, List.nil_append] at htext
        rw [← htext]
        exact hmatch
  | cons c word ih =>
      obtain ⟨hpercent, hunder⟩ := hword c List.mem_cons_self
      have hrest : IsLiteral word := fun d hd => hword d (List.mem_cons_of_mem c hd)
      cases text with
      | nil => simp [patternCompare, hpercent]
      | cons d text =>
          have hstep : patternCompare (c :: word ++ pattern) (d :: text) ↔
              c.toLower = d.toLower ∧ patternCompare (word ++ pattern) text := by
            simp [patternCompare, hpercent, hunder]
          rw [hstep, ih hrest]
          constructor
          · intro ⟨hletter, first, rest, htext, hfirst, hmatch⟩
            refine ⟨d :: first, rest, ?_, ?_, hmatch⟩
            · rw [List.cons_append, htext]
            · rw [List.map_cons, List.map_cons, hfirst, hletter]
          · intro ⟨first, rest, htext, hfirst, hmatch⟩
            cases first with
            | nil => simp at hfirst
            | cons e first =>
                simp only [List.cons_append, List.cons.injEq, List.map_cons] at htext hfirst
                obtain ⟨rfl, htext⟩ := htext
                exact ⟨hfirst.1.symm, first, rest, htext, hfirst.2, hmatch⟩

/-- `LIKE 'word%'`: the text opens with the word, but for case. -/
theorem patternCompare_start (hword : IsLiteral word) :
    patternCompare (word ++ ['%']) text ↔ word.map Char.toLower <+: text.map Char.toLower := by
  rw [patternCompare_literal hword]
  constructor
  · intro ⟨first, rest, htext, hfirst, _⟩
    rw [← htext, List.map_append, hfirst]
    exact List.prefix_append _ _
  · intro hprefix
    obtain ⟨folded, hfolded⟩ := hprefix
    obtain ⟨first, rest, htext, hfirst, -⟩ := List.map_eq_append_iff.mp hfolded.symm
    exact ⟨first, rest, htext.symm, hfirst, patternCompare_end⟩

/-- `LIKE '%word%'`: the text holds the word, but for case. -/
theorem patternCompare_within (hword : IsLiteral word) :
    patternCompare ('%' :: (word ++ ['%'])) text ↔
      word.map Char.toLower <:+: text.map Char.toLower := by
  rw [patternCompare_percent, List.infix_iff_prefix_suffix]
  constructor
  · intro ⟨rest, hsuffix, hmatch⟩
    exact ⟨rest.map Char.toLower, (patternCompare_start hword).mp hmatch, hsuffix.map Char.toLower⟩
  · intro ⟨folded, hprefix, hsuffix⟩
    obtain ⟨before, hfolded⟩ := hsuffix
    obtain ⟨skipped, rest, htext, -, hrest⟩ := List.map_eq_append_iff.mp hfolded.symm
    rw [← hrest] at hprefix
    exact ⟨rest, ⟨skipped, htext.symm⟩, (patternCompare_start hword).mpr hprefix⟩

end OpsCure.Like
