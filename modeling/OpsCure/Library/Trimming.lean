/-
Cutting the blanks off a text, for any notion of a blank.  Two notions trim a text to the same
as soon as neither finds a blank of the other at an end of what it keeps.
-/
import Mathlib.Data.List.TakeWhile

namespace Trimming

universe u

variable {α : Type u} {p q : α → Bool} {c : α} {text : List α}

/-- A text without the blanks at its ends. -/
def trimBy (p : α → Bool) (text : List α) : List α :=
  ((text.dropWhile p).reverse.dropWhile p).reverse

theorem head_dropWhile (hhead : c ∈ (text.dropWhile p).head?) : p c = false := by
  have hkept := List.head?_dropWhile_not p text
  rw [Option.mem_def.mp hhead] at hkept
  simpa using hkept

theorem dropWhile_eq_of_heads (hp : ∀ c ∈ (text.dropWhile p).head?, q c = false)
    (hq : ∀ c ∈ (text.dropWhile q).head?, p c = false) : text.dropWhile p = text.dropWhile q := by
  induction text with
  | nil => rfl
  | cons c rest ih =>
      cases hpc : p c with
      | true =>
          cases hqc : q c with
          | true =>
              simp only [List.dropWhile_cons, hpc, hqc, if_true] at hp hq ⊢
              exact ih hp hq
          | false =>
              have hstop := hq c (by simp [hqc])
              rw [hpc] at hstop
              cases hstop
      | false =>
          have hstop := hp c (by simp [hpc])
          simp [hpc, hstop]

theorem head_trimBy_eq (p : α → Bool) (text : List α) :
    (trimBy p text).head? = (text.dropWhile p).head? := by
  unfold trimBy
  cases hfirst : text.dropWhile p with
  | nil => rfl
  | cons c =>
      have hkept : p c = false := head_dropWhile (Option.mem_def.mpr (congrArg List.head? hfirst))
      have hlast : [c].dropWhile p = [c] := by simp [hkept]
      rw [List.reverse_cons, List.dropWhile_append, hlast]
      split
      · rfl
      · simp

theorem head_trimBy (hhead : c ∈ (trimBy p text).head?) : p c = false := by
  rw [head_trimBy_eq] at hhead
  exact head_dropWhile hhead

theorem getLast_trimBy_eq (p : α → Bool) (text : List α) :
    (trimBy p text).getLast? = ((text.dropWhile p).reverse.dropWhile p).head? :=
  List.getLast?_reverse

theorem getLast_trimBy (hlast : c ∈ (trimBy p text).getLast?) : p c = false := by
  rw [getLast_trimBy_eq] at hlast
  exact head_dropWhile hlast

theorem trimBy_eq_of_ends (hfirst : ∀ c ∈ (trimBy p text).head?, q c = false)
    (hfirst' : ∀ c ∈ (trimBy q text).head?, p c = false)
    (hlast : ∀ c ∈ (trimBy p text).getLast?, q c = false)
    (hlast' : ∀ c ∈ (trimBy q text).getLast?, p c = false) : trimBy p text = trimBy q text := by
  rw [head_trimBy_eq] at hfirst hfirst'
  rw [getLast_trimBy_eq] at hlast hlast'
  have hfront : text.dropWhile p = text.dropWhile q := dropWhile_eq_of_heads hfirst hfirst'
  rw [hfront] at hlast
  have hback := dropWhile_eq_of_heads hlast hlast'
  rw [trimBy, trimBy, hfront, hback]

theorem dropWhile_eq_self (hhead : ∀ c ∈ text.head?, p c = false) : text.dropWhile p = text := by
  cases text with
  | nil => rfl
  | cons c => simp [hhead c rfl]

theorem trimBy_trimBy (p : α → Bool) (text : List α) :
    trimBy p (trimBy p text) = trimBy p text := by
  have hfront : (trimBy p text).dropWhile p = trimBy p text :=
    dropWhile_eq_self fun c hc => head_trimBy hc
  have hback : (trimBy p text).reverse.dropWhile p = (trimBy p text).reverse := by
    refine dropWhile_eq_self fun c hc => ?_
    rw [List.head?_reverse] at hc
    exact getLast_trimBy hc
  rw [trimBy, hfront, hback, List.reverse_reverse]

theorem getLast_dropWhile_of_suffix {whole rest : List α} (hsuffix : rest <:+ whole)
    (hlast : c ∈ (rest.dropWhile p).getLast?) : c ∈ whole.getLast? := by
  obtain ⟨before, hbefore⟩ := (List.dropWhile_suffix p).trans hsuffix
  rw [← hbefore, List.getLast?_append, Option.mem_def.mp hlast]
  rfl

theorem getLast_dropWhile (hlast : c ∈ text.getLast?) (hkept : p c = false) :
    c ∈ (text.dropWhile p).getLast? := by
  have hsplit : text.takeWhile p ++ text.dropWhile p = text := List.takeWhile_append_dropWhile
  rw [← hsplit, List.getLast?_append] at hlast
  cases hrest : (text.dropWhile p).getLast? with
  | some =>
      rw [hrest] at hlast
      exact hlast
  | none =>
      rw [hrest, Option.none_or] at hlast
      have hblank := List.mem_takeWhile_imp (List.mem_of_mem_getLast? hlast)
      rw [hkept] at hblank
      cases hblank

theorem dropWhile_append_of_blank {before : List α} (hblank : ∀ c ∈ before, p c = true)
    (text : List α) : (before ++ text).dropWhile p = text.dropWhile p := by
  have hgone : before.dropWhile p = [] := List.dropWhile_eq_nil_iff.mpr hblank
  simp [List.dropWhile_append, hgone]

theorem trimBy_blank_append {before : List α} (hblank : ∀ c ∈ before, p c = true)
    (text : List α) : trimBy p (before ++ text) = trimBy p text := by
  rw [trimBy, dropWhile_append_of_blank hblank, trimBy]

theorem exists_blanks (p : α → Bool) (text : List α) :
    ∃ before after, text = before ++ trimBy p text ++ after ∧
      (∀ c ∈ before, p c = true) ∧ ∀ c ∈ after, p c = true := by
  refine ⟨text.takeWhile p, ((text.dropWhile p).reverse.takeWhile p).reverse, ?_, ?_, ?_⟩
  · rw [trimBy, List.append_assoc, ← List.reverse_append, List.takeWhile_append_dropWhile,
      List.reverse_reverse, List.takeWhile_append_dropWhile]
  · exact fun c hc => List.mem_takeWhile_imp hc
  · exact fun c hc => List.mem_takeWhile_imp (List.mem_reverse.mp hc)

theorem trimBy_eq_self (hfirst : ∀ c ∈ text.head?, p c = false)
    (hlast : ∀ c ∈ text.getLast?, p c = false) : trimBy p text = text := by
  have hback : text.reverse.dropWhile p = text.reverse := by
    apply dropWhile_eq_self
    intro c hc
    rw [List.head?_reverse] at hc
    exact hlast c hc
  rw [trimBy, dropWhile_eq_self hfirst, hback, List.reverse_reverse]

theorem trimBy_append_of_kept {start : List α} (hfirst : ∀ c ∈ start.head?, p c = false)
    (hlast : start.getLast? = some c) (hkept : p c = false) (text : List α) :
    trimBy p (start ++ text) = start ++ (text.reverse.dropWhile p).reverse := by
  have hfront : (start ++ text).dropWhile p = start ++ text := by
    apply dropWhile_eq_self
    cases start with
    | nil => cases hlast
    | cons => exact hfirst
  have hstart : start.reverse.dropWhile p = start.reverse := by
    apply dropWhile_eq_self
    intro d hd
    rw [List.head?_reverse, hlast] at hd
    obtain rfl := Option.some.inj hd
    exact hkept
  rw [trimBy, hfront, List.reverse_append, List.dropWhile_append, hstart]
  split
  · next hblank =>
      rw [List.isEmpty_iff.mp hblank, List.reverse_reverse, List.reverse_nil, List.append_nil]
  · rw [List.reverse_append, List.reverse_reverse]

theorem dropWhile_reverse_dropWhile (p : α → Bool) (text : List α) :
    ((text.reverse.dropWhile p).reverse).dropWhile p = trimBy p text := by
  obtain ⟨before, after, htext, hbefore, hafter⟩ := exists_blanks p text
  have hback : ∀ c ∈ after.reverse, p c = true := fun c hc => hafter c (List.mem_reverse.mp hc)
  generalize hmiddle : trimBy p text = middle at htext
  rw [htext, List.reverse_append, dropWhile_append_of_blank hback]
  cases hlast : middle.getLast? with
  | none =>
      have hnil : middle = [] := List.getLast?_eq_none_iff.mp hlast
      have hgone : before.reverse.dropWhile p = [] :=
        List.dropWhile_eq_nil_iff.mpr fun c hc => hbefore c (List.mem_reverse.mp hc)
      rw [hnil, List.append_nil, hgone]
      rfl
  | some c =>
      have hkept : p c = false := by
        rw [← hmiddle] at hlast
        exact getLast_trimBy (Option.mem_def.mpr hlast)
      have hstays : (before ++ middle).reverse.dropWhile p = (before ++ middle).reverse := by
        apply dropWhile_eq_self
        intro d hd
        rw [List.head?_reverse, List.getLast?_append, hlast] at hd
        obtain rfl := Option.some.inj hd
        exact hkept
      rw [hstays, List.reverse_reverse, dropWhile_append_of_blank hbefore]
      apply dropWhile_eq_self
      intro d hd
      rw [← hmiddle] at hd
      exact head_trimBy hd

theorem trimBy_append_blank {after : List α} (hblank : ∀ c ∈ after, p c = true) (text : List α) :
    trimBy p (text ++ after) = trimBy p text := by
  have hback : ∀ c ∈ after.reverse, p c = true := fun c hc => hblank c (List.mem_reverse.mp hc)
  rw [← dropWhile_reverse_dropWhile, List.reverse_append, dropWhile_append_of_blank hback,
    dropWhile_reverse_dropWhile]

end Trimming
