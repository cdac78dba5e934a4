/-
A file as its rows: every row ends behind a terminator, and the last may be open.  Unlike the lines
of a text the rows hold all of the file.
-/
import Mathlib.Data.List.Basic
import Mathlib.Tactic.Common

namespace OpsCure.Rows

universe u

variable {α : Type u} [DecidableEq α] (terminator : α)

def rowsFrom (row : List α) : List α → List (List α)
  | [] => if row = [] then [] else [row]
  | x :: rest =>
      if x = terminator then (row ++ [x]) :: rowsFrom [] rest else rowsFrom (row ++ [x]) rest

def rows (content : List α) : List (List α) := rowsFrom terminator [] content

/-- A row that is terminated, and holds no terminator before its end. -/
def Whole (row : List α) : Prop := ∃ front, terminator ∉ front ∧ row = front ++ [terminator]

variable {terminator}

theorem rowsFrom_open {last : List α} (hopen : terminator ∉ last) (row : List α) :
    rowsFrom terminator row last = if row ++ last = [] then [] else [row ++ last] := by
  induction last generalizing row with
  | nil => rw [rowsFrom, List.append_nil]
  | cons x last ih =>
      rw [List.mem_cons, not_or] at hopen
      rw [rowsFrom, if_neg (Ne.symm hopen.1), ih hopen.2, List.append_assoc]
      rfl

theorem rowsFrom_front {front : List α} (hfront : terminator ∉ front) (row rest : List α) :
    rowsFrom terminator row (front ++ terminator :: rest) =
      (row ++ front ++ [terminator]) :: rows terminator rest := by
  induction front generalizing row with
  | nil =>
      rw [List.nil_append, rowsFrom, if_pos rfl, List.append_nil]
      rfl
  | cons x front ih =>
      rw [List.mem_cons, not_or] at hfront
      rw [List.cons_append, rowsFrom, if_neg (Ne.symm hfront.1), ih hfront.2]
      simp only [List.append_assoc, List.singleton_append]

theorem rows_whole_append {row : List α} (hwhole : Whole terminator row) (rest : List α) :
    rows terminator (row ++ rest) = row :: rows terminator rest := by
  obtain ⟨front, hfront, hrow⟩ := hwhole
  rw [hrow, List.append_assoc, rows, List.singleton_append, rowsFrom_front hfront]
  rfl

theorem rows_flatten_append {whole : List (List α)} (hwhole : ∀ row ∈ whole, Whole terminator row)
    (rest : List α) :
    rows terminator (whole.flatten ++ rest) = whole ++ rows terminator rest := by
  induction whole with
  | nil => rfl
  | cons row whole ih =>
      have hrest := ih fun other hother => hwhole other (List.mem_cons_of_mem _ hother)
      rw [List.flatten_cons, List.append_assoc,
        rows_whole_append (hwhole row List.mem_cons_self), hrest]
      rfl

theorem rows_flatten {whole : List (List α)} (hwhole : ∀ row ∈ whole, Whole terminator row) :
    rows terminator whole.flatten = whole := by
  have hrows := rows_flatten_append hwhole []
  rw [List.append_nil] at hrows
  rw [hrows]
  exact List.append_nil whole

theorem rows_open {last : List α} (hopen : terminator ∉ last) :
    rows terminator last = if last = [] then [] else [last] := by
  rw [rows, rowsFrom_open hopen, List.nil_append]

theorem exists_whole_open (content : List α) :
    ∃ (whole : List (List α)) (last : List α), (∀ row ∈ whole, Whole terminator row) ∧ terminator ∉ last ∧
      content = whole.flatten ++ last := by
  induction content with
  | nil => exact ⟨[], [], nofun, List.not_mem_nil, rfl⟩
  | cons x content ih =>
      obtain ⟨whole, last, hwhole, hopen, hcontent⟩ := ih
      by_cases hx : x = terminator
      · refine ⟨[x] :: whole, last, ?_, hopen, ?_⟩
        · intro row hrow
          rcases List.mem_cons.mp hrow with hfirst | hrest
          · exact ⟨[], List.not_mem_nil, by rw [hfirst, hx]; rfl⟩
          · exact hwhole row hrest
        · rw [hcontent]
          rfl
      · cases whole with
        | nil =>
            refine ⟨[], x :: last, nofun, ?_, ?_⟩
            · rw [List.mem_cons, not_or]
              exact ⟨Ne.symm hx, hopen⟩
            · rw [hcontent]
              rfl
        | cons row whole =>
            obtain ⟨front, hfront, hrow⟩ := hwhole row List.mem_cons_self
            refine ⟨(x :: row) :: whole, last, ?_, hopen, ?_⟩
            · intro other hother
              rcases List.mem_cons.mp hother with hfirst | hrest
              · refine ⟨x :: front, ?_, ?_⟩
                · rw [List.mem_cons, not_or]
                  exact ⟨Ne.symm hx, hfront⟩
                · rw [hfirst, hrow]
                  rfl
              · exact hwhole other (List.mem_cons_of_mem _ hrest)
            · rw [hcontent]
              rfl

theorem flatten_rows (content : List α) : (rows terminator content).flatten = content := by
  obtain ⟨whole, last, hwhole, hopen, hcontent⟩ := @exists_whole_open _ _ terminator content
  rw [hcontent, rows_flatten_append hwhole, rows_open hopen]
  by_cases hlast : last = []
  · rw [if_pos hlast, hlast, List.append_nil, List.append_nil]
  · rw [if_neg hlast, List.flatten_append, List.flatten_singleton]

theorem whole_of_mem_rows {front row : List α} (hrow : row ∈ rows terminator (front ++ [terminator])) :
    Whole terminator row := by
  obtain ⟨whole, last, hwhole, hopen, hfront⟩ := @exists_whole_open _ _ terminator front
  have hlast : Whole terminator (last ++ [terminator]) := ⟨last, hopen, rfl⟩
  have hend := rows_whole_append hlast []
  rw [List.append_nil] at hend
  rw [hfront, List.append_assoc, rows_flatten_append hwhole, hend] at hrow
  rcases List.mem_append.mp hrow with hearlier | hrest
  · exact hwhole row hearlier
  · rcases List.mem_cons.mp hrest with hsame | hnone
    · rw [hsame]
      exact hlast
    · exact absurd hnone List.not_mem_nil

theorem rows_append_of_whole {content : List α}
    (hcontent : ∀ row ∈ rows terminator content, Whole terminator row) (rest : List α) :
    rows terminator (content ++ rest) = rows terminator content ++ rows terminator rest := by
  have happend := rows_flatten_append hcontent rest
  rw [flatten_rows] at happend
  exact happend

theorem rows_filter (keep : List α → Bool) (content : List α) :
    rows terminator ((rows terminator content).filter keep).flatten =
      (rows terminator content).filter keep := by
  obtain ⟨whole, last, hwhole, hopen, hcontent⟩ := @exists_whole_open _ _ terminator content
  have hkept : ∀ row ∈ whole.filter keep, Whole terminator row := by
    intro row hrow
    exact hwhole row (List.mem_filter.mp hrow).1
  rw [hcontent, rows_flatten_append hwhole, rows_open hopen, List.filter_append,
    List.flatten_append, rows_flatten_append hkept]
  congr 1
  by_cases hlast : last = []
  · simp [hlast, rows, rowsFrom]
  · rw [if_neg hlast]
    by_cases hkeep : keep last = true
    · simp [hkeep, rows_open hopen, hlast]
    · simp [hkeep, rows, rowsFrom]

end OpsCure.Rows
