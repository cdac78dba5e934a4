/-
Texts of lines, and readers that take them a line at a time.  Lines end in LF, CR or CRLF; some
readers cut at LF alone, and some at everything Python's `str.splitlines` takes for a break.
-/
import Mathlib.Data.List.Basic
import Mathlib.Tactic.Common
import Mathlib.Algebra.GroupWithZero.Nat

namespace OpsCure.Lines

/-! ## Lines -/

/-- How a line ends. -/
inductive Ending where
  | lf
  | cr
  | crlf
deriving DecidableEq, Repr

def Ending.text : Ending → List Char
  | lf => ['\n']
  | cr => ['\r']
  | crlf => ['\r', '\n']

structure Line where
  text : List Char
  ending : Ending
deriving Repr

def Line.render (line : Line) : List Char := line.text ++ line.ending.text

/-- A line holds no character that lines end in. -/
def Line.Whole (line : Line) : Prop := '\n' ∉ line.text ∧ '\r' ∉ line.text

def render (lines : List Line) : List Char := lines.flatMap Line.render

/-- No line that ends in CR is followed by an empty one that ends in LF: the two would be one line
that ends in CRLF. -/
def Unambiguous (lines : List Line) : Prop :=
  lines.IsChain fun line next => ¬ (line.ending = .cr ∧ next.text = [] ∧ next.ending = .lf)

/-! ## Cutting at LF -/

/-- The lines that end in LF, without it, and what is left after the last. -/
def cutLines (line : List Char) : List Char → List (List Char) × List Char
  | [] => ([], line)
  | c :: rest =>
      if c = '\n' then (line :: (cutLines [] rest).1, (cutLines [] rest).2)
      else cutLines (line ++ [c]) rest

/-- The lines of a file that is read a line at a time: each with its LF, and what is left. -/
def readLines (text : List Char) : List (List Char) :=
  let cut := cutLines [] text
  cut.1.map (· ++ ['\n']) ++ if cut.2 = [] then [] else [cut.2]

theorem cutLines_append (line before after : List Char) :
    cutLines line (before ++ after) =
      ((cutLines line before).1 ++ (cutLines (cutLines line before).2 after).1,
        (cutLines (cutLines line before).2 after).2) := by
  induction before generalizing line with
  | nil => rfl
  | cons c before ih =>
      rw [List.cons_append, cutLines, cutLines]
      by_cases hend : c = '\n'
      · rw [if_pos hend, if_pos hend, ih]
        rfl
      · rw [if_neg hend, if_neg hend, ih]

theorem cutLines_open {text : List Char} (hopen : '\n' ∉ text) (line : List Char) :
    cutLines line text = ([], line ++ text) := by
  induction text generalizing line with
  | nil => rw [cutLines, List.append_nil]
  | cons c text ih =>
      rw [List.mem_cons, not_or] at hopen
      rw [cutLines, if_neg (Ne.symm hopen.1), ih hopen.2, List.append_assoc]
      rfl

theorem cutLines_rest (line text : List Char) (hline : '\n' ∉ line) :
    '\n' ∉ (cutLines line text).2 := by
  induction text generalizing line with
  | nil => exact hline
  | cons c text ih =>
      rw [cutLines]
      by_cases hend : c = '\n'
      · rw [if_pos hend]
        exact ih [] List.not_mem_nil
      · rw [if_neg hend]
        apply ih
        rw [List.mem_append, List.mem_singleton, not_or]
        exact ⟨hline, Ne.symm hend⟩

def Line.beforeLf (line : Line) : List Char := line.text ++ line.ending.text.dropLast

theorem cutLines_line {line : Line} (hwhole : line.Whole) (hending : line.ending ≠ .cr) :
    cutLines [] line.render = ([line.beforeLf], []) := by
  have hopen : '\n' ∉ line.beforeLf := by
    rw [Line.beforeLf, List.mem_append, not_or]
    refine ⟨hwhole.1, ?_⟩
    cases line.ending with
    | lf | cr => exact List.not_mem_nil
    | crlf => decide
  have hrender : line.render = line.beforeLf ++ ['\n'] := by
    rw [Line.render, Line.beforeLf]
    cases hcase : line.ending with
    | cr => exact absurd hcase hending
    | lf => rw [Ending.text, List.dropLast_singleton, List.append_nil]
    | crlf =>
        rw [List.append_assoc]
        rfl
  rw [hrender, cutLines_append, cutLines_open hopen]
  rfl

theorem cutLines_render {lines : List Line} (hwhole : ∀ line ∈ lines, line.Whole)
    (hending : ∀ line ∈ lines, line.ending ≠ .cr) :
    cutLines [] (render lines) = (lines.map Line.beforeLf, []) := by
  induction lines with
  | nil => rfl
  | cons line lines ih =>
      have hrest := ih (fun other hother => hwhole other (List.mem_cons_of_mem _ hother))
        (fun other hother => hending other (List.mem_cons_of_mem _ hother))
      have hfirst := cutLines_line (hwhole line List.mem_cons_self)
        (hending line List.mem_cons_self)
      rw [render, List.flatMap_cons, cutLines_append, hfirst]
      rw [render] at hrest
      rw [hrest]
      rfl

/-! ## Cutting at every break -/

/-- What `str.splitlines` breaks a text at. -/
def isBreak (c : Char) : Bool :=
  c.toNat ∈ [0x0A, 0x0B, 0x0C, 0x0D, 0x1C, 0x1D, 0x1E, 0x85, 0x2028, 0x2029]

/-- `str.splitlines` behind a line that is open. -/
def splitFrom (line : List Char) : List Char → List (List Char)
  | [] => if line = [] then [] else [line]
  | '\r' :: '\n' :: rest => line :: splitFrom [] rest
  | c :: rest => if isBreak c then line :: splitFrom [] rest else splitFrom (line ++ [c]) rest

/-- `str.splitlines`. -/
def splitLines (text : List Char) : List (List Char) := splitFrom [] text

/-- The parts between the breaks of a text, the line that is open in front. -/
def pieces (line : List Char) : List Char → List (List Char)
  | [] => [line]
  | c :: rest => if isBreak c then line :: pieces [] rest else pieces (line ++ [c]) rest

theorem pieces_plain {text : List Char} (hplain : ∀ c ∈ text, ¬ isBreak c) (line : List Char) :
    pieces line text = [line ++ text] := by
  induction text generalizing line with
  | nil => rw [pieces, List.append_nil]
  | cons c text ih =>
      rw [pieces, if_neg (hplain c List.mem_cons_self),
        ih fun other hother => hplain other (List.mem_cons_of_mem _ hother), List.append_assoc]
      rfl

theorem pieces_append (front line text : List Char) :
    ∃ first rest, pieces line text = first :: rest ∧
      pieces (front ++ line) text = (front ++ first) :: rest := by
  induction text generalizing line with
  | nil => exact ⟨line, [], rfl, rfl⟩
  | cons c text ih =>
      rw [pieces, pieces]
      by_cases hbreak : isBreak c
      · rw [if_pos hbreak, if_pos hbreak]
        exact ⟨line, pieces [] text, rfl, rfl⟩
      · rw [if_neg hbreak, if_neg hbreak, List.append_assoc]
        exact ih (line ++ [c])

theorem countP_pieces (counts : Char → Bool) (line text : List Char) :
    ((pieces line text).map (List.countP counts)).sum +
        text.countP (fun c => isBreak c && counts c) =
      line.countP counts + text.countP counts := by
  induction text generalizing line with
  | nil => simp [pieces]
  | cons c text ih =>
      rw [pieces]
      by_cases hbreak : isBreak c
      · have hrest := ih []
        rw [List.countP_nil, Nat.zero_add] at hrest
        rw [if_pos hbreak, List.map_cons, List.sum_cons, List.countP_cons, List.countP_cons,
          ← hrest]
        simp only [hbreak, Bool.true_and]
        omega
      · have hrest := ih (line ++ [c])
        rw [List.countP_append, List.countP_singleton] at hrest
        rw [if_neg hbreak, List.countP_cons, List.countP_cons]
        simp only [hbreak, Bool.false_and, Bool.false_eq_true, if_false, Nat.add_zero]
        omega

theorem splitFrom_cons {c : Char} (hc : c ≠ '\r') (line rest : List Char) :
    splitFrom line (c :: rest) =
      if isBreak c then line :: splitFrom [] rest else splitFrom (line ++ [c]) rest := by
  rw [splitFrom]
  intro following hsame
  exact absurd hsame hc

theorem splitFrom_ending (ending : Ending) (line rest : List Char)
    (hrest : ending = .cr → rest.head? ≠ some '\n') :
    splitFrom line (ending.text ++ rest) = line :: splitFrom [] rest := by
  cases ending with
  | lf => rfl
  | crlf => rfl
  | cr =>
      cases rest with
      | nil => rfl
      | cons c =>
          have hc : c ≠ '\n' := by
            intro hsame
            exact hrest rfl (congrArg some hsame)
          rw [Ending.text, List.singleton_append, splitFrom]
          · rfl
          · intro following _ hsame
            exact hc (List.cons.inj hsame).1

theorem splitFrom_line {text : List Char} (hcr : '\r' ∉ text) (ending : Ending)
    (line rest : List Char) (hrest : ending = .cr → rest.head? ≠ some '\n') :
    splitFrom line (text ++ (ending.text ++ rest)) = pieces line text ++ splitFrom [] rest := by
  induction text generalizing line with
  | nil => exact splitFrom_ending ending line rest hrest
  | cons c text ih =>
      rw [List.mem_cons, not_or] at hcr
      rw [List.cons_append, splitFrom_cons (Ne.symm hcr.1), pieces]
      by_cases hbreak : isBreak c
      · rw [if_pos hbreak, if_pos hbreak, ih hcr.2, List.cons_append]
      · rw [if_neg hbreak, if_neg hbreak, ih hcr.2]

theorem splitLines_render {lines : List Line} (hwhole : ∀ line ∈ lines, line.Whole)
    (hunambiguous : Unambiguous lines) :
    splitLines (render lines) = lines.flatMap fun line => pieces [] line.text := by
  induction lines with
  | nil => rfl
  | cons line lines ih =>
      have hrest : line.ending = .cr → (render lines).head? ≠ some '\n' := by
        intro hcr
        cases lines with
        | nil => exact nofun
        | cons next lines =>
            have hnext := (List.isChain_cons_cons.mp hunambiguous).1
            have hwholeNext := hwhole next (List.mem_cons_of_mem _ List.mem_cons_self)
            obtain ⟨text, ending⟩ := next
            cases text with
            | cons c =>
                intro hhead
                have hc : c = '\n' := Option.some.inj hhead
                rw [hc] at hwholeNext
                exact hwholeNext.1 List.mem_cons_self
            | nil =>
                cases ending with
                | lf => exact absurd ⟨hcr, rfl, rfl⟩ hnext
                | cr | crlf =>
                    intro hhead
                    exact absurd (Option.some.inj hhead) (by decide)
      have hfirst := splitFrom_line (hwhole line List.mem_cons_self).2 line.ending [] (render lines)
        hrest
      rw [splitLines, render, List.flatMap_cons, Line.render, List.append_assoc,
        List.flatMap_cons]
      rw [render] at hfirst
      rw [hfirst]
      congr 1
      exact ih (fun other hother => hwhole other (List.mem_cons_of_mem _ hother))
        hunambiguous.of_cons

theorem splitFrom_step {c : Char} {rest : List Char} (hcrlf : c = '\r' → rest.head? ≠ some '\n')
    (line : List Char) :
    splitFrom line (c :: rest) =
      if isBreak c then line :: splitFrom [] rest else splitFrom (line ++ [c]) rest := by
  rw [splitFrom]
  intro following hc hrest
  apply hcrlf hc
  rw [hrest]
  rfl

theorem splitFrom_append_lf (line text more : List Char) :
    splitFrom line (text ++ '\n' :: more) = splitFrom line (text ++ ['\n']) ++ splitLines more := by
  fun_induction splitFrom line text with
  | case1 => rfl
  | case2 => rfl
  | case3 line rest ih =>
      simp only [List.cons_append, splitFrom]
      rw [ih]
  | case4 line c rest hcrlf hbreak ih =>
      by_cases hlast : c = '\r' ∧ rest = []
      · rw [hlast.1, hlast.2]
        rfl
      · have hopen : ∀ tail, c = '\r' → (rest ++ '\n' :: tail).head? ≠ some '\n' := by
          intro tail hc hhead
          cases rest with
          | nil => exact hlast ⟨hc, rfl⟩
          | cons d rest =>
              have hd : d = '\n' := Option.some.inj hhead
              exact hcrlf rest hc (by rw [hd])
        rw [List.cons_append, List.cons_append, splitFrom_step (hopen more),
          splitFrom_step (hopen []), if_pos hbreak, if_pos hbreak, ih]
        rfl
  | case5 line c rest hcrlf hbreak ih =>
      have hopen : ∀ tail : List Char, c = '\r' → (rest ++ '\n' :: tail).head? ≠ some '\n' := by
        intro tail hc
        rw [hc] at hbreak
        exact absurd rfl hbreak
      rw [List.cons_append, List.cons_append, splitFrom_step (hopen more),
        splitFrom_step (hopen []), if_neg hbreak, if_neg hbreak, ih]

theorem not_isBreak_of_mem_splitFrom {line text : List Char} (hline : ∀ c ∈ line, ¬ isBreak c)
    {other : List Char} (hother : other ∈ splitFrom line text) : ∀ c ∈ other, ¬ isBreak c := by
  fun_induction splitFrom line text with
  | case1 => exact absurd hother List.not_mem_nil
  | case2 =>
      rw [List.mem_singleton.mp hother]
      exact hline
  | case3 line rest ih =>
      rcases List.mem_cons.mp hother with hfirst | hrest
      · rw [hfirst]
        exact hline
      · exact ih (fun _ hc => absurd hc List.not_mem_nil) hrest
  | case4 line c rest hcrlf hbreak ih =>
      rcases List.mem_cons.mp hother with hfirst | hrest
      · rw [hfirst]
        exact hline
      · exact ih (fun _ hc => absurd hc List.not_mem_nil) hrest
  | case5 line c rest hcrlf hbreak ih =>
      apply ih _ hother
      intro d hd
      rcases List.mem_append.mp hd with hfirst | hlast
      · exact hline d hfirst
      · rw [List.mem_singleton.mp hlast]
        exact hbreak

theorem not_isBreak_of_mem_splitLines {text line : List Char} (hline : line ∈ splitLines text) :
    ∀ c ∈ line, ¬ isBreak c :=
  not_isBreak_of_mem_splitFrom (fun _ hc => absurd hc List.not_mem_nil) hline

/-- What Python's text files read: every line ends in LF. -/
def universalNewlines : List Char → List Char
  | [] => []
  | '\r' :: '\n' :: rest => '\n' :: universalNewlines rest
  | c :: rest => (if c = '\r' then '\n' else c) :: universalNewlines rest

theorem splitFrom_universalNewlines (line text : List Char) :
    splitFrom line (universalNewlines text) = splitFrom line text := by
  fun_induction universalNewlines text generalizing line with
  | case1 => rfl
  | case2 rest ih =>
      rw [splitFrom, ← ih]
      rfl
  | case3 c rest hcrlf ih =>
      have hopen : c = '\r' → rest.head? ≠ some '\n' := by
        intro hc hhead
        cases rest with
        | nil => exact nomatch hhead
        | cons d rest =>
            have hd : d = '\n' := Option.some.inj hhead
            exact hcrlf rest hc (by rw [hd])
      rw [splitFrom_step hopen]
      by_cases hc : c = '\r'
      · rw [if_pos hc, hc, ← ih]
        rfl
      · rw [if_neg hc, splitFrom_cons hc, ih, ih]

/-! ## Readers -/

/-- A reader of lines: what it holds, and what it hands out at a line. -/
structure Reader (σ β : Type) where
  start : σ
  read : σ → List Char → σ × List β

namespace Reader

variable {σ β : Type} (reader : Reader σ β)

def feed (s : σ) : List (List Char) → σ × List β
  | [] => (s, [])
  | line :: lines =>
      ((feed (reader.read s line).1 lines).1,
        (reader.read s line).2 ++ (feed (reader.read s line).1 lines).2)

def handsOut (lines : List (List Char)) : List β := (reader.feed reader.start lines).2

variable {reader}

theorem feed_append (s : σ) (lines more : List (List Char)) :
    reader.feed s (lines ++ more) =
      ((reader.feed (reader.feed s lines).1 more).1,
        (reader.feed s lines).2 ++ (reader.feed (reader.feed s lines).1 more).2) := by
  induction lines generalizing s with
  | nil => rfl
  | cons line lines ih =>
      rw [List.cons_append, feed, feed, ih, List.append_assoc]

theorem feed_map {ι : Type} {other : Reader σ β} {raw text : ι → List Char} {lines : List ι}
    (halike : ∀ line ∈ lines, ∀ s, reader.read s (raw line) = other.read s (text line)) (s : σ) :
    reader.feed s (lines.map raw) = other.feed s (lines.map text) := by
  induction lines generalizing s with
  | nil => rfl
  | cons line lines ih =>
      have hrest := fun other hother => halike other (List.mem_cons_of_mem line hother)
      rw [List.map_cons, List.map_cons, feed, feed, halike line List.mem_cons_self, ih hrest]

theorem feed_filter {keep : List Char → Bool}
    (hpasses : ∀ line, ¬ keep line → ∀ s, reader.read s line = (s, [])) (s : σ)
    (lines : List (List Char)) : reader.feed s (lines.filter keep) = reader.feed s lines := by
  induction lines generalizing s with
  | nil => rfl
  | cons line lines ih =>
      by_cases hkeep : keep line
      · rw [List.filter_cons_of_pos hkeep, feed, feed, ih]
      · rw [List.filter_cons_of_neg hkeep, ih, feed, hpasses line hkeep]
        rfl

theorem feed_weight (held : σ → Nat) (out : β → Nat) (weight : List Char → Nat)
    (hread : ∀ s line, held (reader.read s line).1 + ((reader.read s line).2.map out).sum ≤
      held s + weight line) (s : σ) (lines : List (List Char)) :
    held (reader.feed s lines).1 + ((reader.feed s lines).2.map out).sum ≤
      held s + (lines.map weight).sum := by
  induction lines generalizing s with
  | nil => exact Nat.le_refl _
  | cons line lines ih =>
      have hfirst := hread s line
      have hrest := ih (reader.read s line).1
      simp only [feed, List.map_append, List.sum_append, List.map_cons, List.sum_cons]
      omega

theorem feed_blocks {ι : Type} {block : ι → List (List Char)} {out : ι → List β}
    (hblock : ∀ i, reader.feed reader.start (block i) = (reader.start, out i)) (indices : List ι) :
    reader.feed reader.start (indices.flatMap block) = (reader.start, indices.flatMap out) := by
  induction indices with
  | nil => rfl
  | cons i indices ih =>
      rw [List.flatMap_cons, feed_append, hblock i, ih, List.flatMap_cons]

end Reader

end OpsCure.Lines
