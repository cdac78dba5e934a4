/-
Splitting a text into lines while it arrives in chunks, the way `iter_lines` of Python's requests
does: each chunk is split like `str.splitlines`, and a last line without an end waits for the next
chunk.
-/
import OpsCure.Library.Lines

namespace OpsCure.Lines

/-! ## Lines that have ended -/

/-- The lines of a text that have ended, behind a line that is open, and the line that is open at
the end of the text. -/
def cutBreaks (line : List Char) : List Char → List (List Char) × List Char
  | [] => ([], line)
  | c :: rest =>
      if isBreak c then (line :: (cutBreaks [] rest).1, (cutBreaks [] rest).2)
      else cutBreaks (line ++ [c]) rest

theorem cutBreaks_append (line text more : List Char) :
    cutBreaks line (text ++ more) =
      ((cutBreaks line text).1 ++ (cutBreaks (cutBreaks line text).2 more).1,
        (cutBreaks (cutBreaks line text).2 more).2) := by
  induction text generalizing line with
  | nil => rfl
  | cons c text ih =>
      rw [List.cons_append, cutBreaks, cutBreaks]
      by_cases hbreak : isBreak c
      · rw [if_pos hbreak, if_pos hbreak, ih]
        rfl
      · rw [if_neg hbreak, if_neg hbreak, ih]

theorem cutBreaks_plain {text : List Char} (hplain : ∀ c ∈ text, ¬ isBreak c) (line : List Char) :
    cutBreaks line text = ([], line ++ text) := by
  induction text generalizing line with
  | nil => rw [cutBreaks, List.append_nil]
  | cons c text ih =>
      have hrest := ih (fun d hd => hplain d (List.mem_cons_of_mem c hd)) (line ++ [c])
      rw [cutBreaks, if_neg (hplain c List.mem_cons_self), hrest, List.append_assoc]
      rfl

theorem splitFrom_eq_cutBreaks {text : List Char} (hcr : '\r' ∉ text) (line : List Char) :
    splitFrom line text = (cutBreaks line text).1 ++ splitFrom (cutBreaks line text).2 [] := by
  induction text generalizing line with
  | nil => rfl
  | cons c text ih =>
      rw [List.mem_cons, not_or] at hcr
      rw [splitFrom_cons (Ne.symm hcr.1), cutBreaks]
      by_cases hbreak : isBreak c
      · rw [if_pos hbreak, if_pos hbreak, ih hcr.2]
        rfl
      · rw [if_neg hbreak, if_neg hbreak, ih hcr.2]

theorem not_isBreak_cutBreaks {line : List Char} (hline : ∀ c ∈ line, ¬ isBreak c)
    (text : List Char) : ∀ c ∈ (cutBreaks line text).2, ¬ isBreak c := by
  induction text generalizing line with
  | nil => exact hline
  | cons c text ih =>
      rw [cutBreaks]
      by_cases hbreak : isBreak c
      · rw [if_pos hbreak]
        exact ih fun d hd => absurd hd List.not_mem_nil
      · rw [if_neg hbreak]
        apply ih
        intro d hd
        rcases List.mem_append.mp hd with hfirst | hlast
        · exact hline d hfirst
        · rw [List.mem_singleton.mp hlast]
          exact hbreak

theorem cutBreaks_suffix (line text : List Char) : (cutBreaks line text).2 <:+ line ++ text := by
  induction text generalizing line with
  | nil =>
      rw [List.append_nil]
      exact List.suffix_refl line
  | cons c text ih =>
      rw [cutBreaks]
      by_cases hbreak : isBreak c
      · rw [if_pos hbreak]
        have hrest : (cutBreaks [] text).2 <:+ text := ih []
        exact (hrest.trans (List.suffix_cons c text)).trans (List.suffix_append line (c :: text))
      · rw [if_neg hbreak]
        have hrest := ih (line ++ [c])
        rw [List.append_assoc] at hrest
        exact hrest

theorem cutBreaks_closed {line text : List Char} (hclosed : (cutBreaks line text).2 = []) :
    line ++ text = [] ∨ ∃ c, (line ++ text).getLast? = some c ∧ isBreak c := by
  induction text generalizing line with
  | nil =>
      rw [List.append_nil]
      exact Or.inl hclosed
  | cons c text ih =>
      rw [cutBreaks] at hclosed
      by_cases hbreak : isBreak c
      · rw [if_pos hbreak] at hclosed
        right
        rcases ih hclosed with hnone | ⟨d, hlast, hd⟩
        · rw [List.nil_append] at hnone
          rw [hnone]
          exact ⟨c, List.getLast?_concat .., hbreak⟩
        · rw [List.nil_append] at hlast
          refine ⟨d, ?_, hd⟩
          rw [List.getLast?_append, List.getLast?_cons, hlast]
          rfl
      · rw [if_neg hbreak] at hclosed
        have hrest := ih hclosed
        rw [List.append_assoc] at hrest
        exact hrest

/-! ## Lines from chunks -/

/-- `iter_lines`, behind a line that waits for its end. -/
def iterLinesFrom (pending : List Char) : List (List Char) → List (List Char)
  | [] => if pending = [] then [] else [pending]
  | chunk :: chunks =>
      let text := pending ++ chunk
      let lines := splitLines text
      let last := lines.getLast?.getD []
      -- The last line is taken for an open one where it ends in the last character of the chunk.
      if last ≠ [] ∧ last.getLast? = text.getLast? then lines.dropLast ++ iterLinesFrom last chunks
      else lines ++ iterLinesFrom [] chunks

/-- The lines of a text that arrives in these chunks. -/
def iterLines (chunks : List (List Char)) : List (List Char) := iterLinesFrom [] chunks

theorem iterLinesFrom_cons {pending chunk : List Char} (hcr : '\r' ∉ pending ++ chunk)
    (chunks : List (List Char)) :
    iterLinesFrom pending (chunk :: chunks) =
      (cutBreaks [] (pending ++ chunk)).1 ++
        iterLinesFrom (cutBreaks [] (pending ++ chunk)).2 chunks := by
  have hsplit : splitLines (pending ++ chunk) = _ := splitFrom_eq_cutBreaks hcr []
  simp only [iterLinesFrom]
  by_cases hopen : (cutBreaks [] (pending ++ chunk)).2 = []
  · rw [hopen] at hsplit ⊢
    have hlines : splitLines (pending ++ chunk) = (cutBreaks [] (pending ++ chunk)).1 := by
      rw [hsplit]
      exact List.append_nil _
    rw [if_neg]
    · rw [hlines]
    -- The chunk ends in a break, and no line does.
    rintro ⟨hsome, hends⟩
    have hmem : (splitLines (pending ++ chunk)).getLast?.getD [] ∈
        splitLines (pending ++ chunk) := by
      cases hlast : (splitLines (pending ++ chunk)).getLast? with
      | none =>
          rw [hlast] at hsome
          exact absurd rfl hsome
      | some => exact List.mem_of_getLast? hlast
    rcases cutBreaks_closed hopen with hnone | ⟨c, hlast, hbreak⟩
    · rw [List.nil_append] at hnone
      rw [hnone] at hmem
      exact absurd hmem List.not_mem_nil
    · rw [List.nil_append] at hlast
      rw [hlast] at hends
      exact not_isBreak_of_mem_splitLines hmem c (List.mem_of_getLast? hends) hbreak
  · have hlines : splitLines (pending ++ chunk) =
        (cutBreaks [] (pending ++ chunk)).1 ++ [(cutBreaks [] (pending ++ chunk)).2] := by
      rw [hsplit, splitFrom, if_neg hopen]
    have hends : (cutBreaks [] (pending ++ chunk)).2.getLast? = (pending ++ chunk).getLast? := by
      obtain ⟨before, hbefore⟩ := cutBreaks_suffix [] (pending ++ chunk)
      rw [List.nil_append] at hbefore
      obtain ⟨c, hlast⟩ := Option.ne_none_iff_exists'.mp
        (fun hnone => hopen (List.getLast?_eq_none_iff.mp hnone))
      conv_rhs => rw [← hbefore, List.getLast?_append, hlast]
      rw [hlast]
      rfl
    rw [hlines, List.getLast?_concat, List.dropLast_concat, Option.getD_some,
      if_pos ⟨hopen, hends⟩]

theorem iterLinesFrom_eq_splitFrom {pending : List Char} {chunks : List (List Char)}
    (hpending : ∀ c ∈ pending, ¬ isBreak c) (hcr : '\r' ∉ chunks.flatten) :
    iterLinesFrom pending chunks = splitFrom pending chunks.flatten := by
  induction chunks generalizing pending with
  | nil => rfl
  | cons chunk chunks ih =>
      rw [List.flatten_cons, List.mem_append, not_or] at hcr
      have hchunk : '\r' ∉ pending ++ chunk := by
        rw [List.mem_append, not_or]
        exact ⟨fun hmem => hpending _ hmem rfl, hcr.1⟩
      have hcut : cutBreaks [] (pending ++ chunk) = cutBreaks pending chunk := by
        rw [cutBreaks_append, cutBreaks_plain hpending]
        rfl
      have hwhole : '\r' ∉ chunk ++ chunks.flatten := by
        rw [List.mem_append, not_or]
        exact hcr
      rw [iterLinesFrom_cons hchunk, hcut, ih (not_isBreak_cutBreaks hpending chunk) hcr.2,
        List.flatten_cons, splitFrom_eq_cutBreaks hwhole, splitFrom_eq_cutBreaks hcr.2,
        cutBreaks_append, List.append_assoc]

theorem iterLines_eq_splitLines {chunks : List (List Char)} (hcr : '\r' ∉ chunks.flatten) :
    iterLines chunks = splitLines chunks.flatten :=
  iterLinesFrom_eq_splitFrom (fun _ hc => absurd hc List.not_mem_nil) hcr

theorem iterLines_singleton (text : List Char) : iterLines [text] = splitLines text := by
  simp only [iterLines, iterLinesFrom, List.nil_append]
  split
  · next hopen =>
      obtain ⟨hsome, _⟩ := hopen
      cases hlast : (splitLines text).getLast? with
      | none =>
          rw [hlast] at hsome
          exact absurd rfl hsome
      | some last =>
          rw [hlast, Option.getD_some] at hsome
          rw [Option.getD_some, if_neg hsome]
          exact List.dropLast_append_getLast? last hlast
  · exact List.append_nil _

end OpsCure.Lines
