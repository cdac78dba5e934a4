/-
What rewriting a rollout does to the file.  The file is decoded with replacement, split at all that
`str.splitlines` takes for a break, and written with the line ends of the platform; so the rows that
stay are themselves again only when they are plain lines of the platform.
-/
import OpsCure.Library.Trimming
import OpsCure.Rollout

namespace OpsCure.Rollout

open Lines Utf8 JsonText

/-! ## Rows and their lines -/

def fileRows (content : Bytes) : List Bytes := Rows.rows 0x0A content

theorem readLines_append_lf (front more : Bytes) :
    readLines (front ++ 0x0A :: more) = readLines (front ++ [0x0A]) ++ readLines more := by
  have hend : decode ([] : Bytes) = [] := rfl
  simp only [readLines, splitLines, splitFrom_universalNewlines, decode_append_lf]
  rw [splitFrom_append_lf, hend]
  rfl

theorem readLines_flatten_append {whole : List Bytes}
    (hwhole : ∀ row ∈ whole, Rows.Whole 0x0A row) (last : Bytes) :
    readLines (whole.flatten ++ last) = whole.flatMap readLines ++ readLines last := by
  induction whole with
  | nil => rfl
  | cons row whole ih =>
      have hrest := ih fun other hother => hwhole other (List.mem_cons_of_mem _ hother)
      obtain ⟨front, _, hrow⟩ := hwhole row List.mem_cons_self
      rw [List.flatten_cons, List.flatMap_cons, List.append_assoc, List.append_assoc, ← hrest,
        hrow, List.append_assoc, List.singleton_append, readLines_append_lf]

theorem readLines_eq_flatMap (content : Bytes) :
    readLines content = (fileRows content).flatMap readLines := by
  obtain ⟨whole, last, hwhole, hopen, hcontent⟩ := @Rows.exists_whole_open _ _ 0x0A content
  rw [hcontent, readLines_flatten_append hwhole, fileRows, Rows.rows_flatten_append hwhole,
    Rows.rows_open hopen, List.flatMap_append]
  by_cases hlast : last = []
  · rw [if_pos hlast, hlast]
    rfl
  · rw [if_neg hlast, List.flatMap_singleton]

theorem not_isBreak_of_mem_readLines {content : Bytes} {line : List Char}
    (hline : line ∈ readLines content) : ∀ c ∈ line, ¬ isBreak c :=
  not_isBreak_of_mem_splitLines hline

/-! ## What is written -/

section
variable (windows : Bool)

variable {line : List Char}

theorem not_isBreak_lf (hline : ∀ c ∈ line, ¬ isBreak c) : '\n' ∉ line := by
  intro hmem
  exact hline '\n' hmem rfl

theorem joined_eq_flatMap (lines : List (List Char)) :
    ['\n'].intercalate lines ++ (if lines = [] then [] else ['\n']) =
      lines.flatMap (· ++ ['\n']) := by
  induction lines with
  | nil => rfl
  | cons line lines ih =>
      cases lines with
      | nil => simp [List.intercalate]
      | cons next lines =>
          have hjoined : ['\n'].intercalate (line :: next :: lines) =
              line ++ ['\n'] ++ ['\n'].intercalate (next :: lines) := by
            simp [List.intercalate]
          rw [if_neg (List.cons_ne_nil _ _)] at ih ⊢
          rw [hjoined, List.append_assoc, ih]
          simp only [List.flatMap_cons]

def writtenLine (line : List Char) : Bytes := encode (line ++ linesep windows)

theorem writeLines_eq {lines : List (List Char)} (hlines : ∀ line ∈ lines, '\n' ∉ line) :
    writeLines windows lines = (lines.map (writtenLine windows)).flatten := by
  simp only [writeLines]
  rw [joined_eq_flatMap]
  induction lines with
  | nil => rfl
  | cons line lines ih =>
      have hrest := ih fun other hother => hlines other (List.mem_cons_of_mem _ hother)
      have hline : line.flatMap (fun c => if c = '\n' then linesep windows else [c]) = line := by
        have hsame : ∀ c ∈ line, (if c = '\n' then linesep windows else [c]) = [c] := by
          intro c hc
          apply if_neg
          intro hlf
          rw [hlf] at hc
          exact hlines line List.mem_cons_self hc
        rw [List.flatMap_congr hsame, List.flatMap_singleton']
      rw [List.flatMap_cons, List.flatMap_append, List.flatMap_append, hline, encode_append, hrest,
        List.map_cons, List.flatten_cons]
      simp [writtenLine]

theorem whole_writtenLine (hline : '\n' ∉ line) : Rows.Whole 0x0A (writtenLine windows line) := by
  cases windows with
  | false =>
      refine ⟨encode line, fun hmem => hline (lf_mem_encode.1 hmem), ?_⟩
      rw [writtenLine, encode_append]
      rfl
  | true =>
      refine ⟨encode (line ++ ['\r']), ?_, ?_⟩
      · intro hmem
        have hlf := lf_mem_encode.1 hmem
        rw [List.mem_append, List.mem_singleton] at hlf
        rcases hlf with hmem | hcr
        · exact hline hmem
        · exact absurd hcr (by decide)
      · have hsep : linesep true = ['\r'] ++ ['\n'] := rfl
        rw [writtenLine, hsep, ← List.append_assoc, encode_append]
        rfl

theorem fileRows_writeLines {lines : List (List Char)} (hlines : ∀ line ∈ lines, '\n' ∉ line) :
    fileRows (writeLines windows lines) = lines.map (writtenLine windows) := by
  rw [writeLines_eq windows hlines, fileRows, Rows.rows_flatten]
  intro row hrow
  obtain ⟨line, hline, hwritten⟩ := List.mem_map.mp hrow
  rw [← hwritten]
  exact whole_writtenLine windows (hlines line hline)

theorem readLines_writtenLine (hline : ∀ c ∈ line, ¬ isBreak c) :
    readLines (writtenLine windows line) = [line] := by
  have hsplit : ∀ ending : Ending, splitLines (line ++ ending.text) = [line] := by
    intro ending
    have hcr : '\r' ∉ line := fun hmem => hline '\r' hmem rfl
    have hpieces := splitFrom_line hcr ending [] [] (fun _ => nofun)
    rw [List.append_nil, pieces_plain hline, List.nil_append] at hpieces
    rw [splitLines, hpieces]
    rfl
  rw [readLines, writtenLine, decode_encode, splitLines, splitFrom_universalNewlines]
  cases windows with
  | false => exact hsplit .lf
  | true => exact hsplit .crlf

end

/-! ## Which lines go -/

section
variable (python : Python)

local instance : LawfulBEq Key := inferInstance

def showsOne (gone : List Key) (line : List Char) : Bool :=
  match lineKey python line with
  | .ok (some key) => key ∈ gone
  | _ => false

def keysOf (lines : List (List Char)) : List (Option Key) :=
  lines.map fun line => (lineKey python line).toOption.join

def withdrawnKeys (entries : List PendingEntry) (now : Time) (content : Bytes) : List Key :=
  (withdrawn python entries now (keysOf python (readLines content))).map PendingEntry.key

def withoutWithdrawn (entries : List PendingEntry) (now : Time) (content : Bytes) : Bytes :=
  ((fileRows content).filter fun row =>
    !showsOne python (withdrawnKeys python entries now content) (decode row)).flatten

end

theorem map_filter_zipIdx {α : Type} {values : List α} {keepAt : Nat → Bool} {keep : α → Bool}
    (halike : ∀ index value, values[index]? = some value → keepAt index = keep value) :
    (values.zipIdx.filter fun item => keepAt item.2).map (·.1) = values.filter keep := by
  have hsame : values.zipIdx.filter (fun item => keepAt item.2) =
      values.zipIdx.filter (keep ∘ Prod.fst) := by
    apply List.filter_congr
    rintro ⟨value, index⟩ hitem
    exact halike index value (List.mem_zipIdx_iff_getElem?.mp hitem)
  rw [hsame, ← List.filter_map, List.zipIdx_map_fst]

section
variable {python : Python} {entries : List PendingEntry} {now : Time} {lines : List (List Char)}

variable {keys : List (Option Key)}

theorem keys_of_mapM (hkeys : lines.mapM (lineKey python) = .ok keys) :
    keys = keysOf python lines := by
  have hall := Fallible.mapM_eq_ok.1 hkeys
  clear hkeys
  rw [keysOf]
  induction hall with
  | nil => rfl
  | cons hfirst _ ih =>
      rw [List.map_cons, hfirst, ← ih]
      rfl

theorem showsOne_iff {gone : List Key} {line : List Char} :
    showsOne python gone line = true ↔
      ∃ key, (lineKey python line).toOption.join = some key ∧ key ∈ gone := by
  rw [showsOne]
  cases lineKey python line with
  | error => simp [Except.toOption]
  | ok found => cases found <;> simp [Except.toOption]

theorem mem_pendingIndices {key : Key} {index : Nat} :
    index ∈ pendingIndices keys key ↔ keys[index]? = some (some key) := by
  simp [pendingIndices, List.mem_zipIdx_iff_getElem?]

theorem reconciled_lines {reconciled : Reconciled}
    (hreconciled : reconcilePendingRolloutEntries python entries now lines = .ok reconciled)
    (hchanged : reconciled.changed = true) :
    reconciled.lines = lines.filter fun line => !showsOne python
      ((withdrawn python entries now (keysOf python lines)).map PendingEntry.key) line := by
  rw [reconcilePendingRolloutEntries] at hreconciled
  split at hreconciled
  · cases hreconciled
    cases hchanged
  · cases hkeys : lines.mapM (lineKey python) with
    | error =>
        rw [hkeys] at hreconciled
        cases hreconciled
    | ok keys =>
        rw [hkeys] at hreconciled
        change (if ∃ entry ∈ entries, createdAt python entry = .naive then _ else _) = _
          at hreconciled
        split at hreconciled
        · cases hreconciled
        · cases hreconciled
          rw [← keys_of_mapM hkeys]
          refine @map_filter_zipIdx _ lines (fun index => decide (index ∉
            (withdrawn python entries now keys).flatMap fun entry =>
              pendingIndices keys entry.key)) _ ?_
          intro index line hline
          have hkey : keys[index]? = some ((lineKey python line).toOption.join) := by
            rw [keys_of_mapM hkeys, keysOf, List.getElem?_map, hline]
            rfl
          have hshown : (index ∈ (withdrawn python entries now keys).flatMap fun entry =>
              pendingIndices keys entry.key) ↔
              showsOne python ((withdrawn python entries now keys).map PendingEntry.key) line =
                true := by
            rw [showsOne_iff, List.mem_flatMap]
            simp only [mem_pendingIndices, hkey, Option.some.injEq, List.mem_map]
            constructor
            · rintro ⟨entry, hentry, hsame⟩
              exact ⟨entry.key, hsame, entry, hentry, rfl⟩
            · rintro ⟨key, hsame, entry, hentry, hentryKey⟩
              exact ⟨entry, hentry, hsame.trans (congrArg some hentryKey.symm)⟩
          rw [Bool.eq_iff_iff, decide_eq_true_iff, hshown, Bool.not_eq_true, Bool.not_eq_true']

theorem rewriteRollout_eq {windows : Bool} {content written : Bytes}
    (hrewritten : rewriteRollout python windows entries now content = .ok (some written)) :
    written = writeLines windows ((fileRows content).flatMap fun row =>
      (readLines row).filter fun line =>
        !showsOne python (withdrawnKeys python entries now content) line) := by
  rw [rewriteRollout] at hrewritten
  cases hreconciled : reconcilePendingRolloutEntries python entries now (readLines content) with
  | error =>
      rw [hreconciled] at hrewritten
      cases hrewritten
  | ok reconciled =>
      rw [hreconciled] at hrewritten
      have hwritten := Except.ok.inj hrewritten
      dsimp only at hwritten
      split at hwritten
      · next hchanged =>
          rw [← Option.some.inj hwritten, reconciled_lines hreconciled hchanged,
            ← List.filter_flatMap, ← readLines_eq_flatMap]
          rfl
      · cases hwritten

end

/-! ## Plain rows -/

def IsPlain (windows : Bool) (row : Bytes) : Prop :=
  ∃ text, (∀ c ∈ text, ¬ isBreak c) ∧ row = writtenLine windows text

/-- The rows that stay are plain, and the ones that go are withdrawn in all their lines. -/
structure RewritesPlainly (python : Python) (windows : Bool) (gone : List Key)
    (content : Bytes) : Prop where
  stays : ∀ row ∈ fileRows content, showsOne python gone (decode row) = false →
    IsPlain windows row
  goes : ∀ row ∈ fileRows content, showsOne python gone (decode row) = true →
    ∀ line ∈ readLines row, showsOne python gone line = true

section
variable {python : Python} {windows : Bool}

theorem lineKey_linesep (line : List Char) :
    lineKey python (line ++ linesep windows) = lineKey python line := by
  have hblank : ∀ c ∈ linesep windows, Text.isSpace c = true := by
    cases windows with
    | false => exact List.all_eq_true.mp (by decide)
    | true => exact List.all_eq_true.mp (by decide)
  have hstrip : Text.strip (String.ofList (line ++ linesep windows)) =
      Text.strip (String.ofList line) := by
    rw [Text.strip, Text.strip, String.toList_ofList, String.toList_ofList]
    exact congrArg String.ofList (Trimming.trimBy_append_blank hblank line)
  rw [lineKey, lineKey, lineMessage, lineMessage, hstrip]

theorem showsOne_writtenLine (gone : List Key) (line : List Char) :
    showsOne python gone (decode (writtenLine windows line)) = showsOne python gone line := by
  rw [writtenLine, decode_encode, showsOne, lineKey_linesep, showsOne]

theorem written_of_stays {gone : List Key} {row : Bytes} (hplain : IsPlain windows row)
    (hstays : showsOne python gone (decode row) = false) :
    ((readLines row).filter fun line => !showsOne python gone line).map (writtenLine windows) =
      [row] := by
  obtain ⟨text, htext, hrow⟩ := hplain
  rw [hrow, showsOne_writtenLine] at hstays
  rw [hrow, readLines_writtenLine windows htext, List.filter_singleton, hstays]
  rfl

end

/-! ## The file that is rewritten -/

theorem parts_of_length {α β : Type} {keep : α → Bool} {part : α → List β} {rows : List α}
    (hkept : ∀ row ∈ rows, keep row = true → (part row).length = 1) :
    (rows.filter keep).length ≤ (rows.flatMap part).length ∧
      ((rows.flatMap part).length = (rows.filter keep).length →
        ∀ row ∈ rows, keep row = false → part row = []) := by
  induction rows with
  | nil => exact ⟨Nat.le_refl 0, fun _ _ hrow => absurd hrow List.not_mem_nil⟩
  | cons row rows ih =>
      obtain ⟨hle, hgone⟩ := ih fun other hother => hkept other (List.mem_cons_of_mem _ hother)
      rw [List.flatMap_cons, List.length_append]
      cases hkeep : keep row with
      | true =>
          have hone := hkept row List.mem_cons_self hkeep
          rw [List.filter_cons_of_pos hkeep, List.length_cons, hone]
          refine ⟨by omega, ?_⟩
          intro hlength other hother hdropped
          rcases List.mem_cons.mp hother with hsame | hrest
          · rw [hsame, hkeep] at hdropped
            cases hdropped
          · exact hgone (by omega) other hrest hdropped
      | false =>
          rw [List.filter_cons_of_neg (by rw [hkeep]; decide)]
          refine ⟨by omega, ?_⟩
          intro hlength other hother hdropped
          rcases List.mem_cons.mp hother with hsame | hrest
          · rw [hsame]
            exact List.length_eq_zero_iff.mp (by omega)
          · exact hgone (by omega) other hrest hdropped

theorem flatMap_eq_filter {α : Type} {keep : α → Bool} {part : α → List α} {rows : List α}
    (hkept : ∀ row ∈ rows, keep row = true → part row = [row])
    (hdropped : ∀ row ∈ rows, keep row = false → part row = []) :
    rows.flatMap part = rows.filter keep := by
  induction rows with
  | nil => rfl
  | cons row rows ih =>
      have hrest := ih (fun other hother => hkept other (List.mem_cons_of_mem _ hother))
        (fun other hother => hdropped other (List.mem_cons_of_mem _ hother))
      rw [List.flatMap_cons, hrest]
      cases hkeep : keep row with
      | true =>
          rw [hkept row List.mem_cons_self hkeep, List.filter_cons_of_pos hkeep]
          rfl
      | false =>
          rw [hdropped row List.mem_cons_self hkeep,
            List.filter_cons_of_neg (by rw [hkeep]; decide)]
          rfl

section
variable {python : Python} {windows : Bool} {entries : List PendingEntry} {now : Time}
  {content : Bytes}

def staying (python : Python) (gone : List Key) (row : Bytes) : List (List Char) :=
  (readLines row).filter fun line => !showsOne python gone line

theorem not_isBreak_of_staying {gone : List Key} {rows : List Bytes} {line : List Char}
    (hline : line ∈ rows.flatMap (staying python gone)) : ∀ c ∈ line, ¬ isBreak c := by
  obtain ⟨row, _, hstays⟩ := List.mem_flatMap.mp hline
  exact not_isBreak_of_mem_readLines (List.mem_filter.mp hstays).1

theorem written_eq_iff {written : Bytes}
    (hrewritten : rewriteRollout python windows entries now content = .ok (some written)) :
    written = withoutWithdrawn python entries now content ↔
      ((fileRows content).flatMap
          (staying python (withdrawnKeys python entries now content))).map (writtenLine windows) =
        (fileRows content).filter fun row =>
          !showsOne python (withdrawnKeys python entries now content) (decode row) := by
  have hwritten := rewriteRollout_eq hrewritten
  have hplain : ∀ line ∈ (fileRows content).flatMap
      (staying python (withdrawnKeys python entries now content)), '\n' ∉ line :=
    fun line hline => not_isBreak_lf (not_isBreak_of_staying hline)
  constructor
  · intro hsame
    have hrows := congrArg fileRows (hwritten.symm.trans hsame)
    rw [withoutWithdrawn] at hrows
    exact (fileRows_writeLines windows hplain).symm.trans (hrows.trans (Rows.rows_filter _ _))
  · intro hrows
    rw [withoutWithdrawn, ← hrows, hwritten]
    exact writeLines_eq windows hplain

theorem staying_eq_iff {gone : List Key} :
    ((fileRows content).flatMap (staying python gone)).map (writtenLine windows) =
        (fileRows content).filter (fun row => !showsOne python gone (decode row)) ↔
      RewritesPlainly python windows gone content := by
  constructor
  · intro hrows
    have hstays : ∀ row ∈ fileRows content, showsOne python gone (decode row) = false →
        IsPlain windows row := by
      intro row hrow hkept
      have hmem : row ∈ (fileRows content).filter
          (fun row => !showsOne python gone (decode row)) := by
        rw [List.mem_filter, hkept]
        exact ⟨hrow, rfl⟩
      rw [← hrows] at hmem
      obtain ⟨line, hline, hwritten⟩ := List.mem_map.mp hmem
      exact ⟨line, not_isBreak_of_staying hline, hwritten.symm⟩
    have hone : ∀ row ∈ fileRows content, (!showsOne python gone (decode row)) = true →
        (staying python gone row).length = 1 := by
      intro row hrow hkept
      have hfalse := (Bool.not_eq_true' _).mp hkept
      have hwritten := congrArg List.length (written_of_stays (hstays row hrow hfalse) hfalse)
      rw [List.length_map] at hwritten
      exact hwritten
    have hlength := congrArg List.length hrows
    rw [List.length_map] at hlength
    refine ⟨hstays, ?_⟩
    intro row hrow hgone line hline
    have hnone := (parts_of_length hone).2 hlength row hrow (by rw [hgone]; rfl)
    have hkept := List.filter_eq_nil_iff.mp hnone line hline
    rw [Bool.not_eq_true'] at hkept
    exact (Bool.not_eq_false _).mp hkept
  · intro hplainly
    rw [List.map_flatMap]
    apply flatMap_eq_filter
    · intro row hrow hkept
      have hfalse := (Bool.not_eq_true' _).mp hkept
      exact written_of_stays (hplainly.stays row hrow hfalse) hfalse
    · intro row hrow hdropped
      have hgone := hplainly.goes row hrow ((Bool.not_eq_false' _).mp hdropped)
      rw [List.map_eq_nil_iff, staying, List.filter_eq_nil_iff]
      intro line hline
      rw [hgone line hline]
      decide

/-- What is withdrawn goes and nothing else changes exactly when the file is rewritten plainly. -/
theorem rewritten_iff {written : Bytes}
    (hrewritten : rewriteRollout python windows entries now content = .ok (some written)) :
    written = withoutWithdrawn python entries now content ↔
      RewritesPlainly python windows (withdrawnKeys python entries now content) content := by
  rw [written_eq_iff hrewritten, staying_eq_iff]

end

/-! ## A withdrawn prompt -/

theorem lineMessage_eq (python : Python) (line : List Char) (lineNumber : Nat) :
    lineMessage python line lineNumber =
      if Trimming.trimBy Text.isSpace line = [] then .ok none
      else match python.loads (String.ofList (Trimming.trimBy Text.isSpace line)) with
        | none => .ok none
        | some entry => normalizeRolloutMessage python entry lineNumber := by
  have hstrip : Text.strip (String.ofList line) =
      String.ofList (Trimming.trimBy Text.isSpace line) := by
    rw [Text.strip, String.toList_ofList, Trimming.trimBy]
  have hblank : (String.ofList (Trimming.trimBy Text.isSpace line) = "") =
      (Trimming.trimBy Text.isSpace line = []) := by
    rw [← String.toList_inj, String.toList_ofList]
    rfl
  rw [lineMessage, hstrip]
  exact if_congr (iff_of_eq hblank) rfl rfl

def noFloats : FloatText where
  write _ := []
  visible _ _ hc := absurd hc List.not_mem_nil

def sampleTime : String := "2026-01-01T00:00:00Z"

def responseEntry : Json := (promptEntries sampleTime "Go" []).head (by exact List.cons_ne_nil _ _)

def eventEntry : Json := (promptEntries sampleTime "Go" []).getLast (by exact List.cons_ne_nil _ _)

def responseLine : List Char := dumps false noFloats responseEntry

def eventLine : List Char := dumps false noFloats eventEntry

/-- Of the lines below those of the prompt and the empty object are JSON. -/
def samplePython : Python where
  render _ := "None"
  loads text :=
    if text = String.ofList responseLine then some responseEntry
    else if text = String.ofList eventLine then some eventEntry
    else if text = "\x7b\x7d" then some (.obj [])
    else none
  fromisoformat text :=
    if text = "2026-01-01T00:00:00+00:00" then .aware 0 else .invalid

def prompt : PendingEntry := ⟨sampleTime, "command-1", "Go"⟩

theorem sample_lines :
    Trimming.trimBy Text.isSpace responseLine = responseLine ∧ responseLine ≠ [] ∧
      Trimming.trimBy Text.isSpace eventLine = eventLine ∧ eventLine ≠ [] ∧
      String.ofList eventLine ≠ String.ofList responseLine := by
  decide +kernel

theorem responseLine_message (lineNumber : Nat) :
    lineMessage samplePython responseLine lineNumber =
      normalizeRolloutMessage samplePython responseEntry lineNumber := by
  obtain ⟨htrim, hfull, -⟩ := sample_lines
  have hloads : samplePython.loads (String.ofList responseLine) = some responseEntry := by
    simp only [samplePython, if_true]
  rw [lineMessage_eq, htrim, hloads, if_neg hfull]

theorem eventLine_message (lineNumber : Nat) :
    lineMessage samplePython eventLine lineNumber =
      normalizeRolloutMessage samplePython eventEntry lineNumber := by
  obtain ⟨-, -, htrim, hfull, hother⟩ := sample_lines
  have hloads : samplePython.loads (String.ofList eventLine) = some eventEntry := by
    simp only [samplePython, hother, if_false, if_true]
  rw [lineMessage_eq, htrim, hloads, if_neg hfull]

theorem sample_keys :
    lineKey samplePython responseLine = .ok (some prompt.key) ∧
      lineKey samplePython eventLine = .ok (some prompt.key) ∧
      lineKey samplePython ['{', '}'] = .ok none := by
  rw [lineKey, lineKey, lineKey, responseLine_message, eventLine_message, lineMessage_eq]
  decide +kernel

theorem responseLine_key : lineKey samplePython responseLine = .ok (some prompt.key) :=
  sample_keys.1

theorem eventLine_key : lineKey samplePython eventLine = .ok (some prompt.key) := sample_keys.2.1

theorem emptyLine_key : lineKey samplePython ['{', '}'] = .ok none := sample_keys.2.2

/-- The prompt, and a line of Codex's behind it. -/
def withEmpty : Bytes := encode (responseLine ++ '\n' :: (eventLine ++ ['\n', '{', '}', '\n']))

theorem withEmpty_rewritten :
    encode ['{', '}', '\n'] = withoutWithdrawn samplePython [prompt] pendingPromptTtl withEmpty ↔
      RewritesPlainly samplePython false
        (withdrawnKeys samplePython [prompt] pendingPromptTtl withEmpty) withEmpty := by
  have hlines : readLines withEmpty = [responseLine, eventLine, ['{', '}']] := by decide +kernel
  apply rewritten_iff
  rw [rewriteRollout, hlines, reconcilePendingRolloutEntries]
  simp only [List.mapM_cons, List.mapM_nil, responseLine_key, eventLine_key, emptyLine_key]
  decide +kernel

def separatorLine : List Char := ['{', '"', '\u2028', '"', ':', '1', '}']

/-- The prompt, and a line of Codex's that shows a line separator. -/
def withSeparator : Bytes :=
  encode (responseLine ++ '\n' :: (eventLine ++ '\n' :: (separatorLine ++ ['\n'])))

/-- When the prompt goes, Codex's line is broken in two. -/
theorem separator_broken :
    rewriteRollout samplePython false [prompt] pendingPromptTtl withSeparator =
        .ok (some (encode ['{', '"', '\n', '"', ':', '1', '}', '\n'])) ∧
      encode ['{', '"', '\n', '"', ':', '1', '}', '\n'] ≠
        withoutWithdrawn samplePython [prompt] pendingPromptTtl withSeparator := by
  have hlines : readLines withSeparator =
      [responseLine, eventLine, ['{', '"'], ['"', ':', '1', '}']] := by
    decide +kernel
  have hopening : lineKey samplePython ['{', '"'] = .ok none := by
    rw [lineKey, lineMessage_eq]
    decide +kernel
  have hclosing : lineKey samplePython ['"', ':', '1', '}'] = .ok none := by
    rw [lineKey, lineMessage_eq]
    decide +kernel
  have hrewritten : rewriteRollout samplePython false [prompt] pendingPromptTtl withSeparator =
      .ok (some (encode ['{', '"', '\n', '"', ':', '1', '}', '\n'])) := by
    rw [rewriteRollout, hlines, reconcilePendingRolloutEntries]
    simp only [List.mapM_cons, List.mapM_nil, responseLine_key, eventLine_key, hopening, hclosing]
    decide +kernel
  refine ⟨hrewritten, ?_⟩
  intro hsame
  have hplainly := staying_eq_iff.mp ((written_eq_iff hrewritten).mp hsame)
  have hrow : encode (separatorLine ++ ['\n']) ∈ fileRows withSeparator := by
    decide +kernel
  have hkey : lineKey samplePython (separatorLine ++ ['\n']) = .ok none := by
    rw [lineKey, lineMessage_eq]
    decide +kernel
  obtain ⟨text, htext, hwritten⟩ := hplainly.stays _ hrow (by rw [decode_encode, showsOne, hkey])
  have hdecoded := congrArg decode hwritten
  rw [writtenLine, decode_encode, decode_encode] at hdecoded
  have hseparator : '\u2028' ∈ text := by
    have hmem : '\u2028' ∈ separatorLine ++ ['\n'] := by decide
    rw [hdecoded, List.mem_append] at hmem
    rcases hmem with htext | hend
    · exact htext
    · exact absurd hend (by decide)
  exact htext _ hseparator (by decide)

end OpsCure.Rollout
