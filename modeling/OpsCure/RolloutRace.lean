/-
A rollout between two programs.  Codex appends whole lines.  The agent appends pending prompts, and
reads the file and writes it back without the withdrawn ones: two accesses, and what Codex appends
between them is gone.
-/
import OpsCure.RolloutRewrite

namespace OpsCure.Rollout

open Run Utf8 JsonText

/-! ## Accesses -/

/-- The file, what the agent is about to write to it, and the lines that Codex has appended. -/
structure Shared where
  file : Bytes
  writing : Option Bytes
  codexRows : List Bytes
deriving DecidableEq, Repr

def Shared.start : Shared := ⟨[], none, []⟩

/-- An access to the file.  What Codex appends ends in a line feed. -/
inductive Access where
  | codexAppends (front : Bytes)
  | agentReads (entries : List PendingEntry) (now : Time)
  | agentWrites
  | agentAppends (timestamp prompt : String) (attachments : List Attachment)
deriving DecidableEq, Repr

section
variable (python : Python) (floats : FloatText) (windows : Bool)

def access (shared : Shared) : Access → Shared
  | .codexAppends front =>
      { shared with
        file := shared.file ++ (front ++ [0x0A])
        codexRows := shared.codexRows ++ fileRows (front ++ [0x0A]) }
  | .agentReads entries now =>
      match rewriteRollout python windows entries now shared.file with
      | .ok (some written) => { shared with writing := some written }
      | _ => { shared with writing := none }
  | .agentWrites =>
      match shared.writing with
      | some written => { shared with file := written, writing := none }
      | none => shared
  | .agentAppends timestamp prompt attachments =>
      { shared with
        file := shared.file ++ appendedBytes floats (promptEntries timestamp prompt attachments) }

/-- Every line that Codex appended is in the file, in its order. -/
def Survives (shared : Shared) : Prop := List.Sublist shared.codexRows (fileRows shared.file)

def Undisturbed (shared : Shared) : Access → Prop
  | .codexAppends _ => shared.writing = none
  | .agentReads entries now =>
      (∃ written, rewriteRollout python windows entries now shared.file = .ok (some written)) →
        ∀ row ∈ shared.codexRows, IsPlain windows row ∧
          showsOne python (withdrawnKeys python entries now shared.file) (decode row) = false
  | .agentWrites => True
  | .agentAppends _ _ _ => True

end

/-! ## What one access keeps -/

structure Holds (codexRows : List Bytes) (file : Bytes) : Prop where
  whole : ∀ row ∈ fileRows file, Rows.Whole 0x0A row
  survives : List.Sublist codexRows (fileRows file)

/-- The file holds Codex's lines, and so does what is about to be written to it. -/
structure Held (shared : Shared) : Prop where
  file : Holds shared.codexRows shared.file
  writing : ∀ written, shared.writing = some written → Holds shared.codexRows written

theorem sublist_flatMap {α : Type} {part : α → List α} {rows more : List α}
    (hrows : List.Sublist rows more) (hsame : ∀ row ∈ rows, part row = [row]) :
    List.Sublist rows (more.flatMap part) := by
  induction hrows with
  | slnil => exact .slnil
  | cons row _ ih =>
      rw [List.flatMap_cons]
      exact (ih hsame).trans (List.sublist_append_right _ _)
  | cons_cons row _ ih =>
      have hrest := ih fun other hother => hsame other (List.mem_cons_of_mem _ hother)
      rw [List.flatMap_cons, hsame row List.mem_cons_self]
      exact hrest.cons_cons row

theorem Holds.append {codexRows : List Bytes} {file : Bytes} (hholds : Holds codexRows file)
    (front : Bytes) :
    Holds codexRows (file ++ (front ++ [0x0A])) ∧
      Holds (codexRows ++ fileRows (front ++ [0x0A])) (file ++ (front ++ [0x0A])) := by
  have hrows : fileRows (file ++ (front ++ [0x0A])) =
      fileRows file ++ fileRows (front ++ [0x0A]) :=
    Rows.rows_append_of_whole hholds.whole _
  have hwhole : ∀ row ∈ fileRows (file ++ (front ++ [0x0A])), Rows.Whole 0x0A row := by
    intro row hrow
    rw [hrows] at hrow
    rcases List.mem_append.mp hrow with hearlier | hlater
    · exact hholds.whole row hearlier
    · exact Rows.whole_of_mem_rows hlater
  refine ⟨⟨hwhole, ?_⟩, ⟨hwhole, ?_⟩⟩
  · rw [hrows]
    exact hholds.survives.trans (List.sublist_append_left _ _)
  · rw [hrows]
    exact hholds.survives.append (List.Sublist.refl _)

section
variable {python : Python} {floats : FloatText} {windows : Bool} {shared : Shared}

theorem Holds.rewrite {codexRows : List Bytes} {file written : Bytes}
    {entries : List PendingEntry} {now : Time} (hholds : Holds codexRows file)
    (hrewritten : rewriteRollout python windows entries now file = .ok (some written))
    (hkept : ∀ row ∈ codexRows, IsPlain windows row ∧
      showsOne python (withdrawnKeys python entries now file) (decode row) = false) :
    Holds codexRows written := by
  have hplain : ∀ line ∈ (fileRows file).flatMap
      (staying python (withdrawnKeys python entries now file)), '\n' ∉ line :=
    fun line hline => not_isBreak_lf (not_isBreak_of_staying hline)
  have hrows : fileRows written = ((fileRows file).flatMap
      (staying python (withdrawnKeys python entries now file))).map (writtenLine windows) := by
    rw [rewriteRollout_eq hrewritten]
    exact fileRows_writeLines windows hplain
  constructor
  · intro row hrow
    rw [hrows] at hrow
    obtain ⟨line, hline, hwritten⟩ := List.mem_map.mp hrow
    rw [← hwritten]
    exact whole_writtenLine windows (hplain line hline)
  · rw [hrows, List.map_flatMap]
    apply sublist_flatMap hholds.survives
    intro row hrow
    obtain ⟨hrowPlain, hstays⟩ := hkept row hrow
    exact written_of_stays hrowPlain hstays

theorem appendedBytes_eq (timestamp prompt : String) (attachments : List Attachment) :
    ∃ front, appendedBytes floats (promptEntries timestamp prompt attachments) =
      front ++ [0x0A] := by
  have hend : ∀ text : List Char, encode (text ++ ['\n']) = encode text ++ [0x0A] := by
    intro text
    rw [encode_append]
    rfl
  simp only [appendedBytes, promptEntries, List.flatMap_cons, List.flatMap_nil, List.append_nil,
    hend]
  exact ⟨_, (List.append_assoc _ _ _).symm⟩

theorem Held.access (hheld : Held shared) (op : Access)
    (hundisturbed : Undisturbed python windows shared op) :
    Held (access python floats windows shared op) := by
  cases op with
  | codexAppends front =>
      refine ⟨(hheld.file.append front).2, ?_⟩
      intro written hwriting
      have hnone : shared.writing = none := hundisturbed
      rw [Rollout.access, hnone] at hwriting
      cases hwriting
  | agentReads entries now =>
      rw [Rollout.access]
      split
      · next written hrewritten =>
          refine ⟨hheld.file, ?_⟩
          intro other hwriting
          rw [← Option.some.inj hwriting]
          exact hheld.file.rewrite hrewritten (hundisturbed ⟨written, hrewritten⟩)
      · exact ⟨hheld.file, nofun⟩
  | agentWrites =>
      rw [Rollout.access]
      split
      · next written hwriting => exact ⟨hheld.writing written hwriting, nofun⟩
      · exact hheld
  | agentAppends timestamp prompt attachments =>
      obtain ⟨front, hfront⟩ := @appendedBytes_eq floats timestamp prompt attachments
      rw [Rollout.access, hfront]
      exact ⟨(hheld.file.append front).1, hheld.writing⟩

/-! ## What a run keeps -/

theorem Held.start : Held .start :=
  ⟨⟨fun _ hrow => absurd hrow List.not_mem_nil, .slnil⟩, nofun⟩

/-- In a run in which the agent is not disturbed between a read and its write, every line of Codex's
stays. -/
theorem survives_of_undisturbed {ops : List Access}
    (hundisturbed : Along (access python floats windows) (Undisturbed python windows) .start ops) :
    Throughout (access python floats windows) Survives .start ops := by
  have hheld : Throughout (access python floats windows) Held .start ops :=
    throughout_of_preserved Held.start fun done op hop hhere =>
      hhere.access op (hundisturbed done op hop)
  intro done hdone
  exact (hheld done hdone).file.survives

end

/-! ## A line between a read and its write -/

/-- The prompt is the agent's, and the lines before and behind it are Codex's. -/
def promptFile : Bytes :=
  encode ['{', '}', '\n'] ++ appendedBytes noFloats (promptEntries sampleTime "Go" [])

def afterPrompt : Shared := ⟨promptFile, none, [encode ['{', '}', '\n']]⟩

theorem promptFile_rewritten :
    rewriteRollout samplePython false [prompt] pendingPromptTtl promptFile =
      .ok (some (encode ['{', '}', '\n'])) := by
  have hlines : readLines promptFile = [['{', '}'], responseLine, eventLine] := by decide +kernel
  rw [rewriteRollout, hlines, reconcilePendingRolloutEntries]
  simp only [List.mapM_cons, List.mapM_nil, responseLine_key, eventLine_key, emptyLine_key]
  decide +kernel

section
variable {python : Python} {floats : FloatText} {windows : Bool} {shared : Shared}

theorem access_agentReads {entries : List PendingEntry} {now : Time} {written : Bytes}
    (hrewritten : rewriteRollout python windows entries now shared.file = .ok (some written)) :
    access python floats windows shared (.agentReads entries now) =
      { shared with writing := some written } := by
  rw [access, hrewritten]

theorem writing_agentWrites :
    (access python floats windows shared .agentWrites).writing = none := by
  cases hwriting : shared.writing with
  | none =>
      rw [access, hwriting]
      exact hwriting
  | some => rw [access, hwriting]

end

/-- The prompt is appended behind a line of Codex's, and read when it has expired. -/
def readRun : List Access :=
  [.codexAppends (encode ['{', '}']), .agentAppends sampleTime "Go" [],
    .agentReads [prompt] pendingPromptTtl]

theorem run_readRun :
    run (access samplePython noFloats false) .start readRun =
      { afterPrompt with writing := some (encode ['{', '}', '\n']) } := by
  have hprompt : run (access samplePython noFloats false) .start (readRun.take 2) =
      afterPrompt := rfl
  have hread : readRun = readRun.take 2 ++ [.agentReads [prompt] pendingPromptTtl] := rfl
  rw [hread, run_concat, hprompt]
  exact access_agentReads promptFile_rewritten

theorem quietRun_survives :
    Throughout (access samplePython noFloats false) Survives .start
      (readRun ++ [.agentWrites, .codexAppends (encode ['[', ']'])]) := by
  apply survives_of_undisturbed
  refine along_cons rfl (along_cons trivial (along_cons ?_ (along_cons trivial
    (along_cons writing_agentWrites (along_nil _ _ _)))))
  intro _ row hrow
  have hsame : row = writtenLine false ['{', '}'] := List.mem_singleton.mp hrow
  have hplain : IsPlain false (writtenLine false ['{', '}']) :=
    ⟨['{', '}'], List.forall_mem_cons.mpr ⟨by decide, List.forall_mem_singleton.mpr (by decide)⟩, rfl⟩
  rw [hsame, showsOne_writtenLine, showsOne, emptyLine_key]
  exact ⟨hplain, rfl⟩

/-- A line that Codex appends between the read and the write is lost. -/
theorem line_lost :
    ¬ Survives (run (access samplePython noFloats false) .start
      (readRun ++ [.codexAppends (encode ['[', ']']), .agentWrites])) := by
  rw [run_append, run_readRun]
  intro hsurvives
  exact absurd hsurvives.length_le (by decide)

end OpsCure.Rollout
