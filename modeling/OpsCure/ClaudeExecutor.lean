/-
The executor of Claude sessions on a PC (`connectors/claude_executor/agent.py`, `claude_runtime.py`
and `session_sync.py`): the runs it starts and resumes, the registries that name them, and the syncs
that tell the bridge which sessions there are.  The handlers of commands, of lines a process prints
and of exits are single steps.
-/
import OpsCure.Library.Registry
import OpsCure.Presence

namespace OpsCure.Claude

open Text

abbrev SessionId := String

abbrev CommandId := String

/-- A `ClaudeRun` object: its position among the runs made so far. -/
abbrev RunId := Nat

/-! ## Runs -/

/-- `ClaudeRun`.  Of the process it has whether it was spawned, whether `close` was called, and
whether `_wait_for_exit` has reported its exit; an empty session id stands for `None`. -/
structure ClaudeRun where
  cwd : String
  permissionMode : Option String
  model : Option String
  extraArgs : List String
  sessionId : SessionId
  spawned : Bool
  closed : Bool
  exited : Bool
deriving DecidableEq, Repr

/-- The command line `spawn` builds. -/
def ClaudeRun.args (run : ClaudeRun) (binPath : String) : List String :=
  let model := match run.model with
    | some model => if model = "" then [] else ["--model", model]
    | none => []
  let permissionMode := match run.permissionMode with
    | some mode => if mode = "" ∨ mode = "default" then [] else ["--permission-mode", mode]
    | none => []
  [binPath, "--print", "--input-format", "stream-json", "--output-format", "stream-json",
    "--verbose"] ++ model ++ permissionMode ++ run.extraArgs

/-- `write_user_message`: no process or a closed pipe, or the pipe breaks under the write. -/
def ClaudeRun.writeUserMessage (run : ClaudeRun) (writeError : Option String) :
    Except String PUnit.{1} :=
  if run.spawned = false ∨ run.closed = true then .error "claude run not alive"
  else match writeError with
    | some error => .error ("write to claude stdin failed: " ++ error)
    | none => .ok ⟨⟩

def ClaudeRun.close (run : ClaudeRun) : ClaudeRun := { run with closed := true }

/-! ## Transcripts on the disk -/

/-- A file `<directory>/<session id>.jsonl` under the projects root, with what its head says. -/
structure Transcript where
  directory : String
  sessionId : SessionId
  modified : Time
  cwd : String
  title : String
  firstUserMessage : String
  eventCount : Nat
  fileSize : Nat
deriving DecidableEq, Repr

def Transcript.path (file : Transcript) : String := file.directory ++ "/" ++ file.sessionId ++ ".jsonl"

/-- A session as a sync reports it, without its `via`. -/
structure SessionEntry where
  sessionId : SessionId
  cwd : String
  title : String
  firstUserMessage : String
  updatedAtMs : Int
  createdAtMs : Int
  eventCount : Nat
  fileSize : Nat
  jsonlPath : String
deriving DecidableEq, Repr

/-- `_summarize`. -/
def Transcript.summarize (file : Transcript) : SessionEntry where
  sessionId := file.sessionId
  cwd := file.cwd
  title := if file.title = "" then "(no preview)" else file.title
  firstUserMessage := file.firstUserMessage
  updatedAtMs := file.modified / 1000
  createdAtMs := file.modified / 1000
  eventCount := file.eventCount
  fileSize := file.fileSize
  jsonlPath := file.path

/-- `scan_sessions`: the fifty files that were written last. -/
def scanSessions (transcripts : List Transcript) : List SessionEntry :=
  ((transcripts.insertionSort fun left right => right.modified ≤ left.modified).take 50).map
    Transcript.summarize

/-- `find_session_jsonl`. -/
def findSessionJsonl (transcripts : List Transcript) (sessionId : SessionId) : Option Transcript :=
  transcripts.find? fun file => file.sessionId = sessionId

/-! ## The agent -/

inductive Via
  | web
  | cli
deriving DecidableEq, Repr

/-- What a completed command is reported with. -/
inductive Result
  | started
  | queued
  | alreadyIdle
  | interrupted
  | deleted (path : String)
  | notFound
deriving DecidableEq, Repr

inductive Report
  | completed (result : Result)
  | failed (message : String)
deriving DecidableEq, Repr

/-- `ClaudeExecutorAgent`, with the runs it has made, the transcripts on its disk and the reports it
has made to the bridge. -/
structure Host where
  processes : List ClaudeRun
  runs : Registry SessionId RunId
  pendingRuns : Registry CommandId RunId
  pendingPrompts : Registry CommandId String
  webSessionIds : List SessionId
  syntheticSessions : Registry SessionId SessionEntry
  recentlyDeletedSessionIds : Registry SessionId Time
  transcripts : List Transcript
  reports : List (CommandId × Report)

def Host.start (transcripts : List Transcript) : Host where
  processes := []
  runs := Keyed.empty
  pendingRuns := Keyed.empty
  pendingPrompts := Keyed.empty
  webSessionIds := []
  syntheticSessions := Keyed.empty
  recentlyDeletedSessionIds := Keyed.empty
  transcripts := transcripts
  reports := []

inductive CommandType
  | runStart
  | runInput
  | runInterrupt
  | sessionDelete
  | other
deriving DecidableEq, Repr

/-- A claimed command with its decoded payload.  The types that touch neither runs nor registries
(`fs.list`, `session.transcript` and the like) are `other`. -/
structure Command where
  commandId : CommandId
  type : CommandType
  sessionId : SessionId
  cwd : String
  prompt : String
  permissionMode : Option String
  model : Option String
deriving DecidableEq, Repr

/-- What the operating system and the network answer while a command is carried out. -/
structure Outcome where
  spawnError : Option String
  writeError : Option String
  reportError : Option String
  unlinkError : Option String
deriving DecidableEq, Repr

/-- Nothing fails. -/
def Outcome.fine : Outcome := ⟨none, none, none, none⟩

variable (h : Host)

def Host.log (commandId : CommandId) (report : Report) : Host :=
  { h with reports := h.reports ++ [(commandId, report)] }

/-- `report_result`; a report of success that does not reach the bridge raises, and the handler
around it reports the failure. -/
def Host.report (commandId : CommandId) (reportError : Option String)
    (result : Except String Result) : Host :=
  match result, reportError with
  | .ok result, none => h.log commandId (.completed result)
  | .ok _, some message => h.log commandId (.failed message)
  | .error message, _ => h.log commandId (.failed message)

/-- `_RECENTLY_DELETED_TTL_S`. -/
def recentlyDeletedTtl : Time := seconds 300

/-- What is left of `_recently_deleted_session_ids` once a sync has evicted the expired entries. -/
def Host.remembered (now : Time) : Registry SessionId Time :=
  h.recentlyDeletedSessionIds.expel fun deletedAt => decide (recentlyDeletedTtl < now - deletedAt)

/-- The sessions on the disk that a sync reports. -/
def Host.scanned (now : Time) : List SessionEntry :=
  (scanSessions h.transcripts).filter fun entry =>
    ((h.remembered now).find entry.sessionId).isNone

/-- The synthetic sessions that a sync reports and keeps: those it has not just deleted and did not
find on the disk. -/
def Host.unscanned (now : Time) : Registry SessionId SessionEntry :=
  h.syntheticSessions.without fun entry =>
    ((h.remembered now).find entry.1).isSome ||
      (h.scanned now).any fun scanned => scanned.sessionId = entry.1 ∧ scanned.sessionId ≠ ""

/-- The sessions of a sync, each with the origin it is reported with. -/
def Host.payload (now : Time) : List (SessionEntry × Via) :=
  (h.scanned now ++ (h.unscanned now).rows.map (·.2)).map fun entry =>
    (entry, if entry.sessionId ∈ h.webSessionIds then .web else .cli)

/-- `_do_sync`, as far as it changes the agent. -/
def Host.doSync (now : Time) : Host :=
  { h with
    recentlyDeletedSessionIds := h.remembered now
    syntheticSessions := h.unscanned now }

/-! ## Commands -/

/-- The run a `run.start` makes, after the steps it tries on it, with what went wrong. -/
def ClaudeRun.tryStart (run : ClaudeRun) (outcome : Outcome) : ClaudeRun × Option String :=
  match outcome.spawnError with
  | some message => (run, some message)
  | none =>
      let run := { run with spawned := true }
      match run.writeUserMessage outcome.writeError with
      | .error message => (run, some message)
      | .ok _ => (run, outcome.reportError)

/-- `_handle_run_start`. -/
def Host.handleRunStart (command : Command) (outcome : Outcome) : Host :=
  if command.cwd = "" then h.log command.commandId (.failed "missing_cwd")
  else
    let fresh : ClaudeRun := {
      cwd := command.cwd
      permissionMode := command.permissionMode
      model := command.model
      extraArgs := []
      sessionId := ""
      spawned := false
      closed := false
      exited := false }
    let tried := fresh.tryStart outcome
    let pendingRuns := h.pendingRuns.set command.commandId h.processes.length
    let h := { h with pendingPrompts := h.pendingPrompts.set command.commandId command.prompt }
    match tried.2 with
    | none =>
        let h := { h with processes := h.processes ++ [tried.1], pendingRuns := pendingRuns }
        h.log command.commandId (.completed .started)
    | some message =>
        let h := { h with
          processes := h.processes ++ [tried.1.close]
          pendingRuns := pendingRuns.pop command.commandId }
        h.log command.commandId (.failed message)

/-- The end of `_handle_run_input`: the text is written to the run. -/
def Host.writeInput (run : ClaudeRun) (command : Command) (outcome : Outcome) : Host :=
  h.report command.commandId outcome.reportError
    ((run.writeUserMessage outcome.writeError).map fun _ => .queued)

def resumeRun (command : Command) : ClaudeRun where
  cwd := if command.cwd = "" then "." else command.cwd
  permissionMode := none
  model := none
  extraArgs := ["--resume", command.sessionId]
  sessionId := ""
  spawned := false
  closed := false
  exited := false

/-- The run is registered, then spawned; what `spawn` raises is reported by `_dispatch`. -/
def Host.resume (command : Command) (outcome : Outcome) : Host :=
  let h := { h with runs := h.runs.set command.sessionId h.processes.length }
  match outcome.spawnError with
  | some message =>
      let h := { h with processes := h.processes ++ [resumeRun command] }
      h.log command.commandId (.failed message)
  | none =>
      let run := { resumeRun command with spawned := true }
      let h := { h with processes := h.processes ++ [run] }
      h.writeInput run command outcome

/-- `_handle_run_input`. -/
def Host.handleRunInput (command : Command) (outcome : Outcome) : Host :=
  match (h.runs.find command.sessionId).bind fun r => h.processes[r]? with
  | some run => h.writeInput run command outcome
  | none =>
      match findSessionJsonl h.transcripts command.sessionId with
      | none => h.log command.commandId
          (.failed ("no live run and no jsonl for session " ++ command.sessionId))
      | some _ => h.resume command outcome

/-- `_handle_run_interrupt`; what the signal does to the process shows in its exit. -/
def Host.handleRunInterrupt (command : Command) (outcome : Outcome) : Host :=
  match h.runs.find command.sessionId with
  | none => h.report command.commandId outcome.reportError (.ok .alreadyIdle)
  | some _ => h.report command.commandId outcome.reportError (.ok .interrupted)

/-- `_UUID_RE.match`: a dollar also matches before a final line break. -/
def isSessionId (value : String) : Bool :=
  let chars := value.toList
  let line := if chars.getLast? = some '\n' then chars.dropLast else chars
  let isHex := fun c : Char => c.isDigit || ('a' ≤ c && c ≤ 'f') || ('A' ≤ c && c ≤ 'F')
  (line.splitOnP (· = '-')).map List.length = [8, 4, 4, 4, 12] &&
    line.all fun c => c = '-' || isHex c

def Host.closeRun (sessionId : SessionId) : Host :=
  match h.runs.find sessionId with
  | none => h
  | some r =>
      { h with
        runs := h.runs.pop sessionId
        processes := h.processes.modify r ClaudeRun.close }

/-- The traces in memory go, and the session is remembered as deleted. -/
def Host.forget (sessionId : SessionId) (now : Time) : Host :=
  { h with
    webSessionIds := h.webSessionIds.filter (· ≠ sessionId)
    syntheticSessions := h.syntheticSessions.pop sessionId
    recentlyDeletedSessionIds := h.recentlyDeletedSessionIds.set sessionId now }

/-- `_handle_session_delete`. -/
def Host.handleSessionDelete (command : Command) (outcome : Outcome) (now : Time) : Host :=
  if isSessionId command.sessionId = false then
    h.log command.commandId (.failed "invalid_session_id")
  else
    let h := (h.closeRun command.sessionId).forget command.sessionId now
    match findSessionJsonl h.transcripts command.sessionId with
    | none => h.report command.commandId outcome.reportError (.ok .notFound)
    | some file =>
        match outcome.unlinkError with
        | some error => h.log command.commandId (.failed ("unlink failed: " ++ error))
        | none =>
            let h := { h with transcripts := h.transcripts.erase file }
            h.report command.commandId outcome.reportError (.ok (.deleted file.path))

/-- `_dispatch`. -/
def Host.dispatch (command : Command) (outcome : Outcome) (now : Time) : Host :=
  match command.type with
  | .runStart => h.handleRunStart command outcome
  | .runInput => h.handleRunInput command outcome
  | .runInterrupt => h.handleRunInterrupt command outcome
  | .sessionDelete => h.handleSessionDelete command outcome now
  | .other => h

/-! ## Events and exits -/

/-- The entry that stands for a session until its transcript is found. -/
def syntheticEntry (run : ClaudeRun) (initiatingPrompt : String) (now : Time) : SessionEntry where
  sessionId := run.sessionId
  cwd := run.cwd
  title :=
    let shown := if initiatingPrompt = "" then "(no preview)" else initiatingPrompt
    strip (String.ofList (shown.toList.take 80))
  firstUserMessage := initiatingPrompt
  updatedAtMs := now / 1000
  createdAtMs := now / 1000
  eventCount := 1
  fileSize := 0
  jsonlPath := ""

/-- The run goes from the pending ones to those known by their session. -/
def Host.promote (r : RunId) (run : ClaudeRun) (now : Time) : Host :=
  let waiting := h.pendingRuns.nameOf (· == r)
  let initiatingPrompt := (waiting.bind h.pendingPrompts.find).getD ""
  { h with
    pendingRuns := (waiting.map h.pendingRuns.pop).getD h.pendingRuns
    pendingPrompts := (waiting.map h.pendingPrompts.pop).getD h.pendingPrompts
    runs := h.runs.set run.sessionId r
    webSessionIds := run.sessionId :: h.webSessionIds.filter (· ≠ run.sessionId)
    syntheticSessions := h.syntheticSessions.set run.sessionId
      (syntheticEntry run initiatingPrompt now) }

/-- `_forward_event` promotes a run whose session is known and not registered. -/
def Host.promotes (run : ClaudeRun) : Bool :=
  run.sessionId ≠ "" && (h.runs.find run.sessionId).isNone

/-- `_forward_event`, without the event it publishes. -/
def Host.forwardEvent (r : RunId) (run : ClaudeRun) (now : Time) : Host :=
  if h.promotes run then (h.promote r run now).doSync now else h

/-- The session id a line of stdout brings: that of the first `system` line of subtype `init`. -/
def ClaudeRun.heard (run : ClaudeRun) (init : Option SessionId) : ClaudeRun :=
  match init with
  | some sessionId => if run.sessionId = "" then { run with sessionId := sessionId } else run
  | none => run

def Host.readLine (r : RunId) (run : ClaudeRun) (init : Option SessionId) (now : Time) : Host :=
  let heard := run.heard init
  { h with processes := h.processes.set r heard }.forwardEvent r heard now

/-- `_handle_run_exit`. -/
def Host.handleRunExit (r : RunId) : Host :=
  { h with
    runs := h.runs.expel (· == r)
    pendingRuns := h.pendingRuns.expel (· == r) }

/-- `_wait_for_exit`: the exit is published as an event, then handled. -/
def Host.waitForExit (r : RunId) (run : ClaudeRun) (now : Time) : Host :=
  let told := h.forwardEvent r run now
  { told with processes := told.processes.set r { run with exited := true } }.handleRunExit r

/-! ## Steps -/

/-- What can happen on the PC: a command is carried out, a process prints a line, a process is
reported as exited, a sync is made, or the transcripts on the disk become others. -/
inductive Act
  | dispatch (command : Command) (outcome : Outcome) (now : Time)
  | line (r : RunId) (init : Option SessionId) (now : Time)
  | exit (r : RunId) (now : Time)
  | sync (now : Time)
  | disk (transcripts : List Transcript)

def Host.spawnedRun (r : RunId) : Option ClaudeRun := h.processes[r]?.filter (·.spawned)

/-- A line comes from a process that was spawned, also after its exit was reported; an exit is
reported once. -/
def Host.step (h : Host) : Act → Host
  | .dispatch command outcome now => h.dispatch command outcome now
  | .line r init now =>
      match h.spawnedRun r with
      | some run => h.readLine r run init now
      | none => h
  | .exit r now =>
      match (h.spawnedRun r).filter (! ·.exited) with
      | some run => h.waitForExit r run now
      | none => h
  | .sync now => h.doSync now
  | .disk transcripts => { h with transcripts := transcripts }

/-! ## What the handlers can do -/

variable {h}

theorem report_eq (commandId : CommandId) (reportError : Option String)
    (result : Except String Result) :
    ∃ reports, h.report commandId reportError result = { h with reports := reports } := by
  unfold Host.report Host.log
  split
  · exact ⟨_, rfl⟩
  · exact ⟨_, rfl⟩
  · exact ⟨_, rfl⟩

/-- A `run.start` makes a run that knows no session, or none. -/
theorem handleRunStart_cases (command : Command) (outcome : Outcome) :
    (∃ reports, h.handleRunStart command outcome = { h with reports := reports }) ∨
      ∃ run pendingRuns pendingPrompts reports, run.sessionId = "" ∧ run.extraArgs = [] ∧
        h.handleRunStart command outcome = { h with
          processes := h.processes ++ [run]
          pendingRuns := pendingRuns
          pendingPrompts := pendingPrompts
          reports := reports } := by
  unfold Host.handleRunStart
  split
  · exact Or.inl ⟨_, rfl⟩
  · right
    have htried : ∀ run : ClaudeRun, (run.tryStart outcome).1.sessionId = run.sessionId ∧
        (run.tryStart outcome).1.extraArgs = run.extraArgs := by
      intro run
      unfold ClaudeRun.tryStart
      split
      · exact ⟨rfl, rfl⟩
      · simp only
        split
        · exact ⟨rfl, rfl⟩
        · exact ⟨rfl, rfl⟩
    simp only
    split
    · exact ⟨_, _, _, _, (htried _).1, (htried _).2, rfl⟩
    · exact ⟨_, _, _, _, (htried _).1, (htried _).2, rfl⟩

/-- A resume registers a new run, which is spawned unless `Popen` raises. -/
theorem resume_eq (command : Command) (outcome : Outcome) :
    ∃ reports, h.resume command outcome = { h with
      runs := h.runs.set command.sessionId h.processes.length
      processes := h.processes ++
        [{ resumeRun command with spawned := outcome.spawnError.isNone }]
      reports := reports } := by
  unfold Host.resume
  cases outcome.spawnError with
  | some => exact ⟨_, rfl⟩
  | none =>
      obtain ⟨reports, hreports⟩ := report_eq (h := { h with
        runs := h.runs.set command.sessionId h.processes.length
        processes := h.processes ++ [{ resumeRun command with spawned := true }] })
        command.commandId outcome.reportError
        ((({ resumeRun command with spawned := true } : ClaudeRun).writeUserMessage
          outcome.writeError).map fun _ => .queued)
      exact ⟨reports, hreports⟩

/-- A `run.input` resumes a session that no run is registered for and that has a transcript. -/
theorem handleRunInput_cases (command : Command) (outcome : Outcome) :
    (∃ reports, h.handleRunInput command outcome = { h with reports := reports }) ∧
        (((h.runs.find command.sessionId).bind fun r => h.processes[r]?).isSome = true ∨
          findSessionJsonl h.transcripts command.sessionId = none) ∨
      ((h.runs.find command.sessionId).bind fun r => h.processes[r]?) = none ∧
        (findSessionJsonl h.transcripts command.sessionId).isSome = true ∧
        h.handleRunInput command outcome = h.resume command outcome := by
  unfold Host.handleRunInput
  cases (h.runs.find command.sessionId).bind fun r => h.processes[r]? with
  | some => exact Or.inl ⟨report_eq _ _ _, Or.inl rfl⟩
  | none =>
      cases findSessionJsonl h.transcripts command.sessionId with
      | none => exact Or.inl ⟨⟨_, rfl⟩, Or.inr rfl⟩
      | some => exact Or.inr ⟨rfl, rfl, rfl⟩

theorem handleRunInterrupt_eq (command : Command) (outcome : Outcome) :
    ∃ reports, h.handleRunInterrupt command outcome = { h with reports := reports } := by
  unfold Host.handleRunInterrupt
  split
  · exact report_eq _ _ _
  · exact report_eq _ _ _

theorem step_line_cases (r : RunId) (init : Option SessionId) (now : Time) :
    h.spawnedRun r = none ∧ h.step (.line r init now) = h ∨
      ∃ run, h.spawnedRun r = some run ∧
        h.step (.line r init now) = h.readLine r run init now := by
  have hstep : h.step (.line r init now) = match h.spawnedRun r with
      | some run => h.readLine r run init now
      | none => h := rfl
  rw [hstep]
  cases h.spawnedRun r with
  | none => exact Or.inl ⟨rfl, rfl⟩
  | some run => exact Or.inr ⟨run, rfl, rfl⟩

theorem step_exit_cases (r : RunId) (now : Time) :
    h.step (.exit r now) = h ∨
      ∃ run, h.spawnedRun r = some run ∧ h.step (.exit r now) = h.waitForExit r run now := by
  have hstep : h.step (.exit r now) = match (h.spawnedRun r).filter (! ·.exited) with
      | some run => h.waitForExit r run now
      | none => h := rfl
  rw [hstep]
  cases hspawned : (h.spawnedRun r).filter (! ·.exited) with
  | none => exact Or.inl rfl
  | some run => exact Or.inr ⟨run, (Option.filter_eq_some_iff.mp hspawned).1, rfl⟩

/-- The transcript a deletion takes off the disk. -/
def Host.unlinked (h : Host) (command : Command) (outcome : Outcome) : Option Transcript :=
  match outcome.unlinkError with
  | none => findSessionJsonl h.transcripts command.sessionId
  | some _ => none

theorem handleSessionDelete_cases (command : Command) (outcome : Outcome) (now : Time) :
    (isSessionId command.sessionId = false ∧
        ∃ reports, h.handleSessionDelete command outcome now = { h with reports := reports }) ∨
      isSessionId command.sessionId = true ∧
        ∃ reports, h.handleSessionDelete command outcome now =
          { (h.closeRun command.sessionId).forget command.sessionId now with
            transcripts :=
              ((h.unlinked command outcome).map h.transcripts.erase).getD h.transcripts
            reports := reports } := by
  have hdisk : ((h.closeRun command.sessionId).forget command.sessionId now).transcripts =
      h.transcripts := by
    unfold Host.forget Host.closeRun
    split
    · rfl
    · rfl
  unfold Host.handleSessionDelete
  split
  · rename_i hmalformed
    exact Or.inl ⟨hmalformed, _, rfl⟩
  · rename_i hformed
    right
    refine ⟨by simpa using hformed, ?_⟩
    simp only
    rw [hdisk]
    unfold Host.unlinked
    cases findSessionJsonl h.transcripts command.sessionId with
    | none =>
        obtain ⟨reports, hreports⟩ := report_eq
          (h := (h.closeRun command.sessionId).forget command.sessionId now)
          command.commandId outcome.reportError (.ok .notFound)
        simp only
        rw [hreports]
        refine ⟨reports, ?_⟩
        cases outcome.unlinkError with
        | none => simp [← hdisk]
        | some => simp [← hdisk]
    | some =>
        cases outcome.unlinkError with
        | some =>
            simp only [Option.map_none, Option.getD_none]
            exact ⟨_, by rw [Host.log, ← hdisk]⟩
        | none => exact report_eq _ _ _

end OpsCure.Claude
