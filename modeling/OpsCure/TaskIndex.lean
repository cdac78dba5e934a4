/-
The task index of a session's workspace (`pc_launcher/artifact_workspace.py`): the cards the
workers of the session share in one file.  Every operation reads the file whole and writes it
whole, without a lock.  The texts of the markdown files beside it are left out.
-/
import OpsCure.Library.Dict
import OpsCure.Library.SharedCell
import OpsCure.WorkerBriefs

namespace OpsCure.Workspace

open SharedCell SharedCell.Program ThreadDelta
open SessionService (normalizeTaskPayloadText trimContextText)

/-! ## Task ids -/

/-- The characters of `\d`, with the digits `int` reads them as. -/
structure DigitTable extends CharTable where
  value : Char → Nat
  isDecimal_digit : ∀ digit < 10, isDecimal (Nat.digitChar digit)
  value_digit : ∀ digit < 10, value (Nat.digitChar digit) = digit

def DigitTable.ascii : DigitTable where
  toCharTable := CharTable.ascii
  value c := c.toNat - 48
  isDecimal_digit := by decide
  value_digit := by decide

/-- The number of `CANONICAL_TASK_ID_RE.fullmatch(text)`, in its digits. -/
def canonicalDigits (table : DigitTable) (text : String) : Option (List Char) :=
  match text.toList with
  | t :: '-' :: digits =>
      if (t = 'T' ∨ t = 't') ∧ digits ≠ [] ∧ digits.all table.isDecimal then some digits else none
  | _ => none

def isCanonical (table : DigitTable) (text : String) : Bool := (canonicalDigits table text).isSome

/-- `int(digits)`. -/
def DigitTable.number (table : DigitTable) (digits : List Char) : Nat :=
  digits.foldl (fun number digit => 10 * number + table.value digit) 0

/-- `f"{number:03d}"`. -/
def threeDigits (number : Nat) : List Char :=
  let digits := Nat.toDigits 10 number
  List.replicate (3 - digits.length) '0' ++ digits

/-- `f"T-{number:03d}"`. -/
def formatTaskId (number : Nat) : String := String.ofList ('T' :: '-' :: threeDigits number)

/-- `_extract_task_id`. -/
def extractTaskId (table : DigitTable) (text : String) : Option String :=
  (searchTaskCardId table.toCharTable false text.toList).map fun found =>
    upper (String.ofList found)

/-! ## Cards -/

inductive CardStatus where
  | ready
  | inProgress
  | verify
  | review
  | blockedOnOperator
  | handoffQueued
  | done
  | failed
deriving DecidableEq, Repr

/-- `ACTIVE_CHILD_TASK_STATUSES`. -/
def CardStatus.isActive : CardStatus → Bool
  | ready | inProgress | verify | review | handoffQueued => true
  | blockedOnOperator | done | failed => false

structure TaskCard where
  taskId : String
  title : String
  owner : String
  status : CardStatus
  sourceAgent : String
  dependsOn : Option String
  createdAt : Time
  updatedAt : Time
  latestBriefName : Option String
  sourceLogName : Option String
  goal : String
  definitionOfDone : String
  notes : String
deriving DecidableEq, Repr

abbrev Index := List (String × TaskCard)

def Index.names (index : Index) : List String := index.map Prod.fst

inductive WorkspaceFile where
  | taskCard (stem : String)
  | taskBoard
deriving DecidableEq, Repr

/-- `task_file`. -/
def taskFile (taskId : String) : WorkspaceFile := .taskCard (upper taskId)

/-- `a or b` on optional texts. -/
def orOther (first second : Option String) : Option String :=
  if Text.present first then first else second

/-- `_allocate_task_id`. -/
def allocateTaskId (table : DigitTable) (index : Index) : String :=
  let values := index.names.filterMap fun taskId =>
    (canonicalDigits table (Text.strip taskId)).map table.number
  formatTaskId (match values.max? with
    | some highest => highest + 1
    | none => 1)

/-- A letter of `Task`, without its case: the long s and the Kelvin sign fold too. -/
def foldLetter (c : Char) : Char := if c.toNat = 0x17F then 's' else Text.lowerChar c

/-- The text behind `^Task\s+T-\d{3}\.?\s*`. -/
def behindTaskLabel (table : CharTable) (text : List Char) : Option (List Char) :=
  if (text.take 4).map foldLetter = ['t', 'a', 's', 'k'] ∧
      (text.drop 4).head?.any Text.isSpace then
    match (text.drop 4).dropWhile Text.isSpace with
    | t :: '-' :: first :: second :: third :: rest =>
        if (t = 'T' ∨ t = 't') ∧ [first, second, third].all table.isDecimal then
          let behind := if rest.head? = some '.' then rest.drop 1 else rest
          some (behind.dropWhile Text.isSpace)
        else none
    | _ => none
  else none

/-- `_derive_task_title`. -/
def deriveTaskTitle (table : CharTable) (text : String) : String :=
  let stripped := Text.collapse (Text.strip (normalizeTaskPayloadText text))
  if stripped = "" then "Focused follow-up task"
  else trimContextText (String.ofList ((behindTaskLabel table stripped.toList).getD stripped.toList))
    72

/-! ## The file -/

/-- `normalized_task_id`. -/
def normalizedName (card : TaskCard) : String := upper (Text.strip card.taskId)

/-- The index `_load_task_index` makes of the file, which holds what `_save_task_index` wrote. -/
def readIndex (table : DigitTable) (file : Index) : Index :=
  file.foldl (fun index entry =>
    if isCanonical table (normalizedName entry.2) then
      Dict.set index (normalizedName entry.2) { entry.2 with taskId := normalizedName entry.2 }
    else index) []

/-- `changed`, after the file is read. -/
def readChanges (table : DigitTable) (file : Index) : Bool :=
  file.any fun entry =>
    ! isCanonical table (normalizedName entry.2) || normalizedName entry.2 ≠ entry.1

/-- `_save_task_index`; the file has its keys in order. -/
def saveTaskIndex (index : Index) : Program Index Unit :=
  store (index.insertionSort fun left right => left.1 ≤ right.1)

/-- `_load_task_index`. -/
def loadTaskIndex (table : DigitTable) : Program Index Index := do
  let file ← load
  let index := readIndex table file
  if readChanges table file then
    saveTaskIndex index
  return index

/-! ## The board -/

/-- `_roll_up_parent_status`. -/
def rollUpParentStatus (parent : TaskCard) (children : List TaskCard) : CardStatus × String :=
  let named := fun (chosen : List TaskCard) => ", ".intercalate (chosen.map (·.taskId))
  let blockedChildren := children.filter (·.status = .blockedOnOperator)
  let failedChildren := children.filter (·.status = .failed)
  let activeChildren := children.filter (·.status.isActive)
  if blockedChildren ≠ [] then
    (.blockedOnOperator,
      "Waiting on operator response for child task(s): " ++ named blockedChildren)
  else if activeChildren ≠ [] then
    (.handoffQueued, "Waiting on child task(s): " ++ named activeChildren)
  else if failedChildren ≠ [] then (.failed, "Child task failed: " ++ named failedChildren)
  else if children ≠ [] ∧ children.all (·.status = .done) then
    (.done, "Completed via child task(s): " ++ named children)
  else (parent.status, parent.notes)

/-- `children_by_parent`: the tasks that depend on a task of the index. -/
def childrenOf (index : Index) (parentId : String) : List TaskCard :=
  (index.map Prod.snd).filter fun card => card.dependsOn = some parentId

def parentIds (index : Index) : List String :=
  (index.names.filter fun name => name ≠ "" ∧ childrenOf index name ≠ []).insertionSort (· ≤ ·)

def reconcileParent (now : Time) (reconciled : Index × List String) (parentId : String) :
    Index × List String :=
  match reconciled.1.lookup parentId with
  | none => reconciled
  | some parent =>
      let next := rollUpParentStatus parent (childrenOf reconciled.1 parentId)
      if next = (parent.status, parent.notes) then reconciled
      else
        (Dict.set reconciled.1 parentId
          { parent with status := next.1, notes := next.2, updatedAt := now },
          reconciled.2 ++ [parentId])

/-- `_reconcile_task_index`, for so many rounds at most: tasks that depend on each other in a
circle can keep the loop going. -/
def reconcileTaskIndex (now : Time) : Nat → Index → Index × List String
  | 0, index => (index, [])
  | rounds + 1, index =>
      let round := (parentIds index).foldl (reconcileParent now) (index, [])
      if round.2 = [] then round
      else
        let later := reconcileTaskIndex now rounds round.1
        (later.1, round.2 ++ later.2)

/-- `_refresh_task_board`: the board's file, and the index once its parents are rolled up. -/
def refreshTaskBoard (table : DigitTable) (rounds : Nat) (now : Time) (index : Index) :
    Program Index WorkspaceFile := do
  let taskIndex ← if index = [] then loadTaskIndex table else pure index
  let reconciled := reconcileTaskIndex now rounds taskIndex
  if reconciled.2 ≠ [] then
    saveTaskIndex reconciled.1
  return .taskBoard

/-! ## Outputs -/

/-- An output as the patterns of `_parse_cli_output` cut it up. -/
structure CliOutput where
  reportBlocks : List String
  answerBlocks : List String
  questionBlocks : List String
  discussBodies : List String
  handoffBlocks : List (String × String)
  fallbackSummary : String
deriving DecidableEq, Repr

structure HandoffSpec where
  targetAgent : String
  body : String
  taskId : Option String
  title : Option String
deriving DecidableEq, Repr

/-- The handoffs of `_parse_cli_output`. -/
def CliOutput.handoffs (table : DigitTable) (output : CliOutput) : List HandoffSpec :=
  output.handoffBlocks.filterMap fun block =>
    let body := Text.strip block.2
    if body = "" then none
    else some ⟨Text.strip block.1, body, extractTaskId table body,
      some (deriveTaskTitle table.toCharTable body)⟩

/-- `report_text`. -/
def CliOutput.reportText (output : CliOutput) : String :=
  match output.reportBlocks.getLast? with
  | some report => report
  | none => Text.orElse (output.answerBlocks.getLast?)
      (Text.orElse (output.discussBodies.getLast?) output.fallbackSummary)

/-! ## Handoffs -/

def newHandoffCard (table : CharTable) (sourceAgent : String) (parentTaskId : Option String)
    (sourceLogName : String) (now : Time) (handoff : HandoffSpec) (taskId : String) : TaskCard :=
  let normalizedBody := Text.orElse (some (normalizeTaskPayloadText handoff.body)) handoff.body
  { taskId := taskId
    title := Text.orElse handoff.title (deriveTaskTitle table normalizedBody)
    owner := handoff.targetAgent
    status := .ready
    sourceAgent := sourceAgent
    dependsOn := parentTaskId
    createdAt := now
    updatedAt := now
    latestBriefName := none
    sourceLogName := some sourceLogName
    goal := normalizedBody
    definitionOfDone :=
      "Complete the focused next action, update CURRENT_STATE.md / STATUS.md, and leave the work " ++
        "in a reviewable state."
    notes := s!"Auto-generated from \x60{sourceAgent}\x60 handoff." }

def TaskCard.handedOff (table : CharTable) (card : TaskCard) (sourceAgent : String)
    (parentTaskId : Option String) (sourceLogName : String) (now : Time) (handoff : HandoffSpec) :
    TaskCard :=
  let normalizedBody := Text.orElse (some (normalizeTaskPayloadText handoff.body)) handoff.body
  { card with
    owner := handoff.targetAgent
    status := .ready
    sourceAgent := sourceAgent
    dependsOn := orOther card.dependsOn parentTaskId
    updatedAt := now
    sourceLogName := some sourceLogName
    goal := normalizedBody
    title := Text.orElse handoff.title
      (Text.orElse (some card.title) (deriveTaskTitle table normalizedBody))
    notes := s!"Latest handoff from \x60{sourceAgent}\x60.\n\n{normalizedBody}" }

/-- The index and the handoffs as the loop of `_materialize_handoffs` goes on. -/
structure Materialized where
  index : Index
  handoffs : List HandoffSpec
deriving DecidableEq

/-- One turn of the loop of `_materialize_handoffs`. -/
def materializeHandoff (table : DigitTable) (sourceAgent : String) (parentTaskId : Option String)
    (sourceLogName : String) (now : Time) (made : Materialized) (handoff : HandoffSpec) :
    Materialized :=
  let taskId := Text.orElse handoff.taskId (allocateTaskId table made.index)
  let stood := (made.index.lookup taskId).getD
    (newHandoffCard table.toCharTable sourceAgent parentTaskId sourceLogName now handoff taskId)
  let card := stood.handedOff table.toCharTable sourceAgent parentTaskId sourceLogName now handoff
  { index := Dict.set made.index taskId card
    handoffs := made.handoffs ++ [⟨handoff.targetAgent, handoff.body, some taskId, some card.title⟩] }

/-- `_materialize_handoffs`: the handoffs with their tasks, and the files that are written. -/
def materializeHandoffs (table : DigitTable) (rounds : Nat) (sourceAgent : String)
    (handoffs : List HandoffSpec) (parentTaskId : Option String) (sourceLogName : String)
    (now : Time) : Program Index (List HandoffSpec × List WorkspaceFile) := do
  let index ← loadTaskIndex table
  let made := handoffs.foldl (materializeHandoff table sourceAgent parentTaskId sourceLogName now)
    ⟨index, []⟩
  if handoffs ≠ [] then
    saveTaskIndex made.index
  let board ← refreshTaskBoard table rounds now made.index
  return (made.handoffs,
    made.handoffs.map (fun handoff => taskFile (handoff.taskId.getD "")) ++ [board])

/-! ## The task of a job -/

def newJobCard (table : CharTable) (taskId agentName userText briefName : String) (now : Time) :
    TaskCard where
  taskId := taskId
  title := deriveTaskTitle table userText
  owner := agentName
  status := .inProgress
  sourceAgent := "operator"
  dependsOn := none
  createdAt := now
  updatedAt := now
  latestBriefName := some briefName
  sourceLogName := none
  goal := Text.orElse (some (Text.strip userText)) "Continue the referenced task."
  definitionOfDone := "Complete the requested work and update the local session artifacts."
  notes := "Task card was claimed from an incoming job."

/-- `_claim_task_for_job`. -/
def claimTaskForJob (table : DigitTable) (rounds : Nat)
    (taskId agentName userText briefName : String) (now : Time) :
    Program Index WorkspaceFile := do
  let index ← loadTaskIndex table
  let card := (index.lookup taskId).getD
    (newJobCard table.toCharTable taskId agentName userText briefName now)
  let claimed := Dict.set index taskId
    { card with
      owner := agentName
      status := .inProgress
      updatedAt := now
      latestBriefName := some briefName }
  saveTaskIndex claimed
  let _ ← refreshTaskBoard table rounds now claimed
  return taskFile taskId

/-- A card once the result of its job is recorded. -/
def TaskCard.finalized (card : TaskCard) (agentName reportText : String)
    (questionBlocks : List String) (handoffs : List HandoffSpec) (rawLogName : String)
    (now : Time) : TaskCard :=
  let touched :=
    { card with
      owner := agentName
      updatedAt := now
      sourceLogName := some rawLogName }
  match questionBlocks, handoffs with
  | question :: _, _ => { touched with status := .blockedOnOperator, notes := question }
  | [], _ :: _ =>
      { touched with
        status := .handoffQueued
        notes := ", ".intercalate (handoffs.map fun handoff =>
          Text.orElse handoff.taskId "task-pending" ++ "->" ++ handoff.targetAgent) }
  | [], [] =>
      { touched with
        status := .done
        notes := Text.orElse (some reportText) "Marked done by runtime." }

/-- `_finalize_current_task`. -/
def finalizeCurrentTask (table : DigitTable) (rounds : Nat) (taskId : Option String)
    (agentName reportText : String) (questionBlocks : List String) (handoffs : List HandoffSpec)
    (rawLogName : String) (now : Time) : Program Index (List WorkspaceFile) := do
  let index ← loadTaskIndex table
  match taskId.bind fun taskId => (index.lookup taskId).map fun card => (taskId, card) with
  | none => return [← refreshTaskBoard table rounds now index]
  | some (taskId, card) =>
      let finalized := Dict.set index taskId
        (card.finalized agentName reportText questionBlocks handoffs rawLogName now)
      saveTaskIndex finalized
      return [taskFile taskId, ← refreshTaskBoard table rounds now finalized]

def newFailedCard (table : CharTable) (taskId agentName summary rawLogName : String) (now : Time) :
    TaskCard where
  taskId := taskId
  title := deriveTaskTitle table summary
  owner := agentName
  status := .failed
  sourceAgent := agentName
  dependsOn := none
  createdAt := now
  updatedAt := now
  latestBriefName := none
  sourceLogName := some rawLogName
  goal := "Investigate the failed runtime step."
  definitionOfDone := "Stabilize the task and update the task board."
  notes := summary

/-- `_mark_task_failed`. -/
def markTaskFailed (table : DigitTable) (rounds : Nat) (taskId : Option String)
    (agentName summary rawLogName : String) (now : Time) :
    Program Index (List WorkspaceFile) := do
  let index ← loadTaskIndex table
  match taskId with
  | none => return [← refreshTaskBoard table rounds now index]
  | some taskId =>
      let normalizedSummary := normalizeTaskPayloadText summary
      let card := (index.lookup taskId).getD
        (newFailedCard table.toCharTable taskId agentName normalizedSummary rawLogName now)
      let failed := Dict.set index taskId
        { card with
          owner := agentName
          status := .failed
          updatedAt := now
          sourceLogName := some rawLogName
          notes := normalizedSummary }
      saveTaskIndex failed
      return [taskFile taskId, ← refreshTaskBoard table rounds now failed]

/-! ## Jobs -/

structure BriefedTask where
  taskId : Option String
  taskPath : Option WorkspaceFile
deriving DecidableEq, Repr

/-- `write_job_brief`, as far as it touches the index. -/
def writeJobBrief (table : DigitTable) (rounds : Nat) (agentName jobType userText : String)
    (taskId : Option String) (briefName : String) (now : Time) : Program Index BriefedTask := do
  let resolved := orOther taskId (extractTaskId table userText)
  let resolved ←
    if resolved = none ∧ jobType = "orchestration" then do
      let index ← loadTaskIndex table
      pure (some (allocateTaskId table index))
    else pure resolved
  match resolved with
  | none => return ⟨none, none⟩
  | some taskId =>
      let taskPath ← claimTaskForJob table rounds taskId agentName userText briefName now
      return ⟨some taskId, some taskPath⟩

/-- What the recording of a result leaves: the handoffs with their tasks, the files written for
them, and the files of the task it settles. -/
structure Recorded where
  handoffs : List HandoffSpec
  handoffFiles : List WorkspaceFile
  taskFiles : List WorkspaceFile
deriving DecidableEq, Repr

/-- `record_cli_result`, as far as it touches the index. -/
def recordCliResult (table : DigitTable) (rounds : Nat) (agentName userText : String)
    (output : CliOutput) (taskId : Option String) (rawLogName : String) (now : Time) :
    Program Index Recorded := do
  let currentTaskId := orOther taskId (extractTaskId table userText)
  let (handoffs, handoffFiles) ← materializeHandoffs table rounds agentName
    (output.handoffs table) currentTaskId rawLogName now
  let taskFiles ← finalizeCurrentTask table rounds currentTaskId agentName output.reportText
    output.questionBlocks handoffs rawLogName now
  return ⟨handoffs, handoffFiles, taskFiles⟩

/-- `record_cli_failure`, as far as it touches the index: the files of the task that failed. -/
def recordCliFailure (table : DigitTable) (rounds : Nat) (agentName userText summary : String)
    (taskId : Option String) (rawLogName : String) (now : Time) :
    Program Index (List WorkspaceFile) :=
  markTaskFailed table rounds (orOther taskId (extractTaskId table userText)) agentName summary
    rawLogName now

/-! ## What is read -/

theorem readIndex_names (table : DigitTable) (file : Index) :
    ∀ entry ∈ readIndex table file, isCanonical table entry.1 ∧ entry.2.taskId = entry.1 := by
  unfold readIndex
  refine List.foldlRecOn (motive := fun index : Index => ∀ entry ∈ index,
    isCanonical table entry.1 ∧ entry.2.taskId = entry.1) file _ ?_ ?_
  · intro entry hentry
    cases hentry
  · intro index hindex read _ entry hentry
    by_cases hcanonical : isCanonical table (normalizedName read.2)
    · rw [if_pos hcanonical] at hentry
      rcases Dict.mem_set hentry with hstood | rfl
      · exact hindex entry hstood
      · exact ⟨hcanonical, rfl⟩
    · rw [if_neg hcanonical] at hentry
      exact hindex entry hentry

variable {table : DigitTable} {accesses : List (Access Index)} {rounds : Nat} {now : Time}
  {taskId agentName : String}

variable {index : Index} {file : WorkspaceFile} {rawLogName : String}

theorem gives_loadTaskIndex (hgives : (loadTaskIndex table).Gives accesses index) :
    ∃ file rest, accesses = .read file :: rest ∧ index = readIndex table file := by
  unfold loadTaskIndex at hgives
  simp only [gives_bind_iff, gives_load] at hgives
  obtain ⟨file, _, back, rfl, rfl, hrest⟩ := hgives
  refine ⟨file, back, rfl, ?_⟩
  split at hrest
  · simp only [gives_bind_iff, gives_pure] at hrest
    obtain ⟨_, _, _, _, _, _, hsame⟩ := hrest
    exact hsame
  · exact (gives_pure.1 hrest).2

theorem gives_refreshTaskBoard
    (hgives : (refreshTaskBoard table rounds now index).Gives accesses file) :
    file = .taskBoard := by
  have hlast : ∀ taskIndex accesses,
      Program.Gives (do
        if (reconcileTaskIndex now rounds taskIndex).2 ≠ [] then
          saveTaskIndex (reconcileTaskIndex now rounds taskIndex).1
        return WorkspaceFile.taskBoard) accesses file → file = .taskBoard := by
    intro taskIndex accesses hgives
    split at hgives
    · simp only [gives_bind_iff, gives_pure] at hgives
      obtain ⟨_, _, _, _, _, _, hsame⟩ := hgives
      exact hsame
    · exact (gives_pure.1 hgives).2
  unfold refreshTaskBoard at hgives
  split at hgives
  · simp only [gives_bind_iff] at hgives
    obtain ⟨taskIndex, _, back, _, _, hrest⟩ := hgives
    exact hlast taskIndex back hrest
  · simp only [gives_bind_iff] at hgives
    obtain ⟨taskIndex, _, back, _, _, hrest⟩ := hgives
    exact hlast taskIndex back hrest

theorem gives_finalizeCurrentTask {reportText : String} {questionBlocks : List String}
    {handoffs : List HandoffSpec} {files : List WorkspaceFile}
    (hcanonical : ¬ isCanonical table taskId)
    (hgives : (finalizeCurrentTask table rounds (some taskId) agentName reportText questionBlocks
      handoffs rawLogName now).Gives accesses files) : files = [.taskBoard] := by
  unfold finalizeCurrentTask at hgives
  simp only [gives_bind_iff] at hgives
  obtain ⟨index, front, back, _, hload, hrest⟩ := hgives
  obtain ⟨file, _, _, hindex⟩ := gives_loadTaskIndex hload
  have habsent : index.lookup taskId = none := by
    rw [List.lookup_eq_none_iff]
    intro entry hentry
    rw [hindex] at hentry
    apply bne_iff_ne.mpr
    intro hsame
    rw [hsame] at hcanonical
    exact hcanonical (readIndex_names table file entry hentry).1
  rw [Option.bind_some, habsent, Option.map_none] at hrest
  simp only [gives_bind_iff, gives_pure] at hrest
  obtain ⟨board, _, _, _, hboard, _, hfiles⟩ := hrest
  rw [hfiles, gives_refreshTaskBoard hboard]

theorem gives_claimTaskForJob {userText briefName : String}
    (hgives : (claimTaskForJob table rounds taskId agentName userText briefName now).Gives
      accesses file) :
    file = taskFile taskId ∧ ∃ index, .write index ∈ accesses ∧ taskId ∈ index.names := by
  unfold claimTaskForJob at hgives
  simp only [gives_bind_iff, gives_pure, saveTaskIndex, gives_store] at hgives
  obtain ⟨index, front, _, rfl, _, _, _, _, rfl, rfl, _, _, _, rfl, _, _, rfl⟩ := hgives
  refine ⟨rfl, _, List.mem_append_right front (List.mem_cons_self), ?_⟩
  unfold Index.names
  rw [((List.perm_insertionSort _ _).map Prod.fst).mem_iff]
  exact Dict.mem_keys_set.2 (Or.inr rfl)

theorem gives_markTaskFailed {summary : String} {files : List WorkspaceFile}
    (hgives : (markTaskFailed table rounds (some taskId) agentName summary rawLogName now).Gives
      accesses files) : files = [taskFile taskId, .taskBoard] := by
  unfold markTaskFailed at hgives
  simp only [gives_bind_iff, gives_pure] at hgives
  obtain ⟨_, _, _, _, _, _, _, _, _, _, board, _, _, _, hboard, _, hfiles⟩ := hgives
  rw [hfiles, gives_refreshTaskBoard hboard]

end OpsCure.Workspace
