/-
The commands of one thread as the state service of remote codex reads them
(`remote_codex/state_service.py`): which of them are stale, the window of them a caller is
shown, and the command a guard takes for the active one.
-/
import OpsCure.RemoteCommands
import OpsCure.RemoteTask

namespace OpsCure.RemoteCodex

open Fallible Table RemoteCommand

/-! ## The command table -/

def turnStart : String := "turn.start"
def turnInterrupt : String := "turn.interrupt"
def threadDelete : String := "thread.delete"
def threadStart : String := "thread.start"
def fsList : String := "fs.list"
def fsMkdir : String := "fs.mkdir"

/-- `ACTIVE_PENDING_TASK_STATUSES`. -/
def activePendingTaskStatuses : List RemoteTask.TaskStatus :=
  [.queued, .claimed, .executing, .verifying, .blockedApproval]

/-- `PENDING_COMMAND_TURN_STATUSES`. -/
def pendingCommandTurnStatuses : List String := ["queued", "inprogress", "in_progress", "running"]

/-- `DEFAULT_PENDING_COMMAND_VISIBILITY_SECONDS`. -/
def defaultPendingCommandVisibilitySeconds : Int := 180

/-- The command rows.  A deleted row keeps its place, so that no id is given twice; only a
completed command is ever deleted. -/
structure CommandTable where
  queue : Queue Address
  deleted : List Id
  settled : ∀ id ∈ deleted, ∃ row, queue.commands[id]? = some row ∧ row.status = .completed

def CommandTable.empty : CommandTable where
  queue := .empty Address
  deleted := []
  settled := fun _ hid => absurd hid List.not_mem_nil

/-- `db.get` on a command id. -/
def CommandTable.get (table : CommandTable) (id : Id) : Option (Command Address) :=
  if id ∈ table.deleted then none else table.queue.commands[id]?

def active (row : Command Address) : Bool :=
  row.status ∈ [CommandStatus.queued, .running]

theorem active_iff {row : Command Address} :
    active row = true ↔ row.status = .queued ∨ row.status = .running := by
  simp [active]

theorem CommandTable.get_of_active {table : CommandTable} {id : Id} {row : Command Address}
    (hrow : table.queue.commands[id]? = some row) (hactive : active row) :
    table.get id = some row := by
  have hkept : id ∉ table.deleted := by
    intro hdeleted
    obtain ⟨found, hfound, hstatus⟩ := table.settled id hdeleted
    rw [hrow] at hfound
    rw [← Option.some.inj hfound] at hstatus
    rw [active_iff, hstatus] at hactive
    simp at hactive
  rw [CommandTable.get, if_neg hkept, hrow]

theorem CommandTable.get_eq_some {table : CommandTable} {id : Id} {row : Command Address} :
    table.get id = some row ↔ id ∉ table.deleted ∧ table.queue.commands[id]? = some row := by
  by_cases hdeleted : id ∈ table.deleted
  · rw [CommandTable.get, if_pos hdeleted]
    constructor
    · intro hnone
      cases hnone
    · intro hboth
      exact absurd hdeleted hboth.1
  · rw [CommandTable.get, if_neg hdeleted]
    constructor
    · intro hrow
      exact ⟨hdeleted, hrow⟩
    · intro hboth
      exact hboth.2

/-! ## What a row says of its turn -/

/-- `command_turn_status_from_result`. -/
def commandTurnStatusFromResult (render : Json → String) (result : Option Json) : String :=
  match result with
  | some (.obj fields) =>
      Text.lower (compactText (textOf render (Json.get "turnStatus" (.obj fields))) "")
  | _ => ""

/-- `command_turn_id_from_row`: the column, or what the result says. -/
def commandTurnIdFromRow (render : Json → String) (row : Command Address) : Option String :=
  let turnId := compactText (row.address.turnId.getD "") ""
  if turnId ≠ "" then some turnId
  else match row.result with
    | some (.obj fields) =>
        let nextTurnId := compactText (textOf render (Json.get "turnId" (.obj fields))) ""
        if nextTurnId = "" then none else some nextTurnId
    | _ => none

def taskName (task : Id) : String := toString task

def taskNamed (tasks : RemoteTask.Db) (name : String) : Option Id :=
  (List.range tasks.tasks.length).find? fun task => taskName task = name

def linkedTaskStatus (tasks : RemoteTask.Db) (row : Command Address) :
    Option RemoteTask.TaskStatus := do
  let name ← row.address.taskId
  let task ← taskNamed tasks name
  let found ← tasks.tasks[task]?
  return found.status

def linkedTaskActive (tasks : RemoteTask.Db) (row : Command Address) : Bool :=
  match linkedTaskStatus tasks row with
  | some status => status ∈ activePendingTaskStatuses
  | none => false

/-! ## The rows of a thread -/

/-- The order of a thread's commands: by last update, then by age, the latest first. -/
def newestFirst (left right : Command Address) : Bool :=
  right.updatedAt < left.updatedAt ∨
    (left.updatedAt = right.updatedAt ∧ right.createdAt ≤ left.createdAt)

def isOfThread (machineId threadId : String) (row : Command Address) : Bool :=
  row.machineId = machineId ∧ row.address.threadId = threadId

def threadRows (table : CommandTable) (machineId threadId : String) :
    List (Command Address × Id) :=
  (orderBy newestFirst (selectWhere (isOfThread machineId threadId) table.queue.commands)).filter
    fun row => row.2 ∉ table.deleted

def isCompletedTurn (row : Command Address) : Bool :=
  row.type = turnStart ∧ row.status = .completed

def latestCompletedTurnId (render : Json → String) (rows : List (Command Address × Id)) :
    Option String :=
  (rows.filter fun row => isCompletedTurn row.1).findSome? fun row =>
    commandTurnIdFromRow render row.1

/-- `superseded_by_newer_turn`. -/
def supersededByNewerTurn (latestTurnId commandTurnId : Option String) : Bool :=
  match latestTurnId, commandTurnId with
  | some latest, some turnId => turnId ≠ latest
  | _, _ => false

/-- `expired_without_active_task`. -/
def expiredWithoutActiveTask (tasks : RemoteTask.Db) (now : Time) (row : Command Address) :
    Bool :=
  ¬ linkedTaskActive tasks row ∧
    seconds defaultPendingCommandVisibilitySeconds < max 0 (now - row.createdAt)

/-- The row waits for a turn that a later one has replaced, or waits for too long. -/
def isStale (render : Json → String) (tasks : RemoteTask.Db) (latestTurnId : Option String)
    (now : Time) (row : Command Address) : Bool :=
  isCompletedTurn row ∧
    commandTurnStatusFromResult render row.result ∈ pendingCommandTurnStatuses ∧
    (supersededByNewerTurn latestTurnId (commandTurnIdFromRow render row) ∨
      expiredWithoutActiveTask tasks now row)

/-- `_stale_thread_command_ids`: the stale commands, and those of them that may be deleted. -/
def staleThreadCommandIds (render : Json → String) (tasks : RemoteTask.Db) (table : CommandTable)
    (machineId threadId : String) (now : Time) : List Id × List Id :=
  let rows := threadRows table machineId threadId
  let stale := rows.filter fun row =>
    isStale render tasks (latestCompletedTurnId render rows) now row.1
  (stale.map (·.2), (stale.filter fun row => ¬ linkedTaskActive tasks row.1).map (·.2))

section Rows

variable {render : Json → String} {tasks : RemoteTask.Db} {table : CommandTable}
  {machineId threadId : String} {now : Time} {row : Command Address} {id : Id}

theorem taskNamed_congr {after : RemoteTask.Db} (hlength : after.tasks.length = tasks.tasks.length)
    (name : String) : taskNamed after name = taskNamed tasks name := by
  rw [taskNamed, taskNamed, hlength]

theorem row_of_taskNamed {name : String} {task : Id} (hnamed : taskNamed tasks name = some task) :
    ∃ row, tasks.tasks[task]? = some row := by
  have hmem := List.mem_of_find?_eq_some hnamed
  exact ⟨_, List.getElem?_eq_getElem (List.mem_range.mp hmem)⟩

theorem mem_threadRows : (row, id) ∈ threadRows table machineId threadId ↔
    table.get id = some row ∧ isOfThread machineId threadId row := by
  rw [threadRows, List.mem_filter, mem_orderBy, mem_selectWhere, CommandTable.get_eq_some]
  simp only [decide_eq_true_eq]
  tauto

theorem isCompletedTurn_of_isStale {latestTurnId : Option String}
    (hstale : isStale render tasks latestTurnId now row) : isCompletedTurn row := by
  simp only [isStale, decide_eq_true_eq] at hstale
  exact hstale.1

theorem completed_of_stale (hid : id ∈ (staleThreadCommandIds render tasks table machineId
    threadId now).1) : ∃ row, table.get id = some row ∧ row.status = .completed := by
  obtain ⟨⟨row, found⟩, hmem, rfl⟩ := List.mem_map.mp hid
  obtain ⟨hrow, hstale⟩ := List.mem_filter.mp hmem
  have hturn := isCompletedTurn_of_isStale hstale
  simp only [isCompletedTurn, decide_eq_true_eq] at hturn
  exact ⟨row, (mem_threadRows.1 hrow).1, hturn.2⟩

theorem stale_of_deletable (hid : id ∈ (staleThreadCommandIds render tasks table machineId
    threadId now).2) : id ∈ (staleThreadCommandIds render tasks table machineId threadId now).1 := by
  obtain ⟨row, hmem, hrow⟩ := List.mem_map.mp hid
  exact List.mem_map.mpr ⟨row, (List.mem_filter.mp hmem).1, hrow⟩

end Rows

/-! ## Reads -/

def CommandTable.prune (render : Json → String) (tasks : RemoteTask.Db) (table : CommandTable)
    (machineId threadId : String) (now : Time) : CommandTable where
  queue := table.queue
  deleted := table.deleted ++ (staleThreadCommandIds render tasks table machineId threadId now).2
  settled := by
    intro id hid
    rcases List.mem_append.mp hid with hold | hnew
    · exact table.settled id hold
    · obtain ⟨row, hrow, hstatus⟩ := completed_of_stale (stale_of_deletable hnew)
      exact ⟨row, (CommandTable.get_eq_some.1 hrow).2, hstatus⟩

/-- `list_thread_commands`: deletes what may be deleted, and shows a window of the rest. -/
def listThreadCommands (render : Json → String) (tasks : RemoteTask.Db) (table : CommandTable)
    (machineId threadId : String) (limit : Int) (includeStale : Bool) (now : Time) :
    CommandTable × List (Command Address × Id) :=
  let stale := (staleThreadCommandIds render tasks table machineId threadId now).1
  let pruned := table.prune render tasks machineId threadId now
  let rows := (threadRows pruned machineId threadId).take (max 1 (min limit 30)).toNat
  (pruned, if includeStale then rows else rows.filter fun row => row.2 ∉ stale)

/-- `get_active_thread_command`. -/
def getActiveThreadCommand (render : Json → String) (tasks : RemoteTask.Db)
    (table : CommandTable) (machineId threadId : String) (commandType : Option String)
    (now : Time) : CommandTable × Option (Command Address × Id) :=
  let (pruned, commands) := listThreadCommands render tasks table machineId threadId 20 false now
  (pruned, commands.find? fun command =>
    (∀ type ∈ commandType, command.1.type = type) ∧ active command.1)

/-- `get_latest_turn_id`. -/
def getLatestTurnId (render : Json → String) (tasks : RemoteTask.Db) (table : CommandTable)
    (machineId threadId : String) (now : Time) : CommandTable × Option String :=
  let (pruned, commands) := listThreadCommands render tasks table machineId threadId 20 false now
  (pruned, latestCompletedTurnId render commands)

/-! ## Writes -/

/-- The table after a write to its rows that gives no deleted one another status. -/
def CommandTable.write (table : CommandTable) (queue : Queue Address)
    (hkept : ∀ id ∈ table.deleted, ∀ row, table.queue.commands[id]? = some row →
      queue.commands[id]? = some row) : CommandTable where
  queue := queue
  deleted := table.deleted
  settled := by
    intro id hid
    obtain ⟨row, hrow, hstatus⟩ := table.settled id hid
    exact ⟨row, hkept id hid row hrow, hstatus⟩

variable {queue : Queue Address} {clock : Clock} {workerId : String} {commandId : Id}

theorem enqueueCommand_kept {render : Json → String} {payload : EnqueueRequest Address} {id : Id}
    {row : Command Address} (hrow : queue.commands[id]? = some row) :
    (enqueueCommand render queue payload clock).commands[id]? = some row := by
  have hlt := (List.getElem?_eq_some_iff.mp hrow).1
  rw [enqueueCommand, enqueue, List.getElem?_append_left hlt]
  exact hrow

def CommandTable.enqueueCommand (render : Json → String) (table : CommandTable)
    (payload : EnqueueRequest Address) (clock : Clock) : CommandTable :=
  table.write (RemoteCodex.enqueueCommand render table.queue payload clock) fun _ _ _ hrow =>
    enqueueCommand_kept hrow

/-- The row `enqueue_command` adds. -/
def queuedRow (payload : EnqueueRequest Address) (clock : Clock) : Command Address :=
  { type := payload.commandType
    status := .queued
    machineId := payload.machineId
    address := payload.address
    prompt := payload.prompt
    requestedBy := payload.requestedBy
    workerId := none
    result := none
    error := none
    createdAt := clock 0
    updatedAt := clock 1
    startedAt := none
    completedAt := none }

theorem length_not_deleted (table : CommandTable) :
    table.queue.commands.length ∉ table.deleted := by
  intro hdeleted
  obtain ⟨row, hrow, _⟩ := table.settled _ hdeleted
  have hlt := (List.getElem?_eq_some_iff.mp hrow).1
  omega

theorem get_enqueueCommand {render : Json → String} {table : CommandTable}
    {payload : EnqueueRequest Address} {id : Id} {row : Command Address} :
    (table.enqueueCommand render payload clock).get id = some row ↔
      table.get id = some row ∨
        id = table.queue.commands.length ∧ row = queuedRow payload clock := by
  simp only [CommandTable.get_eq_some, CommandTable.enqueueCommand, CommandTable.write,
    RemoteCodex.enqueueCommand, enqueue]
  constructor
  · rintro ⟨hkept, hrow⟩
    rcases getElem?_concat_eq_some hrow with hold | ⟨hid, hnew⟩
    · exact Or.inl ⟨hkept, hold⟩
    · exact Or.inr ⟨hid, hnew⟩
  · rintro (⟨hkept, hold⟩ | ⟨rfl, rfl⟩)
    · refine ⟨hkept, ?_⟩
      rw [List.getElem?_append_left (List.getElem?_eq_some_iff.mp hold).1]
      exact hold
    · exact ⟨length_not_deleted table, List.getElem?_concat_length⟩

theorem claimNextCommand_kept {render : Json → String} {table : CommandTable} {machineId : String}
    {id : Id} {row : Command Address} (hid : id ∈ table.deleted)
    (hrow : table.queue.commands[id]? = some row) :
    (claimNextCommand render table.queue machineId workerId clock).1.commands[id]? =
      some row := by
  unfold claimNextCommand claimNext
  split
  · exact hrow
  · rename_i found commandId hnext
    obtain ⟨hfound, hkeep⟩ := firstBy_selectWhere hnext
    have hqueued := (of_decide_eq_true hkeep).2
    have hne : commandId ≠ id := by
      intro hsame
      subst hsame
      obtain ⟨settled, hsettled, hstatus⟩ := table.settled commandId hid
      rw [hfound] at hsettled
      rw [← Option.some.inj hsettled, hqueued] at hstatus
      cases hstatus
    rw [getElem?_update_of_ne hne]
    exact hrow

def CommandTable.claimNextCommand (render : Json → String) (table : CommandTable)
    (machineId workerId : String) (clock : Clock) :
    CommandTable × Option (Command Address × Id) :=
  let claimed := RemoteCodex.claimNextCommand render table.queue machineId workerId clock
  (table.write claimed.1 fun _ hid _ hrow => claimNextCommand_kept hid hrow, claimed.2)

/-- The running row `claim_next_command` writes. -/
def claimedRow (row : Command Address) (workerId : String) (now : Time) : Command Address :=
  { row with
    status := .running
    workerId := some (compactText workerId "unknown-worker")
    startedAt := some now
    updatedAt := now }

theorem claimNextCommand_of_none (render : Json → String) {table : CommandTable}
    {machineId : String} (workerId : String) (clock : Clock)
    (hnext : nextQueued table.queue machineId = none) :
    (table.claimNextCommand render machineId workerId clock).2 = none ∧
      (table.claimNextCommand render machineId workerId clock).1.queue = table.queue := by
  simp [CommandTable.claimNextCommand, CommandTable.write, RemoteCodex.claimNextCommand,
    RemoteCommand.claimNext, hnext]

theorem claimNextCommand_of_some (render : Json → String) {table : CommandTable}
    {machineId : String} (workerId : String) (clock : Clock) {row : Command Address}
    (hnext : nextQueued table.queue machineId = some (row, commandId)) :
    table.get commandId = some row ∧ row.status = .queued ∧
      (table.claimNextCommand render machineId workerId clock).2 =
        some (claimedRow row workerId (clock 0), commandId) ∧
      (table.claimNextCommand render machineId workerId clock).1.deleted = table.deleted ∧
      (table.claimNextCommand render machineId workerId clock).1.queue.commands =
        update table.queue.commands commandId (claimedRow row workerId (clock 0)) := by
  obtain ⟨hrow, hkeep⟩ := firstBy_selectWhere hnext
  have hqueued := (of_decide_eq_true hkeep).2
  have hget := CommandTable.get_of_active hrow (active_iff.2 (Or.inl hqueued))
  refine ⟨hget, hqueued, ?_⟩
  simp [CommandTable.claimNextCommand, CommandTable.write, RemoteCodex.claimNextCommand,
    RemoteCommand.claimNext, hnext, claimedRow, workerName, behavior]

def CommandTable.settle (table : CommandTable) (commandId : Id)
    (written : Except CommandError (Queue Address))
    (hkept : ∀ queue, written = .ok queue → ∀ id row, id ≠ commandId →
      table.queue.commands[id]? = some row → queue.commands[id]? = some row) :
    Except CommandError CommandTable :=
  if hdeleted : commandId ∈ table.deleted then .error (.unknownCommand commandId)
  else match written, hkept with
    | .error raised, _ => .error raised
    | .ok queue, hkept => .ok <| table.write queue fun id hid row hrow =>
        hkept queue rfl id row (fun hsame => hdeleted (hsame ▸ hid)) hrow

/-- The completed row `complete_command` writes. -/
def completedRow (render : Json → String) (row : Command Address) (workerId : String)
    (result : Json) (now : Time) : Command Address :=
  { row with
    status := .completed
    workerId := some (compactText workerId (row.workerId.getD ""))
    result := some (orElse result (.obj []))
    completedAt := some now
    updatedAt := now
    address := readdress render result row.address }

/-- The failed row `fail_command` writes. -/
def failedRow (row : Command Address) (workerId : String) (error : Json) (now : Time) :
    Command Address :=
  { row with
    status := .failed
    workerId := some (compactText workerId (row.workerId.getD ""))
    error := some (orElse error (.obj [("message", .str "Unknown error")]))
    completedAt := some now
    updatedAt := now }

theorem completeCommand_eq_ok {render : Json → String} {after : Queue Address} {result : Json} :
    completeCommand render queue commandId workerId result clock = .ok after ↔
      ∃ row, queue.commands[commandId]? = some row ∧ after =
        { commands := update queue.commands commandId
            (completedRow render row workerId result (clock 0))
          tasks := mirrorCommandTransition queue.tasks commandId
            (completedRow render row workerId result (clock 0)) (.completed result) (clock 1) } := by
  simp only [completeCommand, complete, bind_eq_ok, orRaise_eq_ok, pure_eq_ok]
  constructor
  · rintro ⟨row, hrow, rfl⟩
    exact ⟨row, hrow, rfl⟩
  · rintro ⟨row, hrow, rfl⟩
    exact ⟨row, hrow, rfl⟩

theorem failCommand_eq_ok {render : Json → String} {after : Queue Address} {error : Json} :
    failCommand render queue commandId workerId error clock = .ok after ↔
      ∃ row, queue.commands[commandId]? = some row ∧ after =
        { commands := update queue.commands commandId (failedRow row workerId error (clock 0))
          tasks := mirrorCommandTransition queue.tasks commandId
            (failedRow row workerId error (clock 0)) (.failed error) (clock 1) } := by
  simp only [failCommand, fail, bind_eq_ok, orRaise_eq_ok, pure_eq_ok]
  constructor
  · rintro ⟨row, hrow, rfl⟩
    exact ⟨row, hrow, rfl⟩
  · rintro ⟨row, hrow, rfl⟩
    exact ⟨row, hrow, rfl⟩

def CommandTable.completeCommand (render : Json → String) (table : CommandTable)
    (commandId : Id) (workerId : String) (result : Json) (clock : Clock) :
    Except CommandError CommandTable :=
  table.settle commandId
    (RemoteCodex.completeCommand render table.queue commandId workerId result clock) <| by
    intro queue hqueue id row hne hrow
    obtain ⟨found, _, rfl⟩ := completeCommand_eq_ok.1 hqueue
    rw [getElem?_update_of_ne (Ne.symm hne)]
    exact hrow

def CommandTable.failCommand (render : Json → String) (table : CommandTable)
    (commandId : Id) (workerId : String) (error : Json) (clock : Clock) :
    Except CommandError CommandTable :=
  table.settle commandId
    (RemoteCodex.failCommand render table.queue commandId workerId error clock) <| by
    intro queue hqueue id row hne hrow
    obtain ⟨found, _, rfl⟩ := failCommand_eq_ok.1 hqueue
    rw [getElem?_update_of_ne (Ne.symm hne)]
    exact hrow

theorem CommandTable.settle_eq_ok {table after : CommandTable}
    {written : Except CommandError (Queue Address)}
    {hkept : ∀ queue, written = .ok queue → ∀ id row, id ≠ commandId →
      table.queue.commands[id]? = some row → queue.commands[id]? = some row} :
    table.settle commandId written hkept = .ok after ↔
      commandId ∉ table.deleted ∧ written = .ok after.queue ∧ after.deleted = table.deleted := by
  unfold CommandTable.settle
  split
  · rename_i hdeleted
    constructor
    · intro hok
      cases hok
    · intro hall
      exact absurd hdeleted hall.1
  · rename_i hlive
    cases written with
    | error =>
        constructor
        · intro hok
          cases hok
        · intro hall
          cases hall.2.1
    | ok =>
        obtain ⟨afterQueue, afterDeleted, afterSettled⟩ := after
        constructor
        · intro hok
          cases hok
          exact ⟨hlive, rfl, rfl⟩
        · rintro ⟨_, hqueue, hdeleted⟩
          cases hqueue
          cases hdeleted
          rfl

theorem CommandTable.settle_of_ok {table : CommandTable}
    {written : Except CommandError (Queue Address)}
    (hkept : ∀ queue, written = .ok queue → ∀ id row, id ≠ commandId →
      table.queue.commands[id]? = some row → queue.commands[id]? = some row)
    (hlive : commandId ∉ table.deleted) (hwritten : written = .ok queue) :
    ∃ after, table.settle commandId written hkept = .ok after ∧ after.queue = queue ∧
      after.deleted = table.deleted := by
  subst hwritten
  rw [CommandTable.settle, dif_neg hlive]
  exact ⟨_, rfl, rfl, rfl⟩

theorem CommandTable.completeCommand_of_get (render : Json → String) {table : CommandTable}
    {row : Command Address} (hget : table.get commandId = some row) (workerId : String)
    (result : Json) (clock : Clock) :
    ∃ after, table.completeCommand render commandId workerId result clock = .ok after ∧
      after.deleted = table.deleted ∧
      after.queue.commands = update table.queue.commands commandId
        (completedRow render row workerId result (clock 0)) := by
  obtain ⟨hlive, hrow⟩ := CommandTable.get_eq_some.1 hget
  have hwritten : RemoteCodex.completeCommand render table.queue commandId workerId result clock =
      .ok _ := completeCommand_eq_ok.2 ⟨row, hrow, rfl⟩
  have hsettled : ∃ after,
      table.completeCommand render commandId workerId result clock = .ok after ∧
        after.queue = _ ∧ after.deleted = table.deleted :=
    CommandTable.settle_of_ok _ hlive hwritten
  obtain ⟨after, hok, hqueue, hdeleted⟩ := hsettled
  exact ⟨after, hok, hdeleted, by rw [hqueue]⟩

theorem CommandTable.failCommand_of_get (render : Json → String) {table : CommandTable}
    {row : Command Address} (hget : table.get commandId = some row) (workerId : String)
    (error : Json) (clock : Clock) :
    ∃ after, table.failCommand render commandId workerId error clock = .ok after ∧
      after.deleted = table.deleted ∧
      after.queue.commands = update table.queue.commands commandId
        (failedRow row workerId error (clock 0)) := by
  obtain ⟨hlive, hrow⟩ := CommandTable.get_eq_some.1 hget
  have hwritten : RemoteCodex.failCommand render table.queue commandId workerId error clock =
      .ok _ := failCommand_eq_ok.2 ⟨row, hrow, rfl⟩
  have hsettled : ∃ after,
      table.failCommand render commandId workerId error clock = .ok after ∧
        after.queue = _ ∧ after.deleted = table.deleted :=
    CommandTable.settle_of_ok _ hlive hwritten
  obtain ⟨after, hok, hqueue, hdeleted⟩ := hsettled
  exact ⟨after, hok, hdeleted, by rw [hqueue]⟩

theorem CommandTable.get_of_update {table after : CommandTable} {row written : Command Address}
    (hget : table.get commandId = some row) (hdeleted : after.deleted = table.deleted)
    (hcommands : after.queue.commands = update table.queue.commands commandId written) :
    after.get commandId = some written := by
  obtain ⟨hlive, hrow⟩ := CommandTable.get_eq_some.1 hget
  rw [CommandTable.get_eq_some, hdeleted, hcommands]
  exact ⟨hlive, getElem?_update_self hrow⟩

end OpsCure.RemoteCodex
