/-
The cleanup of stale browser tasks (`remote_codex/service.py`).  Whoever lists or reads the tasks
of a thread settles those whose command has failed, has been carried out or has stopped.
-/
import OpsCure.RemoteCodexService

namespace OpsCure.RemoteCodex

open Fallible Table RemoteCommand

/-- Why a task is settled, with the command that decides it. -/
inductive Reason where
  | missingCommand
  | commandFailed (command : Command Address × Id)
  | turnCommandCompleted (command : Command Address × Id)
  | expiredCommand (command : Command Address × Id)

namespace Reason

def finalStatus : Reason → RemoteTask.TaskStatus
  | turnCommandCompleted _ => .completed
  | _ => .failed

def summary : Reason → String
  | missingCommand =>
      "Stale browser task cleanup: the task lost its command tracking before completion."
  | commandFailed _ => "Remote command failed before the browser task could finish."
  | turnCommandCompleted _ => "Turn request accepted by the local Codex runtime."
  | expiredCommand _ =>
      "Stale browser task cleanup: the queued command stopped progressing after its lease " ++
        "expired."

end Reason

/-- A visit to the tasks of a thread, with the status that its public row shows. -/
structure Visit where
  render : Json → String
  service : Service
  machineId : String
  threadId : String
  threadStatus : Json
  now : Time
  clock : Clock

/-- `STALE_BROWSER_TASK_GRACE_SECONDS`. -/
def staleBrowserTaskGraceSeconds : Int := 1800

/-- The lease of the task has expired, and nothing has been heard of it for the grace. -/
def isOverdue (now : Time) (row : RemoteTask.Task) : Bool :=
  (∃ current ∈ RemoteTask.currentAssignment row, current.1.leaseExpiresAt ≤ now) ∧
    seconds staleBrowserTaskGraceSeconds ≤ max 0 (now - row.updatedAt)

/-- A task of the browser that is being worked on. -/
def isMoving (row : RemoteTask.Task) : Bool :=
  row.originSurface = "browser" ∧ row.status ∈ [.claimed, .executing, .verifying]

/-- What `_maybe_cleanup_stale_task` settles a task for. -/
def reasonFor (now : Time) (row : RemoteTask.Task) (command : Option (Command Address × Id)) :
    Option Reason :=
  if ¬ isMoving row then none
  else match command with
    | none => if isOverdue now row then some .missingCommand else none
    | some command =>
        if command.1.status = .failed then some (.commandFailed command)
        else if command.1.type = turnStart ∧ command.1.status = .completed then
          some (.turnCommandCompleted command)
        else if isOverdue now row ∧ active command.1 then some (.expiredCommand command)
        else none

def carries (task : Id) (command : Command Address × Id) : Bool :=
  compactText (command.1.address.taskId.getD "") "" = taskName task

namespace Visit

variable (visit : Visit)

/-- The commands of the thread that the cleanup looks at; it asks for 200 of them. -/
def window : CommandTable × List (Command Address × Id) :=
  listThreadCommands visit.render visit.service.tasks visit.service.commands visit.machineId
    visit.threadId 200 true visit.now

def latestTurnId : CommandTable × Option String :=
  getLatestTurnId visit.render visit.service.tasks visit.window.1 visit.machineId visit.threadId
    visit.now

/-- What the evidence says beside the summary. -/
def payload : Reason → List (String × Json)
  | .missingCommand => [("reason", .str "missing_command")]
  | .commandFailed command =>
      [("reason", .str "command_failed"), ("commandId", .str (toString command.2))]
  | .turnCommandCompleted command =>
      [("reason", .str "turn_command_completed"), ("commandId", .str (toString command.2)),
        ("turnId", column (commandTurnIdFromRow visit.render command.1)),
        ("latestTurnId", column visit.latestTurnId.2),
        ("turnStatus", .str (commandTurnStatusFromResult visit.render command.1.result)),
        ("threadStatus", visit.threadStatus)]
  | .expiredCommand command =>
      [("reason", .str "expired_command"), ("commandId", .str (toString command.2)),
        ("commandStatus", .str command.1.status.text)]

/-- `_maybe_cleanup_stale_task`: the task as it was read, and the command that was found. -/
def maybeCleanup (db : RemoteTask.Db) (task : RemoteTask.Task × Id)
    (command : Option (Command Address × Id)) : Except RemoteTask.TaskError RemoteTask.Db :=
  match reasonFor visit.now task.1 command with
  | none => .ok db
  | some reason => RemoteTask.settleStaleTask db task.2 reason.finalStatus reason.summary
      (visit.payload reason) visit.clock

/-- `list_tasks`: the tasks of the thread, the latest first. -/
def listTasks (statuses : List RemoteTask.TaskStatus) (limit : Int) :
    List (RemoteTask.Task × Id) :=
  (orderBy (fun left right => right.updatedAt < left.updatedAt ∨
      (left.updatedAt = right.updatedAt ∧ right.createdAt ≤ left.createdAt))
    (selectWhere (fun row => row.machineId = visit.machineId ∧ row.threadId = visit.threadId ∧
      (statuses = [] ∨ row.status ∈ statuses)) visit.service.tasks.tasks)).take
    (max 1 (min limit 200)).toNat

/-- `_cleanup_stale_thread_tasks`; of several commands of a task the map keeps the last. -/
def cleanupStaleThreadTasks (statuses : List RemoteTask.TaskStatus) (limit : Int) :
    Except RemoteTask.TaskError RemoteTask.Db :=
  (visit.listTasks statuses limit).foldlM
    (fun db task => visit.maybeCleanup db task (visit.window.2.reverse.find? (carries task.2)))
    visit.service.tasks

/-- `get_task`, on a task of the thread: only a task with a command is looked at. -/
def getTask (task : RemoteTask.Task × Id) : Except RemoteTask.TaskError RemoteTask.Db :=
  match visit.window.2.find? (carries task.2) with
  | none => .ok visit.service.tasks
  | some command => visit.maybeCleanup visit.service.tasks task (some command)

/-! ## What a task may be settled for -/

/-- Some command of the thread or another carries the task's id, and is so. -/
def OwnCommand (task : Id) (so : Command Address → Prop) : Prop :=
  ∃ row id, visit.service.commands.get id = some row ∧ carries task (row, id) ∧ so row

/-- The reason is one that the task's own command gives. -/
def Warranted (row : RemoteTask.Task) (task : Id) : Reason → Prop
  | .missingCommand => ¬visit.OwnCommand task fun _ => True
  | .commandFailed _ => visit.OwnCommand task fun command => command.status = .failed
  | .turnCommandCompleted _ => visit.OwnCommand task fun command =>
      command.type = turnStart ∧ command.status = .completed
  | .expiredCommand _ => visit.OwnCommand task (active · = true) ∧
      ∃ current ∈ RemoteTask.currentAssignment row, current.1.leaseExpiresAt ≤ visit.now

def settledFor (row : RemoteTask.Task) (reason : Reason) : RemoteTask.Task :=
  RemoteTask.settledRow row reason.finalStatus reason.summary (visit.payload reason)
    (visit.clock 0) (visit.clock 3)

/-- Each task is left as it was, or is one of the browser's and settled for a reason that its own
command gives. -/
def DecidesOnOwn (after : RemoteTask.Db) : Prop :=
  ∀ task row, visit.service.tasks.tasks[task]? = some row → after.tasks[task]? = some row ∨
    row.originSurface = "browser" ∧ ∃ reason, visit.Warranted row task reason ∧
      after.tasks[task]? = some (visit.settledFor row reason)

structure Sound (statuses : List RemoteTask.TaskStatus) (limit : Int) : Prop where
  listing : ∃ after, visit.cleanupStaleThreadTasks statuses limit = .ok after ∧
    visit.DecidesOnOwn after
  reading : ∀ task row, visit.service.tasks.tasks[task]? = some row →
    row.machineId = visit.machineId → row.threadId = visit.threadId → ∃ after, visit.getTask (row, task) = .ok after ∧ visit.DecidesOnOwn after

/-- An overdue task that some command carries is carried by one of the thirty latest commands of
the thread, which are all that is looked at. -/
def Tracked (statuses : List RemoteTask.TaskStatus) (limit : Int) : Prop :=
  ∀ task ∈ visit.listTasks statuses limit, isMoving task.1 → isOverdue visit.now task.1 →
    visit.OwnCommand task.2 (fun _ => True) →
      ∃ command ∈ (threadRows (visit.service.commands.prune visit.render visit.service.tasks
        visit.machineId visit.threadId visit.now) visit.machineId visit.threadId).take 30,
        carries task.2 command

section
variable {visit : Visit} {db : RemoteTask.Db} {row : RemoteTask.Task} {task : Id}
  {command : Option (Command Address × Id)} {reason : Reason}
  {statuses : List RemoteTask.TaskStatus} {limit : Int}

def outcome (visit : Visit) (row : RemoteTask.Task) (command : Option (Command Address × Id)) :
    RemoteTask.Task :=
  match reasonFor visit.now row command with
  | none => row
  | some reason => visit.settledFor row reason

theorem isMoving_of_reason (hreason : reasonFor visit.now row command = some reason) :
    isMoving row = true := by
  unfold reasonFor at hreason
  split at hreason
  next => cases hreason
  next hmoving => simpa using hmoving

theorem maybeCleanup_spec (hrow : db.tasks[task]? = some row) :
    ∃ after, visit.maybeCleanup db (row, task) command = .ok after ∧
      after.tasks = update db.tasks task (visit.outcome row command) := by
  unfold maybeCleanup outcome
  cases hreason : reasonFor visit.now row command with
  | none => exact ⟨db, rfl, (update_self hrow).symm⟩
  | some reason =>
      have hmoving := isMoving_of_reason hreason
      have hopen : RemoteTask.isSettled row.status = false := by
        have hstatus := (of_decide_eq_true hmoving).2
        simp only [List.mem_cons, List.not_mem_nil, or_false] at hstatus
        rcases hstatus with hstatus | hstatus | hstatus <;> rw [hstatus] <;> rfl
      have hfinal : RemoteTask.isSettled reason.finalStatus = true := by cases reason <;> rfl
      obtain ⟨leases, hleases⟩ := RemoteTask.releaseStaleLease_isOk db.leases task
        (RemoteTask.currentAssignment row) (visit.clock 1) (visit.clock 2)
      refine ⟨{ db with leases := leases }.setTask task (visit.settledFor row reason), ?_, rfl⟩
      simp [RemoteTask.settleStaleTask, RemoteTask.requireTask, hrow, hopen, hfinal, hleases,
        settledFor, bind_eq_ok]

theorem foldlM_maybeCleanup {items : List (RemoteTask.Task × Id)}
    (find : Id → Option (Command Address × Id))
    (hunique : items.Pairwise fun left right => left.2 ≠ right.2)
    (hrows : ∀ item ∈ items, db.tasks[item.2]? = some item.1) :
    ∃ after, items.foldlM (fun db task => visit.maybeCleanup db task (find task.2)) db =
        .ok after ∧
      (∀ item ∈ items, after.tasks[item.2]? = some (visit.outcome item.1 (find item.2))) ∧
      ∀ id, (∀ item ∈ items, item.2 ≠ id) → after.tasks[id]? = db.tasks[id]? := by
  induction items generalizing db with
  | nil => exact ⟨db, rfl, by simp, fun _ _ => rfl⟩
  | cons item rest ih =>
      rw [List.pairwise_cons] at hunique
      have hitem := hrows item List.mem_cons_self
      obtain ⟨between, hok, htasks⟩ :=
        @maybeCleanup_spec visit db item.1 item.2 (find item.2) hitem
      have hothers : ∀ id, item.2 ≠ id → between.tasks[id]? = db.tasks[id]? := by
        intro id hne
        rw [htasks, getElem?_update_of_ne hne]
      obtain ⟨after, hfold, hsettled, hkept⟩ := @ih between hunique.2 (by
        intro other hother
        rw [hothers _ (hunique.1 other hother)]
        exact hrows other (List.mem_cons_of_mem _ hother))
      refine ⟨after, ?_, ?_, ?_⟩
      · rw [List.foldlM_cons, bind_eq_ok]
        exact ⟨between, hok, hfold⟩
      · rw [List.forall_mem_cons]
        refine ⟨?_, hsettled⟩
        rw [hkept item.2 (fun other hother => Ne.symm (hunique.1 other hother)), htasks,
          getElem?_update_self hitem]
      · intro id hid
        rw [List.forall_mem_cons] at hid
        rw [hkept id hid.2, hothers id hid.1]

theorem mem_window {found : Command Address × Id} (hfound : found ∈ visit.window.2) :
    visit.service.commands.get found.2 = some found.1 ∧
      found ∈ (threadRows (visit.service.commands.prune visit.render visit.service.tasks
        visit.machineId visit.threadId visit.now) visit.machineId visit.threadId).take 30 := by
  have hrow := (mem_threadRows.1 (List.mem_of_mem_take hfound)).1
  obtain ⟨hkept, hget⟩ := CommandTable.get_eq_some.1 hrow
  refine ⟨CommandTable.get_eq_some.2 ⟨?_, hget⟩, hfound⟩
  intro hdeleted
  exact hkept (List.mem_append_left _ hdeleted)

theorem warranted_of_reason (hreason : reasonFor visit.now row command = some reason)
    (hfound : ∀ found ∈ command,
      visit.service.commands.get found.2 = some found.1 ∧ carries task found)
    (hmissing : command = none → isOverdue visit.now row →
      ¬visit.OwnCommand task fun _ => True) :
    visit.Warranted row task reason := by
  unfold reasonFor at hreason
  rw [if_neg (by simp [isMoving_of_reason hreason])] at hreason
  cases command with
  | none =>
      obtain ⟨hoverdue, hsame⟩ := Option.ite_none_right_eq_some.mp hreason
      rw [← Option.some.inj hsame]
      exact hmissing rfl hoverdue
  | some found =>
      obtain ⟨hget, hcarries⟩ := hfound found rfl
      dsimp only at hreason
      split at hreason
      next hfailed =>
        rw [← Option.some.inj hreason]
        exact ⟨found.1, found.2, hget, hcarries, hfailed⟩
      next =>
        split at hreason
        next hcompleted =>
          rw [← Option.some.inj hreason]
          exact ⟨found.1, found.2, hget, hcarries, hcompleted⟩
        next =>
          obtain ⟨hboth, hsame⟩ := Option.ite_none_right_eq_some.mp hreason
          rw [← Option.some.inj hsame]
          exact ⟨⟨found.1, found.2, hget, hcarries, hboth.2⟩, (of_decide_eq_true hboth.1).1⟩

theorem outcome_decides (hfound : ∀ found ∈ command,
      visit.service.commands.get found.2 = some found.1 ∧ carries task found)
    (hmissing : command = none → isMoving row → isOverdue visit.now row →
      ¬visit.OwnCommand task fun _ => True) :
    visit.outcome row command = row ∨ row.originSurface = "browser" ∧
      ∃ reason, visit.Warranted row task reason ∧
        visit.outcome row command = visit.settledFor row reason := by
  unfold outcome
  cases hreason : reasonFor visit.now row command with
  | none => exact Or.inl rfl
  | some reason =>
      have hmoving := isMoving_of_reason hreason
      have hwarranted := warranted_of_reason hreason hfound
        (fun hnone hoverdue => hmissing hnone hmoving hoverdue)
      exact Or.inr ⟨(of_decide_eq_true hmoving).1, reason, hwarranted, rfl⟩

theorem row_of_listed {item : RemoteTask.Task × Id}
    (hitem : item ∈ visit.listTasks statuses limit) :
    visit.service.tasks.tasks[item.2]? = some item.1 :=
  (mem_selectWhere.1 (mem_orderBy.1 (List.mem_of_mem_take hitem))).1

theorem cleanup_spec (visit : Visit) (statuses : List RemoteTask.TaskStatus) (limit : Int) :
    ∃ after, visit.cleanupStaleThreadTasks statuses limit = .ok after ∧
      (∀ item ∈ visit.listTasks statuses limit, after.tasks[item.2]? =
        some (visit.outcome item.1 (visit.window.2.reverse.find? (carries item.2)))) ∧
      ∀ id, (∀ item ∈ visit.listTasks statuses limit, item.2 ≠ id) →
        after.tasks[id]? = visit.service.tasks.tasks[id]? :=
  foldlM_maybeCleanup (fun id => visit.window.2.reverse.find? (carries id))
    ((pairwise_orderBy (pairwise_selectWhere _ _)).sublist (List.take_sublist _ _))
    (fun _ hitem => row_of_listed hitem)

theorem eq_missing_of_settledFor
    (hsame : visit.settledFor row .missingCommand = visit.settledFor row reason) :
    reason = .missingCommand := by
  have hevidence := List.append_cancel_left (congrArg RemoteTask.Task.evidenceItems hsame)
  have hsummary : Reason.missingCommand.summary = reason.summary :=
    congrArg RemoteTask.Evidence.summary (List.cons.inj hevidence).1
  cases reason with
  | missingCommand => rfl
  | commandFailed command | turnCommandCompleted command | expiredCommand command =>
      unfold Reason.summary at hsummary
      dsimp only at hsummary
      exact absurd hsummary (by decide +kernel)

theorem tracked_of_decides {after : RemoteTask.Db}
    (hok : visit.cleanupStaleThreadTasks statuses limit = .ok after)
    (hdecides : visit.DecidesOnOwn after) : visit.Tracked statuses limit := by
  intro item hitem hmoving hoverdue hown
  by_contra hlost
  obtain ⟨after', hok', hsettled, -⟩ := visit.cleanup_spec statuses limit
  obtain rfl : after = after' := Except.ok.inj (hok.symm.trans hok')
  have hnone : visit.window.2.reverse.find? (carries item.2) = none := by
    rw [List.find?_eq_none]
    intro command hcommand hcarries
    exact hlost ⟨command, (mem_window (List.mem_reverse.mp hcommand)).2, hcarries⟩
  have hafter := hsettled item hitem
  rw [hnone, outcome, reasonFor, if_neg (by simp [hmoving])] at hafter
  simp only [hoverdue, if_true] at hafter
  rcases hdecides item.2 item.1 (row_of_listed hitem) with hkept | ⟨_, reason, hwarranted, hsame⟩
  · rw [hafter] at hkept
    have hstatus : RemoteTask.TaskStatus.failed = item.1.status :=
      congrArg RemoteTask.Task.status (Option.some.inj hkept)
    have hmember := (of_decide_eq_true hmoving).2
    rw [← hstatus] at hmember
    simp at hmember
  · rw [hafter] at hsame
    rw [eq_missing_of_settledFor (Option.some.inj hsame)] at hwarranted
    exact hwarranted hown

end

/-- The cleanup decides on the tasks' own commands exactly where each overdue task with a command
has one among the thirty latest of the thread. -/
theorem sound_iff (visit : Visit) (statuses : List RemoteTask.TaskStatus) (limit : Int) :
    visit.Sound statuses limit ↔ visit.Tracked statuses limit := by
  have hfound {commands : List (Command Address × Id)} (task : Id)
      (hwindow : ∀ found ∈ commands, found ∈ visit.window.2) :
      ∀ found ∈ commands.find? (carries task),
        visit.service.commands.get found.2 = some found.1 ∧ carries task found := by
    intro found hsome
    exact ⟨(mem_window (hwindow found (List.mem_of_find?_eq_some hsome))).1,
      List.find?_some hsome⟩
  constructor
  · intro hsound
    obtain ⟨after, hok, hdecides⟩ := hsound.listing
    exact tracked_of_decides hok hdecides
  · intro htracked
    refine ⟨?_, ?_⟩
    · obtain ⟨after, hok, hsettled, hkept⟩ := visit.cleanup_spec statuses limit
      refine ⟨after, hok, ?_⟩
      intro task row hrow
      by_cases hlisted : (row, task) ∈ visit.listTasks statuses limit
      · have hmissing : visit.window.2.reverse.find? (carries task) = none → isMoving row →
            isOverdue visit.now row → ¬visit.OwnCommand task fun _ => True := by
          intro hnone hmoving hoverdue hown
          obtain ⟨command, hcommand, hcarries⟩ := htracked _ hlisted hmoving hoverdue hown
          exact List.find?_eq_none.mp hnone command (List.mem_reverse.mpr hcommand) hcarries
        rw [hsettled _ hlisted]
        rcases outcome_decides (hfound task fun _ => List.mem_reverse.mp) hmissing with
          hsame | ⟨hbrowser, reason, hwarranted, hsame⟩
        · exact Or.inl (congrArg some hsame)
        · exact Or.inr ⟨hbrowser, reason, hwarranted, congrArg some hsame⟩
      · refine Or.inl ((hkept task ?_).trans hrow)
        intro item hitem hid
        have hitem' := row_of_listed hitem
        rw [hid, hrow] at hitem'
        have hsame : item = (row, task) := Prod.ext (Option.some.inj hitem').symm hid
        exact hlisted (hsame ▸ hitem)
    · intro task row hrow _ _
      unfold getTask
      cases hcommand : visit.window.2.find? (carries task) with
      | none => exact ⟨_, rfl, fun _ _ hother => Or.inl hother⟩
      | some command =>
          obtain ⟨after, hok, htasks⟩ := @maybeCleanup_spec visit _ row task (some command) hrow
          refine ⟨after, hok, ?_⟩
          intro other found hother
          rw [htasks]
          by_cases hsame : task = other
          · rw [← hsame] at hother ⊢
            obtain rfl : row = found := Option.some.inj (hrow.symm.trans hother)
            rw [getElem?_update_self hrow]
            have hown := hfound task (fun _ => id)
            rw [hcommand] at hown
            rcases outcome_decides hown (by intro hnone; cases hnone) with
              hkept | ⟨hbrowser, reason, hwarranted, hsettled⟩
            · exact Or.inl (congrArg some hkept)
            · exact Or.inr ⟨hbrowser, reason, hwarranted, congrArg some hsettled⟩
          · rw [getElem?_update_of_ne hsame]
            exact Or.inl hother

end Visit

/-! ## A command behind thirty later ones -/

def otherCommand : Command Address where
  type := turnStart
  status := .queued
  machineId := "m"
  address := ⟨"t", none, none⟩
  prompt := some "go"
  requestedBy := .null
  workerId := none
  result := none
  error := none
  createdAt := 1
  updatedAt := 1
  startedAt := none
  completedAt := none

def ownCommand : Command Address :=
  { otherCommand with address := ⟨"t", some "0", none⟩, createdAt := 0, updatedAt := 0 }

def overdueTask : RemoteTask.Task where
  machineId := "m"
  threadId := "t"
  originSurface := "browser"
  originMessageId := none
  objective := "go"
  successCriteria := .null
  status := .claimed
  priority := "normal"
  ownerActorId := some "m"
  createdBy := "browser"
  createdAt := 0
  updatedAt := 0
  assignments := [⟨"m", "lease", 0, .claimed, 0, none⟩]
  heartbeats := []
  evidenceItems := []
  approvals := []
  notes := []

def crowdedVisit : Visit where
  render := fun _ => ""
  service := ⟨⟨⟨ownCommand :: List.replicate 30 otherCommand, .empty⟩, [],
    fun _ hid => absurd hid List.not_mem_nil⟩, ⟨[overdueTask], []⟩⟩
  machineId := "m"
  threadId := "t"
  threadStatus := .null
  now := seconds 1800
  clock := fun _ => seconds 1800

theorem crowded_out_command_is_missed : ¬crowdedVisit.Sound [] 8 := by
  intro hsound
  obtain ⟨after, hok, hdecides⟩ := hsound.listing
  have hlisted : (overdueTask, 0) ∈ crowdedVisit.listTasks [] 8 := List.mem_singleton.mpr rfl
  have hown : crowdedVisit.OwnCommand 0 fun _ => True := ⟨ownCommand, 0, rfl, by decide, trivial⟩
  obtain ⟨command, hcommand, hcarries⟩ := Visit.tracked_of_decides hok hdecides _ hlisted
    (by decide) (by decide) hown
  have hall : ∀ command ∈ (threadRows (crowdedVisit.service.commands.prune crowdedVisit.render
      crowdedVisit.service.tasks "m" "t" crowdedVisit.now) "m" "t").take 30,
      carries 0 command = false := by decide +kernel
  have hnone := hall command hcommand
  rw [hcarries] at hnone
  cases hnone

end OpsCure.RemoteCodex
