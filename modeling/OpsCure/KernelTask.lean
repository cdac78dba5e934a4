/-
The kernel task queue (`kernel/tasks.py`): enqueue, claim, heartbeat, complete, fail,
cancel and the sweep of lapsed leases.  Are `completed`, `failed` and `cancelled`
absorbing?  A lease token survives the end of its task, and the token is all that
heartbeat, complete and fail ask for.
-/
import OpsCure.Library.Json
import OpsCure.Library.Run
import OpsCure.Presence

namespace OpsCure.KernelTask

open Fallible Table

inductive TaskStatus where
  | queued
  | claimed
  | executing
  | completed
  | failed
  | cancelled
deriving DecidableEq, Repr

/-- `TASK_TERMINAL_STATUSES`. -/
def isTerminal (status : TaskStatus) : Bool :=
  status ∈ [TaskStatus.completed, .failed, .cancelled]

/-- A row of `kernel_tasks`. -/
structure Task where
  id : String
  spaceId : String
  kind : String
  status : TaskStatus
  priority : Int
  payload : Json
  requestedBy : String
  ownerActorId : Option String
  leaseToken : Option String
  leaseExpiresAt : Option Time
  claimCount : Nat
  result : Option Json
  error : Option Json
  parentTaskId : Option String
  createdAt : Time
  updatedAt : Time
  startedAt : Option Time
  completedAt : Option Time
deriving Repr

/-- The task table; `id` is its primary key. -/
structure Db where
  rows : List Task
  unique_id : (rows.map (·.id)).Nodup

inductive TaskError where
  | spaceIdRequired
  | kindRequired
  | duplicateId (taskId : String)
  | actorIdRequired
  | leaseSecondsNotPositive
  | badHeartbeatStatus
  | unknownTask (taskId : String)
  | leaseMismatch (taskId : String)
deriving DecidableEq, Repr

def TaskError.text : TaskError → String
  | spaceIdRequired => "space_id is required"
  | kindRequired => "kind is required"
  | duplicateId taskId => s!"UNIQUE constraint failed: kernel_tasks.id ({taskId})"
  | actorIdRequired => "actor_id is required"
  | leaseSecondsNotPositive => "lease_seconds must be positive"
  | badHeartbeatStatus => "heartbeat status must be claimed or executing"
  | unknownTask taskId => s!"unknown task: {taskId}"
  | leaseMismatch taskId => s!"lease mismatch on task {taskId}"

namespace Db

def empty : Db := ⟨[], List.nodup_nil⟩

def get (db : Db) (taskId : String) : Option Task :=
  db.rows.find? (·.id = taskId)

/-- Rewrite every row; the ids stay. -/
def change (db : Db) (rewrite : Task → Task) (hid : ∀ row, (rewrite row).id = row.id) : Db where
  rows := db.rows.map rewrite
  unique_id := by
    rw [List.map_map]
    have hsame : (fun row : Task => row.id) ∘ rewrite = fun row => row.id := funext hid
    rw [hsame]
    exact db.unique_id

def modify (db : Db) (taskId : String) (rewrite : Task → Task)
    (hid : ∀ row, (rewrite row).id = row.id) : Db :=
  db.change (fun row => if row.id = taskId then rewrite row else row) fun row => by
    split
    · exact hid row
    · rfl

variable {db : Db} {taskId : String} {row : Task}

theorem get_id (hrow : db.get taskId = some row) : row.id = taskId := by
  have hkey := List.find?_some hrow
  exact of_decide_eq_true hkey

theorem get_change (db : Db) (rewrite : Task → Task) (hid : ∀ row, (rewrite row).id = row.id)
    (taskId : String) : (db.change rewrite hid).get taskId = (db.get taskId).map rewrite := by
  have hsame : (fun row : Task => decide (row.id = taskId)) ∘ rewrite =
      fun row => decide (row.id = taskId) := by
    funext row
    simp [hid]
  rw [get, change, List.find?_map, hsame]
  rfl

theorem get_modify_self {rewrite : Task → Task} (hid : ∀ row, (rewrite row).id = row.id)
    (hrow : db.get taskId = some row) :
    (db.modify taskId rewrite hid).get taskId = some (rewrite row) := by
  rw [modify, get_change, hrow, Option.map_some, if_pos (get_id hrow)]

theorem get_modify_of_ne {other : String} {rewrite : Task → Task}
    (hid : ∀ row, (rewrite row).id = row.id) (hne : other ≠ taskId) :
    (db.modify taskId rewrite hid).get other = db.get other := by
  rw [modify, get_change]
  cases hrow : db.get other with
  | none => rfl
  | some row =>
      have hother : ¬ row.id = taskId := by
        rw [get_id hrow]
        exact hne
      rw [Option.map_some, if_neg hother]

theorem get_of_mem (hrow : row ∈ db.rows) : db.get row.id = some row := by
  cases hfound : db.get row.id with
  | none =>
      have habsent := List.find?_eq_none.mp hfound row hrow
      simp at habsent
  | some found =>
      have hmem : found ∈ db.rows := List.mem_of_find?_eq_some hfound
      rw [List.inj_on_of_nodup_map db.unique_id hmem hrow (get_id hfound)]

end Db

/-! ## The operations -/

structure EnqueueRequest where
  spaceId : String
  kind : String
  payload : List (String × Json)
  priority : Int
  requestedBy : String
  parentTaskId : Option String
  taskId : Option String

/-- `enqueue`; `drawn` is the id a task gets that is given none. -/
def enqueue (db : Db) (request : EnqueueRequest) (drawn : String) (clock : Clock) :
    Except TaskError Db := do
  require (request.spaceId ≠ "") .spaceIdRequired
  require (request.kind ≠ "") .kindRequired
  let taskId := (request.taskId.filter (· ≠ "")).getD drawn
  if hfree : taskId ∉ db.rows.map (·.id) then
    return {
      rows := db.rows ++ [{
        id := taskId
        spaceId := request.spaceId
        kind := request.kind
        status := .queued
        priority := request.priority
        payload := .obj request.payload
        requestedBy := request.requestedBy
        ownerActorId := none
        leaseToken := none
        leaseExpiresAt := none
        claimCount := 0
        result := none
        error := none
        parentTaskId := request.parentTaskId.filter (· ≠ "")
        createdAt := clock 0
        updatedAt := clock 1
        startedAt := none
        completedAt := none }]
      unique_id := by
        rw [List.map_append, List.map_singleton]
        exact List.nodup_append.mpr
          ⟨db.unique_id, List.nodup_singleton _, by
            intro id hid other hother hsame
            rw [hsame, List.mem_singleton.mp hother] at hid
            exact hfree hid⟩ }
  else throw (.duplicateId taskId)

def isLeased (row : Task) : Bool :=
  row.status ∈ [TaskStatus.claimed, .executing] ∧ row.leaseExpiresAt.isSome

def batch (db : Db) (batchSize : Int) : List Task :=
  (db.rows.filter isLeased).take (max 1 batchSize).toNat

def expiredAt (now : Time) (row : Task) : Bool :=
  row.leaseExpiresAt.any (· ≤ now)

/-- `_release_expired_locked`: lapsed leases go back to the queue. -/
def releaseExpired (db : Db) (batchSize : Int) (clock : Clock) : Db :=
  db.change (fun row =>
    if row.id ∈ (batch db batchSize).map (·.id) ∧ expiredAt (clock 0) row then
      { row with
        status := .queued
        ownerActorId := none
        leaseToken := none
        leaseExpiresAt := none
        updatedAt := clock 1 }
    else row) fun row => by split <;> rfl

structure ClaimRequest where
  spaceId : Option String
  kinds : List String
  actorId : String
  leaseSeconds : Int

def isClaimable (request : ClaimRequest) (row : Task) : Bool :=
  row.status = .queued ∧
    (request.spaceId.filter (· ≠ "")).all (row.spaceId = ·) ∧
    (request.kinds.filter (· ≠ "") = [] ∨ row.kind ∈ request.kinds.filter (· ≠ ""))

/-- Highest priority first, then oldest. -/
def claimsBefore (left right : Task) : Bool :=
  right.priority < left.priority ∨
    left.priority = right.priority ∧ left.createdAt ≤ right.createdAt

/-- `claim_next`: sweep, then claim; `drawn` is the lease token. -/
def claimNext (db : Db) (request : ClaimRequest) (drawn : String) (clock : Clock) :
    Except TaskError Db := do
  require (request.actorId ≠ "") .actorIdRequired
  require (0 < request.leaseSeconds) .leaseSecondsNotPositive
  let swept := releaseExpired db 1000 clock
  match firstBy claimsBefore (selectWhere (isClaimable request) swept.rows) with
  | none => return swept
  | some (row, _) =>
      return swept.modify row.id (fun row => { row with
        status := .claimed
        ownerActorId := some request.actorId
        leaseToken := some drawn
        leaseExpiresAt := some (clock 2 + seconds request.leaseSeconds)
        claimCount := row.claimCount + 1
        startedAt := row.startedAt.or (some (clock 2))
        updatedAt := clock 2 }) fun _ => rfl

/-- `_require_owned_row`. -/
def requireOwnedRow (db : Db) (taskId leaseToken : String) : Except TaskError Task := do
  let row ← orRaise (db.get taskId) (.unknownTask taskId)
  require (row.leaseToken = some leaseToken) (.leaseMismatch taskId)
  return row

/-- `heartbeat`. -/
def heartbeat (db : Db) (taskId leaseToken : String) (leaseSeconds : Int)
    (status : TaskStatus) (clock : Clock) : Except TaskError Db := do
  require (status = .claimed ∨ status = .executing) .badHeartbeatStatus
  let row ← requireOwnedRow db taskId leaseToken
  return db.modify row.id (fun row => { row with
    status := status
    leaseExpiresAt := some (clock 0 + seconds leaseSeconds)
    updatedAt := clock 0 }) fun _ => rfl

/-- `complete`. -/
def complete (db : Db) (taskId leaseToken : String) (result : List (String × Json))
    (clock : Clock) : Except TaskError Db := do
  let row ← requireOwnedRow db taskId leaseToken
  return db.modify row.id (fun row => { row with
    status := .completed
    result := some (.obj result)
    completedAt := some (clock 0)
    leaseExpiresAt := none
    updatedAt := clock 0 }) fun _ => rfl

/-- `fail`. -/
def fail (db : Db) (taskId leaseToken : String) (error : List (String × Json))
    (clock : Clock) : Except TaskError Db := do
  let row ← requireOwnedRow db taskId leaseToken
  return db.modify row.id (fun row => { row with
    status := .failed
    error := some (.obj error)
    completedAt := some (clock 0)
    leaseExpiresAt := none
    updatedAt := clock 0 }) fun _ => rfl

/-- `cancel`: nothing happens to a task that is unknown or has ended. -/
def cancel (db : Db) (taskId : String) (reason : Option String) (clock : Clock) : Db :=
  match db.get taskId with
  | none => db
  | some row =>
      if isTerminal row.status then db
      else db.modify row.id (fun row => { row with
        status := .cancelled
        error := some (.obj [("kind", .str "cancelled"),
          ("reason", ((reason.filter (· ≠ "")).map Json.str).getD .null)])
        completedAt := some (clock 0)
        leaseExpiresAt := none
        updatedAt := clock 0 }) fun _ => rfl

/-- One call of the service, with all that its caller and the generators supply. -/
inductive Operation where
  | enqueue (request : EnqueueRequest) (drawn : String)
  | claimNext (request : ClaimRequest) (drawn : String)
  | heartbeat (taskId leaseToken : String) (leaseSeconds : Int) (status : TaskStatus)
  | complete (taskId leaseToken : String) (result : List (String × Json))
  | fail (taskId leaseToken : String) (error : List (String × Json))
  | cancel (taskId : String) (reason : Option String)
  | releaseExpiredLeases (batchSize : Int)

structure Call where
  operation : Operation
  clock : Clock

def perform (db : Db) (call : Call) : Except TaskError Db :=
  match call.operation with
  | .enqueue request drawn => enqueue db request drawn call.clock
  | .claimNext request drawn => claimNext db request drawn call.clock
  | .heartbeat taskId leaseToken leaseSeconds status =>
      heartbeat db taskId leaseToken leaseSeconds status call.clock
  | .complete taskId leaseToken result => complete db taskId leaseToken result call.clock
  | .fail taskId leaseToken error => fail db taskId leaseToken error call.clock
  | .cancel taskId reason => .ok (cancel db taskId reason call.clock)
  | .releaseExpiredLeases batchSize => .ok (releaseExpired db batchSize call.clock)

/-- The table after a call: rolled back when the call raised. -/
def step (db : Db) (call : Call) : Db :=
  committed db (perform db call)

/-! ## How a task ended -/

def outcome (row : Task) : TaskStatus × Option Json × Option Json :=
  (row.status, row.result, row.error)

def Ended (taskId : String) (ending : TaskStatus × Option Json × Option Json) (db : Db) :
    Prop :=
  ∃ row, db.get taskId = some row ∧ isTerminal row.status ∧ outcome row = ending

def Operation.records : Operation → Option (String × String ×
    (TaskStatus × Option Json × Option Json → TaskStatus × Option Json × Option Json))
  | .heartbeat taskId leaseToken _ status =>
      if status = .claimed ∨ status = .executing then
        some (taskId, leaseToken, fun ending => (status, ending.2))
      else none
  | .complete taskId leaseToken result =>
      some (taskId, leaseToken, fun ending => (.completed, some (.obj result), ending.2.2))
  | .fail taskId leaseToken error =>
      some (taskId, leaseToken, fun ending => (.failed, ending.2.1, some (.obj error)))
  | _ => none

/-- A worker comes late: its task has ended, its token is still the task's, and what it
records differs from what is recorded. -/
def Overwrites (db : Db) (call : Call) : Prop :=
  ∃ taskId leaseToken record row, call.operation.records = some (taskId, leaseToken, record) ∧
    db.get taskId = some row ∧ isTerminal row.status ∧ row.leaseToken = some leaseToken ∧
    record (outcome row) ≠ outcome row

variable {db : Db} {taskId : String} {row : Task} {clock : Clock}

variable {leaseToken drawn : String}

theorem requireOwnedRow_eq_ok :
    requireOwnedRow db taskId leaseToken = .ok row ↔
      db.get taskId = some row ∧ row.leaseToken = some leaseToken := by
  simp only [requireOwnedRow, bind_eq_ok, orRaise_eq_ok, require_eq_ok, pure_eq_ok]
  constructor
  · rintro ⟨found, hfound, _, howned, rfl⟩
    exact ⟨hfound, howned⟩
  · rintro ⟨hrow, howned⟩
    exact ⟨row, hrow, ⟨⟩, howned, rfl⟩

theorem committed_owned (db : Db) (taskId leaseToken : String) (rewrite : Task → Task)
    (hid : ∀ row, (rewrite row).id = row.id) :
    let after := committed db (do
      let row ← requireOwnedRow db taskId leaseToken
      return db.modify row.id rewrite hid)
    after = db ∧ (∀ row, db.get taskId = some row → row.leaseToken ≠ some leaseToken) ∨
      ∃ row, db.get taskId = some row ∧ row.leaseToken = some leaseToken ∧
        after.get taskId = some (rewrite row) ∧
        ∀ other, other ≠ taskId → after.get other = db.get other := by
  rcases howned : requireOwnedRow db taskId leaseToken with error | row
  · refine Or.inl ⟨rfl, ?_⟩
    intro row hrow htoken
    rw [requireOwnedRow_eq_ok.2 ⟨hrow, htoken⟩] at howned
    cases howned
  · rcases requireOwnedRow_eq_ok.1 howned with ⟨hrow, htoken⟩
    have hkey := Db.get_id hrow
    refine Or.inr ⟨row, hrow, htoken, ?_, ?_⟩
    · change (db.modify row.id rewrite hid).get taskId = _
      rw [hkey]
      exact Db.get_modify_self hid hrow
    · intro other hne
      change (db.modify row.id rewrite hid).get other = _
      rw [hkey]
      exact Db.get_modify_of_ne hid hne

theorem step_of_records {call : Call} {record : TaskStatus × Option Json × Option Json →
      TaskStatus × Option Json × Option Json}
    (hrecords : call.operation.records = some (taskId, leaseToken, record)) :
    step db call = db ∧ (∀ row, db.get taskId = some row → row.leaseToken ≠ some leaseToken) ∨
      ∃ row after, db.get taskId = some row ∧ row.leaseToken = some leaseToken ∧
        (step db call).get taskId = some after ∧ outcome after = record (outcome row) ∧
        ∀ other, other ≠ taskId → (step db call).get other = db.get other := by
  rcases call with ⟨operation, clock⟩
  cases operation with
  | heartbeat named token leaseSeconds status =>
      simp only [Operation.records] at hrecords
      split at hrecords
      · rename_i hstatus
        cases hrecords
        have hperform : perform db ⟨.heartbeat taskId leaseToken leaseSeconds status, clock⟩ = (do
            let row ← requireOwnedRow db taskId leaseToken
            return db.modify row.id (fun row => { row with
              status := status
              leaseExpiresAt := some (clock 0 + seconds leaseSeconds)
              updatedAt := clock 0 }) fun _ => rfl) := by
          simp only [perform, heartbeat, require, if_pos hstatus]
          rfl
        rw [step, hperform]
        exact (committed_owned db taskId leaseToken _ _).imp_right
          fun ⟨row, hrow, htoken, hafter, hothers⟩ =>
            ⟨row, _, hrow, htoken, hafter, rfl, hothers⟩
      · cases hrecords
  | complete =>
      cases hrecords
      exact (committed_owned db taskId leaseToken _ _).imp_right
        fun ⟨row, hrow, htoken, hafter, hothers⟩ =>
          ⟨row, _, hrow, htoken, hafter, rfl, hothers⟩
  | fail =>
      cases hrecords
      exact (committed_owned db taskId leaseToken _ _).imp_right
        fun ⟨row, hrow, htoken, hafter, hothers⟩ =>
          ⟨row, _, hrow, htoken, hafter, rfl, hothers⟩
  | enqueue => cases hrecords
  | claimNext => cases hrecords
  | cancel => cases hrecords
  | releaseExpiredLeases => cases hrecords

theorem get_enqueue {after : Db} {request : EnqueueRequest}
    (hadded : enqueue db request drawn clock = .ok after) (hrow : db.get taskId = some row) :
    after.get taskId = some row := by
  simp only [enqueue, bind_eq_ok, require_eq_ok] at hadded
  rcases hadded with ⟨_, _, _, _, hadded⟩
  split at hadded
  · simp only [pure_eq_ok] at hadded
    subst hadded
    rw [Db.get, List.find?_append]
    have hfound : db.rows.find? (·.id = taskId) = some row := hrow
    rw [hfound]
    rfl
  · cases hadded

theorem get_releaseExpired_of_terminal (batchSize : Int) (clock : Clock)
    (hrow : db.get taskId = some row) (hended : isTerminal row.status) :
    (releaseExpired db batchSize clock).get taskId = some row := by
  have hunseen : row.id ∉ (batch db batchSize).map (·.id) := by
    intro hseen
    rcases List.mem_map.mp hseen with ⟨found, hfound, hkey⟩
    rcases List.mem_filter.mp (List.mem_of_mem_take hfound) with ⟨hmem, hleased⟩
    have hsame : found = row := by
      have hget := Db.get_of_mem hmem
      rw [hkey, Db.get_id hrow, hrow] at hget
      exact (Option.some.inj hget).symm
    rw [hsame] at hleased
    have hstatus := (of_decide_eq_true hleased).1
    cases hcase : row.status <;> simp_all [isTerminal]
  rw [releaseExpired, Db.get_change, hrow, Option.map_some, if_neg]
  exact fun hboth => hunseen hboth.1

theorem get_claimNext_of_terminal {after : Db} {request : ClaimRequest}
    (hclaimed : claimNext db request drawn clock = .ok after) (hrow : db.get taskId = some row)
    (hended : isTerminal row.status) : after.get taskId = some row := by
  simp only [claimNext, bind_eq_ok, require_eq_ok] at hclaimed
  rcases hclaimed with ⟨_, _, _, _, hclaimed⟩
  have hswept := get_releaseExpired_of_terminal 1000 clock hrow hended
  split at hclaimed
  · cases hclaimed
    exact hswept
  · rename_i picked index hpicked
    cases hclaimed
    rcases firstBy_selectWhere hpicked with ⟨hfound, hkeep⟩
    have hqueued : picked.status = .queued := (of_decide_eq_true hkeep).1
    have hother : taskId ≠ picked.id := by
      intro hsame
      have hget := Db.get_of_mem (List.mem_of_getElem? hfound)
      rw [← hsame, hswept] at hget
      rw [Option.some.inj hget, hqueued] at hended
      cases hended
    rw [Db.get_modify_of_ne _ hother]
    exact hswept

theorem get_cancel_of_terminal {named : String} (reason : Option String) (clock : Clock)
    (hrow : db.get taskId = some row) (hended : isTerminal row.status) :
    (cancel db named reason clock).get taskId = some row := by
  unfold cancel
  split
  · exact hrow
  · rename_i found hfound
    split
    · exact hrow
    · rename_i hlive
      have hother : taskId ≠ found.id := by
        intro hsame
        rw [hsame, Db.get_id hfound, hfound] at hrow
        rw [Option.some.inj hrow] at hlive
        exact hlive hended
      rw [Db.get_modify_of_ne _ hother]
      exact hrow

theorem step_of_bad_heartbeat {named token : String} {leaseSeconds : Int} {status : TaskStatus}
    (hrecords : (Operation.heartbeat named token leaseSeconds status).records = none) :
    step db ⟨.heartbeat named token leaseSeconds status, clock⟩ = db := by
  have hbad : ¬ (status = .claimed ∨ status = .executing) := by
    intro hstatus
    simp [Operation.records, hstatus] at hrecords
  have hrefused : perform db ⟨.heartbeat named token leaseSeconds status, clock⟩ =
      .error .badHeartbeatStatus := by
    simp only [perform, heartbeat, require, if_neg hbad]
    rfl
  rw [step, hrefused]
  rfl

theorem step_keeps_ended {call : Call} (hrecords : call.operation.records = none)
    (hrow : db.get taskId = some row) (hended : isTerminal row.status) :
    (step db call).get taskId = some row := by
  rcases call with ⟨operation, clock⟩
  cases operation with
  | enqueue request drawn =>
      change (committed db (enqueue db request drawn clock)).get taskId = some row
      rcases hadded : enqueue db request drawn clock with error | after
      · exact hrow
      · exact get_enqueue hadded hrow
  | claimNext request drawn =>
      change (committed db (claimNext db request drawn clock)).get taskId = some row
      rcases hclaimed : claimNext db request drawn clock with error | after
      · exact hrow
      · exact get_claimNext_of_terminal hclaimed hrow hended
  | heartbeat =>
      rw [step_of_bad_heartbeat hrecords]
      exact hrow
  | complete => cases hrecords
  | fail => cases hrecords
  | cancel named reason => exact get_cancel_of_terminal reason clock hrow hended
  | releaseExpiredLeases batchSize =>
      exact get_releaseExpired_of_terminal batchSize clock hrow hended

theorem step_keeps_outcomes_iff (db : Db) (call : Call) :
    (∀ taskId ending, Ended taskId ending db → Ended taskId ending (step db call)) ↔
      ¬ Overwrites db call := by
  constructor
  · intro hkeeps hover
    rcases hover with ⟨taskId, leaseToken, record, row, hrecords, hrow, hended, htoken, hnew⟩
    rcases hkeeps taskId (outcome row) ⟨row, hrow, hended, rfl⟩ with
      ⟨found, hfound, _, hsame⟩
    rcases step_of_records hrecords with ⟨_, hrefused⟩ | ⟨old, after, hold, _, hafter, hwrote, _⟩
    · exact hrefused row hrow htoken
    · rw [hrow] at hold
      cases hold
      rw [hafter] at hfound
      cases hfound
      exact hnew (hwrote.symm.trans hsame)
  · intro hkept taskId ending hending
    rcases hending with ⟨row, hrow, hended, rfl⟩
    rcases hrecords : call.operation.records with _ | ⟨named, leaseToken, record⟩
    · exact ⟨row, step_keeps_ended hrecords hrow hended, hended, rfl⟩
    · rcases step_of_records hrecords with
        ⟨hsame, _⟩ | ⟨old, after, hold, htoken, hafter, hwrote, hothers⟩
      · exact ⟨row, by rw [hsame]; exact hrow, hended, rfl⟩
      · by_cases hnamed : taskId = named
        · subst hnamed
          rw [hrow] at hold
          cases hold
          have hsame : record (outcome row) = outcome row := by
            by_contra hnew
            exact hkept ⟨taskId, leaseToken, record, row, hrecords, hrow, hended, htoken, hnew⟩
          have hkeeps : outcome after = outcome row := hwrote.trans hsame
          have hstatus : after.status = row.status := congrArg Prod.fst hkeeps
          exact ⟨after, hafter, by rw [hstatus]; exact hended, hkeeps⟩
        · exact ⟨row, by rw [hothers taskId hnamed]; exact hrow, hended, rfl⟩

/-- Along every run, from any table, under any tokens and clock readings: a task that has
ended keeps its status and what was recorded for it exactly when no worker of the run
comes late with another outcome. -/
theorem outcomes_final_iff (db : Db) (calls : List Call) :
    (∀ taskId ending, Run.Absorbs step (Ended taskId ending) db calls) ↔
      Run.Along step (fun db call => ¬ Overwrites db call) db calls := by
  simp only [Run.absorbs_iff_along, ← step_keeps_outcomes_iff]
  constructor
  · intro hall done call hcall taskId ending
    exact hall taskId ending done call hcall
  · intro hall taskId ending done call hcall
    exact hall done call hcall taskId ending

def completedRun : List Call :=
  [⟨.enqueue
      { spaceId := "s", kind := "k", payload := [], priority := 0, requestedBy := ""
        parentTaskId := none, taskId := none } "t", fun _ => 0⟩,
    ⟨.claimNext { spaceId := none, kinds := [], actorId := "worker", leaseSeconds := 60 }
      "token", fun _ => 0⟩,
    ⟨.complete "t" "token" [("answer", .int 42)], fun _ => 1⟩]

/-- A heartbeat that arrives after the task was completed takes it back to
`executing`. -/
theorem late_heartbeat_reopens :
    ¬ ∀ taskId ending, Run.Absorbs step (Ended taskId ending) Db.empty
      (completedRun ++ [⟨.heartbeat "t" "token" 60 .executing, fun _ => 2⟩]) := by
  intro habsorbs
  have hended : Ended "t" (.completed, some (.obj [("answer", .int 42)]), none)
      (Run.run step Db.empty completedRun) := ⟨_, rfl, rfl, rfl⟩
  rcases habsorbs "t" _ completedRun _ List.prefix_rfl hended with ⟨row, hrow, hstill, _⟩
  have hlost : ((Run.run step Db.empty (completedRun ++
      [⟨.heartbeat "t" "token" 60 .executing, fun _ => 2⟩])).get "t").map
        (fun row => isTerminal row.status) = some false := rfl
  rw [hrow, Option.map_some, hstill] at hlost
  cases hlost

end OpsCure.KernelTask
