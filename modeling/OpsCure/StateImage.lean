/-
How the state of a v2 operation follows the status of the remote task.  The coordinator
moves the operation by the kind of event it emits, not by the status the task is in, so
the state is the image of the status after some operations only.
-/
import OpsCure.ServiceRuns

namespace OpsCure.Chat

open Session Table Contract V2 RemoteTask

/-- The operation state that would say where a remote task is. -/
def image : TaskStatus → OpState
  | .queued | .interrupted => .opened
  | .claimed => .claimed
  | .executing => .executing
  | .blockedApproval => .blockedApproval
  | .verifying => .verifying
  | .completed | .failed => .closed

/-- What an operation makes of the operation's state, given the state before and the
status of the task after. -/
def TaskRequest.Leaves (before after : OpState) (status : TaskStatus) : TaskRequest → Prop
  | .claim _ _ | .requestApproval _ | .complete _ | .fail _ => after = image status
  | .resolveApproval request =>
      match request.resolution with
      | .denied => after = image status
      | .approved => after = .executing
  | .addEvidence _ => after = .executing
  | .heartbeat _ | .interrupt _ | .addNote _ => after = before

variable {config : Config} {conversationId : Id} {s after : State}

theorem closeSettled_ok {closing : Option Closing} {clock : Clock} {done : PUnit}
    (hok : exec (closeSettled config conversationId closing clock) s = (.ok done, after)) :
    after.ledger =
      if closing.isSome then s.ledger.close conversationId else s.ledger := by
  cases closing with
  | none =>
      cases hok
      rfl
  | some =>
      simp only [closeSettled, exec_bind_ok, exec_pure, Prod.mk.injEq] at hok
      rcases hok with ⟨result, closed, hclose, _, rfl⟩
      rw [exec_closeConversation] at hclose
      cases hrow : requireClosable s conversationId with
      | error =>
          rw [hrow] at hclose
          cases hclose
      | ok =>
          simp only [hrow, if_true, exec_transaction_ok] at hclose
          rw [Option.isSome_some, if_pos rfl]
          exact closeSession_ledger (requireClosable_eq_ok.1 hrow).1 hclose

variable {taskId : Id} {clocks : Clocks} {result : Summary × Task}

theorem coordinate_ok {plan : Plan} {row : Conversation}
    (htarget : plan.operation.target s.tasks = some taskId)
    (hrow : s.conversations[conversationId]? = some row)
    (hok : exec (coordinate config conversationId taskId plan clocks) s =
      (.ok result, after)) :
    ∃ old task, Rewrote s.tasks (step s.tasks ⟨plan.operation, clocks.remote⟩) taskId old
        task ∧ Result ⟨plan.operation, clocks.remote⟩ old task ∧
      let moved := (s.ledger.serve ⟨plan.operation, clocks.remote⟩).move conversationId
        (plan.emission task).targetState
      after.ledger =
        if plan.closing.isSome then moved.close conversationId else moved := by
  simp only [coordinate, exec_bind_ok, exec_query, exec_pure, Prod.mk.injEq] at hok
  rcases hok with ⟨called, served, hcall, _, echoed, hecho, _, closed, hclose, _, _, ⟨_, rfl⟩,
    _, rfl⟩
  by_cases haccepted : Accepts s.tasks taskId ⟨plan.operation, clocks.remote⟩
  · rcases exec_remoteCall_of_accepted htarget haccepted with
      ⟨old, task, hwrote, hresult, hserved⟩
    rw [hserved, Prod.mk.injEq, Except.ok.injEq] at hcall
    rcases hcall with ⟨rfl, rfl⟩
    refine ⟨old, task, hwrote, hresult, ?_⟩
    let between : State := { s with tasks := step s.tasks ⟨plan.operation, clocks.remote⟩ }
    have hfound : between.conversations[conversationId]? = some row := hrow
    have hechoed := echoSession_ledger hfound (exec_transaction_ok.1 hecho)
    rw [closeSettled_ok hclose, hechoed]
    rfl
  · rcases exec_remoteCall_of_refused htarget haccepted with ⟨error, hrefused⟩
    rw [hrefused] at hcall
    cases hcall

theorem leaves_of_plan (request : TaskRequest) (before : OpState) (status : TaskStatus) :
    request.Leaves before
      (if request.closes then .closed else request.target.getD before)
      ((request.plan config taskId).operation.statusAfter status) := by
  cases request with
  | resolveApproval request =>
      cases hresolution : request.resolution with
      | approved =>
          simp [TaskRequest.Leaves, TaskRequest.closes, TaskRequest.target, hresolution]
      | denied =>
          simp [TaskRequest.Leaves, TaskRequest.closes, hresolution, TaskRequest.plan,
            resolveApprovalPlan, RemoteTask.Operation.statusAfter, statusAfterResolution, image]
  | _ => rfl

/-- What a successful operation leaves of the operation's state, in a sound state. -/
theorem perform_leaves {request : TaskRequest} (hsound : SoundState config s)
    (hok : exec (request.perform config conversationId clocks) s = (.ok result, after)) :
    ∃ row taskId operationId task before state, s.conversations[conversationId]? = some row ∧
      row.boundTaskId = some taskId ∧ row.v2OperationId = some operationId ∧
      after.tasks.tasks[taskId]? = some task ∧
      s.store.kindState operationId = some (.task, before) ∧
      after.store.kindState operationId = some (.task, state) ∧
      request.Leaves before state task.status := by
  rcases perform_cases config conversationId clocks request s with
    ⟨_, error, left, hexec, _⟩ | ⟨taskId, pre, hpasses, hregisters, hexec⟩
  · rw [hexec] at hok
    cases hok
  · rw [hexec] at hok
    rcases requireBoundTask_eq_ok.1 hpasses.bound with ⟨row, hrow, hkind, hbound⟩
    have hfound : pre.conversations[conversationId]? = some row := by
      rw [hregisters.conversations]
      exact hrow
    rcases hsound.linked conversationId row.entry (ledger_entry hrow) with
      ⟨before, hbefore, hlinked⟩
    have hentry : pre.ledger.entries[conversationId]? = some row.entry := ledger_entry hfound
    have hkept : pre.ledger.operations[conversationId]? = some (.task, before) := by
      rw [hregisters.ledger, hbefore]
      simp [Conversation.entry, hkind]
    rcases coordinate_ok (plan_target config taskId request pre.tasks) hfound hok with
      ⟨old, task, hwrote, hresult, hledger⟩
    rw [plan_closing_isSome, plan_targetState] at hledger
    let call : Call := ⟨(request.plan config taskId).operation, clocks.remote⟩
    let moved := (pre.ledger.serve call).move conversationId request.target
    have hmovedEntry : moved.entries[conversationId]? = some row.entry := by
      rw [Ledger.move_entries]
      exact hentry
    have hmoved : moved.operations[conversationId]? =
        some (.task, request.target.getD before) := by
      have hserved : (pre.ledger.serve call).entries[conversationId]? = some row.entry := hentry
      change ((pre.ledger.serve call).move conversationId request.target).operations[
        conversationId]? = _
      rw [Ledger.move_operation hserved, Ledger.serve, hkept]
      simp [hlinked.mirrored]
    have hstate : after.store.kindState conversationId =
        some (.task, if request.closes then .closed else request.target.getD before) := by
      rw [← ledger_operation, hledger]
      cases request.closes with
      | false => exact hmoved
      | true =>
          rw [if_pos rfl, Ledger.close_operation hmovedEntry, hmoved]
          simp [hlinked.mirrored]
    have htasks : after.tasks = step pre.tasks call := by
      have hsame := congrArg Ledger.tasks hledger
      cases hcloses : request.closes with
      | false =>
          simp only [hcloses, Bool.false_eq_true, if_false, Ledger.move_tasks] at hsame
          exact hsame
      | true =>
          simp only [hcloses, if_true, Ledger.close_tasks, Ledger.move_tasks] at hsame
          exact hsame
    refine ⟨row, taskId, conversationId, task, before, _, hrow, hbound, hlinked.mirrored,
      ?_, ?_, hstate, ?_⟩
    · rw [htasks, hwrote.wrote]
      exact getElem?_update_self hwrote.read
    · rw [← ledger_operation, ← hregisters.ledger]
      exact hkept
    · rw [hresult.status]
      exact leaves_of_plan request before old.status

/-- In every run from a fresh room, a successful operation of the coordinator leaves the
v2 operation in the image of the task's status when it claims, asks for approval, ends the
task or is denied; in `executing` after evidence and after an approval; and in the state it
found after a heartbeat, an interrupt or a note. -/
theorem coordinator_leaves (config : Config) (s : State) (moves : List Move)
    (hfresh : Fresh s) (conversationId : Id) (request : TaskRequest) (clocks : Clocks)
    (result : Summary × Task) (after : State) :
    let found := Run.run (serviceStep config) s moves
    exec (request.perform config conversationId clocks) found = (.ok result, after) →
    ∃ row taskId operationId task before state,
      found.conversations[conversationId]? = some row ∧
      row.boundTaskId = some taskId ∧ row.v2OperationId = some operationId ∧
      after.tasks.tasks[taskId]? = some task ∧
      found.store.kindState operationId = some (.task, before) ∧
      after.store.kindState operationId = some (.task, state) ∧
      request.Leaves before state task.status := by
  intro found hok
  have hsound : SoundState config found := run_sound config hfresh moves moves List.prefix_rfl
  exact perform_leaves hsound hok

/-- `bob`'s claim of the task `alice` opened leaves task and operation claimed. -/
theorem claim_leaves_claimed :
    let opened := Run.run (serviceStep plainConfig) emptyRoom (claimedTask.take 1)
    let request : TaskRequest := .claim { actorId := "bob", leaseSeconds := 120 } "token"
    let claimed := (exec (request.perform plainConfig 1
      ⟨fun _ => 0, fun _ => 0, fun _ => 0⟩) opened).2
    ∃ row taskId operationId task before state,
      opened.conversations[1]? = some row ∧
      row.boundTaskId = some taskId ∧ row.v2OperationId = some operationId ∧
      claimed.tasks.tasks[taskId]? = some task ∧
      opened.store.kindState operationId = some (.task, before) ∧
      claimed.store.kindState operationId = some (.task, state) ∧
      request.Leaves before state task.status :=
  coordinator_leaves plainConfig emptyRoom (claimedTask.take 1) ⟨rfl, rfl⟩ 1
    (.claim { actorId := "bob", leaseSeconds := 120 } "token")
    ⟨fun _ => 0, fun _ => 0, fun _ => 0⟩ _ _ rfl

/-- `bob` adds a screenshot to the task he claimed.  It is no evidence of work to the
remote task service, which leaves the task claimed; the v2 operation goes to
`executing`. -/
theorem screenshot_leaves_image :
    let claimed := Run.run (serviceStep plainConfig) emptyRoom claimedTask
    let request : TaskRequest := .addEvidence
      { actorName := "bob"
        leaseToken := "token"
        kind := "screenshot"
        summary := "the page"
        payload := [] }
    let worked := exec (request.perform plainConfig 1
      ⟨fun _ => 1, fun _ => 1, fun _ => 1⟩) claimed
    worked.1.isOk ∧
      worked.2.tasks.tasks[0]?.map (·.status) = some .claimed ∧
      worked.2.store.kindState 1 = some (.task, .executing) ∧
      OpState.executing ≠ image .claimed := by
  exact ⟨rfl, rfl, rfl, by decide⟩

end OpsCure.Chat
