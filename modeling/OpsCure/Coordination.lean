/-
What an operation of the task coordinator does, stage by stage: the gates before the
first write, the remote call, the echo with its move of the v2 operation, and the close.
-/
import OpsCure.Closing
import OpsCure.TaskCoordinator
import OpsCure.TaskLifecycle

namespace OpsCure.Chat

open Fallible Session Table Contract V2 OperationMirror RemoteTask

/-! ## The gates -/

def TaskRequest.capability : TaskRequest → Option (String × Capability)
  | .claim request _ => some (request.actorId, .taskClaim)
  | .complete request => some (request.actorId, .taskComplete)
  | .fail request => some (request.actorId, .taskFail)
  | .resolveApproval request =>
      if request.resolution = .approved then
        some (request.resolvedBy, .taskApproveDestructive)
      else none
  | _ => none

def TaskRequest.precheck (s : State) (conversationId taskId : Id) :
    TaskRequest → Except ChatError PUnit
  | .addEvidence request => requireHolder s taskId request.actorName request.leaseToken
  | .complete _ => requireEvidence s conversationId
  | _ => .ok ⟨⟩

def askCapability (config : Config) : Option (String × Capability) →
    Program ChatError State PUnit
  | none => pure ⟨⟩
  | some (actorName, capability) => checkCapability config actorName capability

def Granted (config : Config) (s : State) : Option (String × Capability) → Prop
  | none => True
  | some (actorName, capability) => permits config s actorName capability

theorem exec_perform (config : Config) (conversationId : Id) (clocks : Clocks)
    (request : TaskRequest) (s : State) :
    exec (request.perform config conversationId clocks) s =
      exec (do
        askCapability config request.capability
        let taskId ← query fun s => requireBoundTask s conversationId
        query fun s => request.precheck s conversationId taskId
        coordinate config conversationId taskId (request.plan config taskId) clocks) s := by
  cases request with
  | resolveApproval request =>
      by_cases happroved : request.resolution = .approved
      · simp only [TaskRequest.perform, resolveApproval, TaskRequest.capability, happroved,
          if_true]
        rfl
      · simp only [TaskRequest.perform, resolveApproval, TaskRequest.capability, happroved,
          if_false]
        rfl
  | _ => rfl

structure TaskRequest.Passes (request : TaskRequest) (config : Config) (s : State)
    (conversationId taskId : Id) : Prop where
  granted : Granted config s request.capability
  bound : requireBoundTask s conversationId = .ok taskId
  checked : request.precheck s conversationId taskId = .ok ⟨⟩

variable {s : State} {conversationId taskId : Id} {store after : Store} {now : Time}
  {row : Conversation} {config : Config} {eventId : Option EventId} {emission : Emission}
  {request : TaskRequest}

theorem requireBoundTask_eq_ok :
    requireBoundTask s conversationId = .ok taskId ↔
      ∃ row, s.conversations[conversationId]? = some row ∧ row.kind = .task ∧
        row.boundTaskId = some taskId := by
  simp only [requireBoundTask, bind_eq_ok, orRaise_eq_ok, require_eq_ok]
  constructor
  · rintro ⟨row, hrow, _, hkind, hbound⟩
    exact ⟨row, hrow, hkind, hbound⟩
  · rintro ⟨row, hrow, hkind, hbound⟩
    exact ⟨row, hrow, ⟨⟩, hkind, hbound⟩

variable {t : State} {operationId : Id} {toState : OpState} {clock : Clock}

theorem Registers.requireBoundTask (hregisters : Registers s t) (conversationId : Id) :
    requireBoundTask t conversationId = requireBoundTask s conversationId := by
  rw [Chat.requireBoundTask, Chat.requireBoundTask, hregisters.conversations]

theorem Registers.precheck (hregisters : Registers s t) (conversationId taskId : Id)
    (request : TaskRequest) :
    request.precheck t conversationId taskId = request.precheck s conversationId taskId := by
  cases request with
  | addEvidence =>
      simp only [TaskRequest.precheck, requireHolder, hregisters.tasks]
  | complete =>
      simp only [TaskRequest.precheck, requireEvidence, hregisters.messages]
  | _ => rfl

def asking (config : Config) (s : State) : Option (String × Capability) → State
  | none => s
  | some (actorName, _) => provision config s actorName

theorem registers_asking (config : Config) (s : State) (asked : Option (String × Capability)) :
    Registers s (asking config s asked) := by
  rcases asked with _ | ⟨actorName, capability⟩
  · exact .refl s
  · exact registers_provision config s actorName

theorem exec_askCapability (config : Config) (asked : Option (String × Capability))
    (s : State) :
    Granted config s asked ∧
        exec (askCapability config asked) s = (.ok ⟨⟩, asking config s asked) ∨
      ¬ Granted config s asked ∧
        ∃ error, exec (askCapability config asked) s = (.error error, asking config s asked) := by
  rcases asked with _ | ⟨actorName, capability⟩
  · exact Or.inl ⟨trivial, rfl⟩
  · rw [askCapability, exec_checkCapability]
    by_cases hpermitted : permits config s actorName capability
    · left
      rw [if_pos hpermitted]
      exact ⟨hpermitted, rfl⟩
    · right
      rw [if_neg hpermitted]
      exact ⟨hpermitted, _, rfl⟩

theorem perform_gates (config : Config) (conversationId : Id) (clocks : Clocks)
    (request : TaskRequest) (s : State) :
    let pre := asking config s request.capability
    (¬ (∃ taskId, request.Passes config s conversationId taskId) ∧ ∃ error,
      exec (request.perform config conversationId clocks) s = (.error error, pre)) ∨
    ∃ taskId, request.Passes config s conversationId taskId ∧
      exec (request.perform config conversationId clocks) s =
        exec (coordinate config conversationId taskId (request.plan config taskId) clocks)
          pre := by
  intro pre
  have hregisters := registers_asking config s request.capability
  rw [exec_perform, exec_bind]
  rcases exec_askCapability config request.capability s with
    ⟨hgranted, hasked⟩ | ⟨hdenied, error, hasked⟩
  · rw [hasked]
    simp only [exec_bind, exec_query, hregisters.requireBoundTask]
    cases hbound : requireBoundTask s conversationId with
    | error error =>
        left
        refine ⟨?_, error, rfl⟩
        rintro ⟨taskId, hpasses⟩
        have hthis := hpasses.bound
        rw [hbound] at hthis
        cases hthis
    | ok taskId =>
        simp only [hregisters.precheck]
        cases hchecked : request.precheck s conversationId taskId with
        | error error =>
            left
            refine ⟨?_, error, rfl⟩
            rintro ⟨other, hpasses⟩
            have hsame := hpasses.bound
            rw [hbound] at hsame
            cases hsame
            have hthis := hpasses.checked
            rw [hchecked] at hthis
            cases hthis
        | ok =>
            right
            exact ⟨taskId, ⟨hgranted, hbound, hchecked⟩, rfl⟩
  · rw [hasked]
    left
    refine ⟨?_, error, rfl⟩
    rintro ⟨taskId, hpasses⟩
    exact hdenied hpasses.granted

theorem perform_cases (config : Config) (conversationId : Id) (clocks : Clocks)
    (request : TaskRequest) (s : State) :
    (¬ (∃ taskId, request.Passes config s conversationId taskId) ∧ ∃ error left,
      exec (request.perform config conversationId clocks) s = (.error error, left) ∧
        Registers s left) ∨
    ∃ taskId pre, request.Passes config s conversationId taskId ∧ Registers s pre ∧
      exec (request.perform config conversationId clocks) s =
        exec (coordinate config conversationId taskId (request.plan config taskId) clocks)
          pre := by
  have hregisters := registers_asking config s request.capability
  rcases perform_gates config conversationId clocks request s with
    ⟨hfails, error, hexec⟩ | ⟨taskId, hpasses, hexec⟩
  · exact Or.inl ⟨hfails, error, _, hexec, hregisters⟩
  · exact Or.inr ⟨taskId, _, hpasses, hregisters, hexec⟩

/-! ## The move of the v2 operation -/

/-- A v2 operation of a kind and state can be moved to the target, if there is one: it is
there already, or the state graph has the edge. -/
def Follows (kind : Kind) (state : OpState) (target : Option OpState) : Prop :=
  ∀ toState, target = some toState → state = toState ∨
    ∃ targets, allowedTransitions kind state = some targets ∧ toState ∈ targets

def movedKindState (row : Conversation) (target : Option OpState) (other : Id)
    (found : Kind × OpState) : Kind × OpState :=
  if row.v2OperationId = some other then (found.1, target.getD found.2) else found

/-- The graph has no edge out of `closed`, and none into it. -/
theorem allowedTransitions_closed {kind : Kind} {state : OpState} {targets : List OpState}
    (hallowed : allowedTransitions kind state = some targets) :
    state ≠ .closed ∧ OpState.closed ∉ targets := by
  cases kind <;> cases state <;> simp_all [allowedTransitions] <;> subst hallowed <;> decide

theorem transitionState_isOk_iff :
    (∃ after, transitionState store operationId toState now = .ok after) ↔
      ∀ kind state, store.kindState operationId = some (kind, state) →
        Follows kind state (some toState) := by
  unfold transitionState Store.kindState Follows
  cases store.getOperation operationId with
  | none => simp
  | some operation =>
      by_cases hsame : operation.state = toState
      · simp [hsame]
      · simp [hsame, StateMachine.assertTransition_eq_ok_iff]

theorem kindState_transitionState
    (hok : transitionState store operationId toState now = .ok after) (other : Id) :
    after.kindState other = (store.kindState other).map fun found =>
      if operationId = other then (found.1, toState) else found := by
  unfold transitionState at hok
  cases hoperation : store.getOperation operationId with
  | none =>
      rw [hoperation] at hok
      cases hok
      by_cases hother : operationId = other
      · subst hother
        rw [Store.kindState, hoperation]
        rfl
      · simp [hother]
  | some operation =>
      rw [hoperation] at hok
      by_cases hsame : operation.state = toState
      · simp only [hsame, if_true] at hok
        cases hok
        by_cases hother : operationId = other
        · subst hother
          simp [Store.kindState, hoperation, hsame]
        · simp [hother]
      · simp only [hsame, if_false, bind_eq_ok, pure_eq_ok] at hok
        rcases hok with ⟨_, _, rfl⟩
        by_cases hother : operationId = other
        · subst hother
          simp [Store.transitionOperationState, Store.kindState, Function.comp_def]
        · simp [Store.transitionOperationState, Store.kindState, Function.comp_def, hother,
            Store.getOperation_modifyOperation_of_ne hother]

def OperationFollows (store : Store) (row : Conversation) (target : Option OpState) : Prop :=
  ∀ operationId kind state, row.v2OperationId = some operationId →
    store.kindState operationId = some (kind, state) → Follows kind state target

theorem moveOperation_isOk_iff {target : Option OpState} :
    (∃ after, moveOperation store row target now = .ok after) ↔
      OperationFollows store row target := by
  unfold moveOperation OperationFollows
  cases target with
  | none => simp [Follows]
  | some =>
      cases row.v2OperationId with
      | none => simp
      | some operationId =>
          simp only [mapError_eq_ok, transitionState_isOk_iff, Option.some.injEq]
          constructor
          · intro hfollows other kind state hother hstate
            subst hother
            exact hfollows kind state hstate
          · intro hfollows kind state hstate
            exact hfollows operationId kind state rfl hstate

theorem kindState_moveOperation {target : Option OpState}
    (hok : moveOperation store row target now = .ok after) (other : Id) :
    after.kindState other = (store.kindState other).map (movedKindState row target other) := by
  unfold moveOperation at hok
  cases target with
  | none =>
      cases hok
      have hsame : movedKindState row none other = id := by
        funext found
        simp [movedKindState]
      rw [hsame, Option.map_id_fun, id]
  | some toState =>
      cases hmirror : row.v2OperationId with
      | none =>
          rw [hmirror] at hok
          cases hok
          have hsame : movedKindState row (some toState) other = id := by
            funext found
            simp [movedKindState, hmirror]
          rw [hsame, Option.map_id_fun, id]
      | some operationId =>
          simp only [hmirror, mapError_eq_ok] at hok
          rw [kindState_transitionState hok]
          have hsame : movedKindState row (some toState) other = fun found =>
              if operationId = other then (found.1, toState) else found := by
            funext found
            simp [movedKindState, hmirror]
          rw [hsame]

/-! ## The echo -/

theorem attachEchoed_eq_ok (hok : attachEchoed config store eventId emission now = .ok after) :
    after = store ∨ ∃ id artifact, after = store.insertArtifact id artifact := by
  unfold attachEchoed at hok
  split at hok
  · rw [mapError_eq_ok] at hok
    rcases attachArtifact_eq_ok hok with hsame | ⟨artifact, hadded⟩
    · exact Or.inl hsame
    · exact Or.inr ⟨_, artifact, hadded⟩
  · cases hok
    exact Or.inl rfl

theorem kindState_attachEchoed (hok : attachEchoed config store eventId emission now = .ok after)
    (other : Id) : after.kindState other = store.kindState other := by
  rcases attachEchoed_eq_ok hok with rfl | ⟨id, artifact, rfl⟩
  · rfl
  · apply Store.kindState_modifyOperation
    exact fun _ => ⟨rfl, rfl⟩

/-- The artifact a task event carries, if any, can be attached. -/
def Emission.Attachable (emission : Emission) : Prop :=
  ∀ fields, emission.artifact = some fields → fields ≠ [] → isStorableArtifact (.obj fields)

theorem attachEchoed_isOk (hattachable : emission.Attachable) :
    ∃ after, attachEchoed config store eventId emission now = .ok after := by
  unfold attachEchoed
  split
  · rename_i field fields id hartifact
    have hstorable := hattachable _ hartifact (List.cons_ne_nil _ _)
    rcases attachArtifact_isOk_iff.2 hstorable with ⟨after, hafter⟩
    exact ⟨after, mapError_eq_ok.2 hafter⟩
  · exact ⟨store, rfl⟩

theorem echoSession_eq_ok {after : State} {done : PUnit}
    (hrow : s.conversations[conversationId]? = some row)
    (hok : echoSession config s conversationId emission clock = .ok (done, after)) :
    after.conversations =
        update s.conversations conversationId (echoRow row emission (clock 0)) ∧
      after.tasks = s.tasks ∧
      OperationFollows s.store row emission.targetState ∧
      ∀ other, after.store.kindState other =
        (s.store.kindState other).map (movedKindState row emission.targetState other) := by
  simp only [echoSession, hrow, bind_eq_ok, pure_eq_ok, Prod.exists, Prod.mk.injEq] at hok
  rcases hok with ⟨posted, eventId, hadded, attached, hattached, store, hmoved, _, rfl⟩
  rcases addMessage_frame hadded with ⟨_, hconversations, htasks⟩
  have hposted : ∀ other, attached.kindState other = s.store.kindState other := by
    intro other
    rw [kindState_attachEchoed hattached, (addMessage_grows hadded).kindState]
    rfl
  have hfollows := moveOperation_isOk_iff.1 ⟨store, hmoved⟩
  refine ⟨hconversations, htasks, ?_, ?_⟩
  · intro operationId kind state hmirror hstate
    exact hfollows operationId kind state hmirror ((hposted operationId).trans hstate)
  · intro other
    change store.kindState other = _
    rw [kindState_moveOperation hmoved, hposted]
    rfl

theorem echoSession_isOk (hrow : s.conversations[conversationId]? = some row)
    (hexists : ∀ operationId, row.v2OperationId = some operationId →
      (s.store.getOperation operationId).isSome) (hattachable : emission.Attachable)
    (hfollows : OperationFollows s.store row emission.targetState) :
    ∃ after, echoSession config s conversationId emission clock = .ok (⟨⟩, after) := by
  let echoed := echoRow row emission (clock 0)
  let message := lifecycleMessage echoed conversationId emission.actorName
    emission.eventKind none emission.payload (clock 1)
  have hadded : ∃ posted eventId, addMessage (s.setConversation conversationId echoed) echoed
      message {} (clock 2) = .ok (posted, eventId) :=
    addMessage_isOk rfl hexists
  rcases hadded with ⟨posted, eventId, hadded⟩
  have hattached : ∃ store, attachEchoed config posted.store eventId emission (clock 3) =
      .ok store := attachEchoed_isOk hattachable
  rcases hattached with ⟨store, hattached⟩
  have hmoved : ∃ moved, moveOperation store echoed emission.targetState (clock 4) =
      .ok moved := by
    apply moveOperation_isOk_iff.2
    intro operationId kind state hmirror hstate
    rw [kindState_attachEchoed hattached, (addMessage_grows hadded).kindState] at hstate
    exact hfollows operationId kind state hmirror hstate
  rcases hmoved with ⟨moved, hmoved⟩
  refine ⟨{ posted with store := moved }, ?_⟩
  simp only [echoSession, hrow, bind_eq_ok, pure_eq_ok, Prod.exists, Prod.mk.injEq]
  exact ⟨posted, eventId, hadded, store, hattached, moved, hmoved, trivial, rfl⟩

/-! ## The remote call -/

/-- The remote task service knows the task, and lets the call through. -/
def Accepts (db : Db) (taskId : Id) (call : Call) : Prop :=
  ∃ task, db.tasks[taskId]? = some task ∧ Admitted db taskId task call

theorem exec_remoteCall_of_refused {call : Call}
    (htarget : call.operation.target s.tasks = some taskId)
    (hrefused : ¬ Accepts s.tasks taskId call) :
    ∃ error, exec (remoteCall taskId call) s = (.error error, s) := by
  rw [remoteCall, exec_transaction]
  cases hperform : perform s.tasks call with
  | error error => exact ⟨.task error, rfl⟩
  | ok tasks => exact absurd ((perform_isOk_iff htarget).mp ⟨tasks, hperform⟩) hrefused

theorem exec_remoteCall_of_accepted {call : Call}
    (htarget : call.operation.target s.tasks = some taskId)
    (haccepted : Accepts s.tasks taskId call) :
    ∃ old task, Rewrote s.tasks (step s.tasks call) taskId old task ∧ Result call old task ∧
      exec (remoteCall taskId call) s = (.ok task, { s with tasks := step s.tasks call }) := by
  rcases (perform_isOk_iff htarget).mpr haccepted with ⟨tasks, hperform⟩
  have hstep : step s.tasks call = tasks := by
    rw [step, hperform]
    rfl
  rcases perform_rewrote htarget hperform with ⟨old, task, hwrote, hresult⟩
  have hread : tasks.tasks[taskId]? = some task := by
    rw [hwrote.wrote]
    exact getElem?_update_self hwrote.read
  refine ⟨old, task, by rw [hstep]; exact hwrote, hresult, ?_⟩
  have hrequired := requireTask_eq_ok.2 hread
  simp only [remoteCall, exec_transaction_ok, bind_eq_ok, mapError_eq_ok, pure_eq_ok, hstep]
  exact ⟨tasks, hperform, task, hrequired, rfl⟩

/-! ## The plans -/

@[simp]
theorem plan_target (config : Config) (taskId : Id) (request : TaskRequest) (db : Db) :
    (request.plan config taskId).operation.target db = some taskId := by
  cases request <;> rfl

/-- The state an operation wants its v2 operation in, if any. -/
def TaskRequest.target : TaskRequest → Option OpState
  | .claim _ _ => some .claimed
  | .addEvidence _ => some .executing
  | .requestApproval _ => some .blockedApproval
  | .resolveApproval request => if request.resolution = .approved then some .executing else none
  | _ => none

def TaskRequest.closes : TaskRequest → Bool
  | .complete _ | .fail _ => true
  | .resolveApproval request => request.resolution = .denied
  | _ => false

def TaskRequest.Attachable : TaskRequest → Prop
  | .addEvidence request => ∀ fields, embeddedArtifact request.payload = some fields →
      fields ≠ [] → isStorableArtifact (.obj fields)
  | _ => True

theorem plan_attachable (config : Config) (taskId : Id) (hattachable : request.Attachable)
    (task : Task) : ((request.plan config taskId).emission task).Attachable := by
  cases request with
  | addEvidence => exact hattachable
  | _ =>
      intro fields hfields
      cases hfields

@[simp]
theorem plan_targetState (config : Config) (taskId : Id) (request : TaskRequest)
    (task : Task) :
    ((request.plan config taskId).emission task).targetState = request.target := by
  cases request <;> rfl

def taskEventKinds : List String :=
  [eventTaskClaimed, eventTaskHeartbeat, eventTaskEvidence, eventTaskCompleted,
    eventTaskFailed, eventTaskApprovalRequested, eventTaskApprovalResolved,
    eventTaskInterrupted, eventTaskNote]

theorem plan_eventKind_mem (config : Config) (taskId : Id) (request : TaskRequest)
    (task : Task) :
    ((request.plan config taskId).emission task).eventKind ∈ taskEventKinds := by
  cases request <;>
    simp [TaskRequest.plan, taskEventKinds, claimPlan, heartbeatPlan, addEvidencePlan,
      completePlan, failPlan, requestApprovalPlan, resolveApprovalPlan, interruptPlan,
      addNotePlan]

theorem plan_closing_isSome (config : Config) (taskId : Id) (request : TaskRequest) :
    (request.plan config taskId).closing.isSome = request.closes := by
  cases request with
  | resolveApproval request =>
      cases hresolution : request.resolution <;>
        simp [TaskRequest.plan, resolveApprovalPlan, TaskRequest.closes, hresolution]
  | _ => rfl

theorem plan_closing_allowed {closing : Closing}
    (hclosing : (request.plan config taskId).closing = some closing) :
    closing.resolution ∈ allowedResolutions .task := by
  cases request with
  | complete =>
      cases hclosing
      simp [allowedResolutions]
  | fail =>
      cases hclosing
      simp [allowedResolutions]
  | resolveApproval =>
      simp only [TaskRequest.plan, resolveApprovalPlan] at hclosing
      split at hclosing
      · cases hclosing
        simp [allowedResolutions]
      · cases hclosing
  | _ => cases hclosing

theorem target_ne_closed (request : TaskRequest) : request.target ≠ some .closed := by
  cases request with
  | resolveApproval request =>
      cases hresolution : request.resolution <;> simp [TaskRequest.target, hresolution]
  | _ => simp [TaskRequest.target]

theorem target_of_closes (hcloses : request.closes = true) : request.target = none := by
  cases request with
  | resolveApproval request =>
      cases hresolution : request.resolution <;>
        simp_all [TaskRequest.target, TaskRequest.closes]
  | _ => simp_all [TaskRequest.target, TaskRequest.closes]

theorem statusAfter_of_closes (hcloses : request.closes = true) (status : TaskStatus) :
    (request.plan config taskId).operation.statusAfter status ∈
      [TaskStatus.completed, .failed] := by
  cases request with
  | complete => simp [TaskRequest.plan, completePlan, RemoteTask.Operation.statusAfter]
  | fail => simp [TaskRequest.plan, failPlan, RemoteTask.Operation.statusAfter]
  | resolveApproval request =>
      have hdenied : request.resolution = .denied := by simpa [TaskRequest.closes] using hcloses
      simp [TaskRequest.plan, resolveApprovalPlan, RemoteTask.Operation.statusAfter, hdenied,
        statusAfterResolution]
  | _ => simp [TaskRequest.closes] at hcloses

end OpsCure.Chat
