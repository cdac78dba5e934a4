/-
The kernel tasks that shadow the codex commands.  Two queues write the same rows: the kernel
by lease token and sweep, the command queue by plain status writes that ask for no lease.  Does
the shadow of a command say what the command says?
-/
import OpsCure.CommandOwnership

namespace OpsCure.KernelTask

open Fallible Table

/-! ## Tasks without a lease -/

def Task.Unleased (row : Task) : Prop :=
  row.leaseToken = none ∧ row.leaseExpiresAt = none

/-- The task a claim finds first among those its filters allow, once lapsed leases are back in
the queue. -/
def firstClaimable (db : Db) (request : ClaimRequest) (clock : Clock) : Option (Task × Nat) :=
  firstBy claimsBefore (selectWhere (isClaimable request) (releaseExpired db 1000 clock).rows)

def handed (db : Db) (call : Call) : Option String :=
  match call.operation with
  | .claimNext request _ =>
      if request.actorId ≠ "" ∧ 0 < request.leaseSeconds then
        (firstClaimable db request call.clock).map (·.1.id)
      else none
  | _ => none

def Call.cancelled (call : Call) : Option String :=
  match call.operation with
  | .cancel taskId _ => some taskId
  | _ => none

variable {db : Db} {taskId : String} {row : Task}

theorem get_releaseExpired_of_unleased (batchSize : Int) (clock : Clock)
    (hrow : db.get taskId = some row) (hunleased : row.Unleased) :
    (releaseExpired db batchSize clock).get taskId = some row := by
  have hkept : ¬ expiredAt (clock 0) row := by
    rw [expiredAt, hunleased.2]
    exact Bool.false_ne_true
  rw [releaseExpired, Db.get_change, hrow, Option.map_some, if_neg]
  exact fun hboth => hkept hboth.2

variable {drawn : String} {clock : Clock} {call : Call}

theorem enqueue_ok (request : EnqueueRequest) (hspace : request.spaceId ≠ "")
    (hkind : request.kind ≠ "")
    (hfree : db.get ((request.taskId.filter (· ≠ "")).getD drawn) = none) (clock : Clock) :
    ∃ after task, enqueue db request drawn clock = .ok after ∧
      after.rows = db.rows ++ [task] ∧ task.id = (request.taskId.filter (· ≠ "")).getD drawn ∧
      task.status = .queued ∧ task.Unleased := by
  have hnew : (request.taskId.filter (· ≠ "")).getD drawn ∉ db.rows.map (·.id) := by
    intro hmem
    obtain ⟨task, htask, hid⟩ := List.mem_map.mp hmem
    have hget := Db.get_of_mem htask
    rw [hid, hfree] at hget
    cases hget
  simp only [enqueue, require, if_pos hspace, if_pos hkind, dif_pos hnew]
  exact ⟨_, _, rfl, rfl, rfl, rfl, rfl, rfl⟩

theorem step_claimNext {request : ClaimRequest} (hactor : request.actorId ≠ "")
    (hlease : 0 < request.leaseSeconds) :
    step db ⟨.claimNext request drawn, clock⟩ =
      match firstClaimable db request clock with
      | none => releaseExpired db 1000 clock
      | some (row, _) => (releaseExpired db 1000 clock).modify row.id (fun row => { row with
          status := .claimed
          ownerActorId := some request.actorId
          leaseToken := some drawn
          leaseExpiresAt := some (clock 2 + seconds request.leaseSeconds)
          claimCount := row.claimCount + 1
          startedAt := row.startedAt.or (some (clock 2))
          updatedAt := clock 2 }) fun _ => rfl := by
  simp only [step, perform, claimNext, require, if_pos hactor, if_pos hlease, firstClaimable]
  cases hfirst : firstBy claimsBefore
      (selectWhere (isClaimable request) (releaseExpired db 1000 clock).rows) with
  | none => rfl
  | some => rfl

theorem handed_eq_some (hhanded : handed db call = some taskId) :
    ∃ request drawn row index, call.operation = .claimNext request drawn ∧
      request.actorId ≠ "" ∧ 0 < request.leaseSeconds ∧
      firstClaimable db request call.clock = some (row, index) ∧ row.id = taskId := by
  obtain ⟨operation, clock⟩ := call
  cases operation with
  | claimNext request drawn =>
      simp only [handed] at hhanded
      split at hhanded
      · rename_i hvalid
        obtain ⟨⟨row, index⟩, hfirst, hid⟩ := Option.map_eq_some_iff.mp hhanded
        exact ⟨request, drawn, row, index, rfl, hvalid.1, hvalid.2, hfirst, hid⟩
      · cases hhanded
  | enqueue | heartbeat | complete | fail | cancel | releaseExpiredLeases => cases hhanded

theorem claimed_of_handed (hhanded : handed db call = some taskId) :
    ∃ after, (step db call).get taskId = some after ∧ after.status = .claimed := by
  obtain ⟨request, drawn, row, index, hcall, hactor, hlease, hfirst, hid⟩ :=
    handed_eq_some hhanded
  obtain ⟨operation, clock⟩ := call
  cases hcall
  have hmem := List.mem_of_getElem? (firstBy_selectWhere hfirst).1
  have hget := Db.get_of_mem hmem
  rw [step_claimNext hactor hlease, hfirst, ← hid]
  exact ⟨_, Db.get_modify_self _ hget, rfl⟩

theorem queued_of_handed (hhanded : handed db call = some taskId)
    (hrow : db.get taskId = some row) (hunleased : row.Unleased) : row.status = .queued := by
  obtain ⟨request, drawn, found, index, hcall, _, _, hfirst, hid⟩ := handed_eq_some hhanded
  obtain ⟨hmem, hclaimable⟩ := firstBy_selectWhere hfirst
  have hget := Db.get_of_mem (List.mem_of_getElem? hmem)
  rw [hid, get_releaseExpired_of_unleased 1000 call.clock hrow hunleased] at hget
  rw [Option.some.inj hget]
  exact (of_decide_eq_true hclaimable).1

theorem cancel_self (reason : Option String) (clock : Clock)
    (hrow : db.get taskId = some row) (hlive : ¬ isTerminal row.status) :
    ∃ after, (cancel db taskId reason clock).get taskId = some after ∧
      after.status = .cancelled := by
  rw [cancel, hrow]
  simp only [hlive, Bool.false_eq_true, if_false]
  rw [Db.get_id hrow]
  exact ⟨_, Db.get_modify_self _ hrow, rfl⟩

theorem cancel_other {named : String} {reason : Option String} (hne : taskId ≠ named) :
    (cancel db named reason clock).get taskId = db.get taskId := by
  unfold cancel
  split
  · rfl
  · rename_i found hfound
    split
    · rfl
    · apply Db.get_modify_of_ne
      rw [Db.get_id hfound]
      exact hne

theorem claimNext_unleased {request : ClaimRequest} (hrow : db.get taskId = some row)
    (hunleased : row.Unleased)
    (hhanded : handed db ⟨.claimNext request drawn, clock⟩ ≠ some taskId) :
    (step db ⟨.claimNext request drawn, clock⟩).get taskId = some row := by
  have hswept := get_releaseExpired_of_unleased 1000 clock hrow hunleased
  by_cases hvalid : request.actorId ≠ "" ∧ 0 < request.leaseSeconds
  · rw [step_claimNext hvalid.1 hvalid.2]
    simp only [handed, if_pos hvalid] at hhanded
    cases hfirst : firstClaimable db request clock with
    | none => exact hswept
    | some found =>
        rw [hfirst] at hhanded
        have hother : taskId ≠ found.1.id := by
          intro hsame
          rw [hsame] at hhanded
          exact hhanded rfl
        rw [Db.get_modify_of_ne _ hother]
        exact hswept
  · have hrefused : step db ⟨.claimNext request drawn, clock⟩ = db := by
      simp only [step, perform, claimNext, require]
      by_cases hactor : request.actorId ≠ ""
      · have hlease : ¬ 0 < request.leaseSeconds := fun hlease => hvalid ⟨hactor, hlease⟩
        rw [if_pos hactor, if_neg hlease]
        rfl
      · rw [if_neg hactor]
        rfl
    rw [hrefused]
    exact hrow

theorem step_unleased (hrow : db.get taskId = some row) (hunleased : row.Unleased)
    (hhanded : handed db call ≠ some taskId)
    (hcancelled : call.cancelled = some taskId → isTerminal row.status) :
    (step db call).get taskId = some row := by
  cases hrecords : call.operation.records with
  | some recorded =>
      obtain ⟨named, leaseToken, record⟩ := recorded
      rcases step_of_records hrecords with
        ⟨hsame, _⟩ | ⟨found, _, hfound, htoken, _, _, hothers⟩
      · rw [hsame]
        exact hrow
      · by_cases hnamed : taskId = named
        · subst hnamed
          rw [hrow] at hfound
          rw [← Option.some.inj hfound, hunleased.1] at htoken
          cases htoken
        · rw [hothers taskId hnamed]
          exact hrow
  | none =>
      obtain ⟨operation, clock⟩ := call
      cases operation with
      | enqueue request drawn =>
          change (committed db (enqueue db request drawn clock)).get taskId = some row
          rcases hadded : enqueue db request drawn clock with error | after
          · exact hrow
          · exact get_enqueue hadded hrow
      | claimNext => exact claimNext_unleased hrow hunleased hhanded
      | heartbeat =>
          rw [step_of_bad_heartbeat hrecords]
          exact hrow
      | complete => cases hrecords
      | fail => cases hrecords
      | cancel named reason =>
          change (cancel db named reason clock).get taskId = some row
          by_cases hnamed : taskId = named
          · subst hnamed
            exact get_cancel_of_terminal reason clock hrow (hcancelled rfl)
          · rw [cancel_other hnamed]
            exact hrow
      | releaseExpiredLeases batchSize =>
          exact get_releaseExpired_of_unleased batchSize clock hrow hunleased

end OpsCure.KernelTask

namespace OpsCure.RemoteCodex

open Fallible Table Run RemoteCommand KernelTask

/-! ## Two queues over one table -/

/-- A request to the command queue, or a call of the kernel task service. -/
inductive Deed where
  | command (call : RemoteCommand.Call Address)
  | kernel (call : KernelTask.Call)

variable (render : Json → String)

def mirrorStep (queue : Queue Address) : Deed → Queue Address
  | .command call => RemoteCommand.step (behavior render) queue call
  | .kernel call => { queue with tasks := KernelTask.step queue.tasks call }

def corresponds : CommandStatus → TaskStatus → Bool
  | .queued, .queued => true
  | .running, .claimed => true
  | .running, .executing => true
  | .completed, .completed => true
  | .failed, .failed => true
  | _, _ => false

def InStep (queue : Queue Address) : Prop :=
  ∀ (commandId : Id) (row : Command Address), queue.commands[commandId]? = some row →
    ∃ task, queue.tasks.get (taskKey commandId) = some task ∧ corresponds row.status task.status

def handedOut (queue : Queue Address) : Deed → Option String
  | .command _ => none
  | .kernel call => handed queue.tasks call

/-- The deed takes no running command from its worker: it neither hands its task to a kernel
worker nor puts it back into the kernel's queue. -/
def LeavesRunning (queue : Queue Address) (deed : Deed) : Prop :=
  ∀ (commandId : Id) (row : Command Address), queue.commands[commandId]? = some row →
    row.status = .running →
      handedOut queue deed ≠ some (taskKey commandId) ∧
      ∀ task, (mirrorStep render queue deed).tasks.get (taskKey commandId) = some task →
        task.status ≠ .queued

/-- The tasks shadow the commands in every state of a run, and no step of it takes a running
command from its worker. -/
structure Shadowed (deeds : List Deed) : Prop where
  statuses : Throughout (mirrorStep render) InStep (Queue.empty Address) deeds
  running : Along (mirrorStep render) (LeavesRunning render) (Queue.empty Address) deeds

/-- The id a new command draws is the id of no task. -/
def DrawsFresh (queue : Queue Address) : Deed → Prop
  | .command ⟨.enqueue _, _⟩ => queue.tasks.get (taskKey queue.commands.length) = none
  | _ => True

instance decidableDrawsFresh (queue : Queue Address) :
    (deed : Deed) → Decidable (DrawsFresh queue deed)
  | .command ⟨.enqueue _, _⟩ =>
      inferInstanceAs (Decidable (queue.tasks.get (taskKey queue.commands.length) = none))
  | .command ⟨.claim .., _⟩ | .command ⟨.complete .., _⟩ | .command ⟨.fail .., _⟩
  | .kernel _ => .isTrue trivial

/-- A kernel worker finds the task of a waiting command first, or the task of a command that
has not ended is cancelled. -/
def Meddles (queue : Queue Address) : Deed → Prop
  | .command _ => False
  | .kernel call => ∃ (commandId : Id) (row : Command Address),
      queue.commands[commandId]? = some row ∧
        (row.status = .queued ∧ handed queue.tasks call = some (taskKey commandId) ∨
          (row.status = .queued ∨ row.status = .running) ∧
            call.cancelled = some (taskKey commandId))

/-- The tasks of the commands are in step, and nobody holds a lease on one. -/
def Untouched (queue : Queue Address) : Prop :=
  ∀ (commandId : Id) (row : Command Address), queue.commands[commandId]? = some row →
    ∃ task, queue.tasks.get (taskKey commandId) = some task ∧
      corresponds row.status task.status ∧ task.Unleased

/-! ## What the mirror writes -/

theorem taskKey_inj {one other : Id} (hsame : taskKey one = taskKey other) : one = other := by
  have hdigits : Nat.toDigits 10 one = Nat.toDigits 10 other := by
    have htexts := congrArg String.toList hsame
    rwa [taskKey, taskKey, Nat.toString_eq_repr, Nat.toString_eq_repr, Nat.toList_repr,
      Nat.toList_repr] at htexts
  have hread := congrArg (Nat.ofDigitChars 10 · 0) hdigits
  simp only [Nat.ofDigitChars_ten_toDigits] at hread
  exact hread

def transitionStatus : Transition → TaskStatus
  | .claimed => .claimed
  | .completed _ => .completed
  | .failed _ => .failed

variable {tasks : KernelTask.Db} {commandId : Id} {deed : Deed}

theorem mirrorCommandTransition_self {task : Task}
    (htask : tasks.get (taskKey commandId) = some task) (hunleased : task.Unleased)
    (row : Command Address) (transition : Transition) (now : Time) :
    ∃ after, (mirrorCommandTransition tasks commandId row transition now).get
        (taskKey commandId) = some after ∧
      after.status = transitionStatus transition ∧ after.Unleased := by
  refine ⟨_, Db.get_modify_self _ htask, ?_⟩
  obtain ⟨htoken, hlease⟩ := hunleased
  cases transition with
  | claimed => exact ⟨rfl, htoken, hlease⟩
  | completed result =>
      cases result with
      | null => exact ⟨rfl, htoken, hlease⟩
      | _ => exact ⟨rfl, htoken, rfl⟩
  | failed => exact ⟨rfl, htoken, rfl⟩

theorem mirrorCommandTransition_other {other : Id} (hother : commandId ≠ other)
    (row : Command Address) (transition : Transition) (now : Time) :
    (mirrorCommandTransition tasks commandId row transition now).get (taskKey other) =
      tasks.get (taskKey other) :=
  Db.get_modify_of_ne _ fun hsame => hother (taskKey_inj hsame).symm

theorem mirrorCommandEnqueue_spec (hfree : tasks.get (taskKey commandId) = none)
    (row : Command Address) (clock : Clock) :
    (∃ task, (mirrorCommandEnqueue render tasks commandId row clock).get (taskKey commandId) =
        some task ∧ task.status = .queued ∧ task.Unleased) ∧
      ∀ taskId task, tasks.get taskId = some task →
        (mirrorCommandEnqueue render tasks commandId row clock).get taskId = some task := by
  obtain ⟨request, hmirror, hspaceId, hkind, htaskId⟩ : ∃ request : KernelTask.EnqueueRequest,
      mirrorCommandEnqueue render tasks commandId row clock =
        committed tasks (KernelTask.enqueue tasks request (taskKey commandId) clock) ∧
      request.spaceId = remoteCodexMachineSpaceId row.machineId ∧
      request.kind = remoteCodexCommandKind ∧ request.taskId = some (taskKey commandId) :=
    ⟨_, rfl, rfl, rfl, rfl⟩
  have hspace : request.spaceId ≠ "" := by
    intro hempty
    have hprefix := (String.append_eq_empty_iff.mp (hspaceId.symm.trans hempty)).1
    revert hprefix
    decide
  have hnamed : request.kind ≠ "" := by
    rw [hkind]
    decide
  have hkey : (request.taskId.filter (· ≠ "")).getD (taskKey commandId) = taskKey commandId := by
    rw [htaskId, Option.filter_some]
    split
    · rfl
    · rfl
  rw [← hkey] at hfree
  obtain ⟨after, task, hadded, hrows, hid, hqueued, hunleased⟩ :=
    KernelTask.enqueue_ok request hspace hnamed hfree clock
  rw [hkey] at hid
  rw [hmirror, hadded, committed_ok]
  constructor
  · refine ⟨task, ?_, hqueued, hunleased⟩
    have hmem : task ∈ after.rows := by
      rw [hrows]
      exact List.mem_concat_self
    rw [← hid]
    exact Db.get_of_mem hmem
  · intro taskId found hfound
    have hstands : tasks.rows.find? (·.id = taskId) = some found := hfound
    rw [Db.get, hrows, List.find?_append, hstands]
    rfl

/-! ## What a deed does to the shadows -/

variable {render} {queue : Queue Address}

theorem Untouched.follow (huntouched : Untouched queue) {row moved : Command Address}
    {transition : Transition} {now : Time} (hrow : queue.commands[commandId]? = some row)
    (hstatus : corresponds moved.status (transitionStatus transition)) :
    Untouched
      { commands := update queue.commands commandId moved
        tasks := mirrorCommandTransition queue.tasks commandId moved transition now } := by
  intro other found hfound
  by_cases hsame : commandId = other
  · subst hsame
    obtain ⟨task, htask, _, hunleased⟩ := huntouched commandId row hrow
    obtain ⟨after, hafter, hmoved, hfree⟩ :=
      mirrorCommandTransition_self htask hunleased moved transition now
    have hnow : found = moved :=
      (Option.some.inj ((getElem?_update_self hrow).symm.trans hfound)).symm
    refine ⟨after, hafter, ?_, hfree⟩
    rw [hnow, hmoved]
    exact hstatus
  · have hstood := (getElem?_update_of_ne hsame).symm.trans hfound
    obtain ⟨task, htask, hstatus, hfree⟩ := huntouched other found hstood
    exact ⟨task, (mirrorCommandTransition_other hsame moved transition now).trans htask,
      hstatus, hfree⟩

theorem Untouched.command (huntouched : Untouched queue) {call : RemoteCommand.Call Address}
    (hfresh : DrawsFresh queue (.command call)) :
    Untouched (mirrorStep render queue (.command call)) := by
  obtain ⟨operation, clock⟩ := call
  cases operation with
  | enqueue =>
      intro commandId row hrow
      have hmirror := mirrorCommandEnqueue_spec render hfresh
      rcases getElem?_concat_eq_some hrow with hstood | ⟨hid, hadded⟩
      · obtain ⟨task, htask, hstatus, hunleased⟩ := huntouched commandId row hstood
        exact ⟨task, (hmirror _ _).2 _ task htask, hstatus, hunleased⟩
      · obtain ⟨task, htask, hqueued, hunleased⟩ := (hmirror _ _).1
        subst hid
        refine ⟨task, htask, ?_, hunleased⟩
        rw [hadded, hqueued]
        rfl
  | claim machineId =>
      simp only [mirrorStep, RemoteCommand.step, RemoteCommand.perform, RemoteCommand.claimNext,
        committed_ok]
      cases hnext : nextQueued queue machineId with
      | none => exact huntouched
      | some => exact huntouched.follow (firstBy_selectWhere hnext).1 rfl
  | complete commandId =>
      simp only [mirrorStep, RemoteCommand.step, RemoteCommand.perform, RemoteCommand.complete]
      cases hrow : queue.commands[commandId]? with
      | none => exact huntouched
      | some => exact huntouched.follow hrow rfl
  | fail commandId =>
      simp only [mirrorStep, RemoteCommand.step, RemoteCommand.perform, RemoteCommand.fail]
      cases hrow : queue.commands[commandId]? with
      | none => exact huntouched
      | some => exact huntouched.follow hrow rfl

theorem corresponds_ended {status : CommandStatus} {taskStatus : TaskStatus}
    (hstatus : corresponds status taskStatus) :
    isTerminal taskStatus ↔ ¬ (status = .queued ∨ status = .running) := by
  cases status <;> cases taskStatus <;> simp_all [corresponds, isTerminal]

theorem Untouched.kernel (huntouched : Untouched queue) {call : KernelTask.Call}
    (hspared : ¬ Meddles queue (.kernel call)) :
    ∀ (commandId : Id) (row : Command Address), queue.commands[commandId]? = some row →
      handed queue.tasks call ≠ some (taskKey commandId) ∧
      (KernelTask.step queue.tasks call).get (taskKey commandId) =
        queue.tasks.get (taskKey commandId) := by
  intro commandId row hrow
  obtain ⟨task, htask, hstatus, hunleased⟩ := huntouched commandId row hrow
  have hhanded : handed queue.tasks call ≠ some (taskKey commandId) := by
    intro hhanded
    have hqueued := queued_of_handed hhanded htask hunleased
    have hwaits : row.status = .queued := by
      rw [hqueued] at hstatus
      cases hcase : row.status with
      | queued => rfl
      | running | completed | failed =>
          rw [hcase] at hstatus
          cases hstatus
    exact hspared ⟨commandId, row, hrow, Or.inl ⟨hwaits, hhanded⟩⟩
  refine ⟨hhanded, ?_⟩
  rw [htask]
  apply step_unleased htask hunleased hhanded
  intro hcancelled
  apply (corresponds_ended hstatus).mpr
  intro hlive
  exact hspared ⟨commandId, row, hrow, Or.inr ⟨hlive, hcancelled⟩⟩

theorem Untouched.step (huntouched : Untouched queue) (hfresh : DrawsFresh queue deed)
    (hspared : ¬ Meddles queue deed) : Untouched (mirrorStep render queue deed) := by
  cases deed with
  | command => exact huntouched.command hfresh
  | kernel =>
      intro commandId row hrow
      obtain ⟨task, htask, hstatus, hunleased⟩ := huntouched commandId row hrow
      have hsame := (huntouched.kernel hspared commandId row hrow).2
      exact ⟨task, hsame.trans htask, hstatus, hunleased⟩

theorem Untouched.inStep (huntouched : Untouched queue) : InStep queue := by
  intro commandId row hrow
  obtain ⟨task, htask, hstatus, _⟩ := huntouched commandId row hrow
  exact ⟨task, htask, hstatus⟩

theorem step_not_queued {α : Type} (behavior : Behavior α) {queue : Queue α}
    (call : RemoteCommand.Call α) {row : Command α} (hrow : queue.commands[commandId]? = some row)
    (hleft : row.status ≠ .queued) :
    ∃ after, (RemoteCommand.step behavior queue call).commands[commandId]? = some after ∧
      after.status ≠ .queued := by
  have hchange : Change behavior queue _ _ := change_step queue call
  generalize RemoteCommand.step behavior queue call = next at hchange ⊢
  generalize deeds behavior queue call = happened at hchange
  cases hchange with
  | none hsame =>
      rw [hsame]
      exact ⟨row, hrow, hleft⟩
  | added added hstatus hcommands =>
      rw [hcommands, List.getElem?_append_left (List.getElem?_eq_some_iff.mp hrow).1]
      exact ⟨row, hrow, hleft⟩
  | handed other worker old claimed hold hqueued hclaimed hcommands =>
      rw [hcommands]
      by_cases hsame : other = commandId
      · subst hsame
        refine ⟨claimed, getElem?_update_self hold, ?_⟩
        rw [hclaimed.1]
        exact nofun
      · exact ⟨row, (getElem?_update_of_ne hsame).trans hrow, hleft⟩
  | settled other worker old ended hold hended hcommands =>
      rw [hcommands]
      by_cases hsame : other = commandId
      · subst hsame
        refine ⟨ended, getElem?_update_self hold, ?_⟩
        rcases hended with hstatus | hstatus
        · rw [hstatus]
          exact nofun
        · rw [hstatus]
          exact nofun
      · exact ⟨row, (getElem?_update_of_ne hsame).trans hrow, hleft⟩

theorem Untouched.leavesRunning (huntouched : Untouched queue) (hfresh : DrawsFresh queue deed)
    (hspared : ¬ Meddles queue deed) : LeavesRunning render queue deed := by
  intro commandId row hrow hruns
  cases deed with
  | command call =>
      refine ⟨nofun, ?_⟩
      intro task htask hqueued
      have hleft : row.status ≠ .queued := by
        rw [hruns]
        exact nofun
      obtain ⟨after, hafter, hmoved⟩ := step_not_queued (behavior render) call hrow hleft
      obtain ⟨found, hfound, hstatus, _⟩ := huntouched.command hfresh commandId after hafter
      have hstands : task = found := Option.some.inj (htask.symm.trans hfound)
      rw [← hstands, hqueued] at hstatus
      cases hcase : after.status with
      | queued => exact hmoved hcase
      | running | completed | failed =>
          rw [hcase] at hstatus
          cases hstatus
  | kernel =>
      obtain ⟨hkept, hsame⟩ := huntouched.kernel hspared commandId row hrow
      refine ⟨hkept, ?_⟩
      intro task htask hqueued
      obtain ⟨found, hfound, hstatus, _⟩ := huntouched commandId row hrow
      have hstands : task = found := Option.some.inj (htask.symm.trans (hsame.trans hfound))
      rw [hruns, ← hstands, hqueued] at hstatus
      cases hstatus

theorem Untouched.outOfStep (huntouched : Untouched queue) (hmeddles : Meddles queue deed) :
    ¬ InStep (mirrorStep render queue deed) := by
  cases deed with
  | command => exact hmeddles.elim
  | kernel call =>
      obtain ⟨commandId, row, hrow, hwhich⟩ := hmeddles
      intro hinStep
      obtain ⟨after, hafter, hstatus⟩ := hinStep commandId row hrow
      rcases hwhich with ⟨hqueued, hhanded⟩ | ⟨hlive, hcancelled⟩
      · obtain ⟨claimed, hclaimed, hnow⟩ := claimed_of_handed hhanded
        have hsame : after = claimed := Option.some.inj (hafter.symm.trans hclaimed)
        rw [hqueued, hsame, hnow] at hstatus
        cases hstatus
      · obtain ⟨task, htask, hstood, _⟩ := huntouched commandId row hrow
        have hopen : ¬ isTerminal task.status := by
          intro hended
          exact (corresponds_ended hstood).mp hended hlive
        obtain ⟨operation, clock⟩ := call
        cases operation with
        | cancel taskId reason =>
            cases hcancelled
            obtain ⟨gone, hgone, hnow⟩ := cancel_self reason clock htask hopen
            have hsame : after = gone := Option.some.inj (hafter.symm.trans hgone)
            rw [hsame, hnow] at hstatus
            cases hcase : row.status with
            | queued | running | completed | failed =>
                rw [hcase] at hstatus
                cases hstatus
        | enqueue | claimNext | heartbeat | complete | fail | releaseExpiredLeases =>
            cases hcancelled

/-! ## The theorem -/

theorem Untouched.step_iff (huntouched : Untouched queue) (hfresh : DrawsFresh queue deed) :
    InStep (mirrorStep render queue deed) ∧ LeavesRunning render queue deed ↔
      ¬ Meddles queue deed := by
  constructor
  · intro hkept hmeddles
    exact huntouched.outOfStep hmeddles hkept.1
  · intro hspared
    exact ⟨(huntouched.step hfresh hspared).inStep, huntouched.leavesRunning hfresh hspared⟩

/-- From empty queues, whatever workers of the two do in whatever order: the tasks shadow the
commands all along, and no running command is handed to a kernel worker or put back into the
kernel's queue, exactly when no kernel worker finds the task of a waiting command first among
those its filters allow, and none cancels the task of a command that has not ended. -/
theorem shadowed_iff (render : Json → String) (deeds : List Deed)
    (hfresh : Along (mirrorStep render) DrawsFresh (Queue.empty Address) deeds) :
    Shadowed render deeds ↔
      Along (mirrorStep render) (fun queue deed => ¬ Meddles queue deed) (Queue.empty Address)
        deeds := by
  have hstart : Untouched (Queue.empty Address) := by
    intro commandId row hrow
    cases hrow
  have hsplit : Shadowed render deeds ↔ Along (mirrorStep render) (fun queue deed =>
      DrawsFresh queue deed ∧
        (InStep (mirrorStep render queue deed) ∧ LeavesRunning render queue deed))
      (Queue.empty Address) deeds := by
    constructor
    · intro hshadowed done deed hdeed
      have hnext := hshadowed.statuses (done ++ [deed]) hdeed
      rw [run_concat] at hnext
      exact ⟨hfresh done deed hdeed, hnext, hshadowed.running done deed hdeed⟩
    · intro hall
      refine ⟨throughout_of_preserved hstart.inStep ?_, ?_⟩
      · exact fun done deed hdeed _ => (hall done deed hdeed).2.1
      · exact fun done deed hdeed => (hall done deed hdeed).2.2
  have hsame : ∀ queue deed, Untouched queue →
      (DrawsFresh queue deed ∧
          (InStep (mirrorStep render queue deed) ∧ LeavesRunning render queue deed) ↔
        DrawsFresh queue deed ∧ ¬ Meddles queue deed) := by
    intro queue deed huntouched
    constructor
    · exact fun hkept => ⟨hkept.1, (huntouched.step_iff hkept.1).mp hkept.2⟩
    · exact fun hspared => ⟨hspared.1, (huntouched.step_iff hspared.1).mpr hspared.2⟩
  rw [hsplit, along_iff_along_under hstart hsame]
  · constructor
    · exact fun hall done deed hdeed => (hall done deed hdeed).2
    · exact fun hall done deed hdeed => ⟨hfresh done deed hdeed, hall done deed hdeed⟩
  · intro queue deed huntouched hkept
    exact huntouched.step hkept.1 ((hsame queue deed huntouched).mp hkept).2

def filteredRun : List Deed :=
  [.command ⟨.enqueue { commandType := "turn.start", machineId := "m", address := ⟨"t", none, none⟩
                        prompt := none, requestedBy := .null }, fun _ => 0⟩,
    .kernel ⟨.claimNext { spaceId := none, kinds := ["chat.task"], actorId := "kernel"
                          leaseSeconds := 60 } "token", fun _ => 1⟩,
    .command ⟨.claim "m" "worker", fun _ => 2⟩,
    .command ⟨.complete 0 "worker" (.obj []), fun _ => 3⟩]

theorem filtered_run_shadowed_iff : Shadowed (fun _ => "") filteredRun ↔
    Along (mirrorStep fun _ => "") (fun queue deed => ¬ Meddles queue deed) (Queue.empty Address)
      filteredRun :=
  shadowed_iff (fun _ => "") filteredRun (by decide)

/-- A command whose task a kernel worker claims before the command's own worker does; then a
second kernel worker asks, once the lease of the first has run out. -/
def doubleRun : List Deed :=
  [.command ⟨.enqueue { commandType := "turn.start", machineId := "m", address := ⟨"t", none, none⟩
                        prompt := none, requestedBy := .null }, fun _ => 0⟩,
    .kernel ⟨.claimNext { spaceId := none, kinds := [], actorId := "kernel"
                          leaseSeconds := 60 } "token", fun _ => 1⟩,
    .command ⟨.claim "m" "worker", fun _ => 2⟩,
    .kernel ⟨.claimNext { spaceId := none, kinds := [], actorId := "other"
                          leaseSeconds := 60 } "next", fun _ => seconds 100⟩]

/-- The task is claimed while its command waits; and the lease that is left on it when the
command runs lets the sweep of the second claim hand the task out again. -/
theorem running_command_handed_out :
    Along (mirrorStep fun _ => "") DrawsFresh (Queue.empty Address) doubleRun ∧
      ¬ Throughout (mirrorStep fun _ => "") InStep (Queue.empty Address) doubleRun ∧
      ¬ Along (mirrorStep fun _ => "") (LeavesRunning fun _ => "") (Queue.empty Address)
        doubleRun := by
  refine ⟨by decide, ?_, ?_⟩
  · intro hstatuses
    have hwaits : ((run (mirrorStep fun _ => "") (Queue.empty Address)
        (doubleRun.take 2)).commands[0]?).map (·.status) = some .queued := by decide
    have hclaimed : ((run (mirrorStep fun _ => "") (Queue.empty Address)
        (doubleRun.take 2)).tasks.get (taskKey 0)).map (·.status) = some .claimed := by
      decide
    obtain ⟨row, hrow, hqueued⟩ := Option.map_eq_some_iff.mp hwaits
    obtain ⟨task, htask, hstatus⟩ := hstatuses _ (List.take_prefix 2 doubleRun) 0 row hrow
    rw [htask, Option.map_some] at hclaimed
    rw [hqueued, Option.some.inj hclaimed] at hstatus
    cases hstatus
  · intro hrunning
    have hruns : ((run (mirrorStep fun _ => "") (Queue.empty Address)
        (doubleRun.take 3)).commands[0]?).map (·.status) = some .running := by decide
    have hhanded : doubleRun[3]?.bind (handedOut (run (mirrorStep fun _ => "")
        (Queue.empty Address) (doubleRun.take 3))) = some (taskKey 0) := by decide
    obtain ⟨row, hrow, hstatus⟩ := Option.map_eq_some_iff.mp hruns
    exact (hrunning (doubleRun.take 3) _ List.prefix_rfl 0 row hrow hstatus).1 hhanded

end OpsCure.RemoteCodex
