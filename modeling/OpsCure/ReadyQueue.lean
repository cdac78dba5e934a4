/-
The queue of ready tasks (`_claim_ready_task_job`, `_can_self_claim_task`,
`_synchronize_completed_task`).  Does work that can be claimed get claimed?  The oldest handoff is
picked by the scopes of its task, and the state of the task is looked at afterwards: a queued handoff
of a task that is not ready hides all that is queued behind it.  Such a handoff is left over when a
job ends whose task has been handed off meanwhile.
-/
import OpsCure.HandoffLedger

namespace OpsCure.SessionService

open Fallible Run Table

/-! ## What can be claimed -/

structure Claimable (s : State) (agent : AgentRow) (id : Id) (handoff : HandoffRow)
    (task : TaskRow) : Prop where
  row : s.handoffs[id]? = some handoff
  queued : handoff.state = .queued
  epoch : handoff.sessionEpoch = s.session.sessionEpoch
  addressed : handoff.targetAgent = agent.agentName ∨ handoff.targetRole = agent.role ∨
    handoff.targetRole = agent.agentName
  found : s.tasks[handoff.taskId]? = some task
  ready : task.state.isReady
  free : ∀ (other : Id) (active : TaskRow), s.tasks[other]? = some active →
    active.state = .inProgress → ¬ scopesOverlap task active

structure GivesOut (session : SessionRow) : Prop where
  opened : session.status ≠ .closed
  resumed : session.desiredStatus ≠ .paused
  launched : session.status ∉ [.paused, .awaitingLauncher, .wakingExecutionPlane]

/-- An agent without a job, below the parallel limit, for which there is a claimable handoff gets a
job for a claimable handoff. -/
def NoBlocking (s : State) : Prop :=
  ∀ (agent : AgentRow) (workerId leaseToken : String) (policy : Option Nat) (now : Time),
    s.agents.find? (·.agentName = agent.agentName) = some agent →
    (∀ job ∈ s.jobs, job.agentName = agent.agentName → ¬ job.live) →
    activeJobCount s.jobs < maxParallelAgents policy s.agents →
    (∃ id handoff task, Claimable s agent id handoff task) →
    ∃ after jobId job id handoff task,
      claimNextJob s agent.agentName workerId leaseToken policy now = .ok (after, some jobId) ∧
      after.jobs[jobId]? = some job ∧ job.agentName = agent.agentName ∧
      job.status = .inProgress ∧ job.handoffId = some id ∧ job.taskId = some handoff.taskId ∧
      Claimable s agent id handoff task

/-! ## What leaves a handoff over -/

def offeredMeanwhile (s : State) (job : JobRow) : Bool :=
  s.handoffs.zipIdx.any fun handoff =>
    job.taskId = some handoff.1.taskId ∧ handoff.1.state = .queued ∧
      job.handoffId ≠ some handoff.2

def handsBack (s : State) (deed : Deed) (job : JobRow) : Bool :=
  (job.taskId.bind (s.tasks[·]?)).any fun task =>
    (deed.requests s).any (·.taskId = task.taskKey)

def Operation.isReset : Operation → Bool
  | .resetSession => true
  | _ => false

/-- A report that ends a job for good finds no other handoff of its task in the queue, and a reset
finds the tasks of claimed handoffs ready or in progress. -/
structure LeavesNone (s : State) (deed : Deed) : Prop where
  reports : ∀ report ∈ deed.report?, ∀ job ∈ s.acceptedJob report,
    offeredMeanwhile s job → handsBack s deed job
  resets : deed.operation.isReset → ∀ handoff ∈ s.handoffs, handoff.state = .claimed →
    (s.tasks[handoff.taskId]?).all fun task => task.state.isReady ∨ task.state = .inProgress

/-! ## What is queued is ready -/

structure Lined (s : State) : Prop where
  tasks : ∀ (id : Id) (task : TaskRow), s.tasks[id]? = some task →
    task.sessionEpoch = s.session.sessionEpoch
  sole : ∀ (id other : Id) (handoff rival : HandoffRow), s.handoffs[id]? = some handoff →
    s.handoffs[other]? = some rival → handoff.live → rival.live →
    handoff.taskId = rival.taskId → id = other
  ready : ∀ (id : Id) (handoff : HandoffRow) (task : TaskRow), s.handoffs[id]? = some handoff →
    handoff.state = .queued → s.tasks[handoff.taskId]? = some task → task.state.isReady

theorem lined_start (profiles : List (String × String)) (now : Time) :
    Lined (State.start profiles now) where
  tasks := by
    intro id task htask
    cases htask
  sole := by
    intro id other handoff rival hhandoff
    cases hhandoff
  ready := by
    intro id handoff task hhandoff
    cases hhandoff

variable {s t u : State} {request : HandoffRequest} {id : Id} {row handoff : HandoffRow}
  {task : TaskRow} {agent : AgentRow}

theorem Lined.same (hlined : Lined s) (htasks : t.tasks = s.tasks)
    (hhandoffs : t.handoffs = s.handoffs)
    (hepoch : t.session.sessionEpoch = s.session.sessionEpoch) : Lined t := by
  refine ⟨?_, ?_, ?_⟩
  · rw [htasks, hepoch]
    exact hlined.tasks
  · rw [hhandoffs]
    exact hlined.sole
  · rw [htasks, hhandoffs]
    exact hlined.ready

theorem Lined.leaves (hlined : Lined s) (hleaves : Leaves s t) : Lined t :=
  hlined.same hleaves.tasks hleaves.handoffs hleaves.epoch

/-! ## Handing off -/

/-- A turn of `_queue_handoffs` that is no duplicate: one task is ready, of the epoch, and has the
new handoff alone; the others are as they were. -/
structure Requeues (s : State) (request : HandoffRequest) (task : TaskRow) (handoff : HandoffRow)
    (t : State) : Prop where
  session : t.session = s.session
  found : t.tasks[handoff.taskId]? = some task
  key : task.taskKey = request.taskId
  ready : task.state.isReady
  epoch : task.sessionEpoch = s.session.sessionEpoch
  others : ∀ id, id ≠ handoff.taskId → t.tasks[id]? = s.tasks[id]?
  queued : handoff.state = .queued
  handoffs : t.handoffs = supersede s.handoffs handoff.taskId ++ [handoff]

theorem HandsOff.requeues (hturn : HandsOff s request t) :
    t = s ∨ ∃ task handoff, Requeues s request task handoff t := by
  cases hturn with
  | duplicate => exact Or.inl rfl
  | fresh role now handoff hfind hqueued htask hepoch =>
      refine Or.inr ⟨(blankTask request.taskId).handedOff request role s.session.sessionEpoch now,
        handoff, ⟨rfl, ?_, rfl, rfl, rfl, ?_, hqueued, ?_⟩⟩
      · rw [htask]
        exact List.getElem?_concat_length
      · intro id hother
        rw [htask] at hother
        change (s.tasks ++ [_])[id]? = _
        by_cases hlt : id < s.tasks.length
        · exact List.getElem?_append_left hlt
        · have hpast : s.tasks.length < id :=
            Nat.lt_of_le_of_ne (Nat.not_lt.mp hlt) (Ne.symm hother)
          rw [List.getElem?_eq_none (Nat.le_of_lt hpast), List.getElem?_eq_none]
          rw [List.length_append, List.length_singleton]
          omega
      · rw [htask]
  | again task taskId role now handoff hfind hnew hqueued htask =>
      obtain ⟨hrow, hkey⟩ := findTask_eq_some hfind
      subst htask
      exact Or.inr ⟨_, handoff, ⟨rfl, getElem?_update_self hrow, hkey, rfl, rfl,
        fun id hother => getElem?_update_of_ne (Ne.symm hother), hqueued, rfl⟩⟩

variable {taskId : Id} {done : List HandoffRequest} {state : HandoffState} {job : JobRow}
  {deed : Deed}

theorem live_of_supersede {handoffs : List HandoffRow}
    (hrow : (supersede handoffs taskId)[id]? = some row) (hlive : row.live) :
    handoffs[id]? = some row ∧ row.taskId ≠ taskId := by
  obtain ⟨old, hold, hsame⟩ := Option.map_eq_some_iff.mp ((List.getElem?_map ..).symm.trans hrow)
  split at hsame
  · rw [← hsame] at hlive
    cases hlive
  · rename_i hother
    rw [hsame] at hold hother
    refine ⟨hold, ?_⟩
    intro htask
    exact hother (HandoffRow.liveFor_iff.2 ⟨htask, hlive⟩)

theorem Requeues.live (hturn : Requeues s request task handoff t)
    (hrow : t.handoffs[id]? = some row) (hlive : row.live) :
    s.handoffs[id]? = some row ∧ row.taskId ≠ handoff.taskId ∨
      id = (supersede s.handoffs handoff.taskId).length ∧ row = handoff := by
  rw [hturn.handoffs] at hrow
  rcases getElem?_concat_eq_some hrow with hold | hnew
  · exact Or.inl (live_of_supersede hold hlive)
  · exact Or.inr hnew

theorem Lined.requeues (hlined : Lined s) (hturn : Requeues s request task handoff t) :
    Lined t := by
  refine ⟨?_, ?_, ?_⟩
  · intro id row hrow
    rw [hturn.session]
    by_cases hid : id = handoff.taskId
    · rw [hid, hturn.found] at hrow
      rw [← Option.some.inj hrow]
      exact hturn.epoch
    · rw [hturn.others id hid] at hrow
      exact hlined.tasks id row hrow
  · intro id other row rival hrow hrival hlive hlives hsame
    rcases hturn.live hrow hlive with ⟨hold, hother⟩ | ⟨hid, hnew⟩
    · rcases hturn.live hrival hlives with ⟨hpast, _⟩ | ⟨_, hnew⟩
      · exact hlined.sole id other row rival hold hpast hlive hlives hsame
      · rw [hsame, hnew] at hother
        exact absurd rfl hother
    · rcases hturn.live hrival hlives with ⟨_, hother⟩ | ⟨hlast, _⟩
      · rw [← hsame, hnew] at hother
        exact absurd rfl hother
      · rw [hid, hlast]
  · intro id row found hrow hqueued hfound
    rcases hturn.live hrow (HandoffRow.live_of_queued hqueued) with ⟨hold, hother⟩ | ⟨_, hnew⟩
    · rw [hturn.others _ hother] at hfound
      exact hlined.ready id row found hold hqueued hfound
    · rw [hnew, hturn.found] at hfound
      rw [← Option.some.inj hfound]
      exact hturn.ready

/-- While handoffs are queued: what is queued is ready, and a task that none of them has named is
as it was, with the handoffs that were queued for it. -/
structure Requeueing (s : State) (done : List HandoffRequest) (u : State) : Prop where
  lined : Lined u
  unnamed : ∀ (taskId : Id) (task : TaskRow), u.tasks[taskId]? = some task →
    (∀ request ∈ done, request.taskId ≠ task.taskKey) → s.tasks[taskId]? = some task ∧
      ∀ (id : Id) (row : HandoffRow), u.handoffs[id]? = some row → row.state = .queued →
        row.taskId = taskId → s.handoffs[id]? = some row

theorem Requeueing.turn {v : State} (hqueueing : Requeueing s done u)
    (hturn : HandsOff u request v) : Requeueing s (done ++ [request]) v := by
  rcases hturn.requeues with rfl | ⟨task, handoff, hrequeues⟩
  · refine ⟨hqueueing.lined, ?_⟩
    intro taskId task htask hunnamed
    apply hqueueing.unnamed taskId task htask
    intro other hother
    exact hunnamed other (List.mem_append_left _ hother)
  · refine ⟨hqueueing.lined.requeues hrequeues, ?_⟩
    intro taskId found hfound hunnamed
    have hne : taskId ≠ handoff.taskId := by
      intro hsame
      rw [hsame, hrequeues.found] at hfound
      apply hunnamed request (List.mem_append_right _ (List.mem_singleton_self _))
      rw [← Option.some.inj hfound, hrequeues.key]
    rw [hrequeues.others taskId hne] at hfound
    have hbefore := hqueueing.unnamed taskId found hfound fun other hother =>
      hunnamed other (List.mem_append_left _ hother)
    refine ⟨hbefore.1, ?_⟩
    intro id row hrow hqueued hof
    rcases hrequeues.live hrow (HandoffRow.live_of_queued hqueued) with ⟨hold, _⟩ | ⟨_, hnew⟩
    · exact hbefore.2 id row hold hqueued hof
    · rw [hnew] at hof
      exact absurd hof.symm hne

/-! ## Settling -/

theorem live_of_settled {handoffs : List HandoffRow} {handoffId : Option Id}
    (hterminal : state.isTerminal)
    (hrow : (settleHandoff handoffs handoffId state)[id]? = some row) (hlive : row.live) :
    handoffs[id]? = some row ∧ handoffId ≠ some id := by
  unfold settleHandoff at hrow
  split at hrow
  · rename_i hnone
    refine ⟨hrow, ?_⟩
    intro hown
    rw [hown, Option.bind_some, hrow] at hnone
    cases hnone
  · rename_i handoff settled hfound
    obtain ⟨own, hown, hpair⟩ := Option.bind_eq_some_iff.mp hfound
    obtain ⟨found, hhandoff, hsame⟩ := Option.map_eq_some_iff.mp hpair
    cases hsame
    rw [hown]
    by_cases hid : settled = id
    · subst hid
      split at hrow
      · rename_i hended
        have hsame : handoff = row := Option.some.inj (hhandoff.symm.trans hrow)
        rw [hsame] at hended
        exact absurd hlive (HandoffRow.not_live_of_terminal hended)
      · rw [getElem?_update_self hhandoff] at hrow
        rw [← Option.some.inj hrow] at hlive
        exact absurd hlive (HandoffRow.not_live_of_terminal hterminal)
    · have hother : some settled ≠ some id := fun hsame => hid (Option.some.inj hsame)
      split at hrow
      · exact ⟨hrow, hother⟩
      · rw [getElem?_update_of_ne hid] at hrow
        exact ⟨hrow, hother⟩

theorem Lined.settles {requests : List HandoffRequest} (hlined : Lined u)
    (hterminal : state.isTerminal)
    (hepochs : ∀ (id : Id) (row : TaskRow), t.tasks[id]? = some row →
      row.sessionEpoch = u.session.sessionEpoch)
    (hown : ∀ (taskId : Id) (task : TaskRow), job.taskId = some taskId →
      u.tasks[taskId]? = some task → requests.any (·.taskId = task.taskKey) = false →
      ∀ (id : Id) (row : HandoffRow), u.handoffs[id]? = some row → row.state = .queued →
        row.taskId = taskId → job.handoffId = some id) (hsettles : Settles u job requests state t) :
    Lined t := by
  cases hsettles with
  | unbound => exact hlined
  | settled taskId task after hbound htask hkey hrevision hactive hready =>
      refine ⟨hepochs, ?_, ?_⟩
      · intro id other row rival hrow hrival hlive hlives hsame
        exact hlined.sole id other row rival (live_of_settled hterminal hrow hlive).1
          (live_of_settled hterminal hrival hlives).1 hlive hlives hsame
      · intro id row found hrow hqueued hfound
        obtain ⟨hold, hother⟩ :=
          live_of_settled hterminal hrow (HandoffRow.live_of_queued hqueued)
        by_cases hid : taskId = row.taskId
        · rw [← hid] at hfound
          have hafter : (update u.tasks taskId after)[taskId]? = some found := hfound
          rw [getElem?_update_self htask] at hafter
          rw [← Option.some.inj hafter, hready]
          cases hnamed : requests.any (·.taskId = task.taskKey) with
          | true => rfl
          | false =>
              exact absurd (hown taskId task hbound htask hnamed id row hold hqueued hid.symm) hother
        · have hafter : (update u.tasks taskId after)[row.taskId]? = some found := hfound
          rw [getElem?_update_of_ne hid] at hafter
          exact hlined.ready id row found hold hqueued hafter

theorem epoch_of_update {tasks : List TaskRow} {after : TaskRow} {epoch : Nat}
    (hepochs : ∀ (id : Id) (row : TaskRow), tasks[id]? = some row → row.sessionEpoch = epoch)
    (htask : tasks[taskId]? = some task) (hsame : after.sessionEpoch = task.sessionEpoch)
    (id : Id) (row : TaskRow) (hrow : (update tasks taskId after)[id]? = some row) :
    row.sessionEpoch = epoch := by
  by_cases hid : taskId = id
  · subst hid
    rw [getElem?_update_self htask] at hrow
    rw [← Option.some.inj hrow, hsame]
    exact hepochs taskId task htask
  · rw [getElem?_update_of_ne hid] at hrow
    exact hepochs id row hrow

theorem Lined.synchronizeCompletedTask_epochs (hlined : Lined s) (job : JobRow)
    (reportText : String) (questionPresent : Bool) (requests : List HandoffRequest) (now : Time)
    (id : Id) (row : TaskRow)
    (hrow : (synchronizeCompletedTask s job reportText questionPresent requests now).tasks[id]? =
      some row) : row.sessionEpoch = s.session.sessionEpoch := by
  unfold synchronizeCompletedTask at hrow
  split at hrow
  · exact hlined.tasks id row hrow
  · rename_i task taskId hfound
    obtain ⟨own, _, hpair⟩ := Option.bind_eq_some_iff.mp hfound
    obtain ⟨found, htask, hsame⟩ := Option.map_eq_some_iff.mp hpair
    cases hsame
    refine epoch_of_update hlined.tasks htask ?_ id row hrow
    rfl

theorem Lined.synchronizeFailedTask_epochs (hlined : Lined s) (job : JobRow) (errorText : String)
    (now : Time) (id : Id) (row : TaskRow)
    (hrow : (synchronizeFailedTask s job errorText now).tasks[id]? = some row) :
    row.sessionEpoch = s.session.sessionEpoch := by
  unfold synchronizeFailedTask at hrow
  split at hrow
  · exact hlined.tasks id row hrow
  · rename_i task taskId hfound
    obtain ⟨own, _, hpair⟩ := Option.bind_eq_some_iff.mp hfound
    obtain ⟨found, htask, hsame⟩ := Option.map_eq_some_iff.mp hpair
    cases hsame
    refine epoch_of_update hlined.tasks htask ?_ id row hrow
    rfl

/-! ## What a step keeps -/

theorem Lined.reset (hlined : Lined s) (now : Time)
    (hclaimed : ∀ handoff ∈ s.handoffs, handoff.state = .claimed →
      (s.tasks[handoff.taskId]?).all fun task => task.state.isReady ∨ task.state = .inProgress) :
    Lined (resetSession s now) := by
  have hrows : ∀ {id : Id} {row : HandoffRow}, (resetSession s now).handoffs[id]? = some row →
      ∃ old, s.handoffs[id]? = some old ∧ old.reset (s.session.sessionEpoch + 1) = row :=
    fun hrow => Option.map_eq_some_iff.mp ((List.getElem?_map ..).symm.trans hrow)
  have htasks : ∀ {id : Id} {row : TaskRow}, (resetSession s now).tasks[id]? = some row →
      ∃ old, s.tasks[id]? = some old ∧ old.reset (s.session.sessionEpoch + 1) now = row :=
    fun hrow => Option.map_eq_some_iff.mp ((List.getElem?_map ..).symm.trans hrow)
  refine ⟨?_, ?_, ?_⟩
  · intro id row hrow
    obtain ⟨old, _, hreset⟩ := htasks hrow
    rw [← hreset]
    rfl
  · intro id other row rival hrow hrival hlive hlives hsame
    obtain ⟨old, hold, rfl⟩ := hrows hrow
    obtain ⟨past, hpast, rfl⟩ := hrows hrival
    have hback : ∀ handoff : HandoffRow, (handoff.reset (s.session.sessionEpoch + 1)).live →
        handoff.live := by
      intro handoff hafter
      have hfor := handoff.reset_liveFor (s.session.sessionEpoch + 1) handoff.taskId
      exact (HandoffRow.liveFor_iff.1 (hfor ▸ HandoffRow.liveFor_iff.2 ⟨rfl, hafter⟩)).2
    exact hlined.sole id other old past hold hpast (hback old hlive) (hback past hlives) hsame
  · intro id row found hrow hqueued hfound
    obtain ⟨old, hold, rfl⟩ := hrows hrow
    obtain ⟨task, htask, rfl⟩ := htasks hfound
    have hlive : task.state.isReady ∨ task.state = .inProgress := by
      by_cases hclaim : old.state = .claimed
      · have hall := hclaimed old (List.mem_of_getElem? hold) hclaim
        have hrow : s.tasks[old.taskId]? = some task := htask
        rw [hrow] at hall
        exact of_decide_eq_true hall
      · have hstill : old.state = .queued := by
          have hstate : (if old.state = .claimed then HandoffState.queued else old.state) =
              .queued := hqueued
          rw [if_neg hclaim] at hstate
          exact hstate
        exact Or.inl (hlined.ready id old task hold hstill htask)
    rw [TaskRow.reset_state, if_pos hlive]
    rfl

theorem Lined.claims {m : State} {workerId leaseToken : String} {policy : Option Nat} {now : Time}
    (hlined : Lined m) (hclaims : Claims m agent workerId leaseToken policy now t) : Lined t := by
  cases hclaims with
  | idle => exact hlined.same rfl rfl rfl
  | started => exact hlined.same rfl rfl rfl
  | swept => exact hlined.same rfl rfl rfl
  | claimed agents handoff handoffId task hfind =>
      obtain ⟨hhandoff, hqueued, htask, _⟩ := claimableHandoff_eq_some hfind
      have hlive := HandoffRow.live_of_queued hqueued
      -- what is queued or claimed now was so before, for the same task
      have hback : ∀ {id : Id} {row : HandoffRow}, (update m.handoffs handoffId { handoff with
          state := .claimed, claimedByJobId := some m.jobs.length })[id]? = some row → row.live →
          ∃ old, m.handoffs[id]? = some old ∧ old.live ∧ old.taskId = row.taskId ∧
            (row.state = .queued → old = row ∧ handoffId ≠ id) := by
        intro id row hrow hopen
        by_cases hid : handoffId = id
        · subst hid
          rw [getElem?_update_self hhandoff] at hrow
          rw [← Option.some.inj hrow]
          exact ⟨handoff, hhandoff, hlive, rfl, nofun⟩
        · rw [getElem?_update_of_ne hid] at hrow
          exact ⟨row, hrow, hopen, rfl, fun _ => ⟨rfl, hid⟩⟩
      refine ⟨?_, ?_, ?_⟩
      · intro id row hrow
        refine epoch_of_update hlined.tasks htask ?_ id row hrow
        rfl
      · intro id other row rival hrow hrival hopen hopens hsame
        obtain ⟨old, hold, holdOpen, holdTask, _⟩ := hback hrow hopen
        obtain ⟨past, hpast, hpastOpen, hpastTask, _⟩ := hback hrival hopens
        exact hlined.sole id other old past hold hpast holdOpen hpastOpen
          (holdTask.trans (hsame.trans hpastTask.symm))
      · intro id row found hrow hstill hfound
        obtain ⟨old, hold, holdOpen, _, hkept⟩ := hback hrow (HandoffRow.live_of_queued hstill)
        obtain ⟨rfl, hother⟩ := hkept hstill
        have hapart : handoff.taskId ≠ old.taskId := by
          intro hsame
          exact hother (hlined.sole handoffId id handoff old hhandoff hold hlive holdOpen hsame)
        have hafter : (update m.tasks handoff.taskId { task with
            state := .inProgress
            currentLeaseToken := some leaseToken
            currentWorkerId := some workerId
            assignedAgent := some agent.agentName
            updatedAt := now })[old.taskId]? = some found := hfound
        rw [getElem?_update_of_ne hapart] at hafter
        exact hlined.ready id old found hold hstill hafter

theorem LeavesNone.own {report : JobReport} (hleaves : LeavesNone s deed)
    (hreport : deed.report? = some report) (haccepted : s.acceptedJob report = some job)
    (hqueueing : Requeueing s done u) (hdone : deed.requests s = done) (taskId : Id)
    (task : TaskRow) (hbound : job.taskId = some taskId) (htask : u.tasks[taskId]? = some task)
    (hunnamed : done.any (·.taskId = task.taskKey) = false) (id : Id) (row : HandoffRow)
    (hrow : u.handoffs[id]? = some row) (hqueued : row.state = .queued)
    (hof : row.taskId = taskId) : job.handoffId = some id := by
  have hapart : ∀ request ∈ done, request.taskId ≠ task.taskKey := by
    intro request hrequest hname
    exact List.any_eq_false.mp hunnamed request hrequest (decide_eq_true hname)
  obtain ⟨hold, hhandoffs⟩ := hqueueing.unnamed taskId task htask hapart
  by_contra hother
  have hoffered : offeredMeanwhile s job = true := by
    apply List.any_eq_true.mpr
    refine ⟨(row, id), List.mem_zipIdx_iff_getElem?.mpr (hhandoffs id row hrow hqueued hof), ?_⟩
    rw [← hof] at hbound
    exact decide_eq_true ⟨hbound, hqueued, hother⟩
  have hback := hleaves.reports report hreport job haccepted hoffered
  unfold handsBack at hback
  rw [hbound, Option.bind_some, hold, Option.any_some, hdone, hunnamed] at hback
  cases hback

theorem Lined.change (hlined : Lined s) (hleaves : LeavesNone s deed) (hchange : Change s deed t) :
    Lined t := by
  cases hchange with
  | left _ hkept => exact hlined.leaves hkept
  | paused _ hdeed hcancels => exact hlined.same hcancels.tasks hcancels.handoffs hcancels.epoch
  | closed _ hcancels =>
      exact hlined.same hcancels.tasks hcancels.handoffs hcancels.epoch
  | reset hdeed =>
      apply hlined.reset deed.now
      apply hleaves.resets
      rw [hdeed]
      rfl
  | claimed m _ agent workerId leaseToken policy hdeed hagent hfreed hclaims =>
      exact (hlined.leaves hfreed.leaves).claims hclaims
  | completed report output job queued left hdeed haccepted hqueued hrest =>
      have hreport : deed.report? = some report := by
        unfold Deed.report?
        rw [hdeed]
      have hrequests : deed.requests s =
          (extractHandoffs s.agents report.agentName output.handoffBlocks).1 := by
        unfold Deed.requests
        rw [hdeed]
      have hstart : Requeueing s [] (s.reported report job .completed deed.now) :=
        ⟨hlined.same rfl rfl rfl, fun _ _ htask _ => ⟨htask, fun _ _ hrow _ _ => hrow⟩⟩
      obtain ⟨u, hthere, hqueues⟩ := queueHandoffs_keeps_done hstart
        (fun done u v request _ hhere hturn => hhere.turn hturn) hqueued
      have hkept := hqueues.leaves.trans hrest
      have hleft : Requeueing s
          (extractHandoffs s.agents report.agentName output.handoffBlocks).1 left := by
        refine ⟨hthere.lined.leaves hkept, ?_⟩
        rw [hkept.tasks, hkept.handoffs]
        exact hthere.unnamed
      apply hleft.lined.settles rfl _ _ (synchronizeCompletedTask_settles _ _ _ _ _ _)
      · exact hleft.lined.synchronizeCompletedTask_epochs _ _ _ _ _
      · exact hleaves.own hreport haccepted hleft hrequests
  | failed _ report errorText job hdeed haccepted hrest =>
      have hreport : deed.report? = some report := by
        unfold Deed.report?
        rw [hdeed]
      have hrequests : deed.requests s = [] := by
        unfold Deed.requests
        rw [hdeed]
      have hstart : Requeueing s [] (s.reported report job .failed deed.now) :=
        ⟨hlined.same rfl rfl rfl, fun _ _ htask _ => ⟨htask, fun _ _ hrow _ _ => hrow⟩⟩
      have hsettled : Lined (synchronizeFailedTask (s.reported report job .failed deed.now) job
          errorText deed.now) := by
        apply hstart.lined.settles rfl _ _ (synchronizeFailedTask_settles _ _ _ _)
        · exact hstart.lined.synchronizeFailedTask_epochs _ _ _
        · exact hleaves.own hreport haccepted hstart hrequests
      exact hsettled.leaves hrest

/-! ## Claiming -/

theorem Claimable.waits (hclaimable : Claimable s agent id handoff task) :
    (handoff, id) ∈ queuedHandoffs s agent ∧
      canSelfClaimTask s.tasks handoff.taskId task := by
  constructor
  · apply mem_orderBy.2
    apply mem_selectWhere.2
    refine ⟨hclaimable.row, decide_eq_true ⟨hclaimable.queued, hclaimable.epoch, ?_⟩⟩
    rcases hclaimable.addressed with hname | hrole | hrole
    · exact Or.inl hname
    · exact Or.inr (by rw [hrole]; exact List.mem_cons_self)
    · exact Or.inr (by rw [hrole]; exact List.mem_cons_of_mem _ List.mem_cons_self)
  · apply List.all_eq_true.mpr
    intro active hactive
    obtain ⟨hrow, hstate⟩ := mem_selectWhere.1 hactive
    have hfree := hclaimable.free active.2 active.1 hrow (of_decide_eq_true hstate)
    exact decide_eq_true (Or.inr hfree)

theorem claimable_of_waits (hqueued : (handoff, id) ∈ queuedHandoffs s agent)
    (htask : s.tasks[handoff.taskId]? = some task)
    (hclaims : canSelfClaimTask s.tasks handoff.taskId task) (hready : task.state.isReady) :
    Claimable s agent id handoff task := by
  obtain ⟨hrow, hkeep⟩ := mem_selectWhere.1 (mem_orderBy.1 hqueued)
  obtain ⟨hstate, hepoch, haddressed⟩ := of_decide_eq_true hkeep
  refine ⟨hrow, hstate, hepoch, ?_, htask, hready, ?_⟩
  · rcases haddressed with hname | hrole
    · exact Or.inl hname
    · rcases List.mem_cons.mp hrole with hrole | hrole
      · exact Or.inr (Or.inl hrole)
      · exact Or.inr (Or.inr (List.mem_singleton.mp hrole))
  · intro other active hactive hrunning
    have hall := List.all_eq_true.mp hclaims (active, other)
      (mem_selectWhere.2 ⟨hactive, decide_eq_true hrunning⟩)
    rcases of_decide_eq_true hall with hsame | hfree
    · have hown : other = handoff.taskId := hsame
      rw [hown, htask] at hactive
      rw [← Option.some.inj hactive] at hrunning
      rw [hrunning] at hready
      cases hready
    · exact hfree

theorem claimable_of_picked (hpicked : claimableHandoff s agent = some (handoff, id, task))
    (hready : task.state.isReady) : Claimable s agent id handoff task := by
  obtain ⟨queued, hqueued, hfound⟩ := List.exists_of_findSome?_eq_some hpicked
  obtain ⟨found, htask, hpair⟩ := Option.bind_eq_some_iff.mp hfound
  split at hpair
  · rename_i hclaims
    cases hpair
    exact claimable_of_waits hqueued htask hclaims hready
  · cases hpair

/-- Whether there is work for an agent. -/
def hasClaimable (s : State) (agent : AgentRow) : Bool :=
  (queuedHandoffs s agent).any fun handoff =>
    (s.tasks[handoff.1.taskId]?).any fun task =>
      canSelfClaimTask s.tasks handoff.1.taskId task && task.state.isReady

theorem exists_claimable (hhas : hasClaimable s agent) :
    ∃ id handoff task, Claimable s agent id handoff task := by
  obtain ⟨⟨handoff, id⟩, hqueued, hany⟩ := List.any_eq_true.mp hhas
  obtain ⟨task, htask, hboth⟩ := (Option.any_eq_true ..).mp hany
  rw [Bool.and_eq_true] at hboth
  exact ⟨id, handoff, task, claimable_of_waits hqueued htask hboth.1 hboth.2⟩

theorem Lined.noBlocking (hlined : Lined s) (hgives : GivesOut s.session) : NoBlocking s := by
  intro agent workerId leaseToken policy now hagent hidle hroom hexists
  obtain ⟨id, handoff, task, hclaimable⟩ := hexists
  obtain ⟨hqueued, hclaims⟩ := hclaimable.waits
  have hsome : (claimableHandoff s agent).isSome := by
    unfold claimableHandoff
    rw [List.findSome?_isSome_iff]
    refine ⟨(handoff, id), hqueued, ?_⟩
    rw [hclaimable.found, Option.bind_some, if_pos hclaims]
    rfl
  obtain ⟨⟨picked, pickedId, row⟩, hpicked⟩ := Option.isSome_iff_exists.mp hsome
  obtain ⟨hrow, hwaiting, htask, _⟩ := claimableHandoff_eq_some hpicked
  have hready := hlined.ready pickedId picked row hrow hwaiting htask
  have hepoch := hlined.tasks picked.taskId row htask
  have hpending : firstBy (fun left right : JobRow => left.createdAt ≤ right.createdAt)
      (selectWhere (fun job => job.agentName = agent.agentName ∧ job.status = .pending) s.jobs) =
        none := by
    apply firstBy_eq_none_iff.2
    intro jobId job hjob hkeep
    obtain ⟨hown, hstatus⟩ := of_decide_eq_true hkeep
    apply hidle job (List.mem_of_getElem? hjob) hown
    rw [JobRow.live, hstatus]
    rfl
  have hactive : (selectWhere (fun job : JobRow => job.agentName = agent.agentName ∧
      job.status = .inProgress) s.jobs).head? = none := by
    rw [List.head?_eq_none_iff, List.eq_nil_iff_forall_not_mem]
    intro found hfound
    obtain ⟨hjob, hkeep⟩ := mem_selectWhere.1 hfound
    obtain ⟨hown, hstatus⟩ := of_decide_eq_true hkeep
    apply hidle found.1 (List.mem_of_getElem? hjob) hown
    rw [JobRow.live, hstatus]
    rfl
  have hneither : ¬ (¬ row.state.isReady = true ∨ row.sessionEpoch ≠ s.session.sessionEpoch) := by
    rintro (hnot | hother)
    · exact hnot hready
    · exact hother hepoch
  have hrequire : requireAgent s.agents agent.agentName = .ok agent := orRaise_eq_ok.2 hagent
  have hbelow : ¬ (maxParallelAgents policy s.agents ≤ activeJobCount s.jobs ∧
      ¬ isCuratorAgent agent) := fun hfull => Nat.not_le.mpr hroom hfull.1
  have hclaimed : claimNextJob s agent.agentName workerId leaseToken policy now =
      claimWork s agent workerId leaseToken policy now := by
    unfold claimNextJob
    rw [if_neg hgives.opened, hrequire]
    simp only [if_neg hgives.resumed, if_neg hgives.launched, hactive]
    rfl
  let job := taskJob agent.agentName workerId leaseToken picked pickedId row
    s.session.sessionEpoch now
  have hwork : ∃ after, claimWork s agent workerId leaseToken policy now =
      .ok (after, some s.jobs.length) ∧ after.jobs = s.jobs ++ [job] := by
    unfold claimWork claimReadyTaskJob
    rw [if_neg hbelow]
    simp only [hpending, hpicked, if_neg hneither]
    exact ⟨_, rfl, rfl⟩
  obtain ⟨after, hok, hjobs⟩ := hwork
  refine ⟨after, s.jobs.length, job, pickedId, picked, row, hclaimed.trans hok, ?_, rfl, rfl, rfl,
    rfl, claimable_of_picked hpicked hready⟩
  rw [hjobs]
  exact List.getElem?_concat_length

/-- In a run in which no job ends for good while its task is queued for another, and no reset finds
a claimed handoff of a task that has ended, the queue never hides work that can be claimed. -/
theorem no_head_of_line_blocking (profiles : List (String × String)) (now : Time)
    (deeds : List Deed) (hleaves : Along step LeavesNone (State.start profiles now) deeds) :
    Throughout step (fun s => GivesOut s.session → NoBlocking s) (State.start profiles now)
      deeds := by
  have hrun : Throughout step Lined (State.start profiles now) deeds := by
    apply throughout_of_preserved
    · exact lined_start profiles now
    · intro done deed hdeed hhere
      exact hhere.change (hleaves done deed hdeed) (step_change _ deed)
  intro done hdone hgives
  exact (hrun done hdone).noBlocking hgives

instance (s : State) (deed : Deed) : Decidable (LeavesNone s deed) :=
  decidable_of_iff
    ((∀ report ∈ deed.report?, ∀ job ∈ s.acceptedJob report,
        offeredMeanwhile s job → handsBack s deed job) ∧
      (deed.operation.isReset → ∀ handoff ∈ s.handoffs, handoff.state = .claimed →
        (s.tasks[handoff.taskId]?).all fun task =>
          task.state.isReady ∨ task.state = .inProgress))
    ⟨fun hall => ⟨hall.1, hall.2⟩, fun hall => ⟨hall.reports, hall.resets⟩⟩

/-- The coder ends the task it was handed, and the session starts anew. -/
theorem no_blocking_after_one_task :
    Throughout step (fun s => GivesOut s.session → NoBlocking s) team
      (handedOver ++ [⟨.completeJob (reportOn 1 "coder" "w2") ⟨[], [], "parsed", false⟩, 7⟩,
        ⟨.resetSession, 8⟩]) :=
  no_head_of_line_blocking _ 0 _ (by decide +kernel)

def secondTaskTo (agent : String) : HandoffBlock where
  agent := agent
  body := "T-002\nRead CURRENT_STATE.md and TASK_BOARD.md first.\nTarget summary: draw the chart"
  taskCardId := some "T-002"

/-- The coder ends the task that the planner has handed to the tester meanwhile; then the planner
hands the tester another one. -/
def leftOver : List Deed :=
  handedOverAgain ++
    [⟨.completeJob (reportOn 1 "coder" "w2") ⟨[], [], "parsed", false⟩, 10⟩,
      ⟨.routeDiscordMessage (.ok ⟨"planner", "routing"⟩), 11⟩,
      ⟨.claimNextJob "planner" "w1" ⟨"k3", by decide⟩ none, 12⟩,
      ⟨.completeJob (reportOn 3 "planner" "w1") ⟨[secondTaskTo "tester"], [], "", false⟩, 13⟩]

def testerOf (s : State) : Option AgentRow := s.agents.find? (·.agentName = "tester")

/-- The handoff of the ended task stands before that of the ready one, and the tester gets
neither. -/
theorem ready_work_hidden :
    ¬ Throughout step (fun s => GivesOut s.session → NoBlocking s) team leftOver := by
  intro hall
  have hfacts : (testerOf (run step team leftOver)).any (fun tester =>
      tester.agentName = "tester" ∧ hasClaimable (run step team leftOver) tester) ∧
      (run step team leftOver).jobs.all (fun job => !(job.agentName = "tester" && job.live)) ∧
      activeJobCount (run step team leftOver).jobs <
        maxParallelAgents none (run step team leftOver).agents ∧
      (claimNextJob (run step team leftOver) "tester" "w3" "k4" none 14).toOption.map (·.2) =
        some none ∧
      (run step team leftOver).session.status = .launching ∧
      (run step team leftOver).session.desiredStatus = .ready := by
    decide +kernel
  have hhere := hall leftOver (List.prefix_refl _)
  generalize run step team leftOver = s at hfacts hhere
  obtain ⟨htester, hidle, hroom, hclaim, hstatus, hdesired⟩ := hfacts
  have hgives : GivesOut s.session := by
    refine ⟨?_, ?_, ?_⟩
    · rw [hstatus]
      decide
    · rw [hdesired]
      decide
    · rw [hstatus]
      decide
  have hnone := hhere hgives
  obtain ⟨tester, hfound, hany⟩ := (Option.any_eq_true ..).mp htester
  obtain ⟨hname, hhas⟩ := of_decide_eq_true hany
  have hagent : s.agents.find? (·.agentName = tester.agentName) = some tester := by
    rw [hname]
    exact hfound
  have hfree : ∀ job ∈ s.jobs, job.agentName = tester.agentName → ¬ job.live := by
    intro job hjob hown hlive
    have hnot := List.all_eq_true.mp hidle job hjob
    rw [hown, hname, hlive] at hnot
    cases hnot
  obtain ⟨after, jobId, _, _, _, _, hok, _⟩ :=
    hnone tester "w3" "k4" none 14 hagent hfree hroom (exists_claimable hhas)
  rw [hname] at hok
  rw [hok] at hclaim
  cases hclaim

end OpsCure.SessionService
