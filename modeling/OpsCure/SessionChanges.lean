/-
What an operation can do to the work of a session: its jobs, its tasks and the handoffs.  The
work on a task is followed through the jobs that are bound to it.
-/
import OpsCure.SessionRecovery

namespace OpsCure.SessionService

open Fallible Table Text

/-! ## Jobs that hold a task -/

def JobRow.holds (job : JobRow) (taskId : Id) : Bool :=
  job.taskId = some taskId ∧ job.live

variable {job old row : JobRow} {taskId id : Id} {middle after : List JobRow} {s t u : State}
  {request : HandoffRequest} {now : Time} {agent : AgentRow} {workerId leaseToken : String}
  {report : JobReport}

theorem JobRow.holds_iff : job.holds taskId ↔ job.taskId = some taskId ∧ job.live := by
  simp [JobRow.holds]

structure SameBinding (old row : JobRow) : Prop where
  live : old.live
  agentName : row.agentName = old.agentName
  taskId : row.taskId = old.taskId
  handoffId : row.handoffId = old.handoffId
  taskRevision : row.taskRevision = old.taskRevision
  leaseToken : present old.leaseToken → row.leaseToken = old.leaseToken

theorem SameBinding.refl (hlive : job.live) : SameBinding job job :=
  ⟨hlive, rfl, rfl, rfl, rfl, fun _ => rfl⟩

theorem SameBinding.trans {middle : JobRow} (hfirst : SameBinding old middle)
    (hsecond : SameBinding middle row) : SameBinding old row where
  live := hfirst.live
  agentName := hsecond.agentName.trans hfirst.agentName
  taskId := hsecond.taskId.trans hfirst.taskId
  handoffId := hsecond.handoffId.trans hfirst.handoffId
  taskRevision := hsecond.taskRevision.trans hfirst.taskRevision
  leaseToken := by
    intro hpresent
    have hmiddle := hfirst.leaseToken hpresent
    rw [hsecond.leaseToken (by rw [hmiddle]; exact hpresent), hmiddle]

theorem SameBinding.holds (hsame : SameBinding old row) (hrow : row.holds taskId) :
    old.holds taskId := by
  rw [JobRow.holds_iff] at hrow ⊢
  exact ⟨hsame.taskId.symm.trans hrow.1, hsame.live⟩

def KeepsBound (jobs after : List JobRow) : Prop :=
  ∀ (id : Id) (row : JobRow) (taskId : Id), after[id]? = some row → row.holds taskId →
    ∃ old, jobs[id]? = some old ∧ SameBinding old row

def Lasts (jobs after : List JobRow) : Prop :=
  ∀ (id : Id) (old : JobRow) (taskId : Id), jobs[id]? = some old → old.holds taskId →
    ∃ row, after[id]? = some row ∧ row.holds taskId

theorem KeepsBound.refl (jobs : List JobRow) : KeepsBound jobs jobs := by
  intro id row taskId hrow hholds
  exact ⟨row, hrow, SameBinding.refl (JobRow.holds_iff.1 hholds).2⟩

theorem KeepsBound.trans {jobs : List JobRow} (hfirst : KeepsBound jobs middle)
    (hsecond : KeepsBound middle after) : KeepsBound jobs after := by
  intro id row taskId hrow hholds
  obtain ⟨between, hbetween, hsame⟩ := hsecond id row taskId hrow hholds
  obtain ⟨old, hold, hearlier⟩ := hfirst id between taskId hbetween (hsame.holds hholds)
  exact ⟨old, hold, hearlier.trans hsame⟩

theorem Lasts.refl (jobs : List JobRow) : Lasts jobs jobs :=
  fun _ old _ hold hholds => ⟨old, hold, hholds⟩

theorem Lasts.trans {jobs : List JobRow} (hfirst : Lasts jobs middle)
    (hsecond : Lasts middle after) : Lasts jobs after := by
  intro id old taskId hold hholds
  obtain ⟨between, hbetween, hstill⟩ := hfirst id old taskId hold hholds
  exact hsecond id between taskId hbetween hstill

/-- The same jobs hold the same tasks. -/
structure Steady (jobs after : List JobRow) : Prop where
  kept : KeepsBound jobs after
  lasts : Lasts jobs after

theorem Steady.refl (jobs : List JobRow) : Steady jobs jobs :=
  ⟨KeepsBound.refl jobs, Lasts.refl jobs⟩

theorem Steady.trans {jobs : List JobRow} (hfirst : Steady jobs middle)
    (hsecond : Steady middle after) : Steady jobs after :=
  ⟨hfirst.kept.trans hsecond.kept, hfirst.lasts.trans hsecond.lasts⟩

variable {added : List JobRow} {which : JobRow → Bool} {tasks : List TaskRow} {task : TaskRow}
  {sourceAgent : String} {m : State} {policy : Option Nat}

theorem Steady.append {jobs : List JobRow} (hfree : ∀ job ∈ added, job.taskId = none) :
    Steady jobs (jobs ++ added) := by
  constructor
  · intro id row taskId hrow hholds
    by_cases hlt : id < jobs.length
    · rw [List.getElem?_append_left hlt] at hrow
      exact ⟨row, hrow, SameBinding.refl (JobRow.holds_iff.1 hholds).2⟩
    · rw [List.getElem?_append_right (Nat.le_of_not_lt hlt)] at hrow
      have hnone := hfree row (List.mem_of_getElem? hrow)
      rw [(JobRow.holds_iff.1 hholds).1] at hnone
      cases hnone
  · intro id old taskId hold hholds
    have hlt := (List.getElem?_eq_some_iff.mp hold).1
    exact ⟨old, (List.getElem?_append_left hlt).trans hold, hholds⟩

theorem Steady.update {jobs : List JobRow} (hold : jobs[id]? = some old)
    (hsame : SameBinding old row) (hlive : row.live) : Steady jobs (update jobs id row) := by
  constructor
  · intro other found taskId hfound hholds
    rcases getElem?_update_eq_some hfound with ⟨rfl, rfl⟩ | hfound
    · exact ⟨old, hold, hsame⟩
    · exact ⟨found, hfound, SameBinding.refl (JobRow.holds_iff.1 hholds).2⟩
  · intro other found taskId hfound hholds
    by_cases hid : id = other
    · subst hid
      rw [hold] at hfound
      rw [← Option.some.inj hfound] at hholds
      refine ⟨row, getElem?_update_self hold, ?_⟩
      rw [JobRow.holds_iff] at hholds ⊢
      exact ⟨hsame.taskId.trans hholds.1, hlive⟩
    · exact ⟨found, (getElem?_update_of_ne hid).trans hfound, hholds⟩

theorem KeepsBound.retire {jobs : List JobRow} (hend : ¬ row.live) :
    KeepsBound jobs (update jobs id row) := by
  intro other found taskId hfound hholds
  rcases getElem?_update_eq_some hfound with ⟨rfl, rfl⟩ | hfound
  · exact absurd (JobRow.holds_iff.1 hholds).2 hend
  · exact ⟨found, hfound, SameBinding.refl (JobRow.holds_iff.1 hholds).2⟩

theorem getElem?_cancelJobs {jobs : List JobRow} (hrow : (cancelJobs jobs which)[id]? = some row)
    (hlive : row.live) : jobs[id]? = some row ∧ ¬ which row := by
  rw [cancelJobs, List.getElem?_map] at hrow
  obtain ⟨old, hold, hchanged⟩ := Option.map_eq_some_iff.mp hrow
  split at hchanged
  · rw [← hchanged] at hlive
    simp [JobRow.live] at hlive
  · rename_i hnot
    rw [← hchanged]
    exact ⟨hold, hnot⟩

theorem KeepsBound.cancel (jobs : List JobRow) (which : JobRow → Bool) :
    KeepsBound jobs (cancelJobs jobs which) := by
  intro id row taskId hrow hholds
  have hlive := (JobRow.holds_iff.1 hholds).2
  exact ⟨row, (getElem?_cancelJobs hrow hlive).1, SameBinding.refl hlive⟩

theorem Lasts.cancel {jobs : List JobRow}
    (hfree : ∀ (id : Id) (row : JobRow) (taskId : Id), jobs[id]? = some row →
      row.holds taskId → ¬ which row) : Lasts jobs (cancelJobs jobs which) := by
  intro id old taskId hold hholds
  refine ⟨old, ?_, hholds⟩
  rw [cancelJobs, List.getElem?_map, hold, Option.map_some, if_neg (hfree id old taskId hold hholds)]

def StartsNone (jobs after : List JobRow) : Prop :=
  ∀ (id : Id) (row : JobRow), after[id]? = some row → row.status = .inProgress →
    ∃ old, jobs[id]? = some old ∧ old.status = .inProgress ∧ old.agentName = row.agentName

theorem StartsNone.refl (jobs : List JobRow) : StartsNone jobs jobs :=
  fun _ row hrow hactive => ⟨row, hrow, hactive, rfl⟩

theorem StartsNone.trans {jobs : List JobRow} (hfirst : StartsNone jobs middle)
    (hsecond : StartsNone middle after) : StartsNone jobs after := by
  intro id row hrow hactive
  obtain ⟨between, hbetween, hrunning, hagent⟩ := hsecond id row hrow hactive
  obtain ⟨old, hold, hran, hearlier⟩ := hfirst id between hbetween hrunning
  exact ⟨old, hold, hran, hearlier.trans hagent⟩

theorem StartsNone.append {jobs : List JobRow} (hidle : ∀ job ∈ added, job.status ≠ .inProgress) :
    StartsNone jobs (jobs ++ added) := by
  intro id row hrow hactive
  by_cases hlt : id < jobs.length
  · rw [List.getElem?_append_left hlt] at hrow
    exact ⟨row, hrow, hactive, rfl⟩
  · rw [List.getElem?_append_right (Nat.le_of_not_lt hlt)] at hrow
    exact absurd hactive (hidle row (List.mem_of_getElem? hrow))

theorem StartsNone.update {jobs : List JobRow} (hidle : row.status ≠ .inProgress) :
    StartsNone jobs (update jobs id row) := by
  intro other found hfound hactive
  rcases getElem?_update_eq_some hfound with ⟨_, hsame⟩ | hkept
  · rw [hsame] at hactive
    exact absurd hactive hidle
  · exact ⟨found, hkept, hactive, rfl⟩

theorem StartsNone.cancel (jobs : List JobRow) (which : JobRow → Bool) :
    StartsNone jobs (cancelJobs jobs which) := by
  intro id row hrow hactive
  have hlive : row.live := by
    rw [JobRow.live, hactive]
    rfl
  exact ⟨row, (getElem?_cancelJobs hrow hlive).1, hactive, rfl⟩

/-! ## Queueing jobs -/

/-- Only jobs that hold no task, or hold what they held, are written, and none is started. -/
structure Leaves (s t : State) : Prop where
  jobs : Steady s.jobs t.jobs
  starts : StartsNone s.jobs t.jobs
  tasks : t.tasks = s.tasks
  handoffs : t.handoffs = s.handoffs
  epoch : t.session.sessionEpoch = s.session.sessionEpoch

theorem Leaves.refl (s : State) : Leaves s s :=
  ⟨Steady.refl _, StartsNone.refl _, rfl, rfl, rfl⟩

theorem Leaves.trans (hfirst : Leaves s t) (hsecond : Leaves t u) : Leaves s u :=
  ⟨hfirst.jobs.trans hsecond.jobs, hfirst.starts.trans hsecond.starts,
    hsecond.tasks.trans hfirst.tasks, hsecond.handoffs.trans hfirst.handoffs,
    hsecond.epoch.trans hfirst.epoch⟩

/-- Pending jobs that hold no task are added, and nothing else changes. -/
def Queues (s t : State) : Prop :=
  ∃ added : List JobRow, (∀ job ∈ added, job.taskId = none ∧ job.status = .pending) ∧
    t = { s with jobs := s.jobs ++ added }

theorem Queues.refl (s : State) : Queues s s := by
  refine ⟨[], ?_, ?_⟩
  · intro job hjob
    cases hjob
  · rw [List.append_nil]

theorem Queues.trans (hfirst : Queues s t) (hsecond : Queues t u) : Queues s u := by
  obtain ⟨added, hadded, rfl⟩ := hfirst
  obtain ⟨more, hmore, rfl⟩ := hsecond
  refine ⟨added ++ more, ?_, ?_⟩
  · intro job hjob
    rcases List.mem_append.mp hjob with hold | hnew
    · exact hadded job hold
    · exact hmore job hnew
  · rw [List.append_assoc]

theorem Queues.leaves (hqueues : Queues s t) : Leaves s t := by
  obtain ⟨added, hadded, rfl⟩ := hqueues
  refine ⟨Steady.append ?_, StartsNone.append ?_, rfl, rfl, rfl⟩
  · intro job hjob
    exact (hadded job hjob).1
  · intro job hjob
    rw [(hadded job hjob).2]
    exact nofun

theorem Queues.addJob (s : State) (agentName jobType : String) (sessionEpoch : Nat)
    (now : Time) : Queues s (s.addJob (newJob agentName jobType sessionEpoch now)) := by
  refine ⟨_, ?_, rfl⟩
  intro job hjob
  rw [List.mem_singleton.mp hjob]
  exact ⟨rfl, rfl⟩

theorem Queues.queueCuratorEvent (s : State) (sourceAgent : String) (now : Time) :
    Queues s (s.queueCuratorEvent sourceAgent now) := by
  unfold State.queueCuratorEvent
  split
  · exact Queues.refl s
  · split
    · exact Queues.refl s
    · split
      · exact Queues.refl s
      · exact Queues.addJob s _ _ _ _

theorem Queues.queueDiscussions (s : State) (sourceAgent : String) (sourceJob : JobRow)
    (discussions : List DiscussRequest) (now : Time) :
    Queues s (s.queueDiscussions sourceAgent sourceJob discussions now) := by
  unfold State.queueDiscussions
  split
  · exact Queues.refl s
  · rename_i queued hqueued
    refine Queues.trans ⟨_, ?_, rfl⟩ (Queues.queueCuratorEvent _ _ _)
    intro job hjob
    obtain ⟨request, _, hrequest⟩ := List.mem_flatMap.mp hjob
    unfold DiscussRequest.jobs at hrequest
    split at hrequest
    · obtain ⟨_, _, hsame⟩ := List.mem_map.mp hrequest
      rw [← hsame]
      exact ⟨rfl, rfl⟩
    · split at hrequest
      · obtain ⟨_, _, hsame⟩ := List.mem_map.mp hrequest
        rw [← hsame]
        exact ⟨rfl, rfl⟩
      · exact absurd hrequest List.not_mem_nil

theorem Queues.queuePlannerHandoffRepair (s : State) (sourceAgent : String)
    (rejections : List String) (now : Time) :
    Queues s (s.queuePlannerHandoffRepair sourceAgent rejections now) := by
  unfold State.queuePlannerHandoffRepair
  split
  · exact Queues.refl s
  · exact Queues.refl s
  · split
    · exact Queues.refl s
    · split
      · exact Queues.refl s
      · exact Queues.addJob s _ _ _ _

theorem Queues.queuePlannerRecovery (s : State) (failedJob : JobRow) (failedAgent : String)
    (now : Time) : Queues s (s.queuePlannerRecovery failedJob failedAgent now) := by
  unfold State.queuePlannerRecovery
  split
  · exact Queues.refl s
  · split
    · exact Queues.refl s
    · split
      · exact Queues.refl s
      · split
        · exact Queues.refl s
        · exact Queues.addJob s _ _ _ _

/-! ## Handing off -/

/-- What one turn of `_queue_handoffs` does. -/
inductive HandsOff (s : State) (request : HandoffRequest) : State → Prop
  | duplicate (task : TaskRow) (taskId : Id) (hfind : findTask s.tasks request.taskId =
        some (task, taskId))
      (hsame : isDuplicateReadyHandoff s taskId task request.targetAgent
        (normalizeTaskPayloadText request.body)) : HandsOff s request s
  | fresh (role : String) (now : Time) (handoff : HandoffRow)
      (hfind : findTask s.tasks request.taskId = none)
      (hqueued : handoff.state = .queued) (htask : handoff.taskId = s.tasks.length)
      (hepoch : handoff.sessionEpoch = s.session.sessionEpoch) :
      HandsOff s request { s with
        tasks := s.tasks ++
          [(blankTask request.taskId).handedOff request role s.session.sessionEpoch now]
        handoffs := supersede s.handoffs s.tasks.length ++ [handoff] }
  | again (task : TaskRow) (taskId : Id) (role : String) (now : Time) (handoff : HandoffRow)
      (hfind : findTask s.tasks request.taskId = some (task, taskId))
      (hnew : ¬ isDuplicateReadyHandoff s taskId task request.targetAgent
        (normalizeTaskPayloadText request.body))
      (hqueued : handoff.state = .queued) (htask : handoff.taskId = taskId)
      (hepoch : handoff.sessionEpoch = s.session.sessionEpoch) :
      HandsOff s request { s with
        tasks := update s.tasks taskId (task.handedOff request role s.session.sessionEpoch now)
        handoffs := supersede s.handoffs taskId ++ [handoff] }

theorem queueHandoff_handsOff {queued after : State × Bool}
    (hok : queueHandoff queued request now = .ok after) : HandsOff queued.1 request after.1 := by
  unfold queueHandoff at hok
  rw [bind_eq_ok] at hok
  obtain ⟨upserted, hupsert, hafter⟩ := hok
  unfold upsertTaskForHandoff at hupsert
  rw [bind_eq_ok] at hupsert
  obtain ⟨target, _, hupsert⟩ := hupsert
  split at hupsert
  · rename_i hfind
    cases hupsert
    cases hafter
    exact HandsOff.fresh target.role now _ hfind rfl rfl rfl
  · rename_i task taskId hfind
    split at hupsert
    · rename_i hsame
      cases hupsert
      cases hafter
      exact HandsOff.duplicate task taskId hfind hsame
    · rename_i hnew
      cases hupsert
      cases hafter
      exact HandsOff.again task taskId target.role now _ hfind hnew rfl rfl rfl

theorem findTask_eq_some {taskKey : String} (hfind : findTask tasks taskKey = some (task, taskId)) :
    tasks[taskId]? = some task ∧ task.taskKey = taskKey := by
  have hmem := mem_selectWhere.1 (List.mem_of_mem_head? hfind)
  exact ⟨hmem.1, of_decide_eq_true hmem.2⟩

/-- The loop of `_queue_handoffs` keeps what each turn keeps, said of the requests it has been
through. -/
theorem queueHandoffs_keeps_done {P : List HandoffRequest → State → Prop}
    {requests : List HandoffRequest} (hstart : P [] s)
    (hturn : ∀ (done : List HandoffRequest) (u v : State) (request : HandoffRequest),
      request ∈ requests → P done u → HandsOff u request v → P (done ++ [request]) v)
    (hok : queueHandoffs s sourceAgent requests now = .ok t) : ∃ u, P requests u ∧ Queues u t := by
  unfold queueHandoffs at hok
  rw [bind_eq_ok] at hok
  obtain ⟨queued, hfold, hafter⟩ := hok
  have hkept : P requests queued.1 := by
    apply foldlM_keeps_done (P := fun done turn => P done turn.1) _ hstart hfold
    intro done turn request after hrequest hhere hturned
    exact hturn done turn.1 after.1 request hrequest hhere (queueHandoff_handsOff hturned)
  refine ⟨queued.1, hkept, ?_⟩
  cases hafter
  split
  · exact Queues.queueCuratorEvent _ _ _
  · exact Queues.refl _

/-- What the loop of `_queue_handoffs` keeps in each turn it keeps. -/
theorem queueHandoffs_keeps {P : State → Prop} {requests : List HandoffRequest} (hstart : P s)
    (hturn : ∀ (u v : State) (request : HandoffRequest), request ∈ requests → P u →
      HandsOff u request v → P v) (hok : queueHandoffs s sourceAgent requests now = .ok t) :
    ∃ u, P u ∧ Queues u t :=
  queueHandoffs_keeps_done (P := fun _ => P) hstart (fun _ => hturn) hok

/-! ## Claiming -/

/-- What a claim finds when it gets to the work that waits: the session as it was, or with the
job of a worker that has been replaced pending again. -/
inductive Freed (s : State) (agent : AgentRow) : State → Prop
  | free (hfree : ∀ (id : Id) (job : JobRow), s.jobs[id]? = some job →
      job.agentName = agent.agentName → job.status ≠ .inProgress) : Freed s agent s
  | requeued (id : Id) (job : JobRow) (hjob : s.jobs[id]? = some job)
      (hagent : job.agentName = agent.agentName) (hactive : job.status = .inProgress) :
      Freed s agent { s with
        jobs := update s.jobs id
          { job with status := .pending, workerId := none, claimedAt := none } }

theorem claimableHandoff_eq_some {handoff : HandoffRow} {handoffId : Id}
    (hfind : claimableHandoff s agent = some (handoff, handoffId, task)) :
    s.handoffs[handoffId]? = some handoff ∧ handoff.state = .queued ∧
      s.tasks[handoff.taskId]? = some task ∧
      canSelfClaimTask s.tasks handoff.taskId task := by
  obtain ⟨queued, hqueued, hfound⟩ := List.exists_of_findSome?_eq_some hfind
  obtain ⟨row, hrow, hpair⟩ := Option.bind_eq_some_iff.mp hfound
  obtain ⟨hhandoff, hkeep⟩ := mem_selectWhere.1 ((mem_orderBy).mp hqueued)
  split at hpair
  · rename_i hclaims
    cases hpair
    exact ⟨hhandoff, (of_decide_eq_true hkeep).1, hrow, hclaims⟩
  · cases hpair

/-- What `claim_next_job` can do once the agent has no job in progress. -/
inductive Claims (m : State) (agent : AgentRow) (workerId leaseToken : String)
    (policy : Option Nat) (now : Time) : State → Prop
  | idle (agents : List AgentRow) :
      Claims m agent workerId leaseToken policy now { m with agents := agents }
  | started (agents : List AgentRow) (id : Id) (job : JobRow) (hjob : m.jobs[id]? = some job)
      (hagent : job.agentName = agent.agentName) (hpending : job.status = .pending)
      (hroom : activeJobCount m.jobs < maxParallelAgents policy m.agents ∨ isCuratorAgent agent) :
      Claims m agent workerId leaseToken policy now { m with
        agents := agents
        jobs := update m.jobs id (job.started workerId leaseToken m.session.sessionEpoch now) }
  | claimed (agents : List AgentRow) (handoff : HandoffRow) (handoffId : Id) (task : TaskRow)
      (hfind : claimableHandoff m agent = some (handoff, handoffId, task))
      (hready : task.state.isReady)
      (hroom : activeJobCount m.jobs < maxParallelAgents policy m.agents ∨ isCuratorAgent agent) :
      Claims m agent workerId leaseToken policy now { m with
        agents := agents
        jobs := m.jobs ++ [taskJob agent.agentName workerId leaseToken handoff handoffId task
          m.session.sessionEpoch now]
        tasks := update m.tasks handoff.taskId
          { task with
            state := .inProgress
            currentLeaseToken := some leaseToken
            currentWorkerId := some workerId
            assignedAgent := some agent.agentName
            updatedAt := now }
        handoffs := update m.handoffs handoffId
          { handoff with state := .claimed, claimedByJobId := some m.jobs.length } }
  | swept (agents : List AgentRow) (job : JobRow) (hagent : job.agentName = agent.agentName)
      (hfree : job.taskId = none) (hcurator : isCuratorAgent agent)
      (hworker : job.workerId = some workerId) :
      Claims m agent workerId leaseToken policy now { m with
        agents := agents, jobs := m.jobs ++ [job] }

theorem JobRow.sameBinding_started (hpending : job.status = .pending) {sessionEpoch : Nat} :
    SameBinding job (job.started workerId leaseToken sessionEpoch now) where
  live := by
    rw [JobRow.live, hpending]
    rfl
  agentName := rfl
  taskId := rfl
  handoffId := rfl
  taskRevision := rfl
  leaseToken := by
    intro hpresent
    cases htoken : job.leaseToken with
    | none =>
        rw [htoken] at hpresent
        cases hpresent
    | some token =>
        rw [htoken] at hpresent
        have hnonempty : token ≠ "" := of_decide_eq_true hpresent
        simp [JobRow.started, htoken, orElse, hnonempty]

theorem Freed.leaves (hfreed : Freed s agent m) : Leaves s m := by
  cases hfreed with
  | free => exact Leaves.refl s
  | requeued id job hjob hagent hactive =>
      refine ⟨?_, StartsNone.update nofun, rfl, rfl, rfl⟩
      have hlive : job.live := by
        rw [JobRow.live, hactive]
        rfl
      have hsame : SameBinding job
          { job with status := .pending, workerId := none, claimedAt := none } :=
        ⟨hlive, rfl, rfl, rfl, rfl, fun _ => rfl⟩
      exact Steady.update hjob hsame rfl

theorem claimWork_claims {outcome : State × Option Id}
    (hok : claimWork m agent workerId leaseToken policy now = .ok outcome) :
    Claims m agent workerId leaseToken policy now outcome.1 := by
  unfold claimWork at hok
  split at hok
  · cases hok
    exact Claims.idle _
  · rename_i hfull
    have hroom : activeJobCount m.jobs < maxParallelAgents policy m.agents ∨
        isCuratorAgent agent := by
      by_cases hcurator : isCuratorAgent agent = true
      · exact Or.inr hcurator
      · exact Or.inl (Nat.lt_of_not_le fun hle => hfull ⟨hle, hcurator⟩)
    split at hok
    · rename_i job jobId hpending
      cases hok
      obtain ⟨hjob, hkeep⟩ := firstBy_selectWhere hpending
      obtain ⟨hagent, hstatus⟩ := of_decide_eq_true hkeep
      exact Claims.started _ jobId job hjob hagent hstatus hroom
    · split at hok
      · rename_i after jobId hclaimed
        cases hok
        unfold claimReadyTaskJob at hclaimed
        split at hclaimed
        · cases hclaimed
        · rename_i handoff handoffId task hfind
          split at hclaimed
          · cases hclaimed
          · rename_i hready
            cases hclaimed
            refine Claims.claimed _ handoff handoffId task hfind ?_ hroom
            by_contra hnot
            exact hready (Or.inl hnot)
      · split at hok
        · rename_i hcurator
          rw [bind_eq_ok] at hok
          obtain ⟨swept, hsweep, hafter⟩ := hok
          unfold claimCuratorSweepJob at hsweep
          rw [bind_eq_ok] at hsweep
          obtain ⟨reason, _, hsweep⟩ := hsweep
          split at hsweep
          · cases hsweep
            cases hafter
            exact Claims.idle _
          · cases hsweep
            cases hafter
            exact Claims.swept _ _ rfl rfl hcurator rfl
        · cases hok
          exact Claims.idle _

/-- The cases of `claim_next_job`: it leaves the work alone, or claims for the agent. -/
theorem claimNextJob_claims {agentName : String} {outcome : State × Option Id}
    (hok : claimNextJob s agentName workerId leaseToken policy now = .ok outcome) :
    (∃ agents, outcome.1 = { s with agents := agents }) ∨
      s.session.status ≠ .closed ∧ ∃ agent m,
        s.agents.find? (·.agentName = agentName) = some agent ∧ agent.agentName = agentName ∧
        Freed s agent m ∧ Claims m agent workerId leaseToken policy now outcome.1 := by
  unfold claimNextJob at hok
  split at hok
  · cases hok
    exact Or.inl ⟨s.agents, rfl⟩
  · rename_i hopen
    rw [bind_eq_ok] at hok
    obtain ⟨agent, hagent, hok⟩ := hok
    have hfound := orRaise_eq_ok.1 hagent
    have hname : agent.agentName = agentName := by
      have hkept := List.find?_some hfound
      exact of_decide_eq_true hkept
    split at hok
    · cases hok
      exact Or.inl ⟨_, rfl⟩
    · split at hok
      · cases hok
        exact Or.inl ⟨s.agents, rfl⟩
      · split at hok
        · rename_i hnone
          refine Or.inr ⟨hopen, agent, s, hfound, hname, Freed.free ?_, claimWork_claims hok⟩
          intro id job hjob hown hactive
          have hempty := List.head?_eq_none_iff.mp hnone
          have hin : (job, id) ∈ selectWhere (fun job => decide (job.agentName = agentName ∧
              job.status = .inProgress)) s.jobs :=
            mem_selectWhere.2 ⟨hjob, decide_eq_true ⟨hown.trans hname, hactive⟩⟩
          rw [hempty] at hin
          exact absurd hin List.not_mem_nil
        · rename_i active jobId hactive
          obtain ⟨hjob, hkeep⟩ := mem_selectWhere.1 (List.mem_of_mem_head? hactive)
          obtain ⟨hown, hstatus⟩ := of_decide_eq_true hkeep
          split at hok
          · cases hok
            exact Or.inl ⟨_, rfl⟩
          · rename_i recovered hrecovered
            unfold recoverOrphanedJob at hrecovered
            split at hrecovered
            · cases hrecovered
            · split at hrecovered
              · cases hrecovered
              · cases hrecovered
                exact Or.inr ⟨hopen, agent, _, hfound, hname,
                  Freed.requeued jobId active hjob (hown.trans hname.symm) hstatus,
                  claimWork_claims hok⟩

/-! ## Reports -/

/-- The job of a report that `complete_job` or `fail_job` acts on. -/
def State.acceptedJob (s : State) (report : JobReport) : Option JobRow :=
  match requireJob s report, requireAgent s.agents report.agentName with
  | .ok job, .ok _ =>
      if ¬ job.status.isTerminal ∧ validateJobConcurrency job s.session report then some job
      else none
  | _, _ => none

theorem acceptedJob_eq_some (haccepted : s.acceptedJob report = some job) :
    s.jobs[report.jobId]? = some job ∧ job.agentName = report.agentName ∧ job.live ∧
      job.sessionEpoch = s.session.sessionEpoch := by
  unfold State.acceptedJob at haccepted
  split at haccepted
  · rename_i found _ hfound _
    split at haccepted
    · rename_i hpasses
      rw [← Option.some.inj haccepted]
      unfold requireJob at hfound
      rw [bind_eq_ok] at hfound
      obtain ⟨row, hrow, hfound⟩ := hfound
      rw [bind_eq_ok] at hfound
      obtain ⟨_, _, hsame⟩ := hfound
      rw [← pure_eq_ok.1 hsame]
      rw [← pure_eq_ok.1 hsame] at hpasses
      obtain ⟨hjob, hagent⟩ := Option.filter_eq_some_iff.mp (orRaise_eq_ok.1 hrow)
      refine ⟨hjob, of_decide_eq_true hagent, ?_, ?_⟩
      · have hopen := hpasses.1
        unfold JobRow.live
        cases hstatus : row.status <;> simp [hstatus, JobStatus.isTerminal] at hopen ⊢
      · have hvalid := hpasses.2
        unfold validateJobConcurrency at hvalid
        simp only [Bool.and_eq_true, decide_eq_true_eq] at hvalid
        exact hvalid.1.1.2
    · cases haccepted
  · cases haccepted

def Deed.requests (s : State) (deed : Deed) : List HandoffRequest :=
  match deed.operation with
  | .completeJob report output =>
      (extractHandoffs s.agents report.agentName output.handoffBlocks).1
  | _ => []

def Deed.report? (deed : Deed) : Option JobReport :=
  match deed.operation with
  | .completeJob report _ | .failJob report _ => some report
  | _ => none

theorem completeJob_eq_ok {output : ControlOutput} (hok : completeJob s report output now = .ok t) :
    t = s ∨ ∃ job queued, s.acceptedJob report = some job ∧
      queueHandoffs (s.reported report job .completed now) report.agentName
        (extractHandoffs s.agents report.agentName output.handoffBlocks).1 now = .ok queued ∧
      ∃ left, Queues queued left ∧ t = synchronizeCompletedTask left job output.visibleOutput
        output.questionPresent
        (extractHandoffs s.agents report.agentName output.handoffBlocks).1 now := by
  unfold completeJob at hok
  rw [bind_eq_ok] at hok
  obtain ⟨job, hjob, hok⟩ := hok
  rw [bind_eq_ok] at hok
  obtain ⟨agent, hagent, hok⟩ := hok
  split at hok
  · exact Or.inl (pure_eq_ok.1 hok).symm
  · rename_i hopen
    split at hok
    · exact Or.inl (pure_eq_ok.1 hok).symm
    · rename_i hvalid
      rw [bind_eq_ok] at hok
      obtain ⟨queued, hqueued, hok⟩ := hok
      refine Or.inr ⟨job, queued, ?_, hqueued, _, ?_, (pure_eq_ok.1 hok).symm⟩
      · unfold State.acceptedJob
        rw [hjob, hagent]
        simp only [Bool.not_eq_true', Bool.not_eq_false] at hvalid
        exact if_pos ⟨hopen, hvalid⟩
      · exact (Queues.queueDiscussions _ _ _ _ _).trans
          (Queues.queuePlannerHandoffRepair _ _ _ _)

theorem failJob_eq_ok {errorText : String} (hok : failJob s report errorText now = .ok t) :
    t = s ∨ ∃ job, s.acceptedJob report = some job ∧
      Queues (synchronizeFailedTask (s.reported report job .failed now) job errorText now) t := by
  unfold failJob at hok
  rw [bind_eq_ok] at hok
  obtain ⟨job, hjob, hok⟩ := hok
  rw [bind_eq_ok] at hok
  obtain ⟨agent, hagent, hok⟩ := hok
  split at hok
  · exact Or.inl (pure_eq_ok.1 hok).symm
  · rename_i hopen
    split at hok
    · exact Or.inl (pure_eq_ok.1 hok).symm
    · rename_i hvalid
      refine Or.inr ⟨job, ?_, ?_⟩
      · unfold State.acceptedJob
        rw [hjob, hagent]
        simp only [Bool.not_eq_true', Bool.not_eq_false] at hvalid
        exact if_pos ⟨hopen, hvalid⟩
      · rw [← pure_eq_ok.1 hok]
        exact Queues.queuePlannerRecovery _ _ _ _

inductive Settles (s : State) (job : JobRow) (requests : List HandoffRequest)
    (state : HandoffState) : State → Prop
  | unbound (hnone : ∀ (taskId : Id) (task : TaskRow), job.taskId = some taskId →
      s.tasks[taskId]? ≠ some task) : Settles s job requests state s
  | settled (taskId : Id) (task after : TaskRow) (hbound : job.taskId = some taskId)
      (htask : s.tasks[taskId]? = some task) (hkey : after.taskKey = task.taskKey)
      (hrevision : task.revision ≤ after.revision) (hactive : after.state ≠ .inProgress)
      (hready : after.state.isReady = requests.any (·.taskId = task.taskKey)) :
      Settles s job requests state { s with
        tasks := update s.tasks taskId after
        handoffs := settleHandoff s.handoffs job.handoffId state }

theorem synchronizeCompletedTask_settles (s : State) (job : JobRow) (reportText : String)
    (questionPresent : Bool) (requests : List HandoffRequest) (now : Time) :
    Settles s job requests .consumed
      (synchronizeCompletedTask s job reportText questionPresent requests now) := by
  unfold synchronizeCompletedTask
  split
  · rename_i hnone
    apply Settles.unbound
    intro taskId task hbound htask
    rw [hbound, Option.bind_some, htask] at hnone
    cases hnone
  · rename_i task taskId hfound
    obtain ⟨id, hbound, hrow⟩ := Option.bind_eq_some_iff.mp hfound
    obtain ⟨row, htask, hpair⟩ := Option.map_eq_some_iff.mp hrow
    cases hpair
    refine Settles.settled taskId task _ hbound htask rfl ?_ ?_ ?_
    · change _ ≤ if _ then _ else _
      split
      · exact Nat.le_refl _
      · exact Nat.le_succ _
    · change completedState _ _ _ ≠ _
      unfold completedState
      split
      · split
        · rename_i hready
          intro hactive
          rw [hactive] at hready
          cases hready
        · exact nofun
      · split
        · exact nofun
        · exact nofun
    · change (completedState _ _ _).isReady = _
      unfold completedState
      cases requests.any (·.taskId = task.taskKey) with
      | false => cases questionPresent <;> rfl
      | true =>
          cases hready : task.state.isReady with
          | false => rfl
          | true => exact hready

theorem synchronizeFailedTask_settles (s : State) (job : JobRow) (errorText : String)
    (now : Time) : Settles s job [] .failed (synchronizeFailedTask s job errorText now) := by
  unfold synchronizeFailedTask
  split
  · rename_i hnone
    apply Settles.unbound
    intro taskId task hbound htask
    rw [hbound, Option.bind_some, htask] at hnone
    cases hnone
  · rename_i task taskId hfound
    obtain ⟨id, hbound, hrow⟩ := Option.bind_eq_some_iff.mp hfound
    obtain ⟨row, htask, hpair⟩ := Option.map_eq_some_iff.mp hrow
    cases hpair
    exact Settles.settled taskId task _ hbound htask rfl (Nat.le_succ _) nofun rfl

theorem HandsOff.jobs (hturn : HandsOff s request t) : t.jobs = s.jobs := by
  cases hturn <;> rfl

theorem Settles.jobs {requests : List HandoffRequest} {state : HandoffState}
    (hsettles : Settles s job requests state t) : t.jobs = s.jobs := by
  cases hsettles <;> rfl

def OnlyNamed (tasks : List TaskRow) (requests : List HandoffRequest) (after : List TaskRow) :
    Prop :=
  ∀ (id : Id) (task : TaskRow), tasks[id]? = some task → ∃ row, after[id]? = some row ∧
    row.taskKey = task.taskKey ∧
      (row = task ∨ ∃ request ∈ requests, request.taskId = task.taskKey)

theorem OnlyNamed.refl (tasks : List TaskRow) (requests : List HandoffRequest) :
    OnlyNamed tasks requests tasks :=
  fun _ task htask => ⟨task, htask, rfl, Or.inl rfl⟩

theorem OnlyNamed.handsOff {requests : List HandoffRequest} {v : State}
    (hrequest : request ∈ requests) (hnamed : OnlyNamed tasks requests u.tasks)
    (hturn : HandsOff u request v) : OnlyNamed tasks requests v.tasks := by
  cases hturn with
  | duplicate => exact hnamed
  | fresh role now handoff hfind hqueued =>
      intro id task htask
      obtain ⟨row, hrow, hrest⟩ := hnamed id task htask
      have hlt := (List.getElem?_eq_some_iff.mp hrow).1
      exact ⟨row, (List.getElem?_append_left hlt).trans hrow, hrest⟩
  | again old taskId role now handoff hfind hnew hqueued =>
      intro id task htask
      obtain ⟨row, hrow, hkey, hrest⟩ := hnamed id task htask
      obtain ⟨hold, hname⟩ := findTask_eq_some hfind
      by_cases hid : taskId = id
      · subst hid
        have hsame : row = old := Option.some.inj (hrow.symm.trans hold)
        refine ⟨_, getElem?_update_self hold, ?_, Or.inr ⟨request, hrequest, ?_⟩⟩
        · rw [← hkey, hsame]
          rfl
        · rw [← hkey, hsame]
          exact hname.symm
      · exact ⟨row, (getElem?_update_of_ne hid).trans hrow, hkey, hrest⟩

/-! ## What an operation can do -/

structure Cancels (s t : State) (which : JobRow → Bool) : Prop where
  jobs : t.jobs = cancelJobs s.jobs which
  tasks : t.tasks = s.tasks
  handoffs : t.handoffs = s.handoffs
  epoch : t.session.sessionEpoch = s.session.sessionEpoch

theorem resetSession_free (s : State) (now : Time) (id : Id) (job : JobRow) (taskId : Id)
    (hjob : (resetSession s now).jobs[id]? = some job) : ¬ job.holds taskId := by
  intro hholds
  have hfree : ∀ restart ∈ s.agents.map fun agent =>
      newJob agent.agentName "restart" (s.session.sessionEpoch + 1) now,
      restart.taskId = none := by
    intro restart hrestart
    obtain ⟨agent, _, hsame⟩ := List.mem_map.mp hrestart
    rw [← hsame]
    rfl
  obtain ⟨old, hold, hsame⟩ := (Steady.append hfree).kept id job taskId hjob hholds
  exact (getElem?_cancelJobs hold hsame.live).2 hsame.live

/-- The cases of a step. -/
inductive Change (s : State) (deed : Deed) : State → Prop
  | left (t : State) (hleaves : Leaves s t) : Change s deed t
  | paused (t : State) (hdeed : deed.operation = .pause)
      (hcancels : Cancels s t (·.status = .pending)) : Change s deed t
  | closed (t : State) (hcancels : Cancels s t (·.live))
      (hclosed : t.session.closedAt.isSome ∨
        ∃ recovery ∈ s.recoveries, recovery.session.closedAt.isSome) : Change s deed t
  | reset (hdeed : deed.operation = .resetSession) : Change s deed (resetSession s deed.now)
  | claimed (m t : State) (agent : AgentRow) (workerId : String) (leaseToken : Uuid)
      (policy : Option Nat)
      (hdeed : deed.operation = .claimNextJob agent.agentName workerId leaseToken policy)
      (hagent : s.agents.find? (·.agentName = agent.agentName) = some agent)
      (hfreed : Freed s agent m)
      (hclaims : Claims m agent workerId leaseToken.text policy deed.now t) : Change s deed t
  | completed (report : JobReport) (output : ControlOutput) (job : JobRow) (queued left : State)
      (hdeed : deed.operation = .completeJob report output)
      (haccepted : s.acceptedJob report = some job)
      (hqueued : queueHandoffs (s.reported report job .completed deed.now) report.agentName
        (extractHandoffs s.agents report.agentName output.handoffBlocks).1 deed.now = .ok queued)
      (hleaves : Leaves queued left) :
      Change s deed (synchronizeCompletedTask left job output.visibleOutput
        output.questionPresent
        (extractHandoffs s.agents report.agentName output.handoffBlocks).1 deed.now)
  | failed (t : State) (report : JobReport) (errorText : String) (job : JobRow)
      (hdeed : deed.operation = .failJob report errorText)
      (haccepted : s.acceptedJob report = some job)
      (hleaves : Leaves (synchronizeFailedTask (s.reported report job .failed deed.now) job
        errorText deed.now) t) : Change s deed t

theorem Leaves.around (hjobs : t.jobs = s.jobs) (htasks : t.tasks = s.tasks)
    (hhandoffs : t.handoffs = s.handoffs)
    (hepoch : t.session.sessionEpoch = s.session.sessionEpoch) : Leaves s t := by
  refine ⟨?_, ?_, htasks, hhandoffs, hepoch⟩
  · rw [hjobs]
    exact Steady.refl _
  · rw [hjobs]
    exact StartsNone.refl _

theorem refreshSessionStartupState_epoch (session : SessionRow) (agents : List AgentRow)
    (jobs : List JobRow) (now : Time) :
    (refreshSessionStartupState session agents jobs now).sessionEpoch =
      session.sessionEpoch := by
  unfold refreshSessionStartupState
  simp only
  repeat' split
  all_goals rfl

theorem recoverWorkers_keeps (session : SessionRow) (agents : List AgentRow) (hasJobs : Bool)
    (readings : RecoveryReadings) (now : Time) :
    (recoverWorkers session agents hasJobs readings now).session.closedAt = session.closedAt ∧
      (recoverWorkers session agents hasJobs readings now).cancels = false := by
  unfold recoverWorkers
  simp only
  repeat' split
  all_goals exact ⟨rfl, rfl⟩

theorem recoverSession_closes (session : SessionRow) (agents : List AgentRow) (hasJobs : Bool)
    (readings : RecoveryReadings) (now : Time) :
    let recovered := recoverSession session agents hasJobs readings now
    recovered.cancels = true ∧ recovered.session.closedAt = some now ∧
        (recovered.session.status = .closed ∨ recovered.session.status = .failedStart) ∨
      recovered.cancels = false ∧ recovered.session.closedAt = session.closedAt := by
  intro recovered
  unfold recovered recoverSession
  split
  · exact Or.inl ⟨rfl, rfl, Or.inl rfl⟩
  · split
    · exact Or.inr ⟨rfl, rfl⟩
    · split
      · exact Or.inl ⟨rfl, rfl, Or.inr rfl⟩
      · obtain ⟨hclosedAt, hcancels⟩ := recoverWorkers_keeps session agents hasJobs readings now
        exact Or.inr ⟨hcancels, hclosedAt⟩

theorem recoverFinish_change (s : State) (deed : Deed) (which : Nat)
    (readings : RecoveryReadings) :
    Change s deed (recoverFinish s which readings deed.now) := by
  unfold recoverFinish
  split
  · exact Change.left _ (Leaves.refl s)
  · rename_i recovery hrecovery
    rcases recoverSession_closes recovery.session recovery.agents (hasLiveJob s.jobs) readings
      deed.now with ⟨hcancels, hclosedAt, _⟩ | ⟨hcancels, hclosedAt⟩
    · refine Change.closed _ ⟨if_pos hcancels, rfl, rfl, rfl⟩ ?_
      change Option.isSome (writeBack _ _ _) = true ∨ _
      unfold writeBack State.recovered
      rw [hclosedAt]
      split
      · rename_i hsame
        refine Or.inr ⟨recovery, List.mem_of_getElem? hrecovery, ?_⟩
        rw [← hsame]
        rfl
      · exact Or.inl rfl
    · apply Change.left
      apply Leaves.around
      · exact if_neg (by rw [State.recovered, hcancels]; exact Bool.false_ne_true)
      · rfl
      · rfl
      · rfl

theorem step_change (s : State) (deed : Deed) : Change s deed (step s deed) := by
  have hstays : Change s deed s := Change.left s (Leaves.refl s)
  unfold step
  cases hdone : perform s deed.operation deed.now with
  | error => exact hstays
  | ok t =>
      rw [committed_ok]
      cases hdeed : deed.operation with
      | registerWorker =>
          rw [hdeed] at hdone
          obtain ⟨agent, _, hdone⟩ := bind_eq_ok.1 hdone
          rw [← pure_eq_ok.1 hdone]
          exact Change.left _ (Leaves.around rfl rfl rfl
            (refreshSessionStartupState_epoch _ _ _ _))
      | heartbeat =>
          rw [hdeed] at hdone
          obtain ⟨agent, _, hdone⟩ := bind_eq_ok.1 hdone
          rw [← pure_eq_ok.1 hdone]
          exact Change.left _ (Leaves.around rfl rfl rfl
            (refreshSessionStartupState_epoch _ _ _ _))
      | routeDiscordMessage =>
          rw [hdeed] at hdone
          obtain ⟨_, _, hdone⟩ := bind_eq_ok.1 hdone
          obtain ⟨_, _, hdone⟩ := bind_eq_ok.1 hdone
          obtain ⟨decision, _, hdone⟩ := bind_eq_ok.1 hdone
          rw [← pure_eq_ok.1 hdone]
          exact Change.left _ (Queues.addJob s _ _ _ _).leaves
      | enqueueRestart =>
          rw [hdeed] at hdone
          obtain ⟨agent, _, hdone⟩ := bind_eq_ok.1 hdone
          rw [← pure_eq_ok.1 hdone]
          exact Change.left _ (Queues.addJob s _ _ _ _).leaves
      | claimLaunches =>
          rw [hdeed] at hdone
          cases hdone
          unfold claimLaunches
          split
          · exact Change.left _ (Leaves.around rfl rfl rfl rfl)
          · exact hstays
      | claimNextJob agentName workerId leaseToken policy =>
          rw [hdeed] at hdone
          obtain ⟨outcome, houtcome, hdone⟩ := map_eq_ok.1 hdone
          rw [← hdone]
          rcases claimNextJob_claims houtcome with
            ⟨agents, hsame⟩ | ⟨_, agent, m, hagent, hname, hfreed, hclaims⟩
          · rw [hsame]
            exact Change.left _ (Leaves.around rfl rfl rfl rfl)
          · rw [← hname] at hdeed hagent
            exact Change.claimed m _ agent workerId leaseToken policy hdeed hagent hfreed hclaims
      | completeJob report output =>
          rw [hdeed] at hdone
          rcases completeJob_eq_ok hdone with
            rfl | ⟨job, queued, haccepted, hqueued, left, hqueues, rfl⟩
          · exact hstays
          · exact Change.completed report output job queued left hdeed haccepted hqueued
              hqueues.leaves
      | failJob report errorText =>
          rw [hdeed] at hdone
          rcases failJob_eq_ok hdone with rfl | ⟨job, haccepted, hqueues⟩
          · exact hstays
          · exact Change.failed t report errorText job hdeed haccepted hqueues.leaves
      | resetSession =>
          rw [hdeed] at hdone
          cases hdone
          exact Change.reset hdeed
      | closeSession =>
          rw [hdeed] at hdone
          cases hdone
          exact Change.closed _ ⟨rfl, rfl, rfl, rfl⟩ (Or.inl rfl)
      | cleanupSessionThread =>
          rw [hdeed] at hdone
          cases hdone
          unfold cleanupSessionThread
          split
          · exact Change.closed _ ⟨rfl, rfl, rfl, rfl⟩ (Or.inl rfl)
          · exact hstays
      | pause =>
          rw [hdeed] at hdone
          cases hdone
          exact Change.paused _ hdeed ⟨rfl, rfl, rfl, rfl⟩
      | resume =>
          rw [hdeed] at hdone
          cases hdone
          exact Change.left _ (Leaves.around rfl rfl rfl rfl)
      | recoverBegin =>
          rw [hdeed] at hdone
          cases hdone
          unfold recoverBegin
          split
          · exact hstays
          · exact Change.left _ (Leaves.around rfl rfl rfl rfl)
      | recoverFinish which readings =>
          rw [hdeed] at hdone
          cases hdone
          exact recoverFinish_change s deed which readings

end OpsCure.SessionService
