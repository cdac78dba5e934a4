/-
Closed sessions (`_close_session_row`, `_refresh_session_startup_state`, `recover_session`): which
operations take a session out of a closed status again, or give it work.
-/
import OpsCure.SessionFrame

namespace OpsCure.SessionService

open Fallible Run Table

/-! ## Staying closed -/

def SessionStatus.isClosed : SessionStatus → Bool
  | closed | failedStart => true
  | _ => false

structure StaysClosed (s t : State) : Prop where
  status : t.session.closedAt.isSome → t.session.status.isClosed
  created : s.session.closedAt.isSome → t.jobs.length = s.jobs.length
  moved : s.session.closedAt.isSome → ∀ (id : Id) (job row : JobRow), s.jobs[id]? = some job →
    t.jobs[id]? = some row → row.live → row.status = job.status

/-- There is nothing that `claim_next_job` would claim for an agent that has no job. -/
def nothingToClaim (s : State) (agent : AgentRow) (policy : Option Nat) (now : Time) : Bool :=
  (maxParallelAgents policy s.agents = 0 ∧ ¬ isCuratorAgent agent) ∨
    ((claimableHandoff s agent).all fun found =>
        ¬ found.2.2.state.isReady ∨ found.2.2.sessionEpoch ≠ s.session.sessionEpoch) ∧
      (isCuratorAgent agent → (curatorSweepReason s now).all fun reason =>
        ¬ hasNonCuratorBusyAgent s.agents ∧ reason ≠ "partial_attachment")

/-- A recovery of a session without jobs that would leave it open finds in the session it has
read the status that it would leave. -/
def Recovery.stands (recovery : Recovery) (readings : RecoveryReadings) (now : Time) : Bool :=
  let agents := recovery.agents.map (clearStaleWorker readings.workerStaleAfter now)
  let attached := attachedAgentCount readings.workerStaleAfter now agents
  if readings.threadMissing then true
  else if recovery.session.desiredStatus = .paused then recovery.session.status = .paused
  else if isStalledStart recovery.session agents readings now then true
  else if readings.executionState.all (· ∈ ["offline", "awaiting_launcher"]) then
    recovery.session.status =
      if readings.wakeIfNeeded ∧ readings.hasPowerTarget then .wakingExecutionPlane
      else .awaitingLauncher
  else if attached < recovery.agents.length then
    recovery.session.status = if 0 < attached then .launching else .waitingForWorkers
  else recovery.session.status = .ready

def Rests (s : State) (deed : Deed) : Prop :=
  match deed.operation with
  | .registerWorker agentName _ | .enqueueRestart agentName =>
      s.agents.find? (·.agentName = agentName) = none
  | .routeDiscordMessage routing => s.session.status = .closed ∨
      s.session.desiredStatus = .paused ∨ routing.toOption = none
  | .claimNextJob agentName _ _ policy => s.session.status = .closed ∨
      s.session.desiredStatus = .paused ∨
      (s.agents.find? (·.agentName = agentName)).all (nothingToClaim s · policy deed.now)
  | .resetSession => s.agents = []
  | .pause => False
  | .recoverFinish which readings =>
      (s.recoveries[which]?).all fun recovery => recovery.stands readings deed.now
  | _ => True

/-! ## What is known of a session -/

structure Shut (s : State) : Prop where
  snapshots : ∀ recovery ∈ s.recoveries,
    recovery.session.closedAt = none ∧ ¬ recovery.session.status.isClosed
  opened : s.session.closedAt = none → ¬ s.session.status.isClosed
  status : s.session.closedAt.isSome → s.session.status.isClosed
  jobs : s.session.closedAt.isSome → ∀ job ∈ s.jobs, ¬ job.live

theorem shut_start (profiles : List (String × String)) (now : Time) :
    Shut (State.start profiles now) where
  snapshots := by
    intro recovery hmem
    cases hmem
  opened := fun _ => Bool.false_ne_true
  status := by
    intro hclosed
    cases hclosed
  jobs := by
    intro hclosed
    cases hclosed

variable {session : SessionRow} {now : Time} {s t : State} {deed : Deed}
  {agentName workerId : String}

theorem refreshSessionStartupState_status (agents : List AgentRow) (jobs : List JobRow)
    (now : Time) (hopen : session.closedAt = none) :
    ¬ (refreshSessionStartupState session agents jobs now).status.isClosed := by
  unfold refreshSessionStartupState
  rw [hopen]
  simp only [Option.isSome_none, Bool.false_eq_true, if_false]
  repeat' split
  all_goals exact Bool.false_ne_true

theorem refreshSessionStartupState_of_closed (agents : List AgentRow) (jobs : List JobRow)
    (now : Time) (hclosed : session.closedAt.isSome) :
    refreshSessionStartupState session agents jobs now = session :=
  if_pos hclosed

variable {readings : RecoveryReadings} {which : Nat} {reason : String}

theorem recoverSession_status {agents : List AgentRow} {hasJobs : Bool}
    (hleft : (recoverSession session agents hasJobs readings now).cancels = false) :
    ¬ (recoverSession session agents hasJobs readings now).session.status.isClosed := by
  unfold recoverSession at hleft ⊢
  split at hleft
  · cases hleft
  · rename_i hthere
    rw [if_neg hthere]
    split at hleft
    · rename_i hpaused
      rw [if_pos hpaused]
      exact Bool.false_ne_true
    · rename_i hready
      rw [if_neg hready]
      split at hleft
      · cases hleft
      · rename_i hstarted
        rw [if_neg hstarted]
        unfold recoverWorkers
        simp only
        repeat' split
        all_goals exact Bool.false_ne_true

theorem not_live_cancelJobs {jobs : List JobRow} {job : JobRow}
    (hmem : job ∈ cancelJobs jobs (·.live)) : ¬ job.live := by
  intro hlive
  obtain ⟨id, hid⟩ := List.getElem?_of_mem hmem
  exact (getElem?_cancelJobs hid hlive).2 hlive

/-- What a recovery that has read an open session comes to: it closes the session and cancels
its jobs, or writes a status over that of the session unless it is the one it has read. -/
inductive Finishes (s : State) (recovery : Recovery) (recovered : Recovered) (t : State) : Prop
  | closes (hcancels : recovered.cancels = true) (hclosedAt : t.session.closedAt.isSome)
      (hstatus : t.session.status.isClosed) (hjobs : t.jobs = cancelJobs s.jobs (·.live))
  | leaves (hcancels : recovered.cancels = false)
      (hclosedAt : t.session.closedAt = s.session.closedAt)
      (hwritten : ¬ recovered.session.status.isClosed)
      (hstatus : t.session.status =
        writeBack recovery.session.status recovered.session.status s.session.status)
      (hjobs : t.jobs = s.jobs)

theorem recoverFinish_finishes {recovery : Recovery} (readings : RecoveryReadings) (now : Time)
    (hrecovery : s.recoveries[which]? = some recovery) (hopen : recovery.session.closedAt = none)
    (hstatus : ¬ recovery.session.status.isClosed) :
    Finishes s recovery (s.recovered recovery readings now)
      (recoverFinish s which readings now) := by
  unfold recoverFinish
  rw [hrecovery]
  rcases recoverSession_closes recovery.session recovery.agents (hasLiveJob s.jobs) readings now
    with ⟨hcancels, hclosedAt, hclosed⟩ | ⟨hcancels, hclosedAt⟩
  · have hshut : (s.recovered recovery readings now).session.status.isClosed := by
      rcases hclosed with hsame | hsame
      · rw [State.recovered, hsame]
        rfl
      · rw [State.recovered, hsame]
        rfl
    have hnew : (s.recovered recovery readings now).session.status ≠ recovery.session.status := by
      intro hsame
      rw [hsame] at hshut
      exact hstatus hshut
    apply Finishes.closes hcancels
    · change Option.isSome (writeBack _ _ _) = true
      rw [State.recovered, hclosedAt, hopen]
      rfl
    · change SessionStatus.isClosed (writeBack _ _ _) = true
      rw [writeBack, if_neg hnew]
      exact hshut
    · exact if_pos hcancels
  · apply Finishes.leaves hcancels
    · exact if_pos hclosedAt
    · exact recoverSession_status hcancels
    · rfl
    · exact if_neg (by rw [State.recovered, hcancels]; exact Bool.false_ne_true)

theorem Shut.opens (hshut : Shut s) (hopen : s.session.closedAt = none) (hmoves : Moves s deed t) :
    (t.session.closedAt = none ∧ ¬ t.session.status.isClosed) ∨
      t.session.closedAt.isSome ∧ t.session.status.isClosed ∧ ∀ job ∈ t.jobs, ¬ job.live := by
  have hstatus := hshut.opened hopen
  cases hmoves with
  | stays => exact Or.inl ⟨hopen, hstatus⟩
  | works _ hwork hdone hframe =>
      rw [hframe.session]
      exact Or.inl ⟨hopen, hstatus⟩
  | registers agentName workerId agent agents =>
      refine Or.inl ⟨?_, refreshSessionStartupState_status agents s.jobs deed.now hopen⟩
      rw [refreshSessionStartupState_closedAt]
      exact hopen
  | beats agents =>
      refine Or.inl ⟨?_, refreshSessionStartupState_status agents s.jobs deed.now hopen⟩
      rw [refreshSessionStartupState_closedAt]
      exact hopen
  | launches => exact Or.inl ⟨hopen, Bool.false_ne_true⟩
  | resets => exact Or.inl ⟨hopen, hstatus⟩
  | closes => exact Or.inr ⟨rfl, rfl, fun job hmem => not_live_cancelJobs hmem⟩
  | pauses => exact Or.inl ⟨hopen, Bool.false_ne_true⟩
  | resumes => exact Or.inl ⟨hopen, hstatus⟩
  | probes => exact Or.inl ⟨hopen, hstatus⟩
  | recovers which readings =>
      cases hrecovery : s.recoveries[which]? with
      | none =>
          rw [recoverFinish, hrecovery]
          exact Or.inl ⟨hopen, hstatus⟩
      | some recovery =>
          obtain ⟨hread, hreadStatus⟩ :=
            hshut.snapshots recovery (List.mem_of_getElem? hrecovery)
          cases recoverFinish_finishes readings deed.now hrecovery hread hreadStatus with
          | closes hcancels hclosedAt hclosed hjobs =>
              refine Or.inr ⟨hclosedAt, hclosed, ?_⟩
              rw [hjobs]
              exact fun job hmem => not_live_cancelJobs hmem
          | leaves hcancels hclosedAt hwritten hafter =>
              refine Or.inl ⟨hclosedAt.trans hopen, ?_⟩
              rw [hafter, writeBack]
              split
              · exact hstatus
              · exact hwritten

theorem Shut.step (hshut : Shut s) (hstays : StaysClosed s (step s deed)) : Shut (step s deed) where
  snapshots := by
    intro recovery hmem
    rcases (step_moves s deed).recoveries hmem with hold | ⟨hopen, hsession⟩
    · exact hshut.snapshots recovery hold
    · rw [hsession]
      exact ⟨hopen, hshut.opened hopen⟩
  opened := by
    intro hopen
    have hbefore : s.session.closedAt = none := by
      by_contra hset
      have hafter := (step_moves s deed).closedAt (Option.isSome_iff_ne_none.mpr hset)
      rw [hopen] at hafter
      cases hafter
    rcases hshut.opens hbefore (step_moves s deed) with ⟨_, hstatus⟩ | ⟨hclosed, _⟩
    · exact hstatus
    · rw [hopen] at hclosed
      cases hclosed
  status := hstays.status
  jobs := by
    intro hclosed job hmem hlive
    cases hbefore : s.session.closedAt with
    | none =>
        rcases hshut.opens hbefore (step_moves s deed) with ⟨hopen, _⟩ | ⟨_, _, hjobs⟩
        · rw [hopen] at hclosed
          cases hclosed
        · exact hjobs job hmem hlive
    | some =>
        have hset : s.session.closedAt.isSome := by
          rw [hbefore]
          rfl
        obtain ⟨id, hid⟩ := List.getElem?_of_mem hmem
        have hlt : id < s.jobs.length := by
          rw [← hstays.created hset]
          exact (List.getElem?_eq_some_iff.mp hid).1
        have hold := List.getElem?_eq_getElem hlt
        have hsame := hstays.moved hset id _ job hold hid hlive
        apply hshut.jobs hset _ (List.mem_of_getElem? hold)
        rw [JobRow.live, ← hsame]
        exact hlive

/-! ## What a closed session takes -/

theorem step_of_ok (hdone : perform s deed.operation deed.now = .ok t) : step s deed = t := by
  rw [step, hdone]
  rfl

theorem step_of_error {error : ServiceError}
    (hraised : perform s deed.operation deed.now = .error error) : step s deed = s := by
  rw [step, hraised]
  rfl

theorem StaysClosed.left (hshut : Shut s) (hclosed : s.session.closedAt.isSome)
    (hstatus : t.session.status.isClosed)
    (hjobs : t.jobs = s.jobs ∨ ∃ which, t.jobs = cancelJobs s.jobs which) : StaysClosed s t where
  status := fun _ => hstatus
  created := by
    intro _
    rcases hjobs with hsame | ⟨which, hcancelled⟩
    · rw [hsame]
    · rw [hcancelled, cancelJobs, List.length_map]
  moved := by
    intro _ id job row hjob hrow hlive
    have hold : s.jobs[id]? = some row := by
      rcases hjobs with hsame | ⟨which, hcancelled⟩
      · rw [hsame] at hrow
        exact hrow
      · rw [hcancelled] at hrow
        exact (getElem?_cancelJobs hrow hlive).1
    exact absurd hlive (hshut.jobs hclosed row (List.mem_of_getElem? hold))

theorem StaysClosed.refl (hshut : Shut s) (hclosed : s.session.closedAt.isSome) : StaysClosed s s :=
  StaysClosed.left hshut hclosed (hshut.status hclosed) (Or.inl rfl)

theorem not_staysClosed_of_status (hclosed : t.session.closedAt.isSome)
    (hstatus : ¬ t.session.status.isClosed) : ¬ StaysClosed s t :=
  fun hstays => hstatus (hstays.status hclosed)

theorem not_staysClosed_of_jobs (hclosed : s.session.closedAt.isSome)
    (hjobs : t.jobs.length ≠ s.jobs.length) : ¬ StaysClosed s t :=
  fun hstays => hjobs (hstays.created hclosed)

theorem staysClosed_addJob (hclosed : s.session.closedAt.isSome) (job : JobRow) :
    ¬ StaysClosed s (s.addJob job) := by
  apply not_staysClosed_of_jobs hclosed
  rw [State.addJob, List.length_append]
  exact Nat.ne_of_gt (Nat.lt_succ_self _)

theorem registerWorker_rests (hshut : Shut s) (hclosed : s.session.closedAt.isSome)
    (hdeed : deed.operation = .registerWorker agentName workerId) :
    StaysClosed s (step s deed) ↔ s.agents.find? (·.agentName = agentName) = none := by
  cases hfind : s.agents.find? (·.agentName = agentName) with
  | none =>
      have hraised : perform s deed.operation deed.now = .error (.valueError "Agent not found.") := by
        rw [hdeed, perform, registerWorker, requireAgent, hfind]
        rfl
      rw [step_of_error hraised]
      exact iff_of_true (StaysClosed.refl hshut hclosed) rfl
  | some =>
      apply iff_of_false _ nofun
      have hdone : ∃ t, perform s deed.operation deed.now = .ok t := by
        rw [hdeed, perform, registerWorker, requireAgent, hfind]
        exact ⟨_, rfl⟩
      obtain ⟨t, hdone⟩ := hdone
      rw [step_of_ok hdone]
      rw [hdeed] at hdone
      obtain ⟨_, _, hdone⟩ := bind_eq_ok.1 hdone
      rw [← pure_eq_ok.1 hdone]
      apply not_staysClosed_of_status
      · change Option.isSome (refreshSessionStartupState _ _ _ _).closedAt = true
        rw [refreshSessionStartupState_closedAt]
        exact hclosed
      · change ¬ (refreshSessionStartupState _ _ _ _).status.isClosed = true
        rw [refreshSessionStartupState_of_closed]
        · change ¬ SessionStatus.isClosed (if _ then _ else _) = true
          split
          · exact Bool.false_ne_true
          · exact Bool.false_ne_true
        · exact hclosed

theorem enqueueRestart_rests (hshut : Shut s) (hclosed : s.session.closedAt.isSome)
    (hdeed : deed.operation = .enqueueRestart agentName) :
    StaysClosed s (step s deed) ↔ s.agents.find? (·.agentName = agentName) = none := by
  cases hfind : s.agents.find? (·.agentName = agentName) with
  | none =>
      have hraised : ∃ error, perform s deed.operation deed.now = .error error := by
        rw [hdeed, perform, enqueueRestart, hfind]
        exact ⟨_, rfl⟩
      obtain ⟨error, hraised⟩ := hraised
      rw [step_of_error hraised]
      exact iff_of_true (StaysClosed.refl hshut hclosed) rfl
  | some =>
      apply iff_of_false _ nofun
      have hdone : perform s deed.operation deed.now =
          .ok (s.addJob (newJob agentName "restart" s.session.sessionEpoch deed.now)) := by
        rw [hdeed, perform, enqueueRestart, hfind]
        rfl
      rw [step_of_ok hdone]
      exact staysClosed_addJob hclosed _

theorem routeDiscordMessage_rests {routing : Except ServiceError RoutingDecision} (hshut : Shut s)
    (hclosed : s.session.closedAt.isSome) (hdeed : deed.operation = .routeDiscordMessage routing) :
    StaysClosed s (step s deed) ↔ s.session.status = .closed ∨
      s.session.desiredStatus = .paused ∨ routing.toOption = none := by
  have hstatus := hshut.status hclosed
  cases hdone : perform s deed.operation deed.now with
  | error error =>
      rw [step_of_error hdone]
      apply iff_of_true (StaysClosed.refl hshut hclosed)
      by_contra hall
      simp only [not_or] at hall
      obtain ⟨hopen, hready, hrouted⟩ := hall
      have hrunning : s.session.status ≠ .paused := by
        intro hpaused
        rw [hpaused] at hstatus
        cases hstatus
      obtain ⟨decision, hdecision⟩ : ∃ decision, routing = .ok decision := by
        cases routing with
        | error => exact absurd rfl hrouted
        | ok decision => exact ⟨decision, rfl⟩
      rw [hdeed, perform, routeDiscordMessage, require, if_pos hopen, require,
        if_pos ⟨hready, hrunning⟩, hdecision] at hdone
      cases hdone
  | ok =>
      rw [step_of_ok hdone]
      rw [hdeed] at hdone
      obtain ⟨_, hopen, hdone⟩ := bind_eq_ok.1 hdone
      obtain ⟨_, hready, hdone⟩ := bind_eq_ok.1 hdone
      obtain ⟨decision, hdecision, hdone⟩ := bind_eq_ok.1 hdone
      rw [← pure_eq_ok.1 hdone]
      apply iff_of_false (staysClosed_addJob hclosed _)
      intro hany
      rcases hany with hshutdown | hpaused | hnone
      · exact require_eq_ok.1 hopen hshutdown
      · exact (require_eq_ok.1 hready).1 hpaused
      · rw [hdecision] at hnone
        cases hnone

theorem resetSession_rests (hshut : Shut s) (hclosed : s.session.closedAt.isSome) :
    StaysClosed s (resetSession s now) ↔ s.agents = [] := by
  constructor
  · intro hstays
    have hlength := hstays.created hclosed
    rw [resetSession, List.length_append, cancelJobs, List.length_map, List.length_map] at hlength
    exact List.length_eq_zero_iff.mp (by omega)
  · intro hnone
    refine StaysClosed.left hshut hclosed ?_ (Or.inr ⟨(·.live), ?_⟩)
    · exact hshut.status hclosed
    change cancelJobs _ _ ++ s.agents.map _ = _
    rw [hnone, List.map_nil, List.append_nil]

theorem stands_iff (recovery : Recovery) (readings : RecoveryReadings) (now : Time) :
    recovery.stands readings now ↔
      (recoverSession recovery.session recovery.agents false readings now).cancels = true ∨
        (recoverSession recovery.session recovery.agents false readings now).session.status =
          recovery.session.status := by
  unfold Recovery.stands recoverSession
  by_cases hmissing : readings.threadMissing = true
  · simp only [if_pos hmissing, true_or]
  · by_cases hpaused : recovery.session.desiredStatus = .paused
    · simp only [if_neg hmissing, if_pos hpaused, decide_eq_true_eq, Bool.false_eq_true, false_or]
      exact eq_comm
    · simp only [if_neg hmissing, if_neg hpaused]
      split
      · simp only [true_or]
      · obtain ⟨_, hleaves⟩ := recoverWorkers_keeps recovery.session recovery.agents false readings
          now
        rw [hleaves]
        unfold recoverWorkers
        simp only [Bool.false_eq_true, if_false, false_or]
        repeat' split
        all_goals simp only [decide_eq_true_eq]
        all_goals exact eq_comm

theorem recoverFinish_rests (hshut : Shut s) (hclosed : s.session.closedAt.isSome) :
    StaysClosed s (recoverFinish s which readings deed.now) ↔
      (s.recoveries[which]?).all fun recovery => recovery.stands readings deed.now := by
  cases hrecovery : s.recoveries[which]? with
  | none =>
      rw [recoverFinish, hrecovery]
      exact iff_of_true (StaysClosed.refl hshut hclosed) rfl
  | some recovery =>
      obtain ⟨hread, hstatus⟩ := hshut.snapshots recovery (List.mem_of_getElem? hrecovery)
      have hjobless : hasLiveJob s.jobs = false := by
        rw [hasLiveJob, List.any_eq_false]
        exact fun job hmem => hshut.jobs hclosed job hmem
      have hrecovered : s.recovered recovery readings deed.now =
          recoverSession recovery.session recovery.agents false readings deed.now := by
        rw [State.recovered, hjobless]
      have hfinishes := recoverFinish_finishes readings deed.now hrecovery hread hstatus
      rw [hrecovered] at hfinishes
      change _ ↔ recovery.stands readings deed.now = true
      rw [stands_iff]
      cases hfinishes with
      | closes hcancels hclosedAt hafter hjobs =>
          exact iff_of_true (StaysClosed.left hshut hclosed hafter (Or.inr ⟨_, hjobs⟩))
            (Or.inl hcancels)
      | leaves hcancels hclosedAt hwritten hafter hjobs =>
          rw [hcancels]
          constructor
          · intro hstays
            have hshutAfter := hstays.status (by rw [hclosedAt]; exact hclosed)
            rw [hafter, writeBack] at hshutAfter
            split at hshutAfter
            · rename_i hsame
              exact Or.inr hsame
            · exact absurd hshutAfter hwritten
          · intro hany
            rcases hany with hcancel | hsame
            · cases hcancel
            · apply StaysClosed.left hshut hclosed _ (Or.inl hjobs)
              rw [hafter, writeBack, if_pos hsame]
              exact hshut.status hclosed

theorem claimCuratorSweepJob_none {agent : AgentRow} {leaseToken : String}
    (hreason : curatorSweepReason s now = some reason)
    (hquiet : ¬ hasNonCuratorBusyAgent s.agents ∧ reason ≠ "partial_attachment") :
    claimCuratorSweepJob s agent workerId leaseToken now = .ok none := by
  rw [claimCuratorSweepJob, hreason]
  exact if_pos hquiet

theorem claimCuratorSweepJob_some (agent : AgentRow) (workerId leaseToken : String)
    (hreason : curatorSweepReason s now = some reason)
    (hdue : ¬ (¬ hasNonCuratorBusyAgent s.agents ∧ reason ≠ "partial_attachment")) :
    ∃ job, claimCuratorSweepJob s agent workerId leaseToken now =
      .ok (some ((s.addJob job).markAgent agent.agentName "busy", s.jobs.length)) := by
  rw [claimCuratorSweepJob, hreason]
  exact ⟨_, if_neg hdue⟩

/-- A session whose jobs are all at their end claims nothing, or a job that it creates. -/
theorem claimWork_creates (hended : ∀ job ∈ s.jobs, ¬ job.live) (agent : AgentRow)
    (workerId leaseToken : String) (policy : Option Nat) (now : Time) :
    (nothingToClaim s agent policy now ∧
      ((∃ error, claimWork s agent workerId leaseToken policy now = .error error) ∨
        claimWork s agent workerId leaseToken policy now =
          .ok (s.markAgent agent.agentName "idle", none))) ∨
      ¬ nothingToClaim s agent policy now ∧ ∃ after jobId,
        claimWork s agent workerId leaseToken policy now = .ok (after, jobId) ∧
          after.jobs.length = s.jobs.length + 1 := by
  have hnone : activeJobCount s.jobs = 0 := by
    apply List.countP_eq_zero.mpr
    intro job hmem hactive
    apply hended job hmem
    rw [JobRow.live, of_decide_eq_true hactive]
    rfl
  have hpending : firstBy (fun left right => decide (left.createdAt ≤ right.createdAt))
      (selectWhere (fun job => decide (job.agentName = agent.agentName ∧ job.status = .pending))
        s.jobs) = none := by
    apply firstBy_of_sole
    intro id job hjob hkeep
    apply hended job (List.mem_of_getElem? hjob)
    rw [JobRow.live, (of_decide_eq_true hkeep).2]
    rfl
  by_cases hfull : maxParallelAgents policy s.agents ≤ activeJobCount s.jobs ∧
      ¬ isCuratorAgent agent
  · apply Or.inl
    rw [claimWork, if_pos hfull]
    refine ⟨decide_eq_true (Or.inl ⟨?_, hfull.2⟩), Or.inr rfl⟩
    have hle := hfull.1
    omega
  · have hroom : ¬ (maxParallelAgents policy s.agents = 0 ∧ ¬ isCuratorAgent agent) := by
      intro hall
      exact hfull ⟨Nat.le_of_eq (hall.1.trans hnone.symm), hall.2⟩
    rw [claimWork, if_neg hfull, hpending]
    cases hready : claimReadyTaskJob s agent workerId leaseToken now with
    | some found =>
        apply Or.inr
        unfold claimReadyTaskJob at hready
        split at hready
        · cases hready
        · rename_i handoff handoffId task hfind
          split at hready
          · cases hready
          · rename_i htask
            cases hready
            refine ⟨?_, _, _, rfl, ?_⟩
            · intro hnothing
              rcases of_decide_eq_true hnothing with hlimit | ⟨hclaimable, _⟩
              · exact hroom hlimit
              · rw [hfind] at hclaimable
                exact htask (of_decide_eq_true hclaimable)
            · change (s.jobs ++ [_]).length = _
              rw [List.length_append, List.length_singleton]
    | none =>
        have hclaimable : (claimableHandoff s agent).all (fun found =>
            decide (¬ found.2.2.state.isReady ∨ found.2.2.sessionEpoch ≠
              s.session.sessionEpoch)) := by
          unfold claimReadyTaskJob at hready
          split at hready
          · rename_i hfind
            rw [hfind]
            rfl
          · rename_i handoff handoffId task hfind
            split at hready
            · rename_i htask
              rw [hfind]
              exact decide_eq_true htask
            · cases hready
        by_cases hcurator : isCuratorAgent agent = true
        · rw [if_pos hcurator]
          cases hreason : curatorSweepReason s now with
          | none =>
              rw [claimCuratorSweepJob, hreason]
              refine Or.inl ⟨decide_eq_true (Or.inr ⟨hclaimable, ?_⟩), Or.inl ⟨_, rfl⟩⟩
              intro _
              rw [hreason]
              rfl
          | some reason =>
              by_cases hquiet : ¬ hasNonCuratorBusyAgent s.agents ∧ reason ≠ "partial_attachment"
              · refine Or.inl ⟨decide_eq_true (Or.inr ⟨hclaimable, ?_⟩), Or.inr ?_⟩
                · intro _
                  rw [hreason]
                  exact decide_eq_true hquiet
                · rw [claimCuratorSweepJob_none hreason hquiet]
                  rfl
              · refine Or.inr ⟨?_, ?_⟩
                · intro hnothing
                  rcases of_decide_eq_true hnothing with hlimit | ⟨_, hsweep⟩
                  · exact hroom hlimit
                  · have hall := hsweep hcurator
                    rw [hreason] at hall
                    exact hquiet (of_decide_eq_true hall)
                · obtain ⟨job, hswept⟩ := claimCuratorSweepJob_some agent workerId leaseToken
                    hreason hquiet
                  rw [hswept]
                  refine ⟨_, _, rfl, ?_⟩
                  change (s.jobs ++ [job]).length = _
                  rw [List.length_append, List.length_singleton]
        · rw [if_neg hcurator]
          refine Or.inl ⟨decide_eq_true (Or.inr ⟨hclaimable, ?_⟩), Or.inr rfl⟩
          intro hyes
          exact absurd hyes hcurator

theorem claimNextJob_rests {leaseToken : Uuid} {policy : Option Nat} (hshut : Shut s)
    (hclosed : s.session.closedAt.isSome)
    (hdeed : deed.operation = .claimNextJob agentName workerId leaseToken policy) :
    StaysClosed s (step s deed) ↔ s.session.status = .closed ∨
      s.session.desiredStatus = .paused ∨
      (s.agents.find? (·.agentName = agentName)).all (nothingToClaim s · policy deed.now) := by
  have hstatus := hshut.status hclosed
  have hended := hshut.jobs hclosed
  have hperform : perform s deed.operation deed.now =
      (·.1) <$> claimNextJob s agentName workerId leaseToken.text policy deed.now := by
    rw [hdeed]
    rfl
  by_cases hshutdown : s.session.status = .closed
  · have hdone : perform s deed.operation deed.now = .ok s := by
      rw [hperform, claimNextJob, if_pos hshutdown]
      rfl
    rw [step_of_ok hdone]
    exact iff_of_true (StaysClosed.refl hshut hclosed) (Or.inl hshutdown)
  cases hfind : s.agents.find? (·.agentName = agentName) with
  | none =>
      have hraised : ∃ error, perform s deed.operation deed.now = .error error := by
        rw [hperform, claimNextJob, if_neg hshutdown, requireAgent, hfind]
        exact ⟨_, rfl⟩
      obtain ⟨error, hraised⟩ := hraised
      rw [step_of_error hraised]
      exact iff_of_true (StaysClosed.refl hshut hclosed) (Or.inr (Or.inr rfl))
  | some agent =>
      have hwork : claimNextJob s agentName workerId leaseToken.text policy deed.now =
          if s.session.desiredStatus = .paused then
            .ok (s.markAgent agentName "paused", none)
          else claimWork s agent workerId leaseToken.text policy deed.now := by
        have hawake : s.session.status ∉ [.paused, .awaitingLauncher, .wakingExecutionPlane] := by
          cases hnow : s.session.status <;> rw [hnow] at hstatus <;> first | decide | cases hstatus
        have hidle : (selectWhere (fun job => decide (job.agentName = agentName ∧
            job.status = .inProgress)) s.jobs).head? = none := by
          apply List.head?_eq_none_iff.mpr
          apply List.eq_nil_iff_forall_not_mem.mpr
          intro row hrow
          obtain ⟨hjob, hkeep⟩ := mem_selectWhere.1 hrow
          apply hended row.1 (List.mem_of_getElem? hjob)
          rw [JobRow.live, (of_decide_eq_true hkeep).2]
          rfl
        rw [claimNextJob, if_neg hshutdown, requireAgent, hfind]
        change (if _ then _ else if _ then _ else _) = _
        rw [if_neg hawake, hidle]
        rfl
      by_cases hpaused : s.session.desiredStatus = .paused
      · have hdone : perform s deed.operation deed.now = .ok (s.markAgent agentName "paused") := by
          rw [hperform, hwork, if_pos hpaused]
          rfl
        rw [step_of_ok hdone]
        exact iff_of_true (StaysClosed.left hshut hclosed hstatus (Or.inl rfl))
          (Or.inr (Or.inl hpaused))
      · rw [if_neg hpaused] at hwork
        rcases claimWork_creates hended agent workerId leaseToken.text policy deed.now with
          ⟨hnothing, hrest⟩ | ⟨hsomething, after, jobId, hclaimed, hlength⟩
        · apply iff_of_true _ (Or.inr (Or.inr hnothing))
          rcases hrest with ⟨error, hraised⟩ | hidle
          · have hfailed : perform s deed.operation deed.now = .error error := by
              rw [hperform, hwork, hraised]
              rfl
            rw [step_of_error hfailed]
            exact StaysClosed.refl hshut hclosed
          · have hdone : perform s deed.operation deed.now =
                .ok (s.markAgent agent.agentName "idle") := by
              rw [hperform, hwork, hidle]
              rfl
            rw [step_of_ok hdone]
            exact StaysClosed.left hshut hclosed hstatus (Or.inl rfl)
        · have hdone : perform s deed.operation deed.now = .ok after := by
            rw [hperform, hwork, hclaimed]
            rfl
          rw [step_of_ok hdone]
          apply iff_of_false
          · apply not_staysClosed_of_jobs hclosed
            rw [hlength]
            exact Nat.succ_ne_self _
          · intro hany
            rcases hany with hsame | hheld | hnothing
            · exact hshutdown hsame
            · exact hpaused hheld
            · exact hsomething hnothing

/-! ## Closed for good -/

/-- A step keeps a closed session closed exactly when it meets the condition. -/
theorem staysClosed_iff_rests (hshut : Shut s) (hclosed : s.session.closedAt.isSome) :
    StaysClosed s (step s deed) ↔ Rests s deed := by
  have hstatus := hshut.status hclosed
  have hguarded : s.session.closedAt ≠ none := Option.isSome_iff_ne_none.mp hclosed
  unfold Rests
  cases hdeed : deed.operation with
  | registerWorker => exact registerWorker_rests hshut hclosed hdeed
  | heartbeat agentName workerId status =>
      apply iff_of_true _ trivial
      cases hdone : perform s deed.operation deed.now with
      | error =>
          rw [step_of_error hdone]
          exact StaysClosed.refl hshut hclosed
      | ok =>
          rw [step_of_ok hdone]
          rw [hdeed] at hdone
          obtain ⟨agent, _, hdone⟩ := bind_eq_ok.1 hdone
          rw [← pure_eq_ok.1 hdone]
          refine StaysClosed.left hshut hclosed ?_ (Or.inl rfl)
          change (refreshSessionStartupState _ _ _ _).status.isClosed = true
          rw [refreshSessionStartupState_of_closed]
          · exact hstatus
          · exact hclosed
  | routeDiscordMessage => exact routeDiscordMessage_rests hshut hclosed hdeed
  | enqueueRestart => exact enqueueRestart_rests hshut hclosed hdeed
  | claimLaunches =>
      apply iff_of_true _ trivial
      have hdone : perform s deed.operation deed.now = .ok s := by
        rw [hdeed, perform, claimLaunches, if_neg fun hlaunches => hguarded hlaunches.2.2.1]
      rw [step_of_ok hdone]
      exact StaysClosed.refl hshut hclosed
  | claimNextJob =>
      exact claimNextJob_rests hshut hclosed hdeed
  | completeJob =>
      apply iff_of_true _ trivial
      cases hdone : perform s deed.operation deed.now with
      | error =>
          rw [step_of_error hdone]
          exact StaysClosed.refl hshut hclosed
      | ok =>
          rw [step_of_ok hdone]
          rw [hdeed] at hdone
          rcases completeJob_eq_ok hdone with rfl | ⟨job, queued, haccepted, _⟩
          · exact StaysClosed.refl hshut hclosed
          · obtain ⟨hjob, _, hlive, _⟩ := acceptedJob_eq_some haccepted
            exact absurd hlive (hshut.jobs hclosed job (List.mem_of_getElem? hjob))
  | failJob =>
      apply iff_of_true _ trivial
      cases hdone : perform s deed.operation deed.now with
      | error =>
          rw [step_of_error hdone]
          exact StaysClosed.refl hshut hclosed
      | ok =>
          rw [step_of_ok hdone]
          rw [hdeed] at hdone
          rcases failJob_eq_ok hdone with rfl | ⟨job, haccepted, _⟩
          · exact StaysClosed.refl hshut hclosed
          · obtain ⟨hjob, _, hlive, _⟩ := acceptedJob_eq_some haccepted
            exact absurd hlive (hshut.jobs hclosed job (List.mem_of_getElem? hjob))
  | resetSession =>
      rw [step_of_ok (t := resetSession s deed.now) (by rw [hdeed]; rfl)]
      exact resetSession_rests hshut hclosed
  | closeSession =>
      rw [step_of_ok (t := closeSessionRow s deed.now) (by rw [hdeed]; rfl)]
      exact iff_of_true (StaysClosed.left hshut hclosed rfl (Or.inr ⟨_, rfl⟩)) trivial
  | cleanupSessionThread =>
      apply iff_of_true _ trivial
      have hdone : perform s deed.operation deed.now = .ok s := by
        rw [hdeed, perform, cleanupSessionThread, if_neg hguarded]
      rw [step_of_ok hdone]
      exact StaysClosed.refl hshut hclosed
  | pause =>
      rw [step_of_ok (t := pause s) (by rw [hdeed]; rfl)]
      exact iff_of_false (not_staysClosed_of_status hclosed Bool.false_ne_true) not_false
  | resume =>
      rw [step_of_ok (t := resume s) (by rw [hdeed]; rfl)]
      exact iff_of_true (StaysClosed.left hshut hclosed hstatus (Or.inl rfl)) trivial
  | recoverBegin =>
      apply iff_of_true _ trivial
      have hdone : perform s deed.operation deed.now = .ok s := by
        rw [hdeed, perform, recoverBegin, if_pos hclosed]
      rw [step_of_ok hdone]
      exact StaysClosed.refl hshut hclosed
  | recoverFinish which readings =>
      rw [step_of_ok (t := recoverFinish s which readings deed.now) (by rw [hdeed]; rfl)]
      exact recoverFinish_rests hshut hclosed

/-- A run keeps closed sessions closed exactly when each of its steps on a closed session meets
the condition. -/
theorem closed_sessions_stay_closed_iff (profiles : List (String × String)) (now : Time)
    (deeds : List Deed) :
    Along step (fun s deed => StaysClosed s (step s deed)) (State.start profiles now) deeds ↔
      Along step (fun s deed => s.session.closedAt.isSome → Rests s deed)
        (State.start profiles now) deeds := by
  apply along_iff_along_under (shut_start profiles now)
  · intro s deed hshut
    cases hbefore : s.session.closedAt with
    | none =>
        apply iff_of_true
        · refine ⟨?_, ?_, ?_⟩
          · intro hclosed
            rcases hshut.opens hbefore (step_moves s deed) with ⟨hopen, _⟩ | ⟨_, hstatus, _⟩
            · rw [hopen] at hclosed
              cases hclosed
            · exact hstatus
          · intro hclosed
            rw [hbefore] at hclosed
            cases hclosed
          · intro hclosed
            rw [hbefore] at hclosed
            cases hclosed
        · intro hclosed
          cases hclosed
    | some time =>
        have hclosed : s.session.closedAt.isSome := by
          rw [hbefore]
          rfl
        rw [staysClosed_iff_rests hshut hclosed]
        exact ⟨fun hrests _ => hrests, fun hrests => hrests rfl⟩
  · intro s deed hshut hstays
    exact hshut.step hstays

/-- A worker of a session that has been closed registers: it is launching again. -/
theorem closed_session_reopens :
    ¬ Along step (fun s deed => StaysClosed s (step s deed)) team
      [⟨.closeSession, 1⟩, ⟨.registerWorker "coder" "w1", 2⟩] := by
  intro hall
  have hlast := hall [⟨.closeSession, 1⟩] ⟨.registerWorker "coder" "w1", 2⟩ (List.prefix_refl _)
  have hstatus := hlast.status (by decide)
  revert hstatus
  decide

end OpsCure.SessionService
