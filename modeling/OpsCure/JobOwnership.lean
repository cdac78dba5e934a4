/-
Who settles a job (`_require_job`, `_recover_orphaned_job`, `complete_job`, `fail_job`): how often
a job is settled, and by which worker.
-/
import OpsCure.SessionFrame

namespace OpsCure.SessionService

open Fallible Run Table

/-! ## Settling once, and by the holder -/

def SettlesJob (id : Id) (s : State) (deed : Deed) : Prop :=
  ∃ job row, s.jobs[id]? = some job ∧ (step s deed).jobs[id]? = some row ∧ row ≠ job ∧
    (row.status = .completed ∨ row.status = .failed)

def SettledOnce (id : Id) (s : State) (deeds : List Deed) : Prop :=
  ∀ (done more : List Deed) (deed other : Deed), done ++ [deed] ++ more ++ [other] <+: deeds →
    SettlesJob id (run step s done) deed →
      ¬ SettlesJob id (run step s (done ++ [deed] ++ more)) other

/-- A report changes a job only if it is in progress and belongs to the worker that reports. -/
def SettledByHolder (s : State) (deed : Deed) : Prop :=
  ∀ report ∈ deed.report?, ∀ (id : Id) (job row : JobRow), s.jobs[id]? = some job →
    (step s deed).jobs[id]? = some row → row ≠ job →
      job.status = .inProgress ∧ job.workerId = some report.workerId

def ReportsHeld (s : State) (deed : Deed) : Prop :=
  ∀ report ∈ deed.report?, ∀ job ∈ s.acceptedJob report, job.status ≠ .pending

instance (s : State) (deed : Deed) : Decidable (ReportsHeld s deed) :=
  inferInstanceAs (Decidable (∀ report ∈ deed.report?, ∀ job ∈ s.acceptedJob report,
    job.status ≠ .pending))

/-! ## Jobs at their end -/

def KeepsEnded (jobs after : List JobRow) : Prop :=
  ∀ (id : Id) (job : JobRow), jobs[id]? = some job → ¬ job.live → after[id]? = some job

theorem KeepsEnded.refl (jobs : List JobRow) : KeepsEnded jobs jobs :=
  fun _ _ hjob _ => hjob

variable {jobs middle after : List JobRow} {job : JobRow} {s t m : State} {agent : AgentRow}
  {workerId leaseToken : String} {policy : Option Nat} {now : Time} {deed : Deed}
  {report : JobReport} {agents : List AgentRow} {request : HandoffRequest}

theorem KeepsEnded.trans (hfirst : KeepsEnded jobs middle) (hsecond : KeepsEnded middle after) :
    KeepsEnded jobs after :=
  fun id job hjob hended => hsecond id job (hfirst id job hjob hended) hended

theorem KeepsEnded.append (jobs added : List JobRow) : KeepsEnded jobs (jobs ++ added) := by
  intro id job hjob _
  have hlt := (List.getElem?_eq_some_iff.mp hjob).1
  exact (List.getElem?_append_left hlt).trans hjob

variable {id : Id} {which : JobRow → Bool} {sourceAgent agentName : String}

theorem KeepsEnded.update {row : JobRow} (hjob : jobs[id]? = some job) (hlive : job.live) :
    KeepsEnded jobs (update jobs id row) := by
  intro other found hfound hended
  have hne : id ≠ other := by
    intro hsame
    subst hsame
    rw [hjob] at hfound
    rw [Option.some.inj hfound] at hlive
    exact hended hlive
  exact (getElem?_update_of_ne hne).trans hfound

theorem KeepsEnded.cancel (hwhich : ∀ job, which job → job.live) :
    KeepsEnded jobs (cancelJobs jobs which) := by
  intro id job hjob hended
  rw [cancelJobs, List.getElem?_map, hjob, Option.map_some,
    if_neg fun hcancelled => hended (hwhich job hcancelled)]

theorem Queues.ended (hqueues : Queues s t) : KeepsEnded s.jobs t.jobs := by
  obtain ⟨added, _, rfl⟩ := hqueues
  exact KeepsEnded.append s.jobs added

theorem JobRow.live_of_pending (hpending : job.status = .pending) : job.live := by
  rw [JobRow.live, hpending]
  rfl

theorem JobRow.live_of_inProgress (hactive : job.status = .inProgress) : job.live := by
  rw [JobRow.live, hactive]
  rfl

theorem Freed.ended (hfreed : Freed s agent m) : KeepsEnded s.jobs m.jobs := by
  cases hfreed with
  | free => exact KeepsEnded.refl _
  | requeued id job hjob hagent hactive =>
      exact KeepsEnded.update hjob (JobRow.live_of_inProgress hactive)

theorem Claims.ended (hclaims : Claims m agent workerId leaseToken policy now t) :
    KeepsEnded m.jobs t.jobs := by
  cases hclaims with
  | idle => exact KeepsEnded.refl _
  | started agents id job hjob hagent hpending =>
      exact KeepsEnded.update hjob (JobRow.live_of_pending hpending)
  | claimed => exact KeepsEnded.append _ _
  | swept => exact KeepsEnded.append _ _

theorem queueHandoffs_jobs {requests : List HandoffRequest}
    (hok : queueHandoffs s sourceAgent requests now = .ok t) :
    ∃ added : List JobRow, (∀ row ∈ added, row.status = .pending) ∧ t.jobs = s.jobs ++ added := by
  obtain ⟨u, hjobs, added, hadded, rfl⟩ := queueHandoffs_keeps (P := fun u => u.jobs = s.jobs) rfl
    (fun u v request _ hhere hturn => hturn.jobs.trans hhere) hok
  refine ⟨added, fun row hrow => (hadded row hrow).2, ?_⟩
  change u.jobs ++ added = _
  rw [hjobs]

theorem report_jobs (hdone : perform s deed.operation deed.now = .ok t)
    (hreport : report ∈ deed.report?) :
    t.jobs = s.jobs ∨ ∃ (job : JobRow) (status : JobStatus) (added : List JobRow),
      s.acceptedJob report = some job ∧ (status = .completed ∨ status = .failed) ∧
        (∀ row ∈ added, row.status = .pending) ∧
        t.jobs = update s.jobs report.jobId { job with status := status } ++ added := by
  unfold Deed.report? at hreport
  split at hreport
  · rename_i given output hdeed
    rw [← Option.some.inj hreport]
    rw [hdeed] at hdone
    rcases completeJob_eq_ok hdone with
      rfl | ⟨job, queued, haccepted, hqueued, left, ⟨more, hmore, rfl⟩, rfl⟩
    · exact Or.inl rfl
    · obtain ⟨added, hadded, hjobs⟩ := queueHandoffs_jobs hqueued
      refine Or.inr ⟨job, .completed, added ++ more, haccepted, Or.inl rfl, ?_, ?_⟩
      · intro row hrow
        rcases List.mem_append.mp hrow with hfirst | hsecond
        · exact hadded row hfirst
        · exact (hmore row hsecond).2
      · rw [(synchronizeCompletedTask_settles _ _ _ _ _ _).jobs, ← List.append_assoc]
        change queued.jobs ++ more = _
        rw [hjobs]
        rfl
  · rename_i given errorText hdeed
    rw [← Option.some.inj hreport]
    rw [hdeed] at hdone
    rcases failJob_eq_ok hdone with rfl | ⟨job, haccepted, added, hadded, rfl⟩
    · exact Or.inl rfl
    · refine Or.inr ⟨job, .failed, added, haccepted, Or.inr rfl, ?_, ?_⟩
      · exact fun row hrow => (hadded row hrow).2
      · change (synchronizeFailedTask _ _ _ _).jobs ++ added = _
        rw [(synchronizeFailedTask_settles _ _ _ _).jobs]
        rfl
  · cases hreport

/-! ## What the operations do to the job rows -/

def KeepsOwned (jobs after : List JobRow) : Prop :=
  ∀ (id : Id) (row : JobRow), after[id]? = some row → row.status = .inProgress →
    row.workerId.isSome ∨ jobs[id]? = some row

theorem KeepsOwned.refl (jobs : List JobRow) : KeepsOwned jobs jobs :=
  fun _ _ hrow _ => Or.inr hrow

theorem KeepsOwned.trans (hfirst : KeepsOwned jobs middle) (hsecond : KeepsOwned middle after) :
    KeepsOwned jobs after := by
  intro id row hrow hactive
  rcases hsecond id row hrow hactive with howned | hmiddle
  · exact Or.inl howned
  · exact hfirst id row hmiddle hactive

theorem KeepsOwned.append {added : List JobRow}
    (hadded : ∀ job ∈ added, job.status = .inProgress → job.workerId.isSome) :
    KeepsOwned jobs (jobs ++ added) := by
  intro id row hrow hactive
  by_cases hlt : id < jobs.length
  · rw [List.getElem?_append_left hlt] at hrow
    exact Or.inr hrow
  · rw [List.getElem?_append_right (Nat.le_of_not_lt hlt)] at hrow
    exact Or.inl (hadded row (List.mem_of_getElem? hrow) hactive)

theorem KeepsOwned.update {row : JobRow} (hrow : row.status = .inProgress → row.workerId.isSome) :
    KeepsOwned jobs (update jobs id row) := by
  intro other found hfound hactive
  rcases getElem?_update_eq_some hfound with ⟨_, hsame⟩ | hkept
  · rw [hsame] at hactive ⊢
    exact Or.inl (hrow hactive)
  · exact Or.inr hkept

theorem KeepsOwned.cancel (jobs : List JobRow) (which : JobRow → Bool) :
    KeepsOwned jobs (cancelJobs jobs which) := by
  intro id row hrow hactive
  exact Or.inr (getElem?_cancelJobs hrow (JobRow.live_of_inProgress hactive)).1

theorem Queues.owned (hqueues : Queues s t) : KeepsOwned s.jobs t.jobs := by
  obtain ⟨added, hadded, rfl⟩ := hqueues
  apply KeepsOwned.append
  intro job hjob hactive
  rw [(hadded job hjob).2] at hactive
  cases hactive

theorem Freed.owned (hfreed : Freed s agent m) : KeepsOwned s.jobs m.jobs := by
  cases hfreed with
  | free => exact KeepsOwned.refl _
  | requeued => exact KeepsOwned.update nofun

theorem Claims.owned (hclaims : Claims m agent workerId leaseToken policy now t) :
    KeepsOwned m.jobs t.jobs := by
  cases hclaims with
  | idle => exact KeepsOwned.refl _
  | started => exact KeepsOwned.update fun _ => rfl
  | claimed =>
      apply KeepsOwned.append
      intro job hjob _
      rw [List.mem_singleton.mp hjob]
      rfl
  | swept agents job hagent hfree hcurator hworker =>
      apply KeepsOwned.append
      intro added hadded _
      rw [List.mem_singleton.mp hadded, hworker]
      rfl

/-- Whatever happens to the rest, jobs at their end stay, and rows in progress are owned. -/
structure Tends (jobs after : List JobRow) : Prop where
  ended : KeepsEnded jobs after
  owned : KeepsOwned jobs after

theorem Tends.refl (jobs : List JobRow) : Tends jobs jobs :=
  ⟨KeepsEnded.refl jobs, KeepsOwned.refl jobs⟩

theorem Tends.trans (hfirst : Tends jobs middle) (hsecond : Tends middle after) :
    Tends jobs after :=
  ⟨hfirst.ended.trans hsecond.ended, hfirst.owned.trans hsecond.owned⟩

theorem Tends.cancel (hwhich : ∀ job, which job → job.live) : Tends jobs (cancelJobs jobs which) :=
  ⟨KeepsEnded.cancel hwhich, KeepsOwned.cancel jobs which⟩

theorem Queues.tends (hqueues : Queues s t) : Tends s.jobs t.jobs :=
  ⟨hqueues.ended, hqueues.owned⟩

theorem report_tends (hdone : perform s deed.operation deed.now = .ok t)
    (hreport : report ∈ deed.report?) : Tends s.jobs t.jobs := by
  rcases report_jobs hdone hreport with
    hsame | ⟨job, status, added, haccepted, hstatus, hadded, hjobs⟩
  · rw [hsame]
    exact Tends.refl _
  · obtain ⟨hjob, _, hlive, _⟩ := acceptedJob_eq_some haccepted
    have hreported : Tends s.jobs (update s.jobs report.jobId { job with status := status }) := by
      refine ⟨KeepsEnded.update hjob hlive, KeepsOwned.update ?_⟩
      intro hactive
      change status = .inProgress at hactive
      rcases hstatus with hcompleted | hfailed
      · rw [hcompleted] at hactive
        cases hactive
      · rw [hfailed] at hactive
        cases hactive
    rw [hjobs]
    refine hreported.trans ⟨KeepsEnded.append _ _, KeepsOwned.append ?_⟩
    intro row hrow hactive
    rw [hadded row hrow] at hactive
    cases hactive

theorem claimNextJob_tends {outcome : State × Option Id}
    (hok : claimNextJob s agentName workerId leaseToken policy now = .ok outcome) :
    Tends s.jobs outcome.1.jobs := by
  rcases claimNextJob_claims hok with ⟨agents, hsame⟩ | ⟨_, agent, m, _, _, hfreed, hclaims⟩
  · rw [hsame]
    exact Tends.refl _
  · exact Tends.trans ⟨hfreed.ended, hfreed.owned⟩ ⟨hclaims.ended, hclaims.owned⟩

theorem Moves.tends (hmoves : Moves s deed t) : Tends s.jobs t.jobs := by
  cases hmoves with
  | stays => exact Tends.refl _
  | works _ hwork hdone =>
      cases hdeed : deed.operation with
      | routeDiscordMessage =>
          rw [hdeed] at hdone
          obtain ⟨_, _, hdone⟩ := bind_eq_ok.1 hdone
          obtain ⟨_, _, hdone⟩ := bind_eq_ok.1 hdone
          obtain ⟨decision, _, hdone⟩ := bind_eq_ok.1 hdone
          rw [← pure_eq_ok.1 hdone]
          exact (Queues.addJob s _ _ _ _).tends
      | enqueueRestart =>
          rw [hdeed] at hdone
          obtain ⟨agent, _, hdone⟩ := bind_eq_ok.1 hdone
          rw [← pure_eq_ok.1 hdone]
          exact (Queues.addJob s _ _ _ _).tends
      | claimNextJob =>
          rw [hdeed] at hdone
          obtain ⟨outcome, houtcome, hdone⟩ := map_eq_ok.1 hdone
          rw [← hdone]
          exact claimNextJob_tends houtcome
      | completeJob report =>
          have hreport : report ∈ deed.report? := by
            rw [Deed.report?, hdeed]
            rfl
          exact report_tends hdone hreport
      | failJob report =>
          have hreport : report ∈ deed.report? := by
            rw [Deed.report?, hdeed]
            rfl
          exact report_tends hdone hreport
      | _ =>
          rw [hdeed] at hwork
          cases hwork
  | registers => exact Tends.refl _
  | beats => exact Tends.refl _
  | launches => exact Tends.refl _
  | resets =>
      apply Tends.trans (Tends.cancel fun job hlive => hlive)
      refine ⟨KeepsEnded.append _ _, KeepsOwned.append ?_⟩
      intro row hrow hactive
      obtain ⟨agent, _, hsame⟩ := List.mem_map.mp hrow
      rw [← hsame] at hactive
      cases hactive
  | closes => exact Tends.cancel fun job hlive => hlive
  | pauses =>
      exact Tends.cancel fun job hpending => JobRow.live_of_pending (of_decide_eq_true hpending)
  | resumes => exact Tends.refl _
  | probes => exact Tends.refl _
  | recovers =>
      unfold recoverFinish
      split
      · exact Tends.refl _
      · change Tends s.jobs (if _ then _ else _)
        split
        · exact Tends.cancel fun job hlive => hlive
        · exact Tends.refl _

/-! ## Once -/

theorem run_ended (deeds : List Deed) : KeepsEnded s.jobs (run step s deeds).jobs := by
  induction deeds using List.reverseRecOn with
  | nil => exact KeepsEnded.refl _
  | append_singleton deeds deed ih =>
      rw [run_concat]
      exact ih.trans (step_moves _ deed).tends.ended

theorem settledOnce (id : Id) (s : State) (deeds : List Deed) : SettledOnce id s deeds := by
  intro done more deed other _ hfirst hsecond
  obtain ⟨_, row, _, hrow, _, hstatus⟩ := hfirst
  have hended : ¬ row.live := by
    rcases hstatus with hcompleted | hfailed
    · simp [JobRow.live, hcompleted]
    · simp [JobRow.live, hfailed]
  have hsettled : (run step s (done ++ [deed])).jobs[id]? = some row := by
    rw [run_concat]
    exact hrow
  obtain ⟨job, after, hjob, hafter, hchanged, _⟩ := hsecond
  rw [run_append] at hjob hafter
  have hstill := run_ended more id row hsettled hended
  have hagain := (step_moves _ other).tends.ended id row hstill hended
  rw [hstill] at hjob
  rw [hagain] at hafter
  exact hchanged ((Option.some.inj hafter).symm.trans (Option.some.inj hjob))

/-! ## By the holder -/

def Owned (jobs : List JobRow) : Prop :=
  ∀ (id : Id) (job : JobRow), jobs[id]? = some job → job.status = .inProgress → job.workerId.isSome

theorem Owned.step (howned : Owned s.jobs) (deed : Deed) : Owned (step s deed).jobs := by
  intro id row hrow hactive
  rcases (step_moves s deed).tends.owned id row hrow hactive with hworker | hold
  · exact hworker
  · exact howned id row hold hactive

theorem availableAgent_mem {name targetAgent : String}
    (hfound : availableAgent agents name = some targetAgent) :
    targetAgent ∈ agents.map (·.agentName) := by
  obtain ⟨agent, hagent, hname⟩ := Option.map_eq_some_iff.mp hfound
  rw [← hname]
  exact List.mem_map_of_mem (List.mem_reverse.mp (List.mem_of_find?_eq_some hagent))

theorem readHandoff_target {block : HandoffBlock}
    (hread : readHandoff agents sourceAgent block = .ok request) :
    request.targetAgent ∈ agents.map (·.agentName) := by
  unfold readHandoff at hread
  simp only at hread
  split at hread
  · cases hread
  · rename_i targetAgent hfound
    split at hread
    · cases hread
    · split at hread
      · cases hread
      · split at hread
        · cases hread
        · cases hread
          exact availableAgent_mem hfound

theorem extractHandoffs_targets (agents : List AgentRow) (sourceAgent : String)
    (blocks : List HandoffBlock) :
    ∀ request ∈ (extractHandoffs agents sourceAgent blocks).1,
      request.targetAgent ∈ agents.map (·.agentName) := by
  unfold extractHandoffs
  apply List.foldlRecOn (motive := fun found : List HandoffRequest × List String =>
    ∀ request ∈ found.1, request.targetAgent ∈ agents.map (·.agentName))
  · intro request hrequest
    cases hrequest
  · intro found hfound block _
    split
    · exact hfound
    · split
      · rename_i accepted hread
        intro request hrequest
        rcases List.mem_append.mp hrequest with hold | hnew
        · exact hfound request hold
        · rw [List.mem_singleton.mp hnew]
          exact readHandoff_target hread
      · exact hfound

theorem requireAgent_of_mem (hmem : agentName ∈ agents.map (·.agentName)) :
    ∃ agent, requireAgent agents agentName = .ok agent := by
  obtain ⟨agent, hagent, hname⟩ := List.mem_map.mp hmem
  have hfound : (agents.find? (·.agentName = agentName)).isSome :=
    List.find?_isSome.mpr ⟨agent, hagent, decide_eq_true hname⟩
  obtain ⟨found, hfind⟩ := Option.isSome_iff_exists.mp hfound
  exact ⟨found, orRaise_eq_ok.2 hfind⟩

theorem upsertTaskForHandoff_succeeds (now : Time)
    (htarget : request.targetAgent ∈ s.agents.map (·.agentName)) :
    ∃ upserted, upsertTaskForHandoff s request now = .ok upserted := by
  obtain ⟨agent, hagent⟩ := requireAgent_of_mem htarget
  unfold upsertTaskForHandoff
  rw [hagent]
  cases findTask s.tasks request.taskId with
  | none => exact ⟨_, rfl⟩
  | some =>
      simp only [bind, Except.bind, pure, Except.pure]
      split
      · exact ⟨_, rfl⟩
      · exact ⟨_, rfl⟩

theorem queueHandoff_succeeds {queued : State × Bool} (now : Time)
    (htarget : request.targetAgent ∈ queued.1.agents.map (·.agentName)) :
    ∃ after, queueHandoff queued request now = .ok after := by
  obtain ⟨upserted, hupsert⟩ := upsertTaskForHandoff_succeeds now htarget
  unfold queueHandoff
  simp only [hupsert, bind, Except.bind, pure, Except.pure]
  cases upserted with
  | none => exact ⟨_, rfl⟩
  | some => exact ⟨_, rfl⟩

theorem queueHandoffs_succeeds (sourceAgent : String) {requests : List HandoffRequest}
    (now : Time)
    (htargets : ∀ request ∈ requests, request.targetAgent ∈ s.agents.map (·.agentName)) :
    ∃ t, queueHandoffs s sourceAgent requests now = .ok t := by
  have hfold : ∀ (rest : List HandoffRequest) (queued : State × Bool),
      (∀ request ∈ rest, request.targetAgent ∈ queued.1.agents.map (·.agentName)) →
      ∃ after, rest.foldlM (fun queued request => queueHandoff queued request now) queued =
        .ok after := by
    intro rest
    induction rest with
    | nil => exact fun queued _ => ⟨queued, rfl⟩
    | cons request rest ih =>
        intro queued hall
        obtain ⟨after, hafter⟩ := queueHandoff_succeeds now (hall request List.mem_cons_self)
        have hagents := (queueHandoff_handsOff hafter).frame.names
        obtain ⟨last, hlast⟩ := ih after fun other hother => by
          rw [hagents]
          exact hall other (List.mem_cons_of_mem request hother)
        exact ⟨last, by rw [List.foldlM_cons, hafter]; exact hlast⟩
  obtain ⟨after, hafter⟩ := hfold requests (s, false) htargets
  unfold queueHandoffs
  rw [hafter]
  exact ⟨_, rfl⟩

theorem acceptedJob_parts (haccepted : s.acceptedJob report = some job) :
    requireJob s report = .ok job ∧ (∃ agent, requireAgent s.agents report.agentName = .ok agent) ∧
      ¬ job.status.isTerminal ∧ validateJobConcurrency job s.session report := by
  unfold State.acceptedJob at haccepted
  split at haccepted
  · rename_i found agent hfound hagent
    split at haccepted
    · rename_i hpasses
      rw [← Option.some.inj haccepted]
      exact ⟨hfound, ⟨agent, hagent⟩, hpasses⟩
    · cases haccepted
  · cases haccepted

theorem completeJob_completes (haccepted : s.acceptedJob report = some job)
    (output : ControlOutput) (now : Time) :
    ∃ t row, completeJob s report output now = .ok t ∧ t.jobs[report.jobId]? = some row ∧
      row.status = .completed := by
  obtain ⟨hrequired, ⟨agent, hagent⟩, hopen, hvalid⟩ := acceptedJob_parts haccepted
  obtain ⟨hjob, _⟩ := acceptedJob_eq_some haccepted
  have htargets : ∀ request ∈ (extractHandoffs s.agents report.agentName output.handoffBlocks).1,
      request.targetAgent ∈ (s.reported report job .completed now).agents.map (·.agentName) := by
    intro request hrequest
    rw [(reported_frame s report job .completed now).names]
    exact extractHandoffs_targets _ _ _ request hrequest
  obtain ⟨queued, hqueued⟩ := queueHandoffs_succeeds report.agentName now htargets
  obtain ⟨added, _, hjobs⟩ := queueHandoffs_jobs hqueued
  obtain ⟨more, _, hleft⟩ := (Queues.queueDiscussions queued report.agentName job
    (extractDiscussions s.agents report.agentName output.discussBlocks) now).trans
      (Queues.queuePlannerHandoffRepair _ report.agentName
        (extractHandoffs s.agents report.agentName output.handoffBlocks).2 now)
  have hdone : completeJob s report output now = .ok (synchronizeCompletedTask
      { queued with jobs := queued.jobs ++ more } job output.visibleOutput output.questionPresent
      (extractHandoffs s.agents report.agentName output.handoffBlocks).1 now) := by
    unfold completeJob
    rw [hrequired, hagent]
    change (if _ then _ else if _ then _ else _) = _
    rw [if_neg hopen, if_neg (by rw [hvalid]; exact Bool.false_ne_true)]
    change queueHandoffs _ _ _ _ >>= _ = _
    rw [hqueued, ← hleft]
    rfl
  have hended : (update s.jobs report.jobId { job with status := .completed })[report.jobId]? =
      some { job with status := .completed } := getElem?_update_self hjob
  refine ⟨_, { job with status := .completed }, hdone, ?_, rfl⟩
  rw [(synchronizeCompletedTask_settles _ _ _ _ _ _).jobs]
  change (queued.jobs ++ more)[report.jobId]? = _
  rw [hjobs, List.append_assoc]
  exact (List.getElem?_append_left (List.getElem?_eq_some_iff.mp hended).1).trans hended

theorem failJob_fails (haccepted : s.acceptedJob report = some job) (errorText : String)
    (now : Time) :
    ∃ t row, failJob s report errorText now = .ok t ∧ t.jobs[report.jobId]? = some row ∧
      row.status = .failed := by
  obtain ⟨hrequired, ⟨agent, hagent⟩, hopen, hvalid⟩ := acceptedJob_parts haccepted
  obtain ⟨hjob, _⟩ := acceptedJob_eq_some haccepted
  obtain ⟨more, _, hleft⟩ := Queues.queuePlannerRecovery
    (synchronizeFailedTask (s.reported report job .failed now) job errorText now) job
    report.agentName now
  have hdone : failJob s report errorText now = .ok ((synchronizeFailedTask
      (s.reported report job .failed now) job errorText now).queuePlannerRecovery job
        report.agentName now) := by
    unfold failJob
    rw [hrequired, hagent]
    change (if _ then _ else if _ then _ else _) = _
    rw [if_neg hopen, if_neg (by rw [hvalid]; exact Bool.false_ne_true)]
    rfl
  have hended : (update s.jobs report.jobId { job with status := .failed })[report.jobId]? =
      some { job with status := .failed } := getElem?_update_self hjob
  refine ⟨_, { job with status := .failed }, hdone, ?_, rfl⟩
  rw [hleft]
  change ((synchronizeFailedTask _ _ _ _).jobs ++ more)[report.jobId]? = _
  rw [(synchronizeFailedTask_settles _ _ _ _).jobs]
  exact (List.getElem?_append_left (List.getElem?_eq_some_iff.mp hended).1).trans hended

theorem report_settles (hreport : report ∈ deed.report?)
    (haccepted : s.acceptedJob report = some job) :
    ∃ row, (step s deed).jobs[report.jobId]? = some row ∧
      (row.status = .completed ∨ row.status = .failed) := by
  unfold Deed.report? at hreport
  split at hreport
  · rename_i given output hdeed
    rw [Option.mem_some_iff] at hreport
    subst hreport
    obtain ⟨t, row, hdone, hrow, hstatus⟩ := completeJob_completes haccepted output deed.now
    refine ⟨row, ?_, Or.inl hstatus⟩
    have hstep : perform s deed.operation deed.now = .ok t := by
      rw [hdeed]
      exact hdone
    rw [step, hstep]
    exact hrow
  · rename_i given errorText hdeed
    rw [Option.mem_some_iff] at hreport
    subst hreport
    obtain ⟨t, row, hdone, hrow, hstatus⟩ := failJob_fails haccepted errorText deed.now
    refine ⟨row, ?_, Or.inr hstatus⟩
    have hstep : perform s deed.operation deed.now = .ok t := by
      rw [hdeed]
      exact hdone
    rw [step, hstep]
    exact hrow
  · cases hreport

theorem requireJob_owner (hrequired : requireJob s report = .ok job) :
    job.workerId = none ∨ job.workerId = some report.workerId := by
  unfold requireJob at hrequired
  rw [bind_eq_ok] at hrequired
  obtain ⟨row, _, hrequired⟩ := hrequired
  rw [bind_eq_ok] at hrequired
  obtain ⟨_, howner, hsame⟩ := hrequired
  rw [← pure_eq_ok.1 hsame]
  exact require_eq_ok.1 howner

theorem settledByHolder_iff (howned : Owned s.jobs) :
    SettledByHolder s deed ↔ ReportsHeld s deed := by
  constructor
  · intro hholder report hreport job haccepted hpending
    obtain ⟨hjob, _⟩ := acceptedJob_eq_some haccepted
    obtain ⟨row, hrow, hstatus⟩ := report_settles hreport haccepted
    have hchanged : row ≠ job := by
      intro hsame
      rw [hsame, hpending] at hstatus
      rcases hstatus with hcompleted | hfailed
      · cases hcompleted
      · cases hfailed
    obtain ⟨hactive, _⟩ := hholder report hreport report.jobId job row hjob hrow hchanged
    rw [hpending] at hactive
    cases hactive
  · intro hheld report hreport id job row hjob hrow hchanged
    cases hdone : perform s deed.operation deed.now with
    | error =>
        rw [step, hdone] at hrow
        have hsame : s.jobs[id]? = some row := hrow
        rw [hjob] at hsame
        exact absurd (Option.some.inj hsame).symm hchanged
    | ok t =>
        rw [step, hdone] at hrow
        have hafter : t.jobs[id]? = some row := hrow
        rcases report_jobs hdone hreport with
          hsame | ⟨settled, status, added, haccepted, _, _, hjobs⟩
        · rw [hsame, hjob] at hafter
          exact absurd (Option.some.inj hafter).symm hchanged
        · obtain ⟨hsettled, _, hlive, _⟩ := acceptedJob_eq_some haccepted
          have hlt := (List.getElem?_eq_some_iff.mp hjob).1
          have hid : report.jobId = id := by
            by_contra hne
            rw [hjobs, List.getElem?_append_left (by rw [Table.update, List.length_set]; exact hlt),
              getElem?_update_of_ne hne, hjob] at hafter
            exact hchanged (Option.some.inj hafter).symm
          subst hid
          have hsame : settled = job := Option.some.inj (hsettled.symm.trans hjob)
          subst hsame
          have hactive : settled.status = .inProgress := by
            have hnot := hheld report hreport settled haccepted
            rcases of_decide_eq_true hlive with hpending | hactive
            · exact absurd hpending hnot
            · exact hactive
          refine ⟨hactive, ?_⟩
          rcases requireJob_owner (acceptedJob_parts haccepted).1 with hnone | hworker
          · have hsome := howned report.jobId settled hjob hactive
            rw [hnone] at hsome
            cases hsome
          · exact hworker

/-- In every run a job is settled once at most; and reports change only jobs that are in progress
and belong to the worker that reports exactly when none is accepted on a pending job. -/
theorem jobs_settled_by_holder_iff (profiles : List (String × String)) (now : Time)
    (deeds : List Deed) :
    (∀ id, SettledOnce id (State.start profiles now) deeds) ∧
      (Along step SettledByHolder (State.start profiles now) deeds ↔
        Along step ReportsHeld (State.start profiles now) deeds) := by
  refine ⟨fun id => settledOnce id _ _, ?_⟩
  apply along_iff_along_under (I := fun s => Owned s.jobs)
  · intro id job hjob
    cases hjob
  · intro s deed howned
    exact settledByHolder_iff howned
  · intro s deed howned _
    exact howned.step deed

theorem k0_ne_empty : "k0" ≠ "" := by decide

theorem k1_ne_empty : "k1" ≠ "" := by decide

theorem k2_ne_empty : "k2" ≠ "" := by decide

/-- The worker of the coder is replaced while its job is in progress; the new one finds the
limit reached, so that the job is pending again. -/
def requeued : List Deed :=
  [⟨.registerWorker "planner" "w1", 1⟩, ⟨.registerWorker "coder" "w2", 2⟩,
    ⟨.routeDiscordMessage (.ok ⟨"coder", "message"⟩), 3⟩,
    ⟨.routeDiscordMessage (.ok ⟨"planner", "message"⟩), 4⟩,
    ⟨.claimNextJob "coder" "w2" ⟨"k0", k0_ne_empty⟩ (some 2), 5⟩,
    ⟨.claimNextJob "planner" "w1" ⟨"k1", k1_ne_empty⟩ (some 2), 6⟩,
    ⟨.registerWorker "coder" "w3", 7⟩,
    ⟨.claimNextJob "coder" "w3" ⟨"k2", k2_ne_empty⟩ (some 1), 8⟩]

/-- The worker that was replaced completes the job that was taken from it. -/
theorem requeued_job_settles :
    ¬ Along step SettledByHolder team
      (requeued ++ [⟨.completeJob ⟨0, "coder", "w2", some "k0", some 0, some 1⟩
        ⟨[], [], "done", false⟩, 9⟩]) := by
  intro hall
  have hlast := hall requeued _ (List.prefix_refl _)
  have hbefore : ((run step team requeued).jobs[0]?).map (·.status) = some .pending := by
    decide +kernel
  have hafter : ((step (run step team requeued)
      ⟨.completeJob ⟨0, "coder", "w2", some "k0", some 0, some 1⟩
        ⟨[], [], "done", false⟩, 9⟩).jobs[0]?).map (·.status) = some .completed := by
    decide +kernel
  obtain ⟨job, hjob, hpending⟩ := Option.map_eq_some_iff.mp hbefore
  obtain ⟨row, hrow, hcompleted⟩ := Option.map_eq_some_iff.mp hafter
  have hchanged : row ≠ job := by
    intro hsame
    rw [hsame, hpending] at hcompleted
    cases hcompleted
  obtain ⟨hactive, _⟩ := hlast _ rfl 0 job row hjob hrow hchanged
  rw [hpending] at hactive
  cases hactive

end OpsCure.SessionService
