/-
Which jobs settle a task (`_validate_job_concurrency`, `_synchronize_completed_task`,
`_synchronize_failed_task`): a job takes the lease token and the revision of its task along,
and neither is compared when it ends.
-/
import OpsCure.SessionChanges

namespace OpsCure.SessionService

open Run Table Text

/-! ## What a fence would keep -/

def TaskRow.settledPart (task : TaskRow) :
    TaskState × Nat × Option String × Option String × Option String :=
  (task.state, task.revision, task.currentLeaseToken, task.currentWorkerId, task.summaryText)

/-- A report changes the task its job is bound to only when the job has the token of the task;
another task it changes only by handing it off; and a job without the token of its task
changes no task and no handoff. -/
structure Fenced (s : State) (deed : Deed) (t : State) : Prop where
  settles : ∀ (report : JobReport) (taskId : Id) (task after : TaskRow),
    deed.report? = some report → s.tasks[taskId]? = some task →
    t.tasks[taskId]? = some after → after.settledPart ≠ task.settledPart →
    ∃ job, s.jobs[report.jobId]? = some job ∧
      (job.taskId = some taskId ∧ job.leaseToken = task.currentLeaseToken ∨
        job.taskId ≠ some taskId ∧ ∃ request ∈ deed.requests s, request.taskId = task.taskKey)
  stale : ∀ (report : JobReport) (job : JobRow) (taskId : Id) (task : TaskRow),
    deed.report? = some report → s.jobs[report.jobId]? = some job → job.taskId = some taskId →
    s.tasks[taskId]? = some task → job.leaseToken ≠ task.currentLeaseToken →
    t.tasks = s.tasks ∧ t.handoffs = s.handoffs

/-- The job of an accepted report is bound to no task, or to one that still has the revision
the job was started with. -/
def settlesCurrent (s : State) (report : JobReport) : Bool :=
  (s.acceptedJob report).all fun job =>
    (job.taskId.bind fun taskId => s.tasks[taskId]?).all fun task =>
      job.taskRevision = task.revision

/-- The task of a job that is settled has not been handed off again since the job started. -/
def Current (s : State) (deed : Deed) : Prop :=
  deed.report?.all (settlesCurrent s)

/-! ## Revisions and tokens -/

structure Dated (jobs : List JobRow) (tasks : List TaskRow) : Prop where
  bound : ∀ (id : Id) (job : JobRow) (taskId : Id), jobs[id]? = some job → job.holds taskId →
    ∃ task, tasks[taskId]? = some task ∧ job.taskRevision ≤ task.revision ∧
      (job.taskRevision = task.revision → task.state = .inProgress ∧
        job.leaseToken = task.currentLeaseToken ∧ present job.leaseToken)
  single : ∀ (id other : Id) (job rival : JobRow) (taskId : Id) (task : TaskRow),
    jobs[id]? = some job → jobs[other]? = some rival → job.holds taskId → rival.holds taskId →
    tasks[taskId]? = some task → job.taskRevision = task.revision →
    rival.taskRevision = task.revision → id = other

theorem dated_start (profiles : List (String × String)) (now : Time) :
    Dated (State.start profiles now).jobs (State.start profiles now).tasks where
  bound := by
    intro id job taskId hjob
    cases hjob
  single := by
    intro id other job rival taskId task hjob
    cases hjob

variable {jobs : List JobRow} {tasks : List TaskRow} {taskId : Id} {task : TaskRow} {job : JobRow}
  {s t : State} {requests : List HandoffRequest} {report : JobReport} {deed : Deed}

theorem Dated.kept {after : List JobRow} (hdated : Dated jobs tasks)
    (hkept : KeepsBound jobs after) : Dated after tasks where
  bound := by
    intro id job taskId hjob hholds
    obtain ⟨old, hold, hsame⟩ := hkept id job taskId hjob hholds
    obtain ⟨task, htask, hle, htoken⟩ := hdated.bound id old taskId hold (hsame.holds hholds)
    refine ⟨task, htask, ?_, ?_⟩
    · rw [hsame.taskRevision]
      exact hle
    · intro hrevision
      obtain ⟨hstate, hsameToken, hpresent⟩ := htoken (hsame.taskRevision.symm.trans hrevision)
      have hjobToken := hsame.leaseToken hpresent
      refine ⟨hstate, hjobToken.trans hsameToken, ?_⟩
      rw [hjobToken]
      exact hpresent
  single := by
    intro id other job rival taskId task hjob hrival hholds hrivals htask hrevision hrivalRevision
    obtain ⟨old, hold, hsame⟩ := hkept id job taskId hjob hholds
    obtain ⟨past, hpast, hsamePast⟩ := hkept other rival taskId hrival hrivals
    exact hdated.single id other old past taskId task hold hpast (hsame.holds hholds)
      (hsamePast.holds hrivals) htask (hsame.taskRevision.symm.trans hrevision)
      (hsamePast.taskRevision.symm.trans hrivalRevision)

theorem Dated.rewrite (hdated : Dated jobs tasks) {after : TaskRow}
    (htask : tasks[taskId]? = some task)
    (hpast : ∀ (id : Id) (job : JobRow), jobs[id]? = some job → job.holds taskId →
      job.taskRevision < after.revision) : Dated jobs (update tasks taskId after) where
  bound := by
    intro id job other hjob hholds
    by_cases hid : taskId = other
    · subst hid
      have hlt := hpast id job hjob hholds
      refine ⟨after, getElem?_update_self htask, Nat.le_of_lt hlt, ?_⟩
      intro hrevision
      exact absurd hrevision (Nat.ne_of_lt hlt)
    · rw [getElem?_update_of_ne hid]
      exact hdated.bound id job other hjob hholds
  single := by
    intro id other job rival held row hjob hrival hholds hrivals hrow hrevision hrivalRevision
    rcases getElem?_update_eq_some hrow with ⟨rfl, rfl⟩ | hrow
    · exact absurd hrevision (Nat.ne_of_lt (hpast id job hjob hholds))
    · exact hdated.single id other job rival held row hjob hrival hholds hrivals hrow hrevision
        hrivalRevision

theorem Dated.concat (hdated : Dated jobs tasks) (task : TaskRow) :
    Dated jobs (tasks ++ [task]) where
  bound := by
    intro id job taskId hjob hholds
    obtain ⟨held, hheld, hrest⟩ := hdated.bound id job taskId hjob hholds
    have hlt := (List.getElem?_eq_some_iff.mp hheld).1
    exact ⟨held, (List.getElem?_append_left hlt).trans hheld, hrest⟩
  single := by
    intro id other job rival taskId row hjob hrival hholds hrivals hrow hrevision hrivalRevision
    obtain ⟨held, hheld, _⟩ := hdated.bound id job taskId hjob hholds
    have hlt := (List.getElem?_eq_some_iff.mp hheld).1
    rw [List.getElem?_append_left hlt] at hrow
    exact hdated.single id other job rival taskId row hjob hrival hholds hrivals hrow hrevision
      hrivalRevision

def Vacant (jobs : List JobRow) (tasks : List TaskRow) (taskId : Id) : Prop :=
  ∀ (id : Id) (job : JobRow) (task : TaskRow), jobs[id]? = some job → job.holds taskId →
    tasks[taskId]? = some task → job.taskRevision < task.revision

theorem Dated.vacant (hdated : Dated jobs tasks) (htask : tasks[taskId]? = some task)
    (hstate : task.state ≠ .inProgress) : Vacant jobs tasks taskId := by
  intro id job row hjob hholds hrow
  obtain ⟨held, hheld, hle, htoken⟩ := hdated.bound id job taskId hjob hholds
  have hsame : held = task := Option.some.inj (hheld.symm.trans htask)
  have hrowSame : row = task := Option.some.inj (hrow.symm.trans htask)
  rw [hsame] at hle htoken
  rw [hrowSame]
  apply Nat.lt_of_le_of_ne hle
  intro hrevision
  exact hstate (htoken hrevision).1

theorem Vacant.kept {after : List JobRow} (hvacant : Vacant jobs tasks taskId)
    (hkept : KeepsBound jobs after) : Vacant after tasks taskId := by
  intro id job task hjob hholds htask
  obtain ⟨old, hold, hsame⟩ := hkept id job taskId hjob hholds
  rw [hsame.taskRevision]
  exact hvacant id old task hold (hsame.holds hholds) htask

theorem Dated.retired (hdated : Dated jobs tasks) {jobId : Id} {row : JobRow}
    (hjob : jobs[jobId]? = some job) (hholds : job.holds taskId)
    (htask : tasks[taskId]? = some task) (hcurrent : job.taskRevision = task.revision)
    (hend : ¬ row.live) : Vacant (update jobs jobId row) tasks taskId := by
  intro id other held hother hothers hheld
  have hsame : held = task := Option.some.inj (hheld.symm.trans htask)
  have hne : jobId ≠ id := by
    intro hid
    subst hid
    rw [getElem?_update_self hjob] at hother
    rw [← Option.some.inj hother] at hothers
    exact hend (JobRow.holds_iff.1 hothers).2
  rw [getElem?_update_of_ne hne] at hother
  obtain ⟨bound, hbound, hle, _⟩ := hdated.bound id other taskId hother hothers
  have hsameBound : bound = task := Option.some.inj (hbound.symm.trans htask)
  rw [hsame]
  rw [hsameBound] at hle
  apply Nat.lt_of_le_of_ne hle
  intro hrevision
  exact hne (hdated.single jobId id job other taskId task hjob hother hholds hothers htask hcurrent
    hrevision)

/-! ## What a step keeps -/

theorem Dated.handsOff {request : HandoffRequest} (hdated : Dated jobs s.tasks)
    (hturn : HandsOff s request t) : Dated jobs t.tasks := by
  cases hturn with
  | duplicate => exact hdated
  | fresh => exact hdated.concat _
  | again task taskId role now handoff hfind =>
      have hrow := (findTask_eq_some hfind).1
      apply hdated.rewrite hrow
      intro id job hjob hholds
      obtain ⟨held, hheld, hle, _⟩ := hdated.bound id job taskId hjob hholds
      have hsame : held = task := Option.some.inj (hheld.symm.trans hrow)
      rw [hsame] at hle
      exact Nat.lt_succ_of_le hle

theorem Vacant.handsOff {request : HandoffRequest} {held : Id}
    (htask : s.tasks[held]? = some task) (hvacant : Vacant jobs s.tasks held)
    (hturn : HandsOff s request t) : Vacant jobs t.tasks held := by
  cases hturn with
  | duplicate => exact hvacant
  | fresh role now handoff hfind hqueued =>
      intro id job row hjob hholds hrow
      have hlt := (List.getElem?_eq_some_iff.mp htask).1
      rw [List.getElem?_append_left hlt] at hrow
      exact hvacant id job row hjob hholds hrow
  | again old taskId role now handoff hfind hnew hqueued =>
      intro id job row hjob hholds hrow
      by_cases hid : taskId = held
      · subst hid
        have hold := (findTask_eq_some hfind).1
        rw [getElem?_update_self hold] at hrow
        rw [← Option.some.inj hrow]
        exact Nat.lt_succ_of_lt (hvacant id job old hjob hholds hold)
      · rw [getElem?_update_of_ne hid] at hrow
        exact hvacant id job row hjob hholds hrow

theorem Dated.settles {state : HandoffState} (hdated : Dated jobs s.tasks)
    (hvacant : ∀ taskId, job.taskId = some taskId → Vacant jobs s.tasks taskId)
    (hsettles : Settles s job requests state t) : Dated jobs t.tasks := by
  cases hsettles with
  | unbound => exact hdated
  | settled taskId task after hbound htask hkey hrevision =>
      apply hdated.rewrite htask
      intro id other hother hholds
      exact Nat.lt_of_lt_of_le (hvacant taskId hbound id other task hother hholds htask) hrevision

theorem Dated.reported {row : JobRow} (hdated : Dated s.jobs s.tasks)
    (hcurrent : settlesCurrent s report) (haccepted : s.acceptedJob report = some job)
    (hend : ¬ row.live) (taskId : Id) (hbound : job.taskId = some taskId) :
    (∃ task, s.tasks[taskId]? = some task ∧ job.leaseToken = task.currentLeaseToken) ∧
      Vacant (update s.jobs report.jobId row) s.tasks taskId := by
  obtain ⟨hjob, _, hlive, _⟩ := acceptedJob_eq_some haccepted
  have hholds : job.holds taskId := JobRow.holds_iff.2 ⟨hbound, hlive⟩
  obtain ⟨task, htask, _, htoken⟩ := hdated.bound report.jobId job taskId hjob hholds
  have hrevision : job.taskRevision = task.revision := by
    unfold settlesCurrent at hcurrent
    rw [haccepted, Option.all_some, hbound, Option.bind_some, htask, Option.all_some] at hcurrent
    exact of_decide_eq_true hcurrent
  refine ⟨⟨task, htask, (htoken hrevision).2.1⟩, ?_⟩
  exact hdated.retired hjob hholds htask hrevision hend

theorem Dated.claims {m : State} {agent : AgentRow} {workerId : String} {leaseToken : Uuid}
    {policy : Option Nat} {now : Time} (hdated : Dated m.jobs m.tasks)
    (hclaims : Claims m agent workerId leaseToken.text policy now t) : Dated t.jobs t.tasks := by
  cases hclaims with
  | idle => exact hdated
  | started agents id job hjob hagent hpending =>
      apply hdated.kept
      exact (Steady.update hjob (JobRow.sameBinding_started hpending) rfl).kept
  | claimed agents handoff handoffId task hfind hready =>
      obtain ⟨_, _, htask, _⟩ := claimableHandoff_eq_some hfind
      have hidle : task.state ≠ .inProgress := by
        intro hactive
        rw [hactive] at hready
        cases hready
      have hvacant := hdated.vacant htask hidle
      have hnew : ∀ (id : Id) (job : JobRow) (taskId : Id),
          (m.jobs ++ [taskJob agent.agentName workerId leaseToken.text handoff handoffId task
            m.session.sessionEpoch now])[id]? = some job → job.holds taskId →
          m.jobs[id]? = some job ∨ id = m.jobs.length ∧ taskId = handoff.taskId ∧
            job = taskJob agent.agentName workerId leaseToken.text handoff handoffId task
              m.session.sessionEpoch now := by
        intro id job taskId hjob hholds
        rcases getElem?_concat_eq_some hjob with hold | ⟨hid, hsame⟩
        · exact Or.inl hold
        · rw [hsame] at hholds
          exact Or.inr ⟨hid, (Option.some.inj (JobRow.holds_iff.1 hholds).1).symm, hsame⟩
      constructor
      · intro id job taskId hjob hholds
        rcases hnew id job taskId hjob hholds with hold | ⟨_, rfl, rfl⟩
        · by_cases hid : handoff.taskId = taskId
          · subst hid
            have hlt := hvacant id job task hold hholds htask
            refine ⟨_, getElem?_update_self htask, Nat.le_of_lt hlt, ?_⟩
            intro hrevision
            exact absurd hrevision (Nat.ne_of_lt hlt)
          · rw [getElem?_update_of_ne hid]
            exact hdated.bound id job taskId hold hholds
        · refine ⟨_, getElem?_update_self htask, Nat.le_refl _, ?_⟩
          intro _
          exact ⟨rfl, rfl, decide_eq_true leaseToken.nonempty⟩
      · intro id other job rival taskId row hjob hrival hholds hrivals hrow hrevision hrivalRevision
        by_cases hid : handoff.taskId = taskId
        · subst hid
          rw [getElem?_update_self htask] at hrow
          rw [← Option.some.inj hrow] at hrevision hrivalRevision
          have hlast : ∀ (place : Id) (found : JobRow),
              (m.jobs ++ [taskJob agent.agentName workerId leaseToken.text handoff handoffId task
                m.session.sessionEpoch now])[place]? = some found →
              found.holds handoff.taskId → found.taskRevision = task.revision →
              place = m.jobs.length := by
            intro place found hfound hheld hsame
            rcases hnew place found handoff.taskId hfound hheld with hold | ⟨hplace, _⟩
            · exact absurd hsame (Nat.ne_of_lt (hvacant place found task hold hheld htask))
            · exact hplace
          rw [hlast id job hjob hholds hrevision, hlast other rival hrival hrivals hrivalRevision]
        · rw [getElem?_update_of_ne hid] at hrow
          rcases hnew id job taskId hjob hholds with hold | ⟨_, hsame, _⟩
          · rcases hnew other rival taskId hrival hrivals with hpast | ⟨_, hsame, _⟩
            · exact hdated.single id other job rival taskId row hold hpast hholds hrivals hrow
                hrevision hrivalRevision
            · exact absurd hsame.symm hid
          · exact absurd hsame.symm hid
  | swept agents job hagent hfree =>
      apply hdated.kept
      refine (Steady.append ?_).kept
      intro added hadded
      rw [List.mem_singleton.mp hadded]
      exact hfree

theorem Dated.queued {queued left : State} {now : Time} (hdated : Dated s.jobs s.tasks)
    (hcurrent : settlesCurrent s report) (haccepted : s.acceptedJob report = some job)
    (hqueued : queueHandoffs (s.reported report job .completed now) report.agentName requests
      now = .ok queued) (hleaves : Leaves queued left) :
    Dated left.jobs left.tasks ∧ OnlyNamed s.tasks requests left.tasks ∧
      ∀ taskId, job.taskId = some taskId → Vacant left.jobs left.tasks taskId := by
  have hjob := (acceptedJob_eq_some haccepted).1
  have hend : ¬ JobRow.live { job with status := .completed } := by simp [JobRow.live]
  have hreported := hdated.reported hcurrent haccepted hend
  have hstart : Dated (s.reported report job .completed now).jobs s.tasks ∧
      OnlyNamed s.tasks requests s.tasks ∧ ∀ taskId, job.taskId = some taskId →
        Vacant (s.reported report job .completed now).jobs s.tasks taskId :=
    ⟨hdated.kept (KeepsBound.retire hend), OnlyNamed.refl _ _,
      fun taskId hbound => (hreported taskId hbound).2⟩
  have hturns : ∀ (u v : State) (request : HandoffRequest), request ∈ requests →
      (Dated u.jobs u.tasks ∧ OnlyNamed s.tasks requests u.tasks ∧
        ∀ taskId, job.taskId = some taskId → Vacant u.jobs u.tasks taskId) →
      HandsOff u request v →
      Dated v.jobs v.tasks ∧ OnlyNamed s.tasks requests v.tasks ∧
        ∀ taskId, job.taskId = some taskId → Vacant v.jobs v.tasks taskId := by
    intro u v request hrequest hhere hturn
    obtain ⟨hdatedThere, hnamed, hvacant⟩ := hhere
    rw [hturn.jobs]
    refine ⟨hdatedThere.handsOff hturn, hnamed.handsOff hrequest hturn, ?_⟩
    intro taskId hbound
    obtain ⟨task, htask, _⟩ := (hreported taskId hbound).1
    obtain ⟨found, hfound, _⟩ := hnamed taskId task htask
    exact (hvacant taskId hbound).handsOff hfound hturn
  obtain ⟨u, ⟨hdatedThere, hnamed, hvacant⟩, hrest⟩ := queueHandoffs_keeps hstart hturns hqueued
  have hall := hrest.leaves.trans hleaves
  rw [hall.tasks]
  refine ⟨hdatedThere.kept hall.jobs.kept, hnamed, ?_⟩
  intro taskId hbound
  exact (hvacant taskId hbound).kept hall.jobs.kept

theorem Dated.change (hdated : Dated s.jobs s.tasks) (hcurrent : Current s deed)
    (hchange : Change s deed t) : Dated t.jobs t.tasks := by
  cases hchange with
  | left _ hleaves =>
      rw [hleaves.tasks]
      exact hdated.kept hleaves.jobs.kept
  | paused _ hdeed hcancels =>
      rw [hcancels.tasks, hcancels.jobs]
      exact hdated.kept (KeepsBound.cancel _ _)
  | closed _ hcancels =>
      rw [hcancels.tasks, hcancels.jobs]
      exact hdated.kept (KeepsBound.cancel _ _)
  | reset =>
      have hnone := resetSession_free s deed.now
      exact ⟨fun id job taskId hjob hholds => absurd hholds (hnone id job taskId hjob),
        fun id other job rival taskId task hjob hrival hholds =>
          absurd hholds (hnone id job taskId hjob)⟩
  | claimed m _ agent workerId leaseToken policy hdeed hagent hfreed hclaims =>
      have hmiddle : Dated m.jobs m.tasks := by
        rw [hfreed.leaves.tasks]
        exact hdated.kept hfreed.leaves.jobs.kept
      exact hmiddle.claims hclaims
  | completed report output job queued left hdeed haccepted hqueued hleaves =>
      have hreport : settlesCurrent s report := by
        unfold Current Deed.report? at hcurrent
        rw [hdeed] at hcurrent
        exact hcurrent
      obtain ⟨hleft, _, hvacant⟩ := hdated.queued hreport haccepted hqueued hleaves
      have hsettles := synchronizeCompletedTask_settles left job output.visibleOutput
        output.questionPresent
        (extractHandoffs s.agents report.agentName output.handoffBlocks).1 deed.now
      rw [hsettles.jobs]
      exact hleft.settles hvacant hsettles
  | failed _ report errorText job hdeed haccepted hleaves =>
      have hreport : settlesCurrent s report := by
        unfold Current Deed.report? at hcurrent
        rw [hdeed] at hcurrent
        exact hcurrent
      have hjob := (acceptedJob_eq_some haccepted).1
      have hend : ¬ JobRow.live { job with status := .failed } := by simp [JobRow.live]
      have hsettles := synchronizeFailedTask_settles (s.reported report job .failed deed.now) job
        errorText deed.now
      rw [hleaves.tasks]
      apply Dated.kept _ hleaves.jobs.kept
      rw [hsettles.jobs]
      apply Dated.settles _ _ hsettles
      · exact hdated.kept (KeepsBound.retire hend)
      · intro taskId hbound
        exact (hdated.reported hreport haccepted hend taskId hbound).2

/-! ## The fence -/

theorem fenced_of_same (htasks : t.tasks = s.tasks) (hhandoffs : t.handoffs = s.handoffs) :
    Fenced s deed t where
  settles := by
    intro report taskId task after hreport htask hafter hchanged
    rw [htasks, htask] at hafter
    exact absurd (congrArg TaskRow.settledPart (Option.some.inj hafter).symm) hchanged
  stale := by
    intro report job taskId task hreport hjob hbound htask hstale
    exact ⟨htasks, hhandoffs⟩

theorem fenced_of_none (hnone : deed.report? = none) :
    Fenced s deed t where
  settles := by
    intro report taskId task after hreport
    rw [hnone] at hreport
    cases hreport
  stale := by
    intro report job taskId task hreport
    rw [hnone] at hreport
    cases hreport

theorem Fenced.of_settles {left : State} {state : HandoffState}
    (hreport : deed.report? = some report) (hrequests : ∀ request ∈ requests,
      request ∈ deed.requests s) (hjob : s.jobs[report.jobId]? = some job)
    (htoken : ∀ taskId, job.taskId = some taskId →
      ∃ task, s.tasks[taskId]? = some task ∧ job.leaseToken = task.currentLeaseToken)
    (hnamed : OnlyNamed s.tasks requests left.tasks)
    (hsettles : Settles left job requests state t) : Fenced s deed t where
  settles := by
    intro given taskId task after hgiven htask hafter hchanged
    rw [← Option.some.inj (hreport.symm.trans hgiven)]
    refine ⟨job, hjob, ?_⟩
    by_cases hbound : job.taskId = some taskId
    · obtain ⟨found, hfound, hsame⟩ := htoken taskId hbound
      rw [htask] at hfound
      rw [Option.some.inj hfound]
      exact Or.inl ⟨hbound, hsame⟩
    · refine Or.inr ⟨hbound, ?_⟩
      have hleft : left.tasks[taskId]? = some after := by
        cases hsettles with
        | unbound => exact hafter
        | settled other old row hother =>
            have hne : other ≠ taskId := by
              intro hsame
              rw [hsame] at hother
              exact hbound hother
            rw [getElem?_update_of_ne hne] at hafter
            exact hafter
      obtain ⟨row, hrow, _, hsame | ⟨request, hrequest, hname⟩⟩ := hnamed taskId task htask
      · rw [hleft] at hrow
        rw [Option.some.inj hrow, hsame] at hchanged
        exact absurd rfl hchanged
      · exact ⟨request, hrequests request hrequest, hname⟩
  stale := by
    intro given found taskId task hgiven hfound hbound htask hstale
    rw [← Option.some.inj (hreport.symm.trans hgiven), hjob] at hfound
    rw [← Option.some.inj hfound] at hbound hstale
    obtain ⟨row, hrow, hsame⟩ := htoken taskId hbound
    rw [htask] at hrow
    rw [Option.some.inj hrow] at hstale
    exact absurd hsame hstale

theorem fenced_change (hdated : Dated s.jobs s.tasks) (hcurrent : Current s deed)
    (hchange : Change s deed t) : Fenced s deed t := by
  cases hchange with
  | left _ hleaves => exact fenced_of_same hleaves.tasks hleaves.handoffs
  | paused _ hdeed hcancels => exact fenced_of_same hcancels.tasks hcancels.handoffs
  | closed _ hcancels => exact fenced_of_same hcancels.tasks hcancels.handoffs
  | reset hdeed =>
      apply fenced_of_none
      rw [Deed.report?, hdeed]
  | claimed m _ agent workerId leaseToken policy hdeed =>
      apply fenced_of_none
      rw [Deed.report?, hdeed]
  | completed report output job queued left hdeed haccepted hqueued hleaves =>
      have hreport : deed.report? = some report := by rw [Deed.report?, hdeed]
      have hcurrentJob : settlesCurrent s report := by
        unfold Current at hcurrent
        rw [hreport] at hcurrent
        exact hcurrent
      have hend : ¬ JobRow.live { job with status := .completed } := by simp [JobRow.live]
      obtain ⟨_, hnamed, _⟩ := hdated.queued hcurrentJob haccepted hqueued hleaves
      apply Fenced.of_settles hreport _ (acceptedJob_eq_some haccepted).1 _ hnamed
        (synchronizeCompletedTask_settles _ _ _ _ _ _)
      · intro request hrequest
        rw [Deed.requests, hdeed]
        exact hrequest
      · intro taskId hbound
        exact (hdated.reported hcurrentJob haccepted hend taskId hbound).1
  | failed _ report errorText job hdeed haccepted hleaves =>
      have hreport : deed.report? = some report := by rw [Deed.report?, hdeed]
      have hcurrentJob : settlesCurrent s report := by
        unfold Current at hcurrent
        rw [hreport] at hcurrent
        exact hcurrent
      have hend : ¬ JobRow.live { job with status := .failed } := by simp [JobRow.live]
      have hfenced : Fenced s deed (synchronizeFailedTask
          (s.reported report job .failed deed.now) job errorText deed.now) := by
        have hnamed : OnlyNamed s.tasks [] (s.reported report job .failed deed.now).tasks :=
          OnlyNamed.refl s.tasks []
        apply Fenced.of_settles hreport _ (acceptedJob_eq_some haccepted).1 _ hnamed
          (synchronizeFailedTask_settles _ _ _ _)
        · intro request hrequest
          exact absurd hrequest List.not_mem_nil
        · intro taskId hbound
          exact (hdated.reported hcurrentJob haccepted hend taskId hbound).1
      constructor
      · rw [hleaves.tasks]
        exact hfenced.settles
      · rw [hleaves.tasks, hleaves.handoffs]
        exact hfenced.stale

/-- In a run in which each job that is settled still has the revision of its task, each report
is fenced by the token. -/
theorem settlements_fenced (profiles : List (String × String)) (now : Time) (deeds : List Deed)
    (hcurrent : Along step Current (State.start profiles now) deeds) :
    Along step (fun s deed => Fenced s deed (step s deed)) (State.start profiles now) deeds := by
  have hrun : Throughout step (fun s => Dated s.jobs s.tasks) (State.start profiles now)
      deeds := by
    apply throughout_of_preserved
    · exact dated_start profiles now
    · intro done deed hdeed hhere
      exact hhere.change (hcurrent done deed hdeed) (step_change _ deed)
  intro done deed hdeed
  have hhere := hrun done ((List.prefix_append done [deed]).trans hdeed)
  exact fenced_change hhere (hcurrent done deed hdeed) (step_change _ deed)

instance (s : State) (deed : Deed) : Decidable (Current s deed) :=
  inferInstanceAs (Decidable (deed.report?.all (settlesCurrent s) = true))

theorem handed_over_task_is_fenced :
    Along step (fun s deed => Fenced s deed (step s deed)) team
      (handedOver ++ [⟨.completeJob (reportOn 1 "coder" "w2") ⟨[], [], "parsed", false⟩, 7⟩]) :=
  settlements_fenced _ 0 _ (by decide +kernel)

/-- The coder ends its job after the task has been handed to the tester: the task is done,
while its new handoff waits. -/
theorem late_job_settles :
    ¬ Along step (fun s deed => Fenced s deed (step s deed)) team
      (handedOverAgain ++
        [⟨.completeJob (reportOn 1 "coder" "w2") ⟨[], [], "parsed", false⟩, 10⟩]) := by
  intro hall
  have hlast := hall handedOverAgain _ (List.prefix_refl _)
  have hruns : ((run step team handedOverAgain).jobs[1]?).map
        (fun job => (job.taskId, job.leaseToken)) = some (some 0, some "k1") ∧
      ((run step team handedOverAgain).tasks[0]?).map
        (fun task => (task.state, task.currentLeaseToken)) = some (.ready, none) ∧
      ((step (run step team handedOverAgain)
        ⟨.completeJob (reportOn 1 "coder" "w2") ⟨[], [], "parsed", false⟩, 10⟩).tasks[0]?).map
        (·.state) = some .done := by
    decide +kernel
  obtain ⟨hjob, htask, hafter⟩ := hruns
  obtain ⟨task, hrow, hpart⟩ := Option.map_eq_some_iff.mp htask
  obtain ⟨after, hafterRow, hdone⟩ := Option.map_eq_some_iff.mp hafter
  obtain ⟨hready, hfree⟩ := Prod.mk.inj hpart
  have hchanged : after.settledPart ≠ task.settledPart := by
    intro hsame
    have hstate : after.state = task.state := congrArg Prod.fst hsame
    rw [hdone, hready] at hstate
    cases hstate
  obtain ⟨job, hfound, hheld⟩ := hlast.settles _ 0 task after rfl hrow hafterRow hchanged
  obtain ⟨row, hjobRow, hbinding⟩ := Option.map_eq_some_iff.mp hjob
  have hsame : job = row := Option.some.inj (hfound.symm.trans hjobRow)
  obtain ⟨hbound, htoken⟩ := Prod.mk.inj hbinding
  rcases hheld with ⟨_, hheld⟩ | ⟨hother, _⟩
  · rw [hsame, htoken, hfree] at hheld
    cases hheld
  · rw [hsame] at hother
    exact hother hbound

end OpsCure.SessionService
