/-
Parallel work (`_can_self_claim_task`, `claim_next_job`, `_recover_orphaned_job`): which jobs
can be in progress at one time, on which tasks, and of how many agents.
-/
import OpsCure.SessionFrame

namespace OpsCure.SessionService

open Run Table Text

/-! ## Disjoint work -/

/-- Jobs in progress at one time work on different tasks, and these have neither the semantic
scope nor a file in common. -/
structure DisjointWork (s : State) : Prop where
  tasks : ∀ (id other : Id) (job rival : JobRow) (taskId : Id), id ≠ other →
    s.jobs[id]? = some job → s.jobs[other]? = some rival → job.status = .inProgress →
    rival.status = .inProgress → job.taskId = some taskId → rival.taskId ≠ some taskId
  scopes : ∀ (id other : Id) (job rival : JobRow) (taskId rivalId : Id) (task row : TaskRow),
    id ≠ other → s.jobs[id]? = some job → s.jobs[other]? = some rival →
    job.status = .inProgress → rival.status = .inProgress → job.taskId = some taskId →
    rival.taskId = some rivalId → s.tasks[taskId]? = some task →
    s.tasks[rivalId]? = some row → ¬ scopesOverlap task row

def OneJobEach (jobs : List JobRow) : Prop :=
  ∀ (id other : Id) (job rival : JobRow), jobs[id]? = some job → jobs[other]? = some rival →
    job.status = .inProgress → rival.status = .inProgress → job.agentName = rival.agentName →
    id = other

def isCuratorName (agents : List AgentRow) (agentName : String) : Bool :=
  (agents.find? (·.agentName = agentName)).any isCuratorAgent

def countsToLimit (agents : List AgentRow) (job : JobRow) : Bool :=
  job.status = .inProgress ∧ ¬ isCuratorName agents job.agentName

/-- The number of jobs in progress that belong to agents other than curators. -/
def State.workerJobCount (s : State) : Nat := s.jobs.countP (countsToLimit s.agents)

def displaces (s : State) (report : JobReport) (request : HandoffRequest) : Bool :=
  (selectWhere (·.taskKey = request.taskId) s.tasks).any fun task =>
    s.jobs.zipIdx.any (fun job => job.2 ≠ report.jobId ∧ job.1.holds task.2) ∧
      ¬ isDuplicateReadyHandoff s task.2 task.1 request.targetAgent
        (normalizeTaskPayloadText request.body)

/-- No completion that is accepted takes a task away from another job. -/
def Orderly (s : State) (deed : Deed) : Prop :=
  ∀ report ∈ deed.report?, (s.acceptedJob report).isSome →
    ∀ request ∈ deed.requests s, ¬ displaces s report request

instance (s : State) (deed : Deed) : Decidable (Orderly s deed) :=
  inferInstanceAs (Decidable (∀ report ∈ deed.report?, (s.acceptedJob report).isSome →
    ∀ request ∈ deed.requests s, ¬ displaces s report request))

theorem scopesOverlap_comm (task row : TaskRow) :
    scopesOverlap task row = scopesOverlap row task := by
  unfold scopesOverlap
  congr 1
  · rw [Bool.and_comm (present task.semanticScope)]
    congr 1
    exact decide_eq_decide.mpr eq_comm
  · rw [Bool.eq_iff_iff, List.any_eq_true, List.any_eq_true]
    simp only [decide_eq_true_eq]
    constructor
    · intro hfound
      obtain ⟨item, hitem, hother⟩ := hfound
      exact ⟨item, hother, hitem⟩
    · intro hfound
      obtain ⟨item, hitem, hother⟩ := hfound
      exact ⟨item, hother, hitem⟩

/-! ## One job a task -/

structure Exclusive (jobs : List JobRow) (tasks : List TaskRow) : Prop where
  one : ∀ (id other : Id) (job rival : JobRow) (taskId : Id), jobs[id]? = some job →
    jobs[other]? = some rival → job.holds taskId → rival.holds taskId → id = other
  active : ∀ (id : Id) (job : JobRow) (taskId : Id), jobs[id]? = some job → job.holds taskId →
    ∃ task, tasks[taskId]? = some task ∧ task.state = .inProgress
  apart : ∀ (taskId other : Id) (task row : TaskRow), taskId ≠ other →
    tasks[taskId]? = some task → tasks[other]? = some row → task.state = .inProgress →
    row.state = .inProgress → ¬ scopesOverlap task row

def Unheld (jobs : List JobRow) (taskId : Id) : Prop :=
  ∀ (id : Id) (job : JobRow), jobs[id]? = some job → ¬ job.holds taskId

variable {jobs after : List JobRow} {taskId : Id} {tasks : List TaskRow} {task : TaskRow}
  {s u t m : State} {request : HandoffRequest} {report : JobReport} {row job : JobRow} {now : Time}
  {agent : AgentRow} {workerId leaseToken : String} {policy : Option Nat} {deed : Deed}
  {agents : List AgentRow}

theorem Unheld.kept (hunheld : Unheld jobs taskId) (hkept : KeepsBound jobs after) :
    Unheld after taskId := by
  intro id job hjob hholds
  obtain ⟨old, hold, hsame⟩ := hkept id job taskId hjob hholds
  exact hunheld id old hold (hsame.holds hholds)

theorem exclusive_start (profiles : List (String × String)) (now : Time) :
    Exclusive (State.start profiles now).jobs (State.start profiles now).tasks where
  one := by
    intro id other job rival taskId hjob
    cases hjob
  active := by
    intro id job taskId hjob
    cases hjob
  apart := by
    intro taskId other task row hne htask
    cases htask

theorem Exclusive.kept (hexclusive : Exclusive jobs tasks) (hkept : KeepsBound jobs after) :
    Exclusive after tasks where
  one := by
    intro id other job rival taskId hjob hrival hholds hrivals
    obtain ⟨old, hold, hsame⟩ := hkept id job taskId hjob hholds
    obtain ⟨past, hpast, hsamePast⟩ := hkept other rival taskId hrival hrivals
    exact hexclusive.one id other old past taskId hold hpast (hsame.holds hholds)
      (hsamePast.holds hrivals)
  active := by
    intro id job taskId hjob hholds
    obtain ⟨old, hold, hsame⟩ := hkept id job taskId hjob hholds
    exact hexclusive.active id old taskId hold (hsame.holds hholds)
  apart := hexclusive.apart

theorem Exclusive.unheld (hexclusive : Exclusive jobs tasks) (htask : tasks[taskId]? = some task)
    (hidle : task.state ≠ .inProgress) : Unheld jobs taskId := by
  intro id job hjob hholds
  obtain ⟨held, hheld, hactive⟩ := hexclusive.active id job taskId hjob hholds
  rw [htask] at hheld
  rw [← Option.some.inj hheld] at hactive
  exact hidle hactive

theorem Exclusive.rewrite (hexclusive : Exclusive jobs tasks) {after : TaskRow}
    (htask : tasks[taskId]? = some task) (hunheld : Unheld jobs taskId)
    (hidle : after.state ≠ .inProgress) : Exclusive jobs (update tasks taskId after) where
  one := hexclusive.one
  active := by
    intro id job held hjob hholds
    have hne : taskId ≠ held := by
      intro hsame
      rw [← hsame] at hholds
      exact hunheld id job hjob hholds
    rw [getElem?_update_of_ne hne]
    exact hexclusive.active id job held hjob hholds
  apart := by
    intro first second row rival hne hrow hrival hactive hrivals
    have hfirst : taskId ≠ first := by
      intro hsame
      subst hsame
      rw [getElem?_update_self htask] at hrow
      rw [← Option.some.inj hrow] at hactive
      exact hidle hactive
    have hsecond : taskId ≠ second := by
      intro hsame
      subst hsame
      rw [getElem?_update_self htask] at hrival
      rw [← Option.some.inj hrival] at hrivals
      exact hidle hrivals
    rw [getElem?_update_of_ne hfirst] at hrow
    rw [getElem?_update_of_ne hsecond] at hrival
    exact hexclusive.apart first second row rival hne hrow hrival hactive hrivals

theorem Exclusive.concat (hexclusive : Exclusive jobs tasks) (hidle : task.state ≠ .inProgress) :
    Exclusive jobs (tasks ++ [task]) where
  one := hexclusive.one
  active := by
    intro id job taskId hjob hholds
    obtain ⟨held, hheld, hactive⟩ := hexclusive.active id job taskId hjob hholds
    have hlt := (List.getElem?_eq_some_iff.mp hheld).1
    exact ⟨held, (List.getElem?_append_left hlt).trans hheld, hactive⟩
  apart := by
    intro first second row rival hne hrow hrival hactive hrivals
    rcases getElem?_concat_eq_some hrow with hold | ⟨_, hsame⟩
    · rcases getElem?_concat_eq_some hrival with hpast | ⟨_, hsame⟩
      · exact hexclusive.apart first second row rival hne hold hpast hactive hrivals
      · rw [hsame] at hrivals
        exact absurd hrivals hidle
    · rw [hsame] at hactive
      exact absurd hactive hidle

/-! ## Handing off what nobody holds -/

def offered (handoffs : List HandoffRow) (taskId : Id) (targetAgent : String) : Bool :=
  handoffs.any fun handoff => handoff.liveFor taskId ∧ handoff.targetAgent = targetAgent

structure PassedOn (s u : State) : Prop where
  session : u.session = s.session
  tasks : ∀ taskId, (∃ task, u.tasks[taskId]? = some task ∧ task.state = .ready) ∨
    u.tasks[taskId]? = s.tasks[taskId]? ∧
      ∀ targetAgent, offered u.handoffs taskId targetAgent = offered s.handoffs taskId targetAgent

theorem offered_supersede {handoffs : List HandoffRow} {handoff : HandoffRow}
    (hne : handoff.taskId ≠ taskId) (targetAgent : String) :
    offered (supersede handoffs handoff.taskId ++ [handoff]) taskId targetAgent =
      offered handoffs taskId targetAgent := by
  have hlast : offered [handoff] taskId targetAgent = false := by
    simp [offered, HandoffRow.liveFor, hne]
  have hrest : offered (supersede handoffs handoff.taskId) taskId targetAgent =
      offered handoffs taskId targetAgent := by
    unfold offered supersede
    rw [List.any_map]
    congr 1
    funext row
    rw [Function.comp_apply]
    split
    · rename_i hlive
      have hrow : row.taskId = handoff.taskId := by
        simp only [HandoffRow.liveFor, Bool.decide_and, Bool.and_eq_true, decide_eq_true_eq] at hlive
        exact hlive.1
      simp [HandoffRow.liveFor, hrow, hne]
    · rfl
  unfold offered at hlast hrest ⊢
  rw [List.any_append, hrest, hlast, Bool.or_false]

theorem PassedOn.handsOff {v : State} (hpassed : PassedOn s u) (hturn : HandsOff u request v) :
    PassedOn s v := by
  cases hturn with
  | duplicate => exact hpassed
  | fresh role now handoff hfind hqueued htask hepoch =>
      refine ⟨hpassed.session, ?_⟩
      intro taskId
      by_cases hid : u.tasks.length = taskId
      · subst hid
        exact Or.inl ⟨_, List.getElem?_concat_length, rfl⟩
      · have hsame : (u.tasks ++ [(blankTask request.taskId).handedOff request role
            u.session.sessionEpoch now])[taskId]? = u.tasks[taskId]? := by
          rw [List.getElem?_append]
          split
          · rfl
          · rename_i hge
            have hpast : u.tasks.length < taskId := by omega
            rw [List.getElem?_eq_none (by rw [List.length_singleton]; omega),
              List.getElem?_eq_none (Nat.le_of_lt hpast)]
        rcases hpassed.tasks taskId with ⟨task, hready⟩ | ⟨hrow, hoffers⟩
        · exact Or.inl ⟨task, hsame.trans hready.1, hready.2⟩
        · refine Or.inr ⟨hsame.trans hrow, ?_⟩
          intro targetAgent
          rw [← hoffers targetAgent, ← htask]
          exact offered_supersede (by rw [htask]; exact hid) targetAgent
  | again task taskId role now handoff hfind hnew hqueued htask =>
      refine ⟨hpassed.session, ?_⟩
      intro other
      have hrow := (findTask_eq_some hfind).1
      by_cases hid : taskId = other
      · subst hid
        exact Or.inl ⟨_, getElem?_update_self hrow, rfl⟩
      · have hsame : (update u.tasks taskId (task.handedOff request role u.session.sessionEpoch
            now))[other]? = u.tasks[other]? := getElem?_update_of_ne hid
        rcases hpassed.tasks other with ⟨found, hready⟩ | ⟨hold, hoffers⟩
        · exact Or.inl ⟨found, hsame.trans hready.1, hready.2⟩
        · refine Or.inr ⟨hsame.trans hold, ?_⟩
          intro targetAgent
          rw [← hoffers targetAgent, ← htask]
          exact offered_supersede (by rw [htask]; exact hid) targetAgent

theorem PassedOn.duplicate (hpassed : PassedOn s u) (htask : u.tasks[taskId]? = some task)
    (hactive : task.state = .inProgress) (targetAgent normalizedBody : String) :
    s.tasks[taskId]? = some task ∧
      isDuplicateReadyHandoff s taskId task targetAgent normalizedBody =
        isDuplicateReadyHandoff u taskId task targetAgent normalizedBody := by
  rcases hpassed.tasks taskId with ⟨found, hfound, hready⟩ | ⟨hsame, hoffers⟩
  · rw [htask] at hfound
    rw [← Option.some.inj hfound, hactive] at hready
    cases hready
  · refine ⟨hsame.symm.trans htask, ?_⟩
    have hoffer := hoffers targetAgent
    unfold offered at hoffer
    unfold isDuplicateReadyHandoff
    rw [hpassed.session, hoffer]

theorem PassedOn.unheld (hpassed : PassedOn s u)
    (hrunning : ∀ (id : Id) (job : JobRow), (update s.jobs report.jobId row)[id]? = some job →
      job.holds taskId → task.state = .inProgress) (hend : ¬ row.live)
    (horderly : ¬ displaces s report request)
    (hfind : findTask u.tasks request.taskId = some (task, taskId))
    (hnew : ¬ isDuplicateReadyHandoff u taskId task request.targetAgent
      (normalizeTaskPayloadText request.body)) :
    Unheld (update s.jobs report.jobId row) taskId := by
  obtain ⟨htask, hkey⟩ := findTask_eq_some hfind
  intro id job hjob hholds
  have hactive := hrunning id job hjob hholds
  obtain ⟨hrow, hduplicate⟩ := hpassed.duplicate htask hactive request.targetAgent
    (normalizeTaskPayloadText request.body)
  have hne : id ≠ report.jobId := by
    intro hsame
    subst hsame
    have hlt : report.jobId < s.jobs.length := by
      have hbound := (List.getElem?_eq_some_iff.mp hjob).1
      rw [Table.update, List.length_set] at hbound
      exact hbound
    rw [getElem?_update_self (List.getElem?_eq_getElem hlt)] at hjob
    rw [← Option.some.inj hjob] at hholds
    exact hend (JobRow.holds_iff.1 hholds).2
  rw [getElem?_update_of_ne (Ne.symm hne)] at hjob
  apply horderly
  unfold displaces
  rw [List.any_eq_true]
  refine ⟨(task, taskId), mem_selectWhere.2 ⟨hrow, decide_eq_true hkey⟩, ?_⟩
  apply decide_eq_true
  refine ⟨List.any_eq_true.mpr ⟨(job, id), ?_, ?_⟩, ?_⟩
  · exact List.mem_zipIdx_iff_getElem?.mpr hjob
  · exact decide_eq_true ⟨hne, hholds⟩
  · rw [hduplicate]
    exact hnew

/-! ## What a step keeps -/

theorem Exclusive.retired (hexclusive : Exclusive jobs tasks) {jobId : Id}
    (hjob : jobs[jobId]? = some job) (hholds : job.holds taskId) (hend : ¬ row.live) :
    Unheld (update jobs jobId row) taskId := by
  intro id other hother hothers
  obtain ⟨old, hold, hsame⟩ := KeepsBound.retire hend id other taskId hother hothers
  have hid := hexclusive.one id jobId old job taskId hold hjob (hsame.holds hothers) hholds
  subst hid
  rw [getElem?_update_self hjob] at hother
  rw [← Option.some.inj hother] at hothers
  exact hend (JobRow.holds_iff.1 hothers).2

theorem Exclusive.settles {requests : List HandoffRequest} {state : HandoffState}
    (hexclusive : Exclusive jobs s.tasks)
    (hunheld : ∀ taskId, job.taskId = some taskId → Unheld jobs taskId)
    (hsettles : Settles s job requests state t) : Exclusive jobs t.tasks := by
  cases hsettles with
  | unbound => exact hexclusive
  | settled taskId task after hbound htask hkey hrevision hactive =>
      exact hexclusive.rewrite htask (hunheld taskId hbound) hactive

theorem TaskRow.handedOff_idle {role : String} {sessionEpoch : Nat} :
    (task.handedOff request role sessionEpoch now).state ≠ .inProgress := by
  change TaskState.ready ≠ .inProgress
  exact nofun

theorem Exclusive.queued {queued left : State} {requests : List HandoffRequest}
    (hexclusive : Exclusive s.jobs s.tasks)
    (horderly : ∀ request ∈ requests, ¬ displaces s report request)
    (hqueued : queueHandoffs (s.reported report job .completed now) report.agentName requests
      now = .ok queued) (hleaves : Leaves queued left) :
    Exclusive left.jobs left.tasks ∧
      KeepsBound (s.reported report job .completed now).jobs left.jobs := by
  have hend : ¬ JobRow.live { job with status := .completed } := by simp [JobRow.live]
  have hstart : (s.reported report job .completed now).jobs =
        update s.jobs report.jobId { job with status := .completed } ∧
      Exclusive (s.reported report job .completed now).jobs s.tasks ∧
      PassedOn s (s.reported report job .completed now) :=
    ⟨rfl, hexclusive.kept (KeepsBound.retire hend), rfl, fun _ => Or.inr ⟨rfl, fun _ => rfl⟩⟩
  have hturns : ∀ (u v : State) (request : HandoffRequest), request ∈ requests →
      (u.jobs = update s.jobs report.jobId { job with status := .completed } ∧
        Exclusive u.jobs u.tasks ∧ PassedOn s u) → HandsOff u request v →
      v.jobs = update s.jobs report.jobId { job with status := .completed } ∧
        Exclusive v.jobs v.tasks ∧ PassedOn s v := by
    intro u v request hrequest hhere hturn
    obtain ⟨hjobs, hthere, hpassed⟩ := hhere
    refine ⟨hturn.jobs.trans hjobs, ?_, hpassed.handsOff hturn⟩
    rw [hturn.jobs, hjobs]
    rw [hjobs] at hthere
    cases hturn with
    | duplicate => exact hthere
    | fresh =>
        exact hthere.concat TaskRow.handedOff_idle
    | again task taskId role now handoff hfind hnew =>
        have hrow := (findTask_eq_some hfind).1
        apply hthere.rewrite hrow _ TaskRow.handedOff_idle
        apply hpassed.unheld _ hend (horderly request hrequest) hfind hnew
        intro id held hheld hholds
        obtain ⟨found, hfound, hactive⟩ := hthere.active id held taskId hheld hholds
        rw [hrow] at hfound
        rw [Option.some.inj hfound]
        exact hactive
  obtain ⟨u, ⟨hjobs, hthere, _⟩, hrest⟩ := queueHandoffs_keeps hstart hturns hqueued
  have hall := hrest.leaves.trans hleaves
  have hkept := hall.jobs.kept
  rw [hall.tasks]
  refine ⟨hthere.kept hkept, ?_⟩
  rw [hjobs] at hkept
  exact hkept

/-- A task that is claimed was held by no job, and is apart from those in progress. -/
theorem Exclusive.claims (hexclusive : Exclusive m.jobs m.tasks)
    (hclaims : Claims m agent workerId leaseToken policy now t) : Exclusive t.jobs t.tasks := by
  cases hclaims with
  | idle => exact hexclusive
  | started agents id job hjob hagent hpending =>
      apply hexclusive.kept
      exact (Steady.update hjob (JobRow.sameBinding_started hpending) rfl).kept
  | claimed agents handoff handoffId task hfind hready =>
      obtain ⟨_, _, htask, hclaimable⟩ := claimableHandoff_eq_some hfind
      have hidle : task.state ≠ .inProgress := by
        intro hactive
        rw [hactive] at hready
        cases hready
      have hunheld := hexclusive.unheld htask hidle
      have hnew : ∀ (id : Id) (job : JobRow) (taskId : Id),
          (m.jobs ++ [taskJob agent.agentName workerId leaseToken handoff handoffId task
            m.session.sessionEpoch now])[id]? = some job → job.holds taskId →
          m.jobs[id]? = some job ∨ id = m.jobs.length ∧ handoff.taskId = taskId := by
        intro id job taskId hjob hholds
        rcases getElem?_concat_eq_some hjob with hold | ⟨hid, hsame⟩
        · exact Or.inl hold
        · rw [hsame] at hholds
          exact Or.inr ⟨hid, Option.some.inj (JobRow.holds_iff.1 hholds).1⟩
      constructor
      · intro id other job rival taskId hjob hrival hholds hrivals
        rcases hnew id job taskId hjob hholds with hold | ⟨hid, hsame⟩
        · rcases hnew other rival taskId hrival hrivals with hpast | ⟨_, hsame⟩
          · exact hexclusive.one id other job rival taskId hold hpast hholds hrivals
          · rw [← hsame] at hholds
            exact absurd hholds (hunheld id job hold)
        · rcases hnew other rival taskId hrival hrivals with hpast | ⟨hother, _⟩
          · rw [← hsame] at hrivals
            exact absurd hrivals (hunheld other rival hpast)
          · rw [hid, hother]
      · intro id job taskId hjob hholds
        by_cases hid : handoff.taskId = taskId
        · subst hid
          exact ⟨_, getElem?_update_self htask, rfl⟩
        · rw [getElem?_update_of_ne hid]
          rcases hnew id job taskId hjob hholds with hold | ⟨_, hsame⟩
          · exact hexclusive.active id job taskId hold hholds
          · exact absurd hsame hid
      · -- The claimed task has been compared with each one that is in progress.
        have hcompared : ∀ (other : Id) (row : TaskRow), handoff.taskId ≠ other →
            m.tasks[other]? = some row → row.state = .inProgress →
            ¬ scopesOverlap task row := by
          intro other row hne hrow hactive
          have hall := List.all_eq_true.mp hclaimable (row, other)
            (mem_selectWhere.2 ⟨hrow, decide_eq_true hactive⟩)
          rcases of_decide_eq_true hall with hsame | happart
          · exact absurd hsame.symm hne
          · exact happart
        intro first second row rival hne hrow hrival hactive hrivals
        by_cases hfirst : handoff.taskId = first
        · have hsecond : handoff.taskId ≠ second := by
            rw [hfirst]
            exact hne
          rw [getElem?_update_of_ne hsecond] at hrival
          subst hfirst
          rw [getElem?_update_self htask] at hrow
          rw [← Option.some.inj hrow]
          exact hcompared second rival hsecond hrival hrivals
        · rw [getElem?_update_of_ne hfirst] at hrow
          by_cases hsecond : handoff.taskId = second
          · subst hsecond
            rw [getElem?_update_self htask] at hrival
            rw [← Option.some.inj hrival, scopesOverlap_comm]
            exact hcompared first row hfirst hrow hactive
          · rw [getElem?_update_of_ne hsecond] at hrival
            exact hexclusive.apart first second row rival hne hrow hrival hactive hrivals
  | swept agents job hagent hfree =>
      apply hexclusive.kept
      refine (Steady.append ?_).kept
      intro added hadded
      rw [List.mem_singleton.mp hadded]
      exact hfree

theorem Deed.of_completed {C : JobReport → HandoffRequest → Prop} {output : ControlOutput}
    (hall : ∀ report ∈ deed.report?, (s.acceptedJob report).isSome →
      ∀ request ∈ deed.requests s, C report request)
    (hdeed : deed.operation = .completeJob report output)
    (haccepted : s.acceptedJob report = some job) :
    ∀ request ∈ (extractHandoffs s.agents report.agentName output.handoffBlocks).1,
      C report request := by
  have hreport : report ∈ deed.report? := by
    rw [Deed.report?, hdeed]
    rfl
  have hrequests := hall report hreport (by rw [haccepted]; rfl)
  rw [Deed.requests, hdeed] at hrequests
  exact hrequests

theorem Exclusive.change (hexclusive : Exclusive s.jobs s.tasks) (horderly : Orderly s deed)
    (hchange : Change s deed t) : Exclusive t.jobs t.tasks := by
  cases hchange with
  | left _ hleaves =>
      rw [hleaves.tasks]
      exact hexclusive.kept hleaves.jobs.kept
  | paused _ hdeed hcancels =>
      rw [hcancels.tasks, hcancels.jobs]
      exact hexclusive.kept (KeepsBound.cancel _ _)
  | closed _ hcancels =>
      rw [hcancels.tasks, hcancels.jobs]
      exact hexclusive.kept (KeepsBound.cancel _ _)
  | reset hdeed =>
      have hnone := resetSession_free s deed.now
      have hidle : ∀ (taskId : Id) (task : TaskRow),
          (resetSession s deed.now).tasks[taskId]? = some task → task.state ≠ .inProgress := by
        intro taskId task htask hactive
        obtain ⟨old, _, hreset⟩ := Option.map_eq_some_iff.mp ((List.getElem?_map ..).symm.trans htask)
        rw [← hreset] at hactive
        change (if _ then _ else old.state) = TaskState.inProgress at hactive
        split at hactive
        · cases hactive
        · rename_i hother
          exact hother (by rw [hactive]; decide)
      refine ⟨?_, ?_, ?_⟩
      · intro id other job rival taskId hjob _ hholds
        exact absurd hholds (hnone id job taskId hjob)
      · intro id job taskId hjob hholds
        exact absurd hholds (hnone id job taskId hjob)
      · intro taskId other task row _ htask _ hactive
        exact absurd hactive (hidle taskId task htask)
  | claimed m _ agent workerId leaseToken policy hdeed hagent hfreed hclaims =>
      have hmiddle : Exclusive m.jobs m.tasks := by
        rw [hfreed.leaves.tasks]
        exact hexclusive.kept hfreed.leaves.jobs.kept
      exact hmiddle.claims hclaims
  | completed report output job queued left hdeed haccepted hqueued hleaves =>
      obtain ⟨hjob, _, hlive, _⟩ := acceptedJob_eq_some haccepted
      have hend : ¬ JobRow.live { job with status := .completed } := by simp [JobRow.live]
      obtain ⟨hthere, hkept⟩ := hexclusive.queued (Deed.of_completed horderly hdeed haccepted)
        hqueued hleaves
      have hsettles := synchronizeCompletedTask_settles left job output.visibleOutput
        output.questionPresent
        (extractHandoffs s.agents report.agentName output.handoffBlocks).1 deed.now
      rw [hsettles.jobs]
      refine hthere.settles ?_ hsettles
      intro taskId hbound
      have hholds : job.holds taskId := JobRow.holds_iff.2 ⟨hbound, hlive⟩
      exact (hexclusive.retired hjob hholds hend).kept hkept
  | failed _ report errorText job hdeed haccepted hleaves =>
      obtain ⟨hjob, _, hlive, _⟩ := acceptedJob_eq_some haccepted
      have hend : ¬ JobRow.live { job with status := .failed } := by simp [JobRow.live]
      have hsettles := synchronizeFailedTask_settles (s.reported report job .failed deed.now) job
        errorText deed.now
      rw [hleaves.tasks]
      apply Exclusive.kept _ hleaves.jobs.kept
      rw [hsettles.jobs]
      apply Exclusive.settles _ _ hsettles
      · exact hexclusive.kept (KeepsBound.retire hend)
      · intro taskId hbound
        have hholds : job.holds taskId := JobRow.holds_iff.2 ⟨hbound, hlive⟩
        exact hexclusive.retired hjob hholds hend

theorem exclusive_throughout {profiles : List (String × String)} {deeds : List Deed}
    (horderly : Along step Orderly (State.start profiles now) deeds) :
    Throughout step (fun s => Exclusive s.jobs s.tasks) (State.start profiles now) deeds := by
  apply throughout_of_preserved
  · exact exclusive_start profiles now
  · intro done deed hdeed hhere
    exact hhere.change (horderly done deed hdeed) (step_change _ deed)

theorem JobRow.holds_of_inProgress (hactive : job.status = .inProgress)
    (hbound : job.taskId = some taskId) : job.holds taskId := by
  apply JobRow.holds_iff.2
  refine ⟨hbound, ?_⟩
  rw [JobRow.live, hactive]
  rfl

theorem Exclusive.disjoint (hexclusive : Exclusive s.jobs s.tasks) :
    DisjointWork s where
  tasks := by
    intro id other job rival taskId hne hjob hrival hactive hrivals hbound hrivalBound
    have hholds := JobRow.holds_of_inProgress hactive hbound
    have hheld := JobRow.holds_of_inProgress hrivals hrivalBound
    exact hne (hexclusive.one id other job rival taskId hjob hrival hholds hheld)
  scopes := by
    intro id other job rival taskId rivalId task row hne hjob hrival hactive hrivals hbound
      hrivalBound htask hrow
    have hholds := JobRow.holds_of_inProgress hactive hbound
    have hheld := JobRow.holds_of_inProgress hrivals hrivalBound
    obtain ⟨first, hfirst, hrunning⟩ := hexclusive.active id job taskId hjob hholds
    obtain ⟨second, hsecond, hrunningToo⟩ := hexclusive.active other rival rivalId hrival hheld
    have hapart : taskId ≠ rivalId := by
      intro hsame
      subst hsame
      exact hne (hexclusive.one id other job rival taskId hjob hrival hholds hheld)
    rw [htask] at hfirst
    rw [hrow] at hsecond
    rw [← Option.some.inj hfirst] at hrunning
    rw [← Option.some.inj hsecond] at hrunningToo
    exact hexclusive.apart taskId rivalId task row hapart htask hrow hrunning hrunningToo

/-! ## One job an agent -/

/-- What a step does to the jobs in progress: it starts none, or an agent claims. -/
theorem Change.starts (hchange : Change s deed t) :
    StartsNone s.jobs t.jobs ∨
      ∃ (m : State) (agent : AgentRow) (workerId : String) (leaseToken : Uuid)
        (policy : Option Nat),
        deed.operation = .claimNextJob agent.agentName workerId leaseToken policy ∧
        s.agents.find? (·.agentName = agent.agentName) = some agent ∧ Freed s agent m ∧
        Claims m agent workerId leaseToken.text policy deed.now t := by
  cases hchange with
  | left _ hleaves => exact Or.inl hleaves.starts
  | paused _ hdeed hcancels =>
      rw [hcancels.jobs]
      exact Or.inl (StartsNone.cancel _ _)
  | closed _ hcancels =>
      rw [hcancels.jobs]
      exact Or.inl (StartsNone.cancel _ _)
  | reset =>
      apply Or.inl
      apply (StartsNone.cancel s.jobs (·.live)).trans
      apply StartsNone.append
      intro job hjob
      obtain ⟨agent, _, hsame⟩ := List.mem_map.mp hjob
      rw [← hsame]
      exact nofun
  | claimed m _ agent workerId leaseToken policy hdeed hagent hfreed hclaims =>
      exact Or.inr ⟨m, agent, workerId, leaseToken, policy, hdeed, hagent, hfreed, hclaims⟩
  | completed report output job queued left hdeed haccepted hqueued hleaves =>
      have hsettles := synchronizeCompletedTask_settles left job output.visibleOutput
        output.questionPresent
        (extractHandoffs s.agents report.agentName output.handoffBlocks).1 deed.now
      rw [hsettles.jobs]
      obtain ⟨u, hjobs, hrest⟩ := queueHandoffs_keeps
        (P := fun u => u.jobs = (s.reported report job .completed deed.now).jobs) rfl
        (fun u v request _ hhere hturn => hturn.jobs.trans hhere) hqueued
      have hstart : StartsNone s.jobs u.jobs := by
        rw [hjobs]
        exact StartsNone.update nofun
      exact Or.inl ((hstart.trans hrest.leaves.starts).trans hleaves.starts)
  | failed _ report errorText job hdeed haccepted hleaves =>
      have hsettles := synchronizeFailedTask_settles (s.reported report job .failed deed.now) job
        errorText deed.now
      have hstart : StartsNone s.jobs
          (synchronizeFailedTask (s.reported report job .failed deed.now) job errorText
            deed.now).jobs := by
        rw [hsettles.jobs]
        exact StartsNone.update nofun
      exact Or.inl (hstart.trans hleaves.starts)

theorem OneJobEach.kept (hone : OneJobEach jobs) (hstarts : StartsNone jobs after) :
    OneJobEach after := by
  intro id other job rival hjob hrival hactive hrivals hagent
  obtain ⟨old, hold, hran, hname⟩ := hstarts id job hjob hactive
  obtain ⟨past, hpast, hranToo, hnameToo⟩ := hstarts other rival hrival hrivals
  exact hone id other old past hold hpast hran hranToo
    (hname.trans (hagent.trans hnameToo.symm))

def Idle (jobs : List JobRow) (agentName : String) : Prop :=
  ∀ (id : Id) (job : JobRow), jobs[id]? = some job → job.agentName = agentName →
    job.status ≠ .inProgress

theorem Freed.idle (hone : OneJobEach s.jobs) (hfreed : Freed s agent m) :
    Idle m.jobs agent.agentName := by
  cases hfreed with
  | free hfree => exact hfree
  | requeued id job hjob hagent hactive =>
      intro other row hrow hown hrunning
      by_cases hid : id = other
      · subst hid
        rw [getElem?_update_self hjob] at hrow
        rw [← Option.some.inj hrow] at hrunning
        cases hrunning
      · rw [getElem?_update_of_ne hid] at hrow
        exact hid (hone id other job row hjob hrow hactive hrunning (hagent.trans hown.symm))

theorem OneJobEach.started {agentName : String} (hone : OneJobEach jobs) (place : Id)
    (hidle : Idle jobs agentName)
    (hnew : ∀ (id : Id) (row : JobRow), after[id]? = some row → row.status = .inProgress →
      (id ≠ place ∧ jobs[id]? = some row) ∨ id = place ∧ row.agentName = agentName) :
    OneJobEach after := by
  intro id other job rival hjob hrival hactive hrivals hagent
  rcases hnew id job hjob hactive with ⟨_, hold⟩ | ⟨hid, hname⟩
  · rcases hnew other rival hrival hrivals with ⟨_, hpast⟩ | ⟨_, hname⟩
    · exact hone id other job rival hold hpast hactive hrivals hagent
    · exact absurd hactive (hidle id job hold (hagent.trans hname))
  · rcases hnew other rival hrival hrivals with ⟨_, hpast⟩ | ⟨hother, _⟩
    · exact absurd hrivals (hidle other rival hpast (hagent.symm.trans hname))
    · rw [hid, hother]

theorem OneJobEach.append (hone : OneJobEach jobs) (hidle : Idle jobs job.agentName) :
    OneJobEach (jobs ++ [job]) := by
  apply hone.started jobs.length hidle
  intro id row hrow _
  rcases getElem?_concat_eq_some hrow with hold | ⟨hid, hsame⟩
  · exact Or.inl ⟨Nat.ne_of_lt (List.getElem?_eq_some_iff.mp hold).1, hold⟩
  · exact Or.inr ⟨hid, by rw [hsame]⟩

theorem OneJobEach.claims (hone : OneJobEach m.jobs) (hidle : Idle m.jobs agent.agentName)
    (hclaims : Claims m agent workerId leaseToken policy now t) : OneJobEach t.jobs := by
  cases hclaims with
  | idle => exact hone
  | started agents id job hjob hagent =>
      apply hone.started id hidle
      intro other row hrow _
      by_cases hid : id = other
      · subst hid
        rw [getElem?_update_self hjob] at hrow
        rw [← Option.some.inj hrow]
        exact Or.inr ⟨rfl, hagent⟩
      · rw [getElem?_update_of_ne hid] at hrow
        exact Or.inl ⟨Ne.symm hid, hrow⟩
  | claimed => exact hone.append hidle
  | swept agents job hagent =>
      rw [← hagent] at hidle
      exact hone.append hidle

theorem OneJobEach.change (hone : OneJobEach s.jobs) (hchange : Change s deed t) :
    OneJobEach t.jobs := by
  rcases hchange.starts with hstarts | ⟨m, agent, _, _, _, _, _, hfreed, hclaims⟩
  · exact hone.kept hstarts
  · exact (hone.kept hfreed.leaves.starts).claims (hfreed.idle hone) hclaims

theorem oneJobEach_throughout (profiles : List (String × String)) (now : Time)
    (deeds : List Deed) :
    Throughout step (fun s => OneJobEach s.jobs) (State.start profiles now) deeds := by
  apply throughout_of_preserved
  · intro id other job rival hjob
    cases hjob
  · intro done deed _ hhere
    exact hhere.change (step_change _ deed)

/-! ## The limit -/

theorem isCuratorName_congr {after : List AgentRow} (hsame : roster after = roster agents)
    (agentName : String) : isCuratorName after agentName = isCuratorName agents agentName := by
  induction agents generalizing after with
  | nil =>
      rw [List.map_eq_nil_iff.mp hsame]
  | cons agent agents ih =>
      obtain ⟨first, rest, rfl, hfirst, hrest⟩ := List.map_eq_cons_iff.mp hsame
      obtain ⟨hname, hrole⟩ := Prod.mk.inj hfirst
      have hcurator : isCuratorAgent first = isCuratorAgent agent := by
        unfold isCuratorAgent
        rw [hname, hrole]
      have htail := ih hrest
      unfold isCuratorName at htail ⊢
      rw [List.find?_cons, List.find?_cons, hname]
      split
      · exact hcurator
      · exact htail

theorem length_of_roster {after : List AgentRow} (hsame : roster after = roster agents) :
    after.length = agents.length := by
  have hlength := congrArg List.length hsame
  rw [roster, roster, List.length_map, List.length_map] at hlength
  exact hlength

theorem maxParallelAgents_congr {after : List AgentRow} (hsame : roster after = roster agents)
    (policy : Option Nat) : maxParallelAgents policy after = maxParallelAgents policy agents := by
  unfold maxParallelAgents
  rw [length_of_roster hsame]

theorem StartsNone.count (hstarts : StartsNone jobs after) (agents : List AgentRow) :
    after.countP (countsToLimit agents) ≤ jobs.countP (countsToLimit agents) := by
  apply countP_le_of_kept
  intro id row hrow hcounts
  obtain ⟨hactive, hworker⟩ := of_decide_eq_true hcounts
  obtain ⟨old, hold, hran, hname⟩ := hstarts id row hrow hactive
  refine ⟨old, hold, decide_eq_true ⟨hran, ?_⟩⟩
  rw [hname]
  exact hworker

theorem count_started {count : Nat}
    (hlimit : jobs.countP (countsToLimit agents) ≤ maxParallelAgents policy agents)
    (hcount : count ≤ jobs.countP (countsToLimit agents) + if countsToLimit agents row then 1 else 0)
    (hname : row.agentName = agent.agentName)
    (hagent : agents.find? (·.agentName = agent.agentName) = some agent)
    (hroom : activeJobCount jobs < maxParallelAgents policy agents ∨ isCuratorAgent agent) :
    count ≤ maxParallelAgents policy agents := by
  rcases hroom with hroom | hcurator
  · have hactive : jobs.countP (countsToLimit agents) ≤ activeJobCount jobs := by
      apply List.countP_mono_left
      intro job _ hcounts
      exact decide_eq_true (of_decide_eq_true hcounts).1
    split at hcount
    · omega
    · omega
  · have hfree : ¬ countsToLimit agents row := by
      intro hcounts
      apply (of_decide_eq_true hcounts).2
      rw [isCuratorName, hname, hagent]
      exact hcurator
    rw [if_neg hfree] at hcount
    omega

theorem count_claims
    (hlimit : m.jobs.countP (countsToLimit m.agents) ≤ maxParallelAgents policy m.agents)
    (hagent : m.agents.find? (·.agentName = agent.agentName) = some agent)
    (hclaims : Claims m agent workerId leaseToken policy now t) :
    t.jobs.countP (countsToLimit m.agents) ≤ maxParallelAgents policy m.agents := by
  have happended : ∀ row : JobRow, (m.jobs ++ [row]).countP (countsToLimit m.agents) ≤
      m.jobs.countP (countsToLimit m.agents) + if countsToLimit m.agents row then 1 else 0 := by
    intro row
    rw [List.countP_append, List.countP_singleton]
  cases hclaims with
  | idle => exact hlimit
  | started agents id job hjob hown hpending hroom =>
      have hcount : (update m.jobs id (job.started workerId leaseToken m.session.sessionEpoch
          now)).countP (countsToLimit m.agents) ≤ m.jobs.countP (countsToLimit m.agents) +
            if countsToLimit m.agents (job.started workerId leaseToken m.session.sessionEpoch now)
            then 1 else 0 := countP_update_le hjob
      exact count_started hlimit hcount hown hagent hroom
  | claimed agents handoff handoffId task hfind hready hroom =>
      exact count_started hlimit (happended _) rfl hagent hroom
  | swept agents job hown hfree hcurator =>
      exact count_started hlimit (happended _) hown hagent (Or.inr hcurator)

def Deed.under (policy : Option Nat) (deed : Deed) : Bool :=
  match deed.operation with
  | .claimNextJob _ _ _ other => other = policy
  | _ => true

theorem workerJobCount_step (hunder : deed.under policy)
    (hlimit : s.workerJobCount ≤ maxParallelAgents policy s.agents) :
    (step s deed).workerJobCount ≤ maxParallelAgents policy (step s deed).agents := by
  have hroster := (step_moves s deed).roster
  have hcounts : countsToLimit (step s deed).agents = countsToLimit s.agents := by
    funext job
    unfold countsToLimit
    rw [isCuratorName_congr hroster]
  unfold State.workerJobCount
  rw [maxParallelAgents_congr hroster, hcounts]
  rcases (step_change s deed).starts with
    hstarts | ⟨m, agent, workerId, leaseToken, other, hdeed, hagent, hfreed, hclaims⟩
  · exact (hstarts.count s.agents).trans hlimit
  · rw [Deed.under, hdeed] at hunder
    have hpolicy : other = policy := of_decide_eq_true hunder
    subst hpolicy
    have hagents : m.agents = s.agents := by
      cases hfreed <;> rfl
    have hmiddle := (hfreed.leaves.starts.count s.agents).trans hlimit
    rw [← hagents] at hmiddle hagent ⊢
    exact count_claims hmiddle hagent hclaims

theorem workerJobCount_throughout (profiles : List (String × String)) (now : Time)
    {deeds : List Deed} (hunder : ∀ deed ∈ deeds, deed.under policy) :
    Throughout step (fun s => s.workerJobCount ≤ maxParallelAgents policy s.agents)
      (State.start profiles now) deeds := by
  apply throughout_of_preserved
  · exact Nat.zero_le _
  · intro done deed hdeed hhere
    exact workerJobCount_step (hunder deed (hdeed.subset (List.mem_append_right _
      (List.mem_singleton_self deed)))) hhere

/-- In a run whose completions take no task away from another job, parallel work is disjoint;
in every run an agent has one job in progress at most, and those of agents other than curators
are within the limit of the policy that the claims are made under. -/
theorem parallel_work_disjoint (profiles : List (String × String)) (now : Time)
    (deeds : List Deed) :
    (Along step Orderly (State.start profiles now) deeds →
        Throughout step DisjointWork (State.start profiles now) deeds) ∧
      Throughout step (fun s => OneJobEach s.jobs) (State.start profiles now) deeds ∧
      ∀ policy, (∀ deed ∈ deeds, deed.under policy) →
        Throughout step (fun s => s.workerJobCount ≤ maxParallelAgents policy s.agents)
          (State.start profiles now) deeds := by
  refine ⟨?_, oneJobEach_throughout profiles now deeds, ?_⟩
  · intro horderly done hdone
    exact (exclusive_throughout horderly done hdone).disjoint
  · intro policy hunder
    exact workerJobCount_throughout profiles now hunder

/-- The coder takes up what the planner has handed it, and the planner another message. -/
theorem handed_over_work_is_disjoint :
    Throughout step DisjointWork team
        (handedOver ++ [⟨.routeDiscordMessage (.ok ⟨"planner", "routing"⟩), 7⟩,
          ⟨.claimNextJob "planner" "w1" ⟨"k2", by decide⟩ none, 8⟩]) ∧
      Throughout step (fun s => s.workerJobCount ≤ maxParallelAgents none s.agents) team
        (handedOver ++ [⟨.routeDiscordMessage (.ok ⟨"planner", "routing"⟩), 7⟩,
          ⟨.claimNextJob "planner" "w1" ⟨"k2", by decide⟩ none, 8⟩]) :=
  ⟨(parallel_work_disjoint _ 0 _).1 (by decide +kernel),
    (parallel_work_disjoint _ 0 _).2.2 none (by decide)⟩

/-- The tester takes up the task that the coder is at: two jobs in progress are bound to it. -/
theorem two_jobs_on_one_task :
    ¬ Throughout step DisjointWork team
      (handedOverAgain ++ [⟨.claimNextJob "tester" "w3" ⟨"k3", by decide⟩ none, 10⟩]) := by
  intro hall
  have hlast := hall _ (List.prefix_refl _)
  have hjobs : [1, 3].map (fun id => ((run step team (handedOverAgain ++
      [⟨.claimNextJob "tester" "w3" ⟨"k3", by decide⟩ none, 10⟩])).jobs[id]?).map
        fun job => (job.status, job.taskId)) =
      [some (.inProgress, some 0), some (.inProgress, some 0)] := by
    decide +kernel
  obtain ⟨hcoder, htesters⟩ := List.cons.inj hjobs
  obtain ⟨htester, _⟩ := List.cons.inj htesters
  obtain ⟨job, hjob, hfirst⟩ := Option.map_eq_some_iff.mp hcoder
  obtain ⟨rival, hrival, hsecond⟩ := Option.map_eq_some_iff.mp htester
  obtain ⟨hactive, hbound⟩ := Prod.mk.inj hfirst
  obtain ⟨hrunning, htask⟩ := Prod.mk.inj hsecond
  exact hlast.tasks 1 3 job rival 0 (by decide) hjob hrival hactive hrunning hbound htask

end OpsCure.SessionService
