/-
The ledger of handoffs (`_queue_handoffs`, `_claim_ready_task_job`, `reset_session`,
`PauseWorkflow.pause`): tasks, handoffs and jobs tell the same story of each piece of work.
-/
import OpsCure.ParallelWork

namespace OpsCure.SessionService

open Run Table

/-! ## The ledger -/

def State.queuedFor (s : State) (taskId : Id) (handoff : HandoffRow) : Prop :=
  handoff.taskId = taskId ∧ handoff.state = .queued ∧
    handoff.sessionEpoch = s.session.sessionEpoch

/-- What is kept of the work of a session: a task has one handoff that is queued or claimed at
most; it is ready when one is queued in this epoch, and only then; it is in progress when one
job, pending or in progress, is bound to it, and only then. -/
structure Ledger (s : State) : Prop where
  handoffs : ∀ (taskId : Id) (task : TaskRow) (id other : Id) (handoff rival : HandoffRow),
    s.tasks[taskId]? = some task → s.handoffs[id]? = some handoff →
    s.handoffs[other]? = some rival → handoff.liveFor taskId → rival.liveFor taskId → id = other
  ready : ∀ (taskId : Id) (task : TaskRow), s.tasks[taskId]? = some task →
    (task.state.isReady ↔ ∃ (id : Id) (handoff : HandoffRow), s.handoffs[id]? = some handoff ∧
      s.queuedFor taskId handoff)
  inProgress : ∀ (taskId : Id) (task : TaskRow), s.tasks[taskId]? = some task →
    (task.state = .inProgress ↔ ∃ id, (∃ job, s.jobs[id]? = some job ∧ job.holds taskId) ∧
      ∀ (other : Id) (rival : JobRow), s.jobs[other]? = some rival → rival.holds taskId →
        other = id)

def repeats (s : State) (report : JobReport) (request : HandoffRequest) : Bool :=
  (selectWhere (·.taskKey = request.taskId) s.tasks).any fun task =>
    (s.jobs[report.jobId]?).any (·.holds task.2) ∧
      isDuplicateReadyHandoff s task.2 task.1 request.targetAgent
        (normalizeTaskPayloadText request.body)

def Operation.isPause : Operation → Bool
  | .pause => true
  | _ => false

/-- No accepted completion takes a task away from another job, or repeats the handoff it ends;
and a pause finds no pending job that is bound to a task. -/
structure Undisturbed (s : State) (deed : Deed) : Prop where
  orderly : Orderly s deed
  anew : ∀ report ∈ deed.report?, (s.acceptedJob report).isSome →
    ∀ request ∈ deed.requests s, ¬ repeats s report request
  held : deed.operation.isPause → ∀ job ∈ s.jobs, job.status = .pending → job.taskId = none

/-! ## Where a task stands -/

inductive Place (jobs : List JobRow) (handoffs : List HandoffRow) (taskId : Id)
    (task : TaskRow) : Prop
  | waiting (handoff : HandoffRow) (handoffId : Id) (hready : task.state.isReady)
      (hoffer : Sole (·.liveFor taskId) handoffs (some (handoff, handoffId)))
      (hqueued : handoff.state = .queued) (hunheld : Unheld jobs taskId)
  | running (handoff : HandoffRow) (handoffId : Id) (job : JobRow) (jobId : Id)
      (hactive : task.state = .inProgress)
      (hoffer : Sole (·.liveFor taskId) handoffs (some (handoff, handoffId)))
      (hclaimed : handoff.state = .claimed)
      (hheld : Sole (·.holds taskId) jobs (some (job, jobId)))
      (hbound : job.handoffId = some handoffId)
  | settled (hidle : ¬ task.state.isReady) (hended : task.state ≠ .inProgress)
      (hnone : Sole (·.liveFor taskId) handoffs none) (hunheld : Unheld jobs taskId)

def OfEpoch (sessionEpoch : Nat) (handoffs : List HandoffRow) : Prop :=
  ∀ (id : Id) (handoff : HandoffRow), handoffs[id]? = some handoff → handoff.live →
    handoff.sessionEpoch = sessionEpoch

def HoldsKnown (jobs : List JobRow) (tasks : List TaskRow) : Prop :=
  ∀ (id : Id) (job : JobRow) (taskId : Id), jobs[id]? = some job → job.holds taskId →
    taskId < tasks.length

def KeysApart (tasks : List TaskRow) : Prop :=
  ∀ (id other : Id) (task row : TaskRow), tasks[id]? = some task → tasks[other]? = some row →
    task.taskKey = row.taskKey → id = other

structure Booked (s : State) : Prop where
  place : ∀ (taskId : Id) (task : TaskRow), s.tasks[taskId]? = some task →
    Place s.jobs s.handoffs taskId task
  epoch : OfEpoch s.session.sessionEpoch s.handoffs
  bound : HoldsKnown s.jobs s.tasks
  keys : KeysApart s.tasks

variable {jobs after : List JobRow} {tasks : List TaskRow} {taskId id : Id} {task : TaskRow}
  {handoff : HandoffRow} {s t u : State} {row job : JobRow} {handoffs : List HandoffRow}
  {done : List HandoffRequest} {state : HandoffState}

theorem HoldsKnown.kept (hbound : HoldsKnown jobs tasks) (hkept : KeepsBound jobs after) :
    HoldsKnown after tasks := by
  intro id job taskId hjob hholds
  obtain ⟨old, hold, hsame⟩ := hkept id job taskId hjob hholds
  exact hbound id old taskId hold (hsame.holds hholds)

theorem KeysApart.update (hkeys : KeysApart tasks) {after : TaskRow}
    (htask : tasks[taskId]? = some task) (hkey : after.taskKey = task.taskKey) :
    KeysApart (update tasks taskId after) := by
  have hback : ∀ (id : Id) (row : TaskRow), (Table.update tasks taskId after)[id]? = some row →
      ∃ old, tasks[id]? = some old ∧ old.taskKey = row.taskKey := by
    intro id row hrow
    rcases getElem?_update_eq_some hrow with ⟨rfl, rfl⟩ | hrow
    · exact ⟨task, htask, hkey.symm⟩
    · exact ⟨row, hrow, rfl⟩
  intro id other row found hrow hfound hsame
  obtain ⟨old, hold, hname⟩ := hback id row hrow
  obtain ⟨past, hpast, hpastName⟩ := hback other found hfound
  exact hkeys id other old past hold hpast (hname.trans (hsame.trans hpastName.symm))

theorem KeysApart.concat (hkeys : KeysApart tasks)
    (hnew : ∀ (id : Id) (row : TaskRow), tasks[id]? = some row → row.taskKey ≠ task.taskKey) :
    KeysApart (tasks ++ [task]) := by
  intro id other row found hrow hfound hsame
  rcases getElem?_concat_eq_some hrow with hold | ⟨hid, hlast⟩
  · rcases getElem?_concat_eq_some hfound with hpast | ⟨_, hlast⟩
    · exact hkeys id other row found hold hpast hsame
    · rw [hlast] at hsame
      exact absurd hsame (hnew id row hold)
  · rcases getElem?_concat_eq_some hfound with hpast | ⟨hother, _⟩
    · rw [hlast] at hsame
      exact absurd hsame.symm (hnew other found hpast)
    · rw [hid, hother]

theorem HandoffRow.liveFor_iff :
    handoff.liveFor taskId ↔ handoff.taskId = taskId ∧ handoff.live := by
  simp [HandoffRow.liveFor]

theorem HandoffRow.live_of_queued (hqueued : handoff.state = .queued) : handoff.live := by
  rw [HandoffRow.live, hqueued]
  rfl

theorem HandoffRow.not_live_of_terminal (hended : handoff.state.isTerminal) : ¬ handoff.live := by
  intro hlive
  unfold HandoffRow.live at hlive
  cases hstate : handoff.state <;> rw [hstate] at hlive hended <;> trivial

theorem Booked.ledger (hbooked : Booked s) : Ledger s where
  handoffs := by
    intro taskId task id other handoff rival htask hhandoff hrival hlive hlives
    cases hbooked.place taskId task htask with
    | waiting _ _ hready hoffer =>
        exact hoffer.eq hhandoff hlive hrival hlives
    | running _ _ job jobId hactive hoffer =>
        exact hoffer.eq hhandoff hlive hrival hlives
    | settled hidle hended hnone => exact hnone.eq hhandoff hlive hrival hlives
  ready := by
    intro taskId task htask
    have hlive : ∀ handoff : HandoffRow, s.queuedFor taskId handoff →
        handoff.liveFor taskId := by
      intro handoff hqueued
      exact HandoffRow.liveFor_iff.2 ⟨hqueued.1, HandoffRow.live_of_queued hqueued.2.1⟩
    cases hbooked.place taskId task htask with
    | waiting handoff handoffId hready hoffer hqueued =>
        obtain ⟨hrow, hkeep, _⟩ := hoffer
        obtain ⟨hof, hopen⟩ := HandoffRow.liveFor_iff.1 hkeep
        have hepoch := hbooked.epoch handoffId handoff hrow hopen
        exact ⟨fun _ => ⟨handoffId, handoff, hrow, hof, hqueued, hepoch⟩, fun _ => hready⟩
    | running handoff handoffId job jobId hactive hoffer hclaimed =>
        constructor
        · intro hready
          rw [hactive] at hready
          cases hready
        · intro hfound
          obtain ⟨id, row, hrow, hqueued⟩ := hfound
          have hid := hoffer.2.2 id row hrow (hlive row hqueued)
          subst hid
          have hsame : row = handoff := Option.some.inj (hrow.symm.trans hoffer.1)
          rw [← hsame, hqueued.2.1] at hclaimed
          cases hclaimed
    | settled hidle hended hnone =>
        constructor
        · intro hready
          exact absurd hready hidle
        · intro hfound
          obtain ⟨id, row, hrow, hqueued⟩ := hfound
          exact absurd (hlive row hqueued) (hnone id row hrow)
  inProgress := by
    intro taskId task htask
    cases hbooked.place taskId task htask with
    | waiting handoff handoffId hready hoffer hqueued hunheld =>
        constructor
        · intro hactive
          rw [hactive] at hready
          cases hready
        · intro hfound
          obtain ⟨id, ⟨job, hjob, hholds⟩, _⟩ := hfound
          exact absurd hholds (hunheld id job hjob)
    | running handoff handoffId job jobId hactive hoffer hclaimed hheld =>
        obtain ⟨hrow, hholds, honly⟩ := hheld
        exact ⟨fun _ => ⟨jobId, ⟨job, hrow, hholds⟩, honly⟩, fun _ => hactive⟩
    | settled hidle hended hnone hunheld =>
        constructor
        · intro hactive
          exact absurd hactive hended
        · intro hfound
          obtain ⟨id, ⟨job, hjob, hholds⟩, _⟩ := hfound
          exact absurd hholds (hunheld id job hjob)

theorem booked_start (profiles : List (String × String)) (now : Time) :
    Booked (State.start profiles now) where
  place := by
    intro taskId task htask
    cases htask
  epoch := by
    intro id handoff hhandoff
    cases hhandoff
  bound := by
    intro id job taskId hjob
    cases hjob
  keys := by
    intro id other task row htask
    cases htask

/-! ## What does not touch a task -/

/-- The handoffs of the task that are queued or claimed are the same. -/
def SameOffers (taskId : Id) (handoffs after : List HandoffRow) : Prop :=
  ∀ (id : Id) (row : HandoffRow), row.liveFor taskId →
    (handoffs[id]? = some row ↔ after[id]? = some row)

structure SameHold (taskId : Id) (jobs after : List JobRow) : Prop where
  kept : ∀ (id : Id) (row : JobRow), after[id]? = some row → row.holds taskId →
    ∃ old, jobs[id]? = some old ∧ old.holds taskId ∧ row.handoffId = old.handoffId
  lasts : ∀ (id : Id) (old : JobRow), jobs[id]? = some old → old.holds taskId →
    ∃ row, after[id]? = some row ∧ row.holds taskId

theorem SameOffers.refl (taskId : Id) (handoffs : List HandoffRow) :
    SameOffers taskId handoffs handoffs :=
  fun _ _ _ => Iff.rfl

theorem SameHold.refl (taskId : Id) (jobs : List JobRow) : SameHold taskId jobs jobs :=
  ⟨fun _ row hrow hholds => ⟨row, hrow, hholds, rfl⟩,
    fun _ old hold hholds => ⟨old, hold, hholds⟩⟩

theorem Steady.hold (hsteady : Steady jobs after) (taskId : Id) :
    SameHold taskId jobs after where
  kept := by
    intro id row hrow hholds
    obtain ⟨old, hold, hsame⟩ := hsteady.kept id row taskId hrow hholds
    exact ⟨old, hold, hsame.holds hholds, hsame.handoffId⟩
  lasts := fun id old hold hholds => hsteady.lasts id old taskId hold hholds

theorem SameHold.update {old : JobRow} (hold : jobs[id]? = some old) (hfree : ¬ old.holds taskId)
    (hfreed : ¬ row.holds taskId) : SameHold taskId jobs (update jobs id row) := by
  constructor
  · intro other found hfound hholds
    rcases getElem?_update_eq_some hfound with ⟨rfl, rfl⟩ | hfound
    · exact absurd hholds hfreed
    · exact ⟨found, hfound, hholds, rfl⟩
  · intro other found hfound hholds
    by_cases hid : id = other
    · subst hid
      rw [hold] at hfound
      rw [← Option.some.inj hfound] at hholds
      exact absurd hholds hfree
    · exact ⟨found, (getElem?_update_of_ne hid).trans hfound, hholds⟩

theorem SameHold.append (jobs : List JobRow) (hfree : ¬ row.holds taskId) :
    SameHold taskId jobs (jobs ++ [row]) := by
  constructor
  · intro id found hfound hholds
    rcases getElem?_concat_eq_some hfound with hold | ⟨_, hsame⟩
    · exact ⟨found, hold, hholds, rfl⟩
    · rw [hsame] at hholds
      exact absurd hholds hfree
  · intro id old hold hholds
    have hlt := (List.getElem?_eq_some_iff.mp hold).1
    exact ⟨old, (List.getElem?_append_left hlt).trans hold, hholds⟩

theorem Unheld.same (hunheld : Unheld jobs taskId) (hhold : SameHold taskId jobs after) :
    Unheld after taskId := by
  intro id row hrow hholds
  obtain ⟨old, hold, hheld, _⟩ := hhold.kept id row hrow hholds
  exact hunheld id old hold hheld

variable {old : HandoffRow} {sessionEpoch : Nat} {handoffId : Option Id}

theorem SameOffers.update {row : HandoffRow} (hold : handoffs[id]? = some old)
    (hother : old.taskId ≠ taskId) (hsame : row.taskId = old.taskId) :
    SameOffers taskId handoffs (update handoffs id row) := by
  intro place found hlive
  have htask := (HandoffRow.liveFor_iff.1 hlive).1
  by_cases hid : id = place
  · subst hid
    rw [getElem?_update_self hold, hold]
    constructor
    · intro hfound
      rw [Option.some.inj hfound] at hother
      exact absurd htask hother
    · intro hfound
      rw [Option.some.inj hfound, htask] at hsame
      exact absurd hsame.symm hother
  · rw [getElem?_update_of_ne hid]

theorem SameOffers.queued (handoffs : List HandoffRow) (hother : handoff.taskId ≠ taskId) :
    SameOffers taskId handoffs (supersede handoffs handoff.taskId ++ [handoff]) := by
  intro id row hlive
  have htask := (HandoffRow.liveFor_iff.1 hlive).1
  have hkeeps : ∀ old : HandoffRow, old.taskId = taskId →
      (if old.liveFor handoff.taskId then { old with state := .superseded } else old) = old := by
    intro old hold
    apply if_neg
    intro hsuperseded
    exact hother ((HandoffRow.liveFor_iff.1 hsuperseded).1.symm.trans hold)
  constructor
  · intro hrow
    have hlt : id < (supersede handoffs handoff.taskId).length := by
      rw [supersede, List.length_map]
      exact (List.getElem?_eq_some_iff.mp hrow).1
    rw [List.getElem?_append_left hlt, supersede, List.getElem?_map, hrow, Option.map_some,
      hkeeps row htask]
  · intro hrow
    rcases getElem?_concat_eq_some hrow with hold | ⟨_, hsame⟩
    · rw [supersede, List.getElem?_map] at hold
      obtain ⟨old, hfound, hchanged⟩ := Option.map_eq_some_iff.mp hold
      have holdTask : old.taskId = taskId := by
        rw [← htask, ← hchanged]
        split <;> rfl
      rw [hkeeps old holdTask] at hchanged
      rw [← hchanged]
      exact hfound
    · rw [hsame] at htask
      exact absurd htask hother

theorem sole_queued (handoffs : List HandoffRow) (hqueued : handoff.state = .queued) :
    Sole (·.liveFor handoff.taskId) (supersede handoffs handoff.taskId ++ [handoff])
      (some (handoff, (supersede handoffs handoff.taskId).length)) := by
  apply Sole.append
  · intro id row hrow hlive
    rw [supersede, List.getElem?_map] at hrow
    obtain ⟨old, _, hchanged⟩ := Option.map_eq_some_iff.mp hrow
    split at hchanged
    · rw [← hchanged] at hlive
      have hopen := (HandoffRow.liveFor_iff.1 hlive).2
      cases hopen
    · rename_i hdead
      rw [hchanged] at hdead
      exact hdead hlive
  · exact HandoffRow.liveFor_iff.2 ⟨rfl, HandoffRow.live_of_queued hqueued⟩

theorem Place.frame {rows : List HandoffRow} (hplace : Place jobs handoffs taskId task)
    (hhold : SameHold taskId jobs after) (hoffers : SameOffers taskId handoffs rows) :
    Place after rows taskId task := by
  cases hplace with
  | waiting handoff handoffId hready hoffer hqueued hunheld =>
      exact Place.waiting handoff handoffId hready (hoffer.congr hoffers) hqueued
        (hunheld.same hhold)
  | running handoff handoffId job jobId hactive hoffer hclaimed hheld hbound =>
      obtain ⟨hjob, hholds, honly⟩ := hheld
      obtain ⟨row, hrow, hstill⟩ := hhold.lasts jobId job hjob hholds
      obtain ⟨old, hold, _, hsame⟩ := hhold.kept jobId row hrow hstill
      rw [hjob] at hold
      have hlater : ∀ (other : Id) (found : JobRow), after[other]? = some found →
          found.holds taskId → other = jobId := by
        intro other found hfound hfoundHolds
        obtain ⟨past, hpast, hpastHolds, _⟩ := hhold.kept other found hfound hfoundHolds
        exact honly other past hpast hpastHolds
      refine Place.running handoff handoffId row jobId hactive (hoffer.congr hoffers) hclaimed
        ⟨hrow, hstill, hlater⟩ ?_
      rw [hsame, ← Option.some.inj hold]
      exact hbound
  | settled hidle hended hnone hunheld =>
      exact Place.settled hidle hended (hnone.congr hoffers) (hunheld.same hhold)

theorem Booked.steady (hbooked : Booked s) (hjobs : Steady s.jobs t.jobs)
    (htasks : t.tasks = s.tasks) (hhandoffs : t.handoffs = s.handoffs)
    (hepoch : t.session.sessionEpoch = s.session.sessionEpoch) : Booked t := by
  refine ⟨?_, ?_, ?_, ?_⟩
  · intro taskId task htask
    rw [htasks] at htask
    rw [hhandoffs]
    exact (hbooked.place taskId task htask).frame (hjobs.hold taskId) (SameOffers.refl taskId _)
  · rw [hhandoffs, hepoch]
    exact hbooked.epoch
  · rw [htasks]
    exact hbooked.bound.kept hjobs.kept
  · rw [htasks]
    exact hbooked.keys

theorem Booked.leaves (hbooked : Booked s) (hleaves : Leaves s t) : Booked t :=
  hbooked.steady hleaves.jobs hleaves.tasks hleaves.handoffs hleaves.epoch

/-! ## Handing off -/

/-- Where the task of a job stands that is reported on, once some handoffs of the report have
been gone through: its claimed handoff is not settled yet and none of them names it, or it has
been handed off again and the claimed handoff is superseded. -/
inductive Ending (jobs : List JobRow) (handoffs : List HandoffRow) (handoffId : Option Id)
    (done : List HandoffRequest) (taskId : Id) (task : TaskRow) : Prop
  | held (handoff : HandoffRow) (id : Id) (hactive : task.state = .inProgress)
      (hoffer : Sole (·.liveFor taskId) handoffs (some (handoff, id)))
      (hbound : handoffId = some id) (hunheld : Unheld jobs taskId)
      (hnone : ∀ request ∈ done, request.taskId ≠ task.taskKey)
  | passed (handoff old : HandoffRow) (id oldId : Id) (hready : task.state.isReady)
      (hoffer : Sole (·.liveFor taskId) handoffs (some (handoff, id)))
      (hqueued : handoff.state = .queued) (hunheld : Unheld jobs taskId)
      (hbound : handoffId = some oldId) (hold : handoffs[oldId]? = some old)
      (hended : old.state.isTerminal)
      (hsome : ∃ request ∈ done, request.taskId = task.taskKey)

structure Settling (job : JobRow) (done : List HandoffRequest) (u : State) : Prop where
  others : ∀ (taskId : Id) (task : TaskRow), u.tasks[taskId]? = some task →
    job.taskId ≠ some taskId → Place u.jobs u.handoffs taskId task
  own : ∀ (taskId : Id) (task : TaskRow), u.tasks[taskId]? = some task →
    job.taskId = some taskId → Ending u.jobs u.handoffs job.handoffId done taskId task
  known : ∀ taskId, job.taskId = some taskId → taskId < u.tasks.length
  epoch : OfEpoch u.session.sessionEpoch u.handoffs
  bound : HoldsKnown u.jobs u.tasks
  keys : KeysApart u.tasks

structure Queueing (s : State) (report : JobReport) (job row : JobRow)
    (done : List HandoffRequest) (u : State) : Prop extends Settling job done u where
  jobs : u.jobs = update s.jobs report.jobId row
  passed : PassedOn s u

theorem Booked.queueing {report : JobReport} {status : JobStatus} (hbooked : Booked s)
    (now : Time) (hjob : s.jobs[report.jobId]? = some job) (hlive : job.live)
    (hend : ¬ JobRow.live { job with status := status }) :
    Queueing s report job { job with status := status } []
      (s.reported report job status now) where
  jobs := rfl
  passed := ⟨rfl, fun _ => Or.inr ⟨rfl, fun _ => rfl⟩⟩
  others := by
    intro taskId task htask hother
    apply (hbooked.place taskId task htask).frame _ (SameOffers.refl taskId _)
    apply SameHold.update hjob
    · intro hholds
      exact hother (JobRow.holds_iff.1 hholds).1
    · intro hholds
      exact hother (JobRow.holds_iff.1 hholds).1
  own := by
    intro taskId task htask hown
    have hholds : job.holds taskId := JobRow.holds_iff.2 ⟨hown, hlive⟩
    cases hbooked.place taskId task htask with
    | waiting handoff handoffId hready hoffer hqueued hunheld =>
        exact absurd hholds (hunheld report.jobId job hjob)
    | running handoff handoffId held jobId hactive hoffer hclaimed hheld hbound =>
        have hid := hheld.2.2 report.jobId job hjob hholds
        subst hid
        have hsame : job = held := Option.some.inj (hjob.symm.trans hheld.1)
        subst hsame
        apply Ending.held handoff handoffId hactive hoffer hbound
        · exact hheld.retire fun hrow => hend (JobRow.holds_iff.1 hrow).2
        · exact nofun
    | settled hidle hended hnone hunheld =>
        exact absurd hholds (hunheld report.jobId job hjob)
  known := by
    intro taskId hown
    exact hbooked.bound report.jobId job taskId hjob (JobRow.holds_iff.2 ⟨hown, hlive⟩)
  epoch := hbooked.epoch
  bound := hbooked.bound.kept (KeepsBound.retire hend)
  keys := hbooked.keys

theorem Settling.find (hsettling : Settling job done u) {found : TaskRow} {foundId : Id}
    (htask : u.tasks[taskId]? = some task)
    (hfind : findTask u.tasks task.taskKey = some (found, foundId)) :
    found = task ∧ foundId = taskId := by
  obtain ⟨hrow, hkey⟩ := findTask_eq_some hfind
  have hid := hsettling.keys foundId taskId found task hrow htask hkey
  subst hid
  exact ⟨Option.some.inj (hrow.symm.trans htask), rfl⟩

theorem superseded_of_terminal (hold : handoffs[id]? = some old) (hended : old.state.isTerminal) :
    (supersede handoffs taskId ++ [handoff])[id]? = some old := by
  have hdead : ¬ old.liveFor taskId := by
    intro hlive
    exact HandoffRow.not_live_of_terminal hended (HandoffRow.liveFor_iff.1 hlive).2
  have hlt : id < (supersede handoffs taskId).length := by
    rw [supersede, List.length_map]
    exact (List.getElem?_eq_some_iff.mp hold).1
  rw [List.getElem?_append_left hlt, supersede, List.getElem?_map, hold, Option.map_some,
    if_neg hdead]

theorem OfEpoch.queued (hepoch : OfEpoch sessionEpoch handoffs)
    (hnew : handoff.sessionEpoch = sessionEpoch) (taskId : Id) :
    OfEpoch sessionEpoch (supersede handoffs taskId ++ [handoff]) := by
  intro id row hrow hlive
  rcases getElem?_concat_eq_some hrow with hold | ⟨_, hsame⟩
  · rw [supersede, List.getElem?_map] at hold
    obtain ⟨old, hfound, hchanged⟩ := Option.map_eq_some_iff.mp hold
    split at hchanged
    · rw [← hchanged] at hlive
      cases hlive
    · rw [← hchanged] at hlive ⊢
      exact hepoch id old hfound hlive
  · rw [hsame]
    exact hnew

theorem Ending.frame (hending : Ending jobs handoffs handoffId done taskId task)
    (hother : handoff.taskId ≠ taskId) :
    Ending jobs (supersede handoffs handoff.taskId ++ [handoff]) handoffId done taskId task := by
  have hoffers := SameOffers.queued handoffs hother
  cases hending with
  | held offer id hactive hoffer hbound hunheld hnone =>
      exact Ending.held offer id hactive (hoffer.congr hoffers) hbound hunheld hnone
  | passed offer old id oldId hready hoffer hqueued hunheld hbound hold hended hsome =>
      exact Ending.passed offer old id oldId hready (hoffer.congr hoffers) hqueued hunheld hbound
        (superseded_of_terminal hold hended) hended hsome

theorem Ending.more {jobs : List JobRow} {handoffs : List HandoffRow} {handoffId : Option Id}
    {done : List HandoffRequest} {taskId : Id} {task : TaskRow} {request : HandoffRequest}
    (hending : Ending jobs handoffs handoffId done taskId task)
    (hname : task.state = .inProgress → request.taskId ≠ task.taskKey) :
    Ending jobs handoffs handoffId (done ++ [request]) taskId task := by
  cases hending with
  | held offer id hactive hoffer hbound hunheld hnone =>
      apply Ending.held offer id hactive hoffer hbound hunheld
      intro named hnamed
      rcases List.mem_append.mp hnamed with hold | hnew
      · exact hnone named hold
      · rw [List.mem_singleton.mp hnew]
        exact hname hactive
  | passed offer old id oldId hready hoffer hqueued hunheld hbound hold hended hsome =>
      obtain ⟨named, hnamed, hkey⟩ := hsome
      exact Ending.passed offer old id oldId hready hoffer hqueued hunheld hbound hold hended
        ⟨named, List.mem_append_left _ hnamed, hkey⟩

theorem Ending.again {jobs : List JobRow} {handoffs : List HandoffRow} {handoffId : Option Id}
    {done : List HandoffRequest} {task after : TaskRow} {handoff : HandoffRow}
    {request : HandoffRequest}
    (hending : Ending jobs handoffs handoffId done handoff.taskId task)
    (hready : after.state.isReady) (hqueued : handoff.state = .queued)
    (hname : request.taskId = after.taskKey) :
    Ending jobs (supersede handoffs handoff.taskId ++ [handoff]) handoffId (done ++ [request])
      handoff.taskId after := by
  have hsome : ∃ named ∈ done ++ [request], named.taskId = after.taskKey :=
    ⟨request, List.mem_append_right _ (List.mem_singleton_self request), hname⟩
  cases hending with
  | held offer id hactive hoffer hbound hunheld =>
      have hlt : id < (supersede handoffs handoff.taskId).length := by
        rw [supersede, List.length_map]
        exact (List.getElem?_eq_some_iff.mp hoffer.1).1
      have hold : (supersede handoffs handoff.taskId ++ [handoff])[id]? =
          some { offer with state := .superseded } := by
        rw [List.getElem?_append_left hlt, supersede, List.getElem?_map, hoffer.1,
          Option.map_some, if_pos hoffer.2.1]
      exact Ending.passed handoff _ _ id hready (sole_queued handoffs hqueued) hqueued hunheld
        hbound hold rfl hsome
  | passed offer old id oldId _ hoffer _ hunheld hbound hold hended =>
      exact Ending.passed handoff old _ oldId hready (sole_queued handoffs hqueued) hqueued
        hunheld hbound (superseded_of_terminal hold hended) hended hsome

theorem Ending.unheld (hending : Ending jobs handoffs handoffId done taskId task) :
    Unheld jobs taskId := by
  cases hending with
  | held offer id hactive hoffer hbound hunheld => exact hunheld
  | passed offer old id oldId hready hoffer hqueued hunheld =>
      exact hunheld

theorem findTask_eq_none {taskKey : String} (hfind : findTask tasks taskKey = none) (id : Id)
    (row : TaskRow) (hrow : tasks[id]? = some row) : row.taskKey ≠ taskKey := by
  intro hkey
  have hin : (row, id) ∈ selectWhere (fun task => decide (task.taskKey = taskKey)) tasks :=
    mem_selectWhere.2 ⟨hrow, decide_eq_true hkey⟩
  rw [List.head?_eq_none_iff.mp hfind] at hin
  exact List.not_mem_nil hin

theorem Queueing.turn {v : State} {report : JobReport} {request : HandoffRequest}
    (hqueueing : Queueing s report job row done u) (hjob : s.jobs[report.jobId]? = some job)
    (hlive : job.live) (hend : ¬ row.live) (horderly : ¬ displaces s report request)
    (hanew : ¬ repeats s report request) (hturn : HandsOff u request v) :
    Queueing s report job row (done ++ [request]) v := by
  have hpassed := hqueueing.passed.handsOff hturn
  cases hturn with
  | duplicate task taskId hfind hsame =>
      refine { hqueueing with own := ?_ }
      intro own owned howned hown
      apply (hqueueing.own own owned howned hown).more
      intro hactive hname
      rw [hname] at hfind
      obtain ⟨rfl, rfl⟩ := hqueueing.toSettling.find howned hfind
      obtain ⟨hrow, hduplicate⟩ := hqueueing.passed.duplicate howned hactive request.targetAgent
        (normalizeTaskPayloadText request.body)
      apply hanew
      refine List.any_eq_true.mpr ⟨(task, taskId), ?_, ?_⟩
      · exact mem_selectWhere.2 ⟨hrow, decide_eq_true hname.symm⟩
      · apply decide_eq_true
        rw [hjob, hduplicate]
        exact ⟨JobRow.holds_iff.2 ⟨hown, hlive⟩, hsame⟩
  | fresh role now handoff hfind hqueued htask hepoch =>
      refine ⟨⟨?_, ?_, ?_, hqueueing.epoch.queued hepoch _, ?_, ?_⟩, hqueueing.jobs, hpassed⟩
      · intro taskId task hrow hother
        rw [← htask]
        rcases getElem?_concat_eq_some hrow with hold | ⟨hid, hsame⟩
        · have hne : handoff.taskId ≠ taskId := by
            rw [htask]
            exact Nat.ne_of_gt (List.getElem?_eq_some_iff.mp hold).1
          exact (hqueueing.others taskId task hold hother).frame (SameHold.refl taskId _)
            (SameOffers.queued _ hne)
        · rw [hsame, hid, ← htask]
          apply Place.waiting handoff _ rfl (sole_queued _ hqueued) hqueued
          intro id held hheld hholds
          have hlt := hqueueing.bound id held handoff.taskId hheld hholds
          rw [htask] at hlt
          exact Nat.lt_irrefl _ hlt
      · intro taskId task hrow hown
        rw [← htask]
        rcases getElem?_concat_eq_some hrow with hold | ⟨hid, _⟩
        · have hne : handoff.taskId ≠ taskId := by
            rw [htask]
            exact Nat.ne_of_gt (List.getElem?_eq_some_iff.mp hold).1
          apply ((hqueueing.own taskId task hold hown).frame hne).more
          intro _ hname
          exact findTask_eq_none hfind taskId task hold hname.symm
        · have hlt := hqueueing.known taskId hown
          rw [hid] at hlt
          exact absurd hlt (Nat.lt_irrefl _)
      · intro taskId hown
        rw [List.length_append]
        exact Nat.lt_add_right _ (hqueueing.known taskId hown)
      · intro id held taskId hheld hholds
        rw [List.length_append]
        exact Nat.lt_add_right _ (hqueueing.bound id held taskId hheld hholds)
      · apply hqueueing.keys.concat
        intro id row hrow
        exact findTask_eq_none hfind id row hrow
  | again task taskId role now handoff hfind hnew hqueued htask hepoch =>
      obtain ⟨hrow, hkey⟩ := findTask_eq_some hfind
      have hunheld : Unheld u.jobs taskId := by
        rw [hqueueing.jobs]
        apply hqueueing.passed.unheld _ hend horderly hfind hnew
        intro id held hheld hholds
        rw [← hqueueing.jobs] at hheld
        by_cases hown : job.taskId = some taskId
        · exact absurd hholds ((hqueueing.own taskId task hrow hown).unheld id held hheld)
        · cases hqueueing.others taskId task hrow hown with
          | waiting _ _ hready hoffer hstate hfree => exact absurd hholds (hfree id held hheld)
          | running _ _ runner runnerId hactive => exact hactive
          | settled hidle hended hnone hfree => exact absurd hholds (hfree id held hheld)
      refine ⟨⟨?_, ?_, ?_, hqueueing.epoch.queued hepoch _, ?_, ?_⟩, hqueueing.jobs, hpassed⟩
      · intro other found hfound hother
        by_cases hid : taskId = other
        · subst hid
          rw [getElem?_update_self hrow] at hfound
          rw [← Option.some.inj hfound]
          subst htask
          exact Place.waiting handoff _ rfl (sole_queued _ hqueued) hqueued hunheld
        · rw [getElem?_update_of_ne hid] at hfound
          rw [← htask] at hid ⊢
          exact (hqueueing.others other found hfound hother).frame (SameHold.refl other _)
            (SameOffers.queued _ hid)
      · intro other found hfound hown
        by_cases hid : taskId = other
        · subst hid
          rw [getElem?_update_self hrow] at hfound
          rw [← Option.some.inj hfound]
          subst htask
          exact (hqueueing.own handoff.taskId task hrow hown).again rfl hqueued hkey.symm
        · rw [getElem?_update_of_ne hid] at hfound
          have hapart : request.taskId ≠ found.taskKey := by
            intro hname
            exact hid (hqueueing.keys taskId other task found hrow hfound (hkey.trans hname))
          rw [← htask] at hid ⊢
          exact ((hqueueing.own other found hfound hown).frame hid).more fun _ => hapart
      · intro own hown
        rw [Table.update, List.length_set]
        exact hqueueing.known own hown
      · intro id held other hheld hholds
        rw [Table.update, List.length_set]
        exact hqueueing.bound id held other hheld hholds
      · exact hqueueing.keys.update hrow rfl

/-! ## Settling -/

theorem settleHandoff_of_terminal (hrow : handoffs[id]? = some handoff)
    (hended : handoff.state.isTerminal) : settleHandoff handoffs (some id) state = handoffs := by
  unfold settleHandoff
  rw [Option.bind_some, hrow, Option.map_some]
  exact if_pos hended

theorem settleHandoff_of_open (hrow : handoffs[id]? = some handoff) (hlive : handoff.live) :
    settleHandoff handoffs (some id) state = update handoffs id { handoff with state := state } := by
  have hopen : ¬ handoff.state.isTerminal :=
    fun hended => HandoffRow.not_live_of_terminal hended hlive
  unfold settleHandoff
  rw [Option.bind_some, hrow, Option.map_some]
  exact if_neg hopen

theorem Settling.leaves (hsettling : Settling job done u) (hleaves : Leaves u t) :
    Settling job done t := by
  refine ⟨?_, ?_, ?_, ?_, ?_, ?_⟩
  · intro taskId task htask hother
    rw [hleaves.tasks] at htask
    rw [hleaves.handoffs]
    exact (hsettling.others taskId task htask hother).frame (hleaves.jobs.hold taskId)
      (SameOffers.refl taskId _)
  · intro taskId task htask hown
    rw [hleaves.tasks] at htask
    rw [hleaves.handoffs]
    have hending := hsettling.own taskId task htask hown
    have hunheld := hending.unheld.same (hleaves.jobs.hold taskId)
    cases hending with
    | held offer id hactive hoffer hbound _ hnone =>
        exact Ending.held offer id hactive hoffer hbound hunheld hnone
    | passed offer old id oldId hready hoffer hqueued _ hbound hold hended hsome =>
        exact Ending.passed offer old id oldId hready hoffer hqueued hunheld hbound hold hended
          hsome
  · rw [hleaves.tasks]
    exact hsettling.known
  · rw [hleaves.handoffs, hleaves.epoch]
    exact hsettling.epoch
  · rw [hleaves.tasks]
    exact hsettling.bound.kept hleaves.jobs.kept
  · rw [hleaves.tasks]
    exact hsettling.keys

theorem OfEpoch.settled {row : HandoffRow} (hepoch : OfEpoch sessionEpoch handoffs)
    (hrow : row.live → row.sessionEpoch = sessionEpoch) :
    OfEpoch sessionEpoch (update handoffs id row) := by
  intro other found hfound hlive
  rcases getElem?_update_eq_some hfound with ⟨rfl, rfl⟩ | hfound
  · exact hrow hlive
  · exact hepoch other found hfound hlive

/-- A job is settled: its task is ready again when the report hands it off, and done with
otherwise. -/
theorem Settling.settles {requests : List HandoffRequest} (hsettling : Settling job requests u)
    (hstate : state.isTerminal) (hsettles : Settles u job requests state t) : Booked t := by
  cases hsettles with
  | unbound hnone =>
      have hother : ∀ taskId, job.taskId ≠ some taskId := by
        intro taskId hown
        have hlt := hsettling.known taskId hown
        exact hnone taskId _ hown (List.getElem?_eq_getElem hlt)
      exact ⟨fun taskId task htask => hsettling.others taskId task htask (hother taskId),
        hsettling.epoch, hsettling.bound, hsettling.keys⟩
  | settled taskId task after hbound htask hkey hrevision hactive hready =>
      have hlength : (update u.tasks taskId after).length = u.tasks.length := by
        rw [Table.update, List.length_set]
      have hknown : HoldsKnown u.jobs (update u.tasks taskId after) := by
        intro id held other hheld hholds
        rw [hlength]
        exact hsettling.bound id held other hheld hholds
      have hkeys := hsettling.keys.update htask hkey
      cases hsettling.own taskId task htask hbound with
      | held offer id hrunning hoffer hhandoff hunheld hnone =>
          obtain ⟨hof, hopen⟩ := HandoffRow.liveFor_iff.1 hoffer.2.1
          have hunnamed : requests.any (·.taskId = task.taskKey) = false := by
            rw [List.any_eq_false]
            intro request hrequest hname
            exact hnone request hrequest (of_decide_eq_true hname)
          have hdead : ¬ HandoffRow.live { offer with state := state } :=
            HandoffRow.not_live_of_terminal hstate
          rw [hhandoff, settleHandoff_of_open hoffer.1 hopen]
          refine ⟨?_, hsettling.epoch.settled fun hlive => absurd hlive hdead, hknown,
            hkeys⟩
          intro other row hrow
          by_cases hid : taskId = other
          · subst hid
            rw [getElem?_update_self htask] at hrow
            rw [← Option.some.inj hrow]
            apply Place.settled _ hactive _ hunheld
            · rw [hready, hunnamed]
              exact Bool.false_ne_true
            · exact hoffer.retire fun hlive => hdead (HandoffRow.liveFor_iff.1 hlive).2
          · rw [getElem?_update_of_ne hid] at hrow
            have hother : job.taskId ≠ some other := by
              rw [hbound]
              exact fun hsame => hid (Option.some.inj hsame)
            apply (hsettling.others other row hrow hother).frame (SameHold.refl other _)
            exact SameOffers.update hoffer.1 (by rw [hof]; exact hid) rfl
      | passed offer old id oldId hwaiting hoffer hqueued hunheld hhandoff hold hended hsome =>
          have hnamed : requests.any (·.taskId = task.taskKey) = true := by
            obtain ⟨request, hrequest, hname⟩ := hsome
            exact List.any_eq_true.mpr ⟨request, hrequest, decide_eq_true hname⟩
          rw [hhandoff, settleHandoff_of_terminal hold hended]
          refine ⟨?_, hsettling.epoch, hknown, hkeys⟩
          intro other row hrow
          by_cases hid : taskId = other
          · subst hid
            rw [getElem?_update_self htask] at hrow
            rw [← Option.some.inj hrow]
            exact Place.waiting offer id (by rw [hready]; exact hnamed) hoffer hqueued hunheld
          · rw [getElem?_update_of_ne hid] at hrow
            have hother : job.taskId ≠ some other := by
              rw [hbound]
              exact fun hsame => hid (Option.some.inj hsame)
            exact hsettling.others other row hrow hother

/-! ## Claiming -/

theorem Booked.claims {m : State} {agent : AgentRow} {workerId leaseToken : String}
    {policy : Option Nat} {now : Time} (hbooked : Booked m)
    (hclaims : Claims m agent workerId leaseToken policy now t) : Booked t := by
  cases hclaims with
  | idle => exact hbooked.steady (Steady.refl _) rfl rfl rfl
  | started agents id job hjob hagent hpending =>
      exact hbooked.steady (Steady.update hjob (JobRow.sameBinding_started hpending) rfl) rfl rfl rfl
  | claimed agents handoff handoffId task hfind hready =>
      obtain ⟨hhandoff, hqueued, htask, _⟩ := claimableHandoff_eq_some hfind
      have hlive : handoff.liveFor handoff.taskId :=
        HandoffRow.liveFor_iff.2 ⟨rfl, HandoffRow.live_of_queued hqueued⟩
      refine ⟨?_, ?_, ?_, hbooked.keys.update htask rfl⟩
      · intro taskId row hrow
        by_cases hid : handoff.taskId = taskId
        · subst hid
          rw [getElem?_update_self htask] at hrow
          rw [← Option.some.inj hrow]
          cases hbooked.place handoff.taskId task htask with
          | waiting offer id _ hoffer _ hunheld =>
              have hsame := hoffer.2.2 handoffId handoff hhandoff hlive
              subst hsame
              refine Place.running _ handoffId _ m.jobs.length rfl (hoffer.update ?_) rfl
                (Sole.append hunheld ?_) rfl
              · exact HandoffRow.liveFor_iff.2 ⟨rfl, rfl⟩
              · exact JobRow.holds_iff.2 ⟨rfl, rfl⟩
          | running _ _ runner runnerId hactive =>
              rw [hactive] at hready
              cases hready
          | settled hidle => exact absurd hready hidle
        · rw [getElem?_update_of_ne hid] at hrow
          apply (hbooked.place taskId row hrow).frame
          · apply SameHold.append
            intro hholds
            exact hid (Option.some.inj (JobRow.holds_iff.1 hholds).1)
          · exact SameOffers.update hhandoff hid rfl
      · apply hbooked.epoch.settled
        intro _
        exact hbooked.epoch handoffId handoff hhandoff (HandoffRow.live_of_queued hqueued)
      · intro id job taskId hjob hholds
        rw [Table.update, List.length_set]
        rcases getElem?_concat_eq_some hjob with hold | ⟨_, hsame⟩
        · exact hbooked.bound id job taskId hold hholds
        · rw [hsame] at hholds
          have hbound := Option.some.inj (JobRow.holds_iff.1 hholds).1
          rw [← hbound]
          exact (List.getElem?_eq_some_iff.mp htask).1
  | swept agents job hagent hfree =>
      have hsteady : Steady m.jobs (m.jobs ++ [job]) := by
        apply Steady.append
        intro added hadded
        rw [List.mem_singleton.mp hadded]
        exact hfree
      exact hbooked.steady hsteady rfl rfl rfl

/-! ## Resetting and pausing -/

theorem HandoffRow.reset_liveFor (handoff : HandoffRow) (sessionEpoch : Nat) (taskId : Id) :
    (handoff.reset sessionEpoch).liveFor taskId = handoff.liveFor taskId := by
  unfold HandoffRow.liveFor HandoffRow.live HandoffRow.reset
  cases handoff.state <;> rfl

theorem TaskRow.reset_state (task : TaskRow) (sessionEpoch : Nat) (now : Time) :
    (task.reset sessionEpoch now).state =
      if task.state.isReady ∨ task.state = .inProgress then .ready else task.state := by
  unfold TaskRow.reset
  cases task.state <;> rfl

/-- A reset queues again what was claimed. -/
theorem Booked.reset (hbooked : Booked s) (now : Time) :
    Booked (resetSession s now) where
  place := by
    intro taskId row hrow
    obtain ⟨task, htask, hreset⟩ := Option.map_eq_some_iff.mp ((List.getElem?_map ..).symm.trans hrow)
    have hunheld : Unheld (resetSession s now).jobs taskId :=
      fun id job hjob => resetSession_free s now id job taskId hjob
    have hoffers : ∀ {found}, Sole (·.liveFor taskId) s.handoffs found →
        Sole (·.liveFor taskId) (resetSession s now).handoffs
          (found.map fun handoff => (handoff.1.reset (s.session.sessionEpoch + 1), handoff.2)) := by
      intro found hsole
      exact hsole.map fun handoff => handoff.reset_liveFor _ taskId
    have hstate := task.reset_state (s.session.sessionEpoch + 1) now
    rw [hreset] at hstate
    cases hbooked.place taskId task htask with
    | waiting handoff handoffId hready hoffer hqueued =>
        rw [if_pos (Or.inl hready)] at hstate
        refine Place.waiting _ handoffId (by rw [hstate]; rfl) (hoffers hoffer) ?_ hunheld
        change (if _ then _ else handoff.state) = _
        rw [hqueued]
        rfl
    | running handoff handoffId job jobId hactive hoffer hclaimed =>
        rw [if_pos (Or.inr hactive)] at hstate
        refine Place.waiting _ handoffId (by rw [hstate]; rfl) (hoffers hoffer) ?_ hunheld
        exact if_pos hclaimed
    | settled hidle hended hnone =>
        rw [if_neg (by rintro (hready | hactive); exacts [hidle hready, hended hactive])] at hstate
        refine Place.settled ?_ ?_ (hoffers hnone) hunheld
        · rw [hstate]
          exact hidle
        · rw [hstate]
          exact hended
  epoch := by
    intro id handoff hhandoff _
    obtain ⟨old, _, hreset⟩ :=
      Option.map_eq_some_iff.mp ((List.getElem?_map ..).symm.trans hhandoff)
    rw [← hreset]
    rfl
  bound := by
    intro id job taskId hjob hholds
    exact absurd hholds (resetSession_free s now id job taskId hjob)
  keys := by
    have hkeys : ∀ (id : Id) (row : TaskRow), (resetSession s now).tasks[id]? = some row →
        ∃ old, s.tasks[id]? = some old ∧ old.taskKey = row.taskKey := by
      intro id row hrow
      obtain ⟨old, hold, hreset⟩ :=
        Option.map_eq_some_iff.mp ((List.getElem?_map ..).symm.trans hrow)
      rw [← hreset]
      exact ⟨old, hold, rfl⟩
    intro id other task row htask hrow hsame
    obtain ⟨old, hold, hname⟩ := hkeys id task htask
    obtain ⟨past, hpast, hpastName⟩ := hkeys other row hrow
    exact hbooked.keys id other old past hold hpast (hname.trans (hsame.trans hpastName.symm))

/-! ## What a step keeps -/

theorem Booked.change {deed : Deed} (hbooked : Booked s) (hopen : OpenSnapshots s)
    (hnone : t.session.closedAt = none) (hundisturbed : Undisturbed s deed)
    (hchange : Change s deed t) : Booked t := by
  cases hchange with
  | left _ hleaves => exact hbooked.leaves hleaves
  | paused _ hdeed hcancels =>
      have hsteady : Steady s.jobs t.jobs := by
        rw [hcancels.jobs]
        refine ⟨KeepsBound.cancel _ _, Lasts.cancel ?_⟩
        intro id row taskId hrow hholds hpending
        have hfree := hundisturbed.held (by rw [hdeed]; rfl) row (List.mem_of_getElem? hrow)
          (of_decide_eq_true hpending)
        rw [(JobRow.holds_iff.1 hholds).1] at hfree
        cases hfree
      exact hbooked.steady hsteady hcancels.tasks hcancels.handoffs hcancels.epoch
  | closed _ hcancels hclosed =>
      rcases hclosed with hset | ⟨recovery, hmem, hset⟩
      · rw [hnone] at hset
        cases hset
      · rw [hopen recovery hmem] at hset
        cases hset
  | reset => exact hbooked.reset deed.now
  | claimed m _ agent workerId leaseToken policy hdeed hagent hfreed hclaims =>
      exact (hbooked.leaves hfreed.leaves).claims hclaims
  | completed report output job queued left hdeed haccepted hqueued hleaves =>
      obtain ⟨hjob, _, hlive, _⟩ := acceptedJob_eq_some haccepted
      have hend : ¬ JobRow.live { job with status := .completed } := by simp [JobRow.live]
      have horderly := Deed.of_completed hundisturbed.orderly hdeed haccepted
      have hanew := Deed.of_completed hundisturbed.anew hdeed haccepted
      have hstart := hbooked.queueing deed.now hjob hlive hend
      obtain ⟨u, hthere, hrest⟩ := queueHandoffs_keeps_done hstart
        (fun done u v request hrequest hhere hturn => hhere.turn hjob hlive hend
          (horderly request hrequest) (hanew request hrequest) hturn) hqueued
      have hsettling := hthere.toSettling.leaves (hrest.leaves.trans hleaves)
      exact hsettling.settles rfl (synchronizeCompletedTask_settles _ _ _ _ _ _)
  | failed _ report errorText job hdeed haccepted hleaves =>
      obtain ⟨hjob, _, hlive, _⟩ := acceptedJob_eq_some haccepted
      have hend : ¬ JobRow.live { job with status := .failed } := by simp [JobRow.live]
      have hstart := hbooked.queueing deed.now hjob hlive hend
      have hsettled := hstart.toSettling.settles rfl
        (synchronizeFailedTask_settles _ _ errorText deed.now)
      exact hsettled.leaves hleaves

/-- In a run whose completions take no task away from another job and end none of their own by
a handoff that is passed over, and whose pauses find no pending job that is bound to a task, the
ledger is kept as long as the session is open. -/
theorem handoff_ledger_kept (profiles : List (String × String)) (now : Time) (deeds : List Deed)
    (hundisturbed : Along step (fun s deed => s.session.closedAt = none → Undisturbed s deed)
      (State.start profiles now) deeds) :
    Throughout step (fun s => s.session.closedAt = none → Ledger s) (State.start profiles now)
      deeds := by
  have hrun : Throughout step
      (fun s => OpenSnapshots s ∧ (s.session.closedAt = none → Booked s))
      (State.start profiles now) deeds := by
    apply throughout_of_preserved
    · exact ⟨nofun, fun _ => booked_start profiles now⟩
    · intro done deed hdeed hhere
      obtain ⟨hopen, hbooked⟩ := hhere
      refine ⟨hopen.step deed, ?_⟩
      intro hnone
      have hbefore : (run step (State.start profiles now) done).session.closedAt = none := by
        by_contra hset
        have hclosed := Option.isSome_iff_ne_none.mpr hset
        have hafter := (step_moves _ deed).closedAt hclosed
        rw [hnone] at hafter
        cases hafter
      exact (hbooked hbefore).change hopen hnone (hundisturbed done deed hdeed hbefore)
        (step_change _ deed)
  intro done hdone hnone
  exact ((hrun done hdone).2 hnone).ledger

instance (s : State) (deed : Deed) : Decidable (Undisturbed s deed) :=
  decidable_of_iff
    (Orderly s deed ∧
      (∀ report ∈ deed.report?, (s.acceptedJob report).isSome →
        ∀ request ∈ deed.requests s, ¬ repeats s report request) ∧
      (deed.operation.isPause → ∀ job ∈ s.jobs, job.status = .pending → job.taskId = none))
    ⟨fun hall => ⟨hall.1, hall.2.1, hall.2.2⟩, fun hall => ⟨hall.orderly, hall.anew, hall.held⟩⟩

/-- The coder is at its task while the session is paused and resumed, and ends it then. -/
theorem ledger_kept_over_a_pause :
    Throughout step (fun s => s.session.closedAt = none → Ledger s) team
      (handedOver ++ [⟨.pause, 7⟩, ⟨.resume, 8⟩,
        ⟨.completeJob (reportOn 1 "coder" "w2") ⟨[], [], "parsed", false⟩, 9⟩]) :=
  handoff_ledger_kept _ 0 _ (by decide +kernel)

/-- The task that the coder is at is handed to the tester: it is ready, while the job of the
coder alone is bound to it. -/
theorem ledger_lost_by_handing_over :
    ¬ Throughout step (fun s => s.session.closedAt = none → Ledger s) team handedOverAgain := by
  have honly : ∀ id : Id, [false, true, false][id]? = some true → id = 1 := by
    intro id hplace
    rcases id with _ | _ | _ | id
    · cases hplace
    · rfl
    · cases hplace
    · cases hplace
  intro hall
  have hstate : (run step team handedOverAgain).session.closedAt = none ∧
      (run step team handedOverAgain).tasks.map (·.state) = [.ready] ∧
      (run step team handedOverAgain).jobs.map (·.holds 0) = [false, true, false] := by
    decide +kernel
  obtain ⟨hopen, htasks, hjobs⟩ := hstate
  have hledger := hall handedOverAgain (List.prefix_refl _) hopen
  have hholds : ∀ (id : Id) (job : JobRow),
      (run step team handedOverAgain).jobs[id]? = some job → job.holds 0 → id = 1 := by
    intro id job hjob hheld
    apply honly id
    rw [← hjobs, List.getElem?_map, hjob, Option.map_some, hheld]
  have hrow : ((run step team handedOverAgain).tasks.map (·.state))[0]? = some .ready := by
    rw [htasks]
    rfl
  rw [List.getElem?_map] at hrow
  obtain ⟨task, htask, hready⟩ := Option.map_eq_some_iff.mp hrow
  have hbound : ((run step team handedOverAgain).jobs.map (·.holds 0))[1]? = some true := by
    rw [hjobs]
    rfl
  rw [List.getElem?_map] at hbound
  obtain ⟨job, hjob, hheld⟩ := Option.map_eq_some_iff.mp hbound
  have hactive := (hledger.inProgress 0 task htask).mpr ⟨1, ⟨job, hjob, hheld⟩, hholds⟩
  rw [hready] at hactive
  cases hactive

end OpsCure.SessionService
