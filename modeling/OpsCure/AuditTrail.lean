/-
What stays on record of a remote task: the brief it was created with, and all that has
been reported on it, decided or ended since.
-/
import OpsCure.TaskLifecycle

namespace OpsCure.RemoteTask

open Fallible Table Run Presence

/-! ## The record of a task -/

/-- The brief is what a task was created with. -/
def Task.brief (row : Task) : Task :=
  { row with
    status := .queued, ownerActorId := none, updatedAt := 0
    assignments := [], heartbeats := [], evidenceItems := [], approvals := [], notes := [] }

/-- The rows that are over stay where and as they are. -/
def KeepsPast {α : Type} (live : α → Bool) (rows after : List α) : Prop :=
  ∀ (id : Id) (row : α), rows[id]? = some row → ¬ live row → after[id]? = some row

/-- `later` has on record what `row` has. -/
structure Trail (row later : Task) : Prop where
  brief : later.brief = row.brief
  heartbeats : row.heartbeats <+: later.heartbeats
  evidence : row.evidenceItems <+: later.evidenceItems
  notes : row.notes <+: later.notes
  approvals : KeepsPast (·.status = .pending) row.approvals later.approvals
  assignments : KeepsPast (·.status = .claimed) row.assignments later.assignments

/-- Each task of `db` is in `later`, with its record. -/
def OnRecord (db later : Db) : Prop :=
  ∀ (task : Id) (row : Task), db.tasks[task]? = some row →
    ∃ after, later.tasks[task]? = some after ∧ Trail row after

variable {α : Type} {live : α → Bool} {rows after : List α} {db db' : Db} {task : Id}
  {row row' : Task} {call : Call}

theorem KeepsPast.refl (live : α → Bool) (rows : List α) : KeepsPast live rows rows :=
  fun _ _ hrow _ => hrow

theorem KeepsPast.append (hkeeps : KeepsPast live rows after) (added : List α) :
    KeepsPast live rows (after ++ added) := by
  intro id row hrow hover
  have hthere := hkeeps id row hrow hover
  rw [List.getElem?_append_left (List.getElem?_eq_some_iff.mp hthere).1]
  exact hthere

theorem KeepsPast.update {id : Id} {old : α} (hold : rows[id]? = some old) (hlive : live old)
    (new : α) : KeepsPast live rows (update rows id new) := by
  intro other row hrow hover
  have hne : id ≠ other := by
    rintro rfl
    rw [hold] at hrow
    rw [Option.some.inj hrow] at hlive
    exact hover hlive
  rw [getElem?_update_of_ne hne]
  exact hrow

theorem Trail.refl (row : Task) : Trail row row :=
  ⟨rfl, List.prefix_rfl, List.prefix_rfl, List.prefix_rfl, .refl _ _, .refl _ _⟩

theorem Trail.trans {later : Task} (hfirst : Trail row row') (hlast : Trail row' later) :
    Trail row later where
  brief := hlast.brief.trans hfirst.brief
  heartbeats := hfirst.heartbeats.trans hlast.heartbeats
  evidence := hfirst.evidence.trans hlast.evidence
  notes := hfirst.notes.trans hlast.notes
  approvals := fun id approval hthere hover =>
    hlast.approvals id approval (hfirst.approvals id approval hthere hover) hover
  assignments := fun id assignment hthere hover =>
    hlast.assignments id assignment (hfirst.assignments id assignment hthere hover) hover

/-! ## One call -/

theorem keepsPast_current {current : Assignment × Id}
    (hcurrent : currentAssignment row = some current) (new : Assignment) :
    KeepsPast (·.status = .claimed) row.assignments (update row.assignments current.2 new) := by
  rcases firstBy_selectWhere hcurrent with ⟨hthere, hlive⟩
  exact .update hthere hlive new

theorem keepsPast_upsert (lease : ResourceLease) (now : Time) :
    KeepsPast (·.status = .claimed) row.assignments
      (upsertAssignmentFromLease row.assignments (currentAssignment row) lease now) := by
  cases hcurrent : currentAssignment row with
  | none => exact (KeepsPast.refl _ _).append _
  | some current =>
      simp only [upsertAssignmentFromLease]
      split
      · exact (keepsPast_current hcurrent _).append _
      · split
        · exact keepsPast_current hcurrent _
        · exact (KeepsPast.refl _ _).append _

theorem prefix_ite {p : Prop} [Decidable p] (rows : List α) (added : α) :
    rows <+: if p then rows ++ [added] else rows := by
  split
  · exact List.prefix_append _ _
  · exact List.prefix_rfl

theorem settledRow_trail (row : Task) (finalStatus : TaskStatus) (summary : String)
    (payload : List (String × Json)) (now createdAt : Time) :
    Trail row (settledRow row finalStatus summary payload now createdAt) where
  __ := Trail.refl row
  brief := by simp only [settledRow, Task.brief]
  evidence := List.prefix_append _ _
  assignments := by
    cases hcurrent : currentAssignment row with
    | none => simpa [settledRow, hcurrent] using KeepsPast.refl _ _
    | some current =>
        simp only [settledRow, hcurrent]
        split
        · exact keepsPast_current hcurrent _
        · exact .refl _ _

theorem OnRecord.refl (db : Db) : OnRecord db db :=
  fun _ row hrow => ⟨row, hrow, .refl row⟩

theorem onRecord_setTask {leases : List ResourceLease} (hrow : db.tasks[task]? = some row)
    (htrail : Trail row row') : OnRecord db ({ db with leases := leases }.setTask task row') := by
  intro other old hold
  by_cases hthis : task = other
  · subst hthis
    cases hrow.symm.trans hold
    exact ⟨row', getElem?_update_self hrow, htrail⟩
  · exact ⟨old, (getElem?_update_of_ne hthis).trans hold, .refl old⟩

theorem claimTaskInSession_onRecord {actorId drawn : String} {leaseSeconds : Int}
    {clock : Clock} (hrow : db.tasks[task]? = some row)
    (hclaim : claimTaskInSession db task row actorId leaseSeconds clock drawn = .ok db') :
    OnRecord db db' := by
  unfold claimTaskInSession at hclaim
  simp only [bind_eq_ok, pure_eq_ok] at hclaim
  rcases hclaim with ⟨claimed, _, rfl⟩
  exact onRecord_setTask hrow { Trail.refl row with
    brief := by simp only [Task.brief]
    assignments := keepsPast_upsert claimed.2 (clock 0) }

/-- What is on record before a call is so after it. -/
theorem perform_onRecord (hok : perform db call = .ok db') : OnRecord db db' := by
  rcases call with ⟨operation, clock⟩
  cases operation with
  | createTask =>
      cases hok
      intro task row hrow
      have hlt := (List.getElem?_eq_some_iff.mp hrow).1
      exact ⟨row, (List.getElem?_append_left hlt).trans hrow, .refl row⟩
  | claimTask =>
      simp only [perform, claimTask, bind_eq_ok, requireTask_eq_ok] at hok
      rcases hok with ⟨row, hrow, hclaim⟩
      exact claimTaskInSession_onRecord hrow hclaim
  | claimNextTask =>
      simp only [perform, claimNextTask] at hok
      split at hok
      · cases hok
        exact .refl db
      · rename_i hnext
        exact claimTaskInSession_onRecord (firstBy_selectWhere hnext).1 hok
  | heartbeatTask =>
      simp only [perform, heartbeatTask, bind_eq_ok, pure_eq_ok, requireTask_eq_ok,
        requireActiveAssignment_eq_ok] at hok
      rcases hok with ⟨row, hrow, current, hcurrent, _, _, _, _, rfl⟩
      exact onRecord_setTask hrow { Trail.refl row with
        brief := by simp only [Task.brief]
        heartbeats := List.prefix_append _ _
        assignments := keepsPast_current hcurrent.1 _ }
  | addEvidence =>
      simp only [perform, addEvidence, bind_eq_ok, pure_eq_ok, requireTask_eq_ok] at hok
      rcases hok with ⟨row, hrow, rfl⟩
      exact onRecord_setTask hrow { Trail.refl row with
        brief := by simp only [Task.brief]
        evidence := List.prefix_append _ _ }
  | requestApproval =>
      simp only [perform, requestApproval, bind_eq_ok, pure_eq_ok, requireTask_eq_ok] at hok
      rcases hok with ⟨row, hrow, _, _, rfl⟩
      exact onRecord_setTask hrow { Trail.refl row with
        brief := by simp only [Task.brief]
        approvals := (KeepsPast.refl _ _).append _ }
  | resolveApproval =>
      simp only [perform, resolveApproval, bind_eq_ok, pure_eq_ok, requireTask_eq_ok,
        orRaise_eq_ok, require_eq_ok] at hok
      rcases hok with ⟨row, hrow, latest, hlatest, _, hpending, rfl⟩
      exact onRecord_setTask hrow { Trail.refl row with
        brief := by simp only [Task.brief]
        approvals := .update (firstBy_selectWhere hlatest).1 (decide_eq_true hpending) _ }
  | addNote =>
      simp only [perform, addNote, bind_eq_ok, pure_eq_ok, requireTask_eq_ok] at hok
      rcases hok with ⟨row, hrow, rfl⟩
      exact onRecord_setTask hrow { Trail.refl row with
        brief := by simp only [Task.brief]
        notes := List.prefix_append _ _ }
  | interruptTask =>
      simp only [perform, interruptTask, bind_eq_ok, pure_eq_ok, requireTask_eq_ok,
        requireActiveAssignment_eq_ok] at hok
      rcases hok with ⟨row, hrow, current, hcurrent, _, _, rfl⟩
      exact onRecord_setTask hrow { Trail.refl row with
        brief := by simp only [Task.brief, releaseAssignment]
        notes := prefix_ite _ _
        assignments := keepsPast_current hcurrent.1 _ }
  | completeTask =>
      simp only [perform, completeTask, bind_eq_ok, pure_eq_ok, requireTask_eq_ok,
        requireActiveAssignment_eq_ok] at hok
      rcases hok with ⟨row, hrow, current, hcurrent, _, _, rfl⟩
      exact onRecord_setTask hrow { Trail.refl row with
        brief := by simp only [Task.brief, releaseAssignment]
        evidence := prefix_ite _ _
        assignments := keepsPast_current hcurrent.1 _ }
  | failTask =>
      simp only [perform, failTask, bind_eq_ok, pure_eq_ok, requireTask_eq_ok,
        requireActiveAssignment_eq_ok] at hok
      rcases hok with ⟨row, hrow, current, hcurrent, _, _, rfl⟩
      exact onRecord_setTask hrow { Trail.refl row with
        brief := by simp only [Task.brief, releaseAssignment]
        evidence := List.prefix_append _ _
        assignments := keepsPast_current hcurrent.1 _ }
  | settleStaleTask =>
      simp only [perform, settleStaleTask, bind_eq_ok, requireTask_eq_ok] at hok
      rcases hok with ⟨_, _, row, hrow, hok⟩
      split at hok
      · cases hok
        exact .refl db
      · simp only [bind_eq_ok, pure_eq_ok] at hok
        rcases hok with ⟨_, _, rfl⟩
        exact onRecord_setTask hrow (settledRow_trail row _ _ _ _ _)

theorem step_onRecord (db : Db) (call : Call) : OnRecord db (step db call) := by
  cases hperform : perform db call with
  | error =>
      rw [step, hperform]
      exact .refl db
  | ok db' =>
      rw [step, hperform]
      exact perform_onRecord hperform

/-- In every run, a task is never lost and its brief never changes, heartbeats, evidence and
notes are only added, and a decided approval and an ended assignment stay as they are. -/
theorem audit_trail (db : Db) (calls : List Call) : OnRecord db (run step db calls) := by
  induction calls using List.reverseRecOn with
  | nil => exact .refl db
  | append_singleton calls call ih =>
      intro task row hrow
      rcases ih task row hrow with ⟨between, hbetween, hfirst⟩
      rw [run_concat]
      rcases step_onRecord _ call task between hbetween with ⟨later, hlater, hlast⟩
      exact ⟨later, hlater, hfirst.trans hlast⟩

end OpsCure.RemoteTask
