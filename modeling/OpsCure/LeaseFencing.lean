/-
The lease tokens of the kernel task queue over its runs: what claims issue and what sweeps
withdraw, and that the token of a task is the one its history leaves in force.
-/
import OpsCure.KernelTask
import OpsCure.Library.Fencing

namespace OpsCure.KernelTask

open Fallible Table Fencing

/-! ## The history of the tokens -/

/-- The tasks a sweep takes back. -/
def sweptIds (db : Db) (batchSize : Int) (clock : Clock) : List String :=
  (db.rows.filter fun row =>
    row.id ∈ (batch db batchSize).map (·.id) ∧ expiredAt (clock 0) row).map (·.id)

def picked (db : Db) (request : ClaimRequest) (clock : Clock) : Option Task :=
  (firstBy claimsBefore
    (selectWhere (isClaimable request) (releaseExpired db 1000 clock).rows)).map (·.1)

def marks (db : Db) (call : Call) : List (Mark String String) :=
  match call.operation with
  | .claimNext request drawn =>
      if request.actorId ≠ "" ∧ 0 < request.leaseSeconds then
        (sweptIds db 1000 call.clock).map .withdrawn ++
          ((picked db request call.clock).map fun row => .issued row.id drawn).toList
      else []
  | .releaseExpiredLeases batchSize => (sweptIds db batchSize call.clock).map .withdrawn
  | _ => []

/-- The tokens a run withdraws and issues, in order. -/
def history (db : Db) : List Call → List (Mark String String)
  | [] => []
  | call :: calls => marks db call ++ history (step db call) calls

def Operation.presents : Operation → Option (String × String)
  | .heartbeat taskId leaseToken _ _ => some (taskId, leaseToken)
  | .complete taskId leaseToken _ => some (taskId, leaseToken)
  | .fail taskId leaseToken _ => some (taskId, leaseToken)
  | _ => none

def Accepts (db : Db) (taskId leaseToken : String) : Prop :=
  ∃ call after, call.operation.presents = some (taskId, leaseToken) ∧
    perform db call = .ok after

theorem Accepts.token {db : Db} {taskId leaseToken : String}
    (haccepts : Accepts db taskId leaseToken) :
    ∃ row, db.get taskId = some row ∧ row.leaseToken = some leaseToken := by
  rcases haccepts with ⟨⟨operation, clock⟩, after, hpresents, hok⟩
  have howned : ∃ row, requireOwnedRow db taskId leaseToken = .ok row := by
    cases operation with
    | heartbeat =>
        cases hpresents
        simp only [perform, heartbeat, bind_eq_ok] at hok
        rcases hok with ⟨_, _, row, hrow, _⟩
        exact ⟨row, hrow⟩
    | complete =>
        cases hpresents
        simp only [perform, complete, bind_eq_ok] at hok
        rcases hok with ⟨row, hrow, _⟩
        exact ⟨row, hrow⟩
    | fail =>
        cases hpresents
        simp only [perform, fail, bind_eq_ok] at hok
        rcases hok with ⟨row, hrow, _⟩
        exact ⟨row, hrow⟩
    | enqueue => cases hpresents
    | claimNext => cases hpresents
    | cancel => cases hpresents
    | releaseExpiredLeases => cases hpresents
  rcases howned with ⟨row, hrow⟩
  exact ⟨row, requireOwnedRow_eq_ok.1 hrow⟩

/-! ## What a call does to the tokens -/

def Fenced (db : Db) (past : List (Mark String String)) : Prop :=
  ∀ taskId row token, db.get taskId = some row → row.leaseToken = some token →
    inForce past taskId = some token

section Steps

variable {db after : Db} {past : List (Mark String String)}

theorem Fenced.modify (hfenced : Fenced db past) {named : String} {rewrite : Task → Task}
    (hid : ∀ row, (rewrite row).id = row.id)
    (htoken : ∀ row, (rewrite row).leaseToken = row.leaseToken) :
    Fenced (db.modify named rewrite hid) past := by
  intro taskId row token hrow hheld
  rw [Db.modify, Db.get_change] at hrow
  rcases Option.map_eq_some_iff.mp hrow with ⟨old, hold, rfl⟩
  apply hfenced taskId old token hold
  rw [← hheld]
  split
  · exact (htoken old).symm
  · rfl

theorem Fenced.enqueue (hfenced : Fenced db past) {request : EnqueueRequest} {drawn : String}
    {clock : Clock} (hadded : enqueue db request drawn clock = .ok after) :
    Fenced after past := by
  intro taskId row token hrow hheld
  cases hold : db.get taskId with
  | some old =>
      have hkept := get_enqueue hadded hold
      rw [hkept] at hrow
      rw [← Option.some.inj hrow] at hheld
      exact hfenced taskId old token hold hheld
  | none =>
      simp only [KernelTask.enqueue, bind_eq_ok, require_eq_ok] at hadded
      rcases hadded with ⟨_, _, _, _, hadded⟩
      split at hadded
      · cases hadded
        have habsent : db.rows.find? (·.id = taskId) = none := hold
        rw [Db.get, List.find?_append, habsent, Option.none_or] at hrow
        rw [List.mem_singleton.mp (List.mem_of_find?_eq_some hrow)] at hheld
        cases hheld
      · cases hadded

theorem Fenced.releaseExpired (hfenced : Fenced db past) (batchSize : Int) (clock : Clock) :
    Fenced (releaseExpired db batchSize clock)
      (past ++ (sweptIds db batchSize clock).map .withdrawn) := by
  intro taskId row token hrow hheld
  rw [KernelTask.releaseExpired, Db.get_change] at hrow
  rcases Option.map_eq_some_iff.mp hrow with ⟨old, hold, rfl⟩
  by_cases hswept : old.id ∈ (batch db batchSize).map (·.id) ∧ expiredAt (clock 0) old
  · rw [if_pos hswept] at hheld
    cases hheld
  · rw [if_neg hswept] at hheld
    rw [inForce_append_of_others]
    · exact hfenced taskId old token hold hheld
    · intro mark hmark
      rcases List.mem_map.mp hmark with ⟨id, hid, rfl⟩
      rcases List.mem_map.mp hid with ⟨other, hother, rfl⟩
      rcases List.mem_filter.mp hother with ⟨hmem, hlapsed⟩
      intro hsame
      have hget := Db.get_of_mem hmem
      have hkey : other.id = taskId := hsame
      rw [hkey, hold] at hget
      cases hget
      exact hswept (of_decide_eq_true hlapsed)

theorem Fenced.claimed (hfenced : Fenced db past) {claimedRow : Task} {drawn : String}
    {rewrite : Task → Task} (hid : ∀ row, (rewrite row).id = row.id)
    (htoken : ∀ row, (rewrite row).leaseToken = some drawn) :
    Fenced (db.modify claimedRow.id rewrite hid) (past ++ [.issued claimedRow.id drawn]) := by
  intro taskId row token hrow hheld
  rw [Db.modify, Db.get_change] at hrow
  rcases Option.map_eq_some_iff.mp hrow with ⟨old, hold, rfl⟩
  have hkey := Db.get_id hold
  by_cases hthis : old.id = claimedRow.id
  · rw [if_pos hthis, htoken] at hheld
    rw [← hkey, hthis, ← Option.some.inj hheld]
    exact inForce_issued past claimedRow.id drawn
  · rw [if_neg hthis] at hheld
    rw [inForce_append_of_others]
    · exact hfenced taskId old token hold hheld
    · intro mark hmark
      rw [List.mem_singleton.mp hmark]
      intro hsame
      exact hthis (hkey.trans hsame.symm)

/-- A call keeps the fence. -/
theorem Fenced.step (hfenced : Fenced db past) (call : Call) :
    Fenced (step db call) (past ++ marks db call) := by
  have hrefused : ∀ {more : List (Mark String String)}, more = [] →
      Fenced db (past ++ more) := by
    intro more hmore
    rw [hmore, List.append_nil]
    exact hfenced
  rcases call with ⟨operation, clock⟩
  cases operation with
  | enqueue request drawn =>
      rw [marks, List.append_nil]
      change Fenced (committed db (KernelTask.enqueue db request drawn clock)) past
      cases hadded : KernelTask.enqueue db request drawn clock with
      | error => exact hfenced
      | ok => exact hfenced.enqueue hadded
  | claimNext request drawn =>
      change Fenced (committed db (claimNext db request drawn clock)) _
      by_cases hvalid : request.actorId ≠ "" ∧ 0 < request.leaseSeconds
      · rw [marks]
        simp only [if_pos hvalid, picked]
        have hswept := hfenced.releaseExpired 1000 clock
        cases hpick : firstBy claimsBefore (selectWhere (isClaimable request)
            (KernelTask.releaseExpired db 1000 clock).rows) with
        | none =>
            have hclaim : claimNext db request drawn clock =
                .ok (KernelTask.releaseExpired db 1000 clock) := by
              simp only [claimNext, require, if_pos hvalid.1, if_pos hvalid.2, hpick]
              rfl
            rw [hclaim, Option.map_none, Option.map_none, Option.toList_none, List.append_nil]
            exact hswept
        | some row =>
            have hclaim : claimNext db request drawn clock =
                .ok ((KernelTask.releaseExpired db 1000 clock).modify row.1.id
                  (fun row => { row with
                    status := .claimed
                    ownerActorId := some request.actorId
                    leaseToken := some drawn
                    leaseExpiresAt := some (clock 2 + seconds request.leaseSeconds)
                    claimCount := row.claimCount + 1
                    startedAt := row.startedAt.or (some (clock 2))
                    updatedAt := clock 2 }) fun _ => rfl) := by
              simp only [claimNext, require, if_pos hvalid.1, if_pos hvalid.2, hpick]
              rfl
            rw [hclaim, Option.map_some, Option.map_some, Option.toList_some, ← List.append_assoc]
            apply hswept.claimed
            · exact fun _ => rfl
            · exact fun _ => rfl
      · have hclaim : ∃ error, claimNext db request drawn clock = .error error := by
          unfold claimNext require
          by_cases hactor : request.actorId ≠ ""
          · have hseconds : ¬ 0 < request.leaseSeconds := fun hpos => hvalid ⟨hactor, hpos⟩
            rw [if_pos hactor, if_neg hseconds]
            exact ⟨_, rfl⟩
          · rw [if_neg hactor]
            exact ⟨_, rfl⟩
        rcases hclaim with ⟨error, hclaim⟩
        rw [hclaim, committed_error]
        apply hrefused
        rw [marks]
        exact if_neg hvalid
  | heartbeat named token leaseSeconds status =>
      rw [marks, List.append_nil]
      change Fenced (committed db (KernelTask.heartbeat db named token leaseSeconds status
        clock)) past
      cases hok : KernelTask.heartbeat db named token leaseSeconds status clock with
      | error => exact hfenced
      | ok =>
          simp only [KernelTask.heartbeat, bind_eq_ok, pure_eq_ok] at hok
          rcases hok with ⟨_, _, row, _, rfl⟩
          apply hfenced.modify
          · exact fun _ => rfl
          · exact fun _ => rfl
  | complete named token result =>
      rw [marks, List.append_nil]
      change Fenced (committed db (KernelTask.complete db named token result clock)) past
      cases hok : KernelTask.complete db named token result clock with
      | error => exact hfenced
      | ok =>
          simp only [KernelTask.complete, bind_eq_ok, pure_eq_ok] at hok
          rcases hok with ⟨row, _, rfl⟩
          apply hfenced.modify
          · exact fun _ => rfl
          · exact fun _ => rfl
  | fail named token error =>
      rw [marks, List.append_nil]
      change Fenced (committed db (KernelTask.fail db named token error clock)) past
      cases hok : KernelTask.fail db named token error clock with
      | error => exact hfenced
      | ok =>
          simp only [KernelTask.fail, bind_eq_ok, pure_eq_ok] at hok
          rcases hok with ⟨row, _, rfl⟩
          apply hfenced.modify
          · exact fun _ => rfl
          · exact fun _ => rfl
  | cancel named reason =>
      rw [marks, List.append_nil]
      change Fenced (KernelTask.cancel db named reason clock) past
      unfold KernelTask.cancel
      split
      · exact hfenced
      · split
        · exact hfenced
        · apply hfenced.modify
          exact fun _ => rfl
  | releaseExpiredLeases batchSize => exact hfenced.releaseExpired batchSize clock

end Steps

/-! ## Runs -/

theorem run_fenced {db : Db} {past : List (Mark String String)} (hfenced : Fenced db past)
    (calls : List Call) :
    Fenced (Run.run step db calls) (past ++ history db calls) := by
  induction calls generalizing db past with
  | nil =>
      rw [history, List.append_nil]
      exact hfenced
  | cons call calls ih =>
      rw [history, ← List.append_assoc, Run.run_cons]
      exact ih (hfenced.step call)

theorem empty_fenced : Fenced Db.empty [] := by
  intro taskId row token hrow
  cases hrow

/-- After every run of calls, by any workers, in any order: a token is accepted for a task
only when it is the one issued last for it and not withdrawn since; one token is accepted
for a task at most; and when no token is issued twice, one that was issued for a task and
then superseded or withdrawn is not accepted again. -/
theorem lease_fencing (calls : List Call) :
    let db := Run.run step Db.empty calls
    let past := history Db.empty calls
    (∀ taskId token, Accepts db taskId token → inForce past taskId = some token) ∧
    (∀ taskId token other, Accepts db taskId token → Accepts db taskId other →
      token = other) ∧
    ((past.filterMap Mark.token?).Nodup → ∀ taskId token before between mark after,
      past = before ++ .issued taskId token :: (between ++ mark :: after) →
      mark.key = taskId → ¬ Accepts db taskId token) := by
  intro db past
  have hfenced : Fenced db past := by
    have hrun := run_fenced empty_fenced calls
    rwa [List.nil_append] at hrun
  have haccepted : ∀ taskId token, Accepts db taskId token →
      inForce past taskId = some token := by
    intro taskId token haccepts
    rcases haccepts.token with ⟨row, hrow, hheld⟩
    exact hfenced taskId row token hrow hheld
  refine ⟨haccepted, ?_, ?_⟩
  · intro taskId token other htoken hother
    have hsame := (haccepted taskId token htoken).symm.trans (haccepted taskId other hother)
    exact Option.some.inj hsame
  · intro hfresh taskId token before between mark after hpast hmark haccepts
    have hforce := haccepted taskId token haccepts
    rw [hpast] at hforce hfresh
    exact not_inForce_of_superseded hmark hfresh hforce

def reclaimedRun : List Call :=
  [⟨.enqueue
      { spaceId := "s", kind := "k", payload := [], priority := 0, requestedBy := ""
        parentTaskId := none, taskId := none } "t", fun _ => 0⟩,
    ⟨.claimNext { spaceId := none, kinds := [], actorId := "first", leaseSeconds := 60 }
      "token", fun _ => 0⟩,
    ⟨.claimNext { spaceId := none, kinds := [], actorId := "second", leaseSeconds := 60 }
      "other", fun _ => seconds 60⟩]

/-- The first worker comes too late. -/
theorem reclaimed_fences : ¬ Accepts (Run.run step Db.empty reclaimedRun) "t" "token" := by
  have hpast : history Db.empty reclaimedRun =
      [.issued "t" "token", .withdrawn "t", .issued "t" "other"] := by
    decide
  apply (lease_fencing reclaimedRun).2.2 _ "t" "token" [] [] (.withdrawn "t")
    [.issued "t" "other"] hpast rfl
  rw [hpast]
  decide

end OpsCure.KernelTask
