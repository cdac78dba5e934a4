/-
The maintenance sweeps of the kernel: `release_expired_leases` (`kernel/tasks.py`), `expire_due`
(`kernel/approvals.py`) and `cleanup_expired` (`kernel/scratch.py`).  Do they clear everything that
is due?  Each limits its query before it tests what is due, so that rows that are not due can fill
the batch, and what is due behind them is never looked at.
-/
import OpsCure.KernelApproval
import OpsCure.KernelTask
import OpsCure.Library.Sweeps
import OpsCure.Scratch
import Mathlib

namespace OpsCure.Maintenance

open Sweeps

def batchLimit (batchSize : Int) : Nat := (max 1 batchSize).toNat

theorem batchLimit_pos (batchSize : Int) : 0 < batchLimit batchSize := by
  unfold batchLimit
  omega

/-! ## Leases of tasks -/

section Tasks

open KernelTask

/-- `release_expired_leases`, with the number of leases it released. -/
def releaseExpiredLeases (batchSize : Int) (db : Db) (clock : Clock) : Nat × Db :=
  ((batch db batchSize).countP (expiredAt (clock 0)), releaseExpired db batchSize clock)

def released (batchSize : Int) (db : Db) (now : Time) (row : Task) : Bool :=
  row.id ∈ (batch db batchSize).map (·.id) ∧ expiredAt now row

theorem leased_releaseExpired (batchSize : Int) (db : Db) (clock : Clock) :
    (releaseExpired db batchSize clock).rows.filter isLeased =
      (batch db batchSize).filter (fun row => !expiredAt (clock 0) row) ++
        (db.rows.filter isLeased).drop (batchLimit batchSize) := by
  have hunique : ((db.rows.filter isLeased).map (·.id)).Nodup :=
    (List.filter_sublist.map _).nodup db.unique_id
  have hbatch : ∀ row, released batchSize db (clock 0) row = true →
      row.id ∈ ((db.rows.filter isLeased).take (batchLimit batchSize)).map (·.id) := by
    intro row hreleased
    exact (of_decide_eq_true hreleased).1
  have hrows : (releaseExpired db batchSize clock).rows.filter isLeased =
      (db.rows.filter isLeased).filter fun row => !released batchSize db (clock 0) row := by
    apply filter_map_goes
    · intro row hreleased
      rw [if_pos (of_decide_eq_true hreleased)]
      simp [isLeased]
    · intro row hstays
      rw [if_neg (of_decide_eq_false hstays)]
  rw [hrows, filter_batch hunique hbatch]
  congr 1
  apply List.filter_congr
  intro row hrow
  have hin : row.id ∈ (batch db batchSize).map (·.id) := List.mem_map_of_mem hrow
  simp [released, hin]

theorem expiredAt_later {now later : Time} {row : Task} (hlater : now ≤ later)
    (hexpired : expiredAt now row = true) : expiredAt later row = true :=
  Scratch.expired_later hexpired hlater

def leaseSweeper (batchSize : Int) : Sweeper Db Task Time where
  candidates := fun db => db.rows.filter isLeased
  due := expiredAt
  due_later := expiredAt_later
  limit := batchLimit batchSize
  limit_pos := batchLimit_pos batchSize
  sweep := releaseExpiredLeases batchSize
  takes := fun db clock =>
    ⟨_, takes_filter expiredAt clock (batch db batchSize), leased_releaseExpired batchSize db clock⟩

end Tasks

/-! ## Approvals -/

section Approvals

open KernelApproval

/-- The rows `expire_due` looks for. -/
def awaits (row : Approval) : Bool := row.status = .pending ∧ row.expiresAt.isSome

def markedIn (batch : List Approval) (clock : Clock) (row : Approval) : Bool :=
  match (batch.map (·.id)).idxOf? row.id with
  | some place => isExpired row (clock (2 * place))
  | none => false

theorem awaiting_expireAll (db : Db) (batch : List Approval) (clock : Clock) :
    (expireAll db batch clock).rows.filter awaits =
      (db.rows.filter awaits).filter fun row => !markedIn batch clock row := by
  apply filter_map_goes
  · intro row hmarked
    simp only [markedIn] at hmarked
    split at hmarked
    · rename_i place hplace
      simp only [hplace, expireRow, if_pos hmarked]
      simp [awaits, markRowExpired]
    · cases hmarked
  · intro row hstays
    simp only [markedIn] at hstays
    split at hstays
    · rename_i place hplace
      simp only [hplace, expireRow, hstays]
      rfl
    · rename_i hplace
      simp only [hplace]

theorem idxOf_of_mem_zipIdx {batch : List Approval} (hunique : (batch.map (·.id)).Nodup)
    {place : Approval × Nat} (hplace : place ∈ batch.zipIdx) :
    (batch.map (·.id)).idxOf? place.1.id = some place.2 := by
  obtain ⟨row, index⟩ := place
  have hrow : batch[index]? = some row := List.mem_zipIdx_iff_getElem?.mp hplace
  obtain ⟨hindex, hrow⟩ := List.getElem?_eq_some_iff.mp hrow
  apply List.idxOf?_eq_some_iff.mpr
  have hlength : index < (batch.map (·.id)).length := by
    rw [List.length_map]
    exact hindex
  refine ⟨hlength, ?_, ?_⟩
  · rw [List.getElem_map, hrow]
  · intro earlier hearlier hsame
    have hat : (batch.map (·.id))[index] = row.id := by rw [List.getElem_map, hrow]
    have hequal := (List.Nodup.getElem_inj_iff hunique).mp (hsame.trans hat.symm)
    omega

theorem isExpired_later {now later : Time} {row : Approval} (hlater : now ≤ later)
    (hexpired : isExpired row now = true) : isExpired row later = true := by
  have hboth := of_decide_eq_true hexpired
  exact decide_eq_true ⟨hboth.1, Scratch.expired_later hboth.2 hlater⟩

theorem awaiting_expireDue (batchSize : Int) (db : Db) (clock : Clock) :
    (expireDue db batchSize clock).2.rows.filter awaits =
      (((dueBatch db batchSize).zipIdx.filter fun place =>
        !isExpired place.1 (clock (2 * place.2))).map Prod.fst) ++
        (db.rows.filter awaits).drop (batchLimit batchSize) := by
  have hunique : ((db.rows.filter awaits).map (·.id)).Nodup :=
    (List.filter_sublist.map _).nodup db.unique
  have hbatch : ((dueBatch db batchSize).map (·.id)).Nodup :=
    ((List.take_sublist _ _).map _).nodup hunique
  have hmarked : ∀ row, markedIn (dueBatch db batchSize) clock row = true →
      row.id ∈ ((db.rows.filter awaits).take (batchLimit batchSize)).map (·.id) := by
    intro row hmarked
    simp only [markedIn] at hmarked
    split at hmarked
    · rename_i place hplace
      have hsome : ((dueBatch db batchSize).map (·.id)).idxOf? row.id ≠ none := by
        rw [hplace]
        exact Option.some_ne_none place
      rw [Ne, List.idxOf?_eq_none_iff, not_not] at hsome
      exact hsome
    · cases hmarked
  have hrows : (expireDue db batchSize clock).2.rows.filter awaits =
      (db.rows.filter awaits).filter fun row => !markedIn (dueBatch db batchSize) clock row :=
    awaiting_expireAll db _ clock
  rw [hrows, filter_batch hunique hmarked]
  congr 1
  have hfst : dueBatch db batchSize = (dueBatch db batchSize).zipIdx.map Prod.fst := by
    rw [List.zipIdx_map_fst]
  have hplaces : ∀ place ∈ (dueBatch db batchSize).zipIdx,
      (!markedIn (dueBatch db batchSize) clock place.1) =
        !isExpired place.1 (clock (2 * place.2)) := by
    intro place hplace
    simp only [markedIn, idxOf_of_mem_zipIdx hbatch hplace]
  calc (dueBatch db batchSize).filter (fun row => !markedIn (dueBatch db batchSize) clock row)
      = ((dueBatch db batchSize).zipIdx.map Prod.fst).filter
          (fun row => !markedIn (dueBatch db batchSize) clock row) := by rw [← hfst]
    _ = ((dueBatch db batchSize).zipIdx.filter
          fun place => !markedIn (dueBatch db batchSize) clock place.1).map Prod.fst := by
        rw [List.filter_map]
        rfl
    _ = _ := by rw [List.filter_congr hplaces]

def approvalSweeper (batchSize : Int) : Sweeper Db Approval Time where
  candidates := fun db => db.rows.filter awaits
  due := fun now row => isExpired row now
  due_later := isExpired_later
  limit := batchLimit batchSize
  limit_pos := batchLimit_pos batchSize
  sweep := fun db clock => expireDue db batchSize clock
  takes := fun db clock => by
    refine ⟨_, ?_, awaiting_expireDue batchSize db clock⟩
    have htakes := takes_zipped (fun now row => isExpired row now) clock (2 * ·)
      (dueBatch db batchSize).zipIdx
    rw [List.zipIdx_map_fst] at htakes
    exact htakes

end Approvals

/-! ## Scratch entries -/

section Entries

open Scratch

/-- `cleanup_expired` in a transaction of its own, with the number of rows it removed. -/
def cleanupExpired (batchSize : Int) (rows : Keyed ScratchRow.key) (clock : Clock) :
    Nat × Keyed ScratchRow.key :=
  let cleaned := (Session.mk rows []).cleanupExpired batchSize (clock 0)
  (cleaned.1, cleaned.2.flush.rows)

/-- The rows `cleanup_expired` looks for. -/
def expires (row : ScratchRow) : Bool := row.expiresAt.isSome

def pastExpiry (now : Time) (row : ScratchRow) : Bool := row.expiresAt.any (· ≤ now)

theorem pastExpiry_later {now later : Time} {row : ScratchRow} (hlater : now ≤ later)
    (hpast : pastExpiry now row = true) : pastExpiry later row = true :=
  expired_later hpast hlater

theorem expiring_cleanupExpired (batchSize : Int) (rows : Keyed ScratchRow.key) (clock : Clock) :
    (cleanupExpired batchSize rows clock).2.rows.filter expires =
      ((rows.rows.filter expires).take (batchLimit batchSize)).filter
        (fun row => !pastExpiry (clock 0) row) ++
        (rows.rows.filter expires).drop (batchLimit batchSize) := by
  let goes (row : ScratchRow) : Bool :=
    row.key ∈ ((Session.mk rows []).expiredBatch batchSize (clock 0)).map (·.key)
  have hunique : ((rows.rows.filter expires).map ScratchRow.key).Nodup :=
    (List.filter_sublist.map _).nodup rows.unique
  have hbatch : ∀ row, goes row = true →
      row.key ∈ ((rows.rows.filter expires).take (batchLimit batchSize)).map ScratchRow.key := by
    intro row hgoes
    obtain ⟨other, hother, hkey⟩ := List.mem_map.mp (of_decide_eq_true hgoes)
    exact List.mem_map.mpr ⟨other, (List.mem_filter.mp hother).1, hkey⟩
  have hrows : (cleanupExpired batchSize rows clock).2.rows.filter expires =
      (rows.rows.filter expires).filter fun row => !goes row := by
    have hleft : (cleanupExpired batchSize rows clock).2.rows =
        rows.rows.filter fun row => !goes row := by
      simp only [cleanupExpired, Session.cleanupExpired, Session.flush, Keyed.without,
        List.append_nil, goes]
    rw [hleft, List.filter_comm]
  rw [hrows, filter_batch hunique hbatch]
  congr 1
  apply List.filter_congr
  intro row hrow
  have hgoes : goes row = pastExpiry (clock 0) row := by
    apply Bool.eq_iff_iff.mpr
    constructor
    · intro hgoes
      obtain ⟨other, hother, hkey⟩ := List.mem_map.mp (of_decide_eq_true hgoes)
      have hfilter := List.mem_filter.mp hother
      have hsame : other = row :=
        List.inj_on_of_nodup_map hunique (List.mem_of_mem_take hfilter.1)
          (List.mem_of_mem_take hrow) hkey
      rw [← hsame]
      exact hfilter.2
    · intro hpast
      apply decide_eq_true
      exact List.mem_map_of_mem (List.mem_filter.mpr ⟨hrow, hpast⟩)
  rw [hgoes]

def scratchSweeper (batchSize : Int) : Sweeper (Keyed ScratchRow.key) ScratchRow Time where
  candidates := fun rows => rows.rows.filter expires
  due := pastExpiry
  due_later := pastExpiry_later
  limit := batchLimit batchSize
  limit_pos := batchLimit_pos batchSize
  sweep := cleanupExpired batchSize
  takes := fun rows clock => by
    refine ⟨_, ?_, expiring_cleanupExpired batchSize rows clock⟩
    have htakes := takes_filter pastExpiry clock
      ((rows.rows.filter expires).take (batchLimit batchSize))
    rw [List.countP_eq_length_filter] at htakes
    exact htakes

end Entries

/-! ## What the sweeps clear -/

/-- A sweep that is repeated until it returns zero, from a state on: it ends, however its clock goes;
and with the clocks of its sweeps, which of what is due it clears. -/
structure Clears {σ ρ : Type} (sweeper : Sweeper σ ρ Time) (s : σ) (clocks : List Clock)
    (last : Clock) : Prop where
  ends : ∀ schedule : Nat → Clock, ∃ count final,
    sweeper.Repeats s ((List.range (count + 1)).map schedule) final
  clean_iff : ∀ final, sweeper.Repeats s clocks final →
    (sweeper.Clean final (last 0) ↔ sweeper.Unblocked s (last 0))

theorem clears {σ ρ : Type} (sweeper : Sweeper σ ρ Time) (s : σ) {clocks : List Clock}
    {last : Clock} (hordered : InOrder clocks) (hlast : clocks.getLast? = some last) :
    Clears sweeper s clocks last :=
  ⟨sweeper.repeats s, fun _ hrepeats => hrepeats.clean_iff hordered hlast⟩

/-- The sweeps, repeated until they return zero, leave nothing that is due when the last one begins
exactly if from the start every row due then lies behind fewer rows than a batch has that are not
due. -/
theorem maintenance_clears_iff (batchSize : Int) {clocks : List Clock} {last : Clock}
    (hordered : InOrder clocks) (hlast : clocks.getLast? = some last) :
    (∀ db, Clears (leaseSweeper batchSize) db clocks last) ∧
      (∀ db, Clears (approvalSweeper batchSize) db clocks last) ∧
      ∀ rows, Clears (scratchSweeper batchSize) rows clocks last :=
  ⟨fun db => clears _ db hordered hlast, fun db => clears _ db hordered hlast,
    fun rows => clears _ rows hordered hlast⟩

/-- Two sweeps of three rows each, a second apart. -/
theorem two_sweeps_clear_iff :
    let clocks : List Clock := [fun _ => 0, fun _ => seconds 1]
    (∀ db, Clears (leaseSweeper 3) db clocks fun _ => seconds 1) ∧
      (∀ db, Clears (approvalSweeper 3) db clocks fun _ => seconds 1) ∧
      ∀ rows, Clears (scratchSweeper 3) rows clocks fun _ => seconds 1 := by
  intro clocks
  apply maintenance_clears_iff 3
  · constructor
    · intro clock hclock
      rcases List.mem_cons.mp hclock with rfl | hclock
      · exact monotone_const
      · rw [List.mem_singleton.mp hclock]
        exact monotone_const
    · apply List.pairwise_cons.mpr
      refine ⟨?_, List.pairwise_singleton _ _⟩
      intro later hlater reading
      rw [List.mem_singleton.mp hlater]
      have hlater : (0 : Time) ≤ seconds 1 := by decide
      exact hlater
  · rfl

def leasedTask (id : String) (expiresAt : Time) : KernelTask.Task where
  id := id
  spaceId := "space"
  kind := "review"
  status := .claimed
  priority := 0
  payload := .obj []
  requestedBy := "alice"
  ownerActorId := some "bob"
  leaseToken := some "token"
  leaseExpiresAt := some expiresAt
  claimCount := 1
  result := none
  error := none
  parentTaskId := none
  createdAt := 0
  updatedAt := 0
  startedAt := some 0
  completedAt := none

def twoLeases : KernelTask.Db where
  rows := [leasedTask "fresh" 10, leasedTask "lapsed" 1]
  unique_id := by decide

/-- With a batch of one the sweep returns zero and leaves the lapsed lease. -/
theorem lapsed_lease_left :
    ¬ ∀ (db : KernelTask.Db) (batchSize : Int) (clock : Clock), 0 < batchSize →
      (releaseExpiredLeases batchSize db clock).1 = 0 →
      (leaseSweeper batchSize).Clean (releaseExpiredLeases batchSize db clock).2 (clock 0) := by
  intro hall
  have hclean := hall twoLeases 1 (fun _ => 5) (by decide) (by decide)
  have hlapsed := hclean (leasedTask "lapsed" 1) (by
    have hrow : leasedTask "lapsed" 1 ∈ twoLeases.rows.filter KernelTask.isLeased := by
      apply List.mem_filter.mpr
      constructor
      · exact List.mem_cons_of_mem _ List.mem_cons_self
      · decide
    exact hrow)
  revert hlapsed
  decide

end OpsCure.Maintenance
