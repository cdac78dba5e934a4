/-
The kernel approvals (`kernel/approvals.py`): request, get, resolve, the list of what is pending and
the sweep.  Is an approval decided once, and before it expires?  Every operation leaves alone what
is not pending; but `resolve` checks the expiry at one reading of the clock and decides at the next.
-/
import OpsCure.Library.Json
import OpsCure.Library.Keyed
import OpsCure.Library.Run
import OpsCure.Presence
import Mathlib

namespace OpsCure.KernelApproval

open Fallible Run

inductive ApprovalStatus where
  | pending
  | approved
  | rejected
  | expired
deriving DecidableEq, Repr

/-- `APPROVAL_TERMINAL_STATUSES`. -/
def isTerminal (status : ApprovalStatus) : Bool :=
  status ∈ [ApprovalStatus.approved, .rejected, .expired]

/-- A row of `kernel_approvals`. -/
structure Approval where
  id : String
  spaceId : String
  kind : String
  payload : Json
  status : ApprovalStatus
  requestedBy : String
  requestedAt : Time
  resolvedBy : Option String
  resolvedAt : Option Time
  resolution : Option String
  note : Option String
  expiresAt : Option Time
deriving Repr

/-- The table; `id` is its primary key. -/
abbrev Db := Keyed Approval.id

inductive ApprovalError where
  | spaceIdRequired
  | kindRequired
  | duplicateId (approvalId : String)
  | resolutionRequired
deriving DecidableEq, Repr

def ApprovalError.text : ApprovalError → String
  | spaceIdRequired => "space_id is required"
  | kindRequired => "kind is required"
  | duplicateId approvalId => s!"UNIQUE constraint failed: kernel_approvals.id ({approvalId})"
  | resolutionRequired => "resolution is required"

/-! ## The operations -/

structure ApprovalRequest where
  spaceId : String
  kind : String
  payload : List (String × Json)
  requestedBy : String
  ttlSeconds : Option Int
  approvalId : Option String

/-- `request`; `drawn` is the id an approval gets that is given none. -/
def request (db : Db) (request : ApprovalRequest) (drawn : String) (clock : Clock) :
    Except ApprovalError Db := do
  require (request.spaceId ≠ "") .spaceIdRequired
  require (request.kind ≠ "") .kindRequired
  let approvalId := (request.approvalId.filter (· ≠ "")).getD drawn
  orRaise (db.insert
    { id := approvalId
      spaceId := request.spaceId
      kind := request.kind
      payload := .obj request.payload
      status := .pending
      requestedBy := request.requestedBy
      requestedAt := clock 0
      resolvedBy := none
      resolvedAt := none
      resolution := none
      note := none
      expiresAt := (request.ttlSeconds.filter (0 < ·)).map fun ttl => clock 0 + seconds ttl })
    (.duplicateId approvalId)

/-- `_is_expired`. -/
def isExpired (row : Approval) (now : Time) : Bool :=
  row.status = .pending ∧ row.expiresAt.any (· ≤ now)

/-- `_mark_row_expired`. -/
def markRowExpired (row : Approval) (now : Time) : Approval :=
  { row with
    status := .expired
    resolution := some (Text.orElse row.resolution "expired")
    resolvedAt := some now }

theorem id_markRowExpired (row : Approval) (now : Time) : (markRowExpired row now).id = row.id := by
  rw [markRowExpired]

/-- The check and the mark, each with a reading of its own. -/
def expireRow (clock : Clock) (reading : Nat) (row : Approval) : Approval :=
  if isExpired row (clock reading) then markRowExpired row (clock (reading + 1)) else row

theorem id_expireRow (clock : Clock) (reading : Nat) (row : Approval) :
    (expireRow clock reading row).id = row.id := by
  unfold expireRow
  split
  · exact id_markRowExpired _ _
  · rfl

def expireAll (db : Db) (batch : List Approval) (clock : Clock) : Db :=
  db.change (fun row =>
    match (batch.map (·.id)).idxOf? row.id with
    | some place => expireRow clock (2 * place) row
    | none => row) fun row => by
      split
      · exact id_expireRow _ _ _
      · rfl

/-- `get`. -/
def get (db : Db) (approvalId : String) (clock : Clock) : Option Approval × Db :=
  match db.get approvalId with
  | none => (none, db)
  | some row =>
      (some (expireRow clock 0 row),
        db.modify approvalId (expireRow clock 0) (id_expireRow clock 0))

/-- `APPROVAL_DECISIONS`. -/
def approvalDecisions : List (String × ApprovalStatus) :=
  [("approved", .approved), ("approved_for_session", .approved), ("rejected", .rejected),
    ("abort", .rejected)]

def negativeMarkers : List String := ["reject", "denied", "abort", "cancel", "no"]

/-- The base status of a decision; a word the kernel does not know approves unless it looks
negative. -/
def targetStatus (normalized : String) : ApprovalStatus :=
  let lowered := Text.lower normalized
  match approvalDecisions.lookup lowered with
  | some status => status
  | none =>
      if negativeMarkers.any fun marker => marker.toList <:+: lowered.toList then .rejected
      else .approved

/-- What `resolve` writes. -/
def decided (row : Approval) (normalized resolvedBy : String) (note : Option String)
    (now : Time) : Approval :=
  { row with
    status := targetStatus normalized
    resolution := some normalized
    resolvedBy := some resolvedBy
    resolvedAt := some now
    note := note.or row.note }

theorem id_decided (row : Approval) (normalized resolvedBy : String) (note : Option String)
    (now : Time) : (decided row normalized resolvedBy note now).id = row.id := by
  rw [decided]

/-- `resolve`. -/
def resolve (db : Db) (approvalId resolution resolvedBy : String) (note : Option String)
    (clock : Clock) : Except ApprovalError (Option Approval × Db) :=
  match db.get approvalId with
  | none => .ok (none, db)
  | some row =>
      if isExpired row (clock 0) then
        .ok (some (markRowExpired row (clock 1)),
          db.modify approvalId (markRowExpired · (clock 1)) fun row => id_markRowExpired row _)
      else if isTerminal row.status then .ok (some row, db)
      else do
        let normalized := Text.strip resolution
        require (normalized ≠ "") .resolutionRequired
        return (some (decided row normalized resolvedBy note (clock 1)),
          db.modify approvalId (decided · normalized resolvedBy note (clock 1))
            fun row => id_decided row _ _ _ _)

def pendingBatch (db : Db) (spaceId : String) (kinds : List String) (limit : Int) :
    List Approval :=
  let kinds := kinds.filter (· ≠ "")
  let rows := db.rows.filter fun row =>
    row.spaceId = spaceId ∧ row.status = .pending ∧ (kinds = [] ∨ row.kind ∈ kinds)
  (rows.insertionSort fun left right => left.requestedAt ≤ right.requestedAt).take
    (max 1 limit).toNat

/-- `list_pending`; those that turn out to have expired are marked, not listed. -/
def listPending (db : Db) (spaceId : String) (kinds : List String) (limit : Int)
    (clock : Clock) : List Approval × Db :=
  let rows := pendingBatch db spaceId kinds limit
  let live := rows.zipIdx.filterMap fun row =>
    if isExpired row.1 (clock (2 * row.2)) then none else some row.1
  (live, expireAll db rows clock)

def dueBatch (db : Db) (batchSize : Int) : List Approval :=
  (db.rows.filter fun row => row.status = .pending ∧ row.expiresAt.isSome).take
    (max 1 batchSize).toNat

/-- `expire_due`, with the number of rows it expired. -/
def expireDue (db : Db) (batchSize : Int) (clock : Clock) : Nat × Db :=
  let rows := dueBatch db batchSize
  (rows.zipIdx.countP fun row => isExpired row.1 (clock (2 * row.2)), expireAll db rows clock)

/-- One call of the service, with all that its caller and the generators supply. -/
inductive Operation where
  | request (request : ApprovalRequest) (drawn : String)
  | get (approvalId : String)
  | resolve (approvalId resolution resolvedBy : String) (note : Option String)
  | listPending (spaceId : String) (kinds : List String) (limit : Int)
  | expireDue (batchSize : Int)

structure Call where
  operation : Operation
  clock : Clock

def perform (db : Db) (call : Call) : Except ApprovalError Db :=
  match call.operation with
  | .request asked drawn => request db asked drawn call.clock
  | .get approvalId => .ok (get db approvalId call.clock).2
  | .resolve approvalId resolution resolvedBy note =>
      (resolve db approvalId resolution resolvedBy note call.clock).map (·.2)
  | .listPending spaceId kinds limit => .ok (listPending db spaceId kinds limit call.clock).2
  | .expireDue batchSize => .ok (expireDue db batchSize call.clock).2

/-- The table after a call: rolled back when the call raised. -/
def step (db : Db) (call : Call) : Db :=
  committed db (perform db call)

/-! ## What an operation does to a row -/

theorem targetStatus_cases (normalized : String) :
    targetStatus normalized = .approved ∨ targetStatus normalized = .rejected := by
  unfold targetStatus
  generalize Text.lower normalized = lowered
  dsimp only
  split
  · rename_i status hstatus
    rw [List.lookup_eq_some_iff] at hstatus
    obtain ⟨before, after, hdecisions, _⟩ := hstatus
    have hknown : ∀ pair ∈ approvalDecisions, pair.2 = .approved ∨ pair.2 = .rejected := by
      decide
    apply hknown (lowered, status)
    rw [hdecisions]
    exact List.mem_append_right _ List.mem_cons_self
  · split
    · exact Or.inr rfl
    · exact Or.inl rfl

theorem pending_of_expired {row : Approval} {now : Time} (hexpired : isExpired row now = true) :
    row.status = .pending := by
  have hboth := of_decide_eq_true hexpired
  exact hboth.1

/-- `resolve` comes to decide a row: it is pending, and has not expired at the first reading. -/
structure Decides (row : Approval) (resolution : String) (clock : Clock) : Prop where
  pending : row.status = .pending
  unexpired : isExpired row (clock 0) = false
  worded : Text.strip resolution ≠ ""

inductive RowStep (call : Call) (row : Approval) : Approval → Prop where
  | kept : RowStep call row row
  | expired (now : Time) (hpending : row.status = .pending) :
      RowStep call row (markRowExpired row now)
  | resolved {resolution resolvedBy : String} {note : Option String}
      (hoperation : call.operation = .resolve row.id resolution resolvedBy note)
      (hdecides : Decides row resolution call.clock) :
      RowStep call row (decided row (Text.strip resolution) resolvedBy note (call.clock 1))

section Steps

variable {db : Db} {call : Call} {approvalId : String} {row : Approval}

theorem rowStep_expireRow (call : Call) (clock : Clock) (reading : Nat) (row : Approval) :
    RowStep call row (expireRow clock reading row) := by
  unfold expireRow
  split
  · rename_i hexpired
    exact .expired _ (pending_of_expired hexpired)
  · exact .kept

theorem rowStep_expireAll (call : Call) (batch : List Approval) (clock : Clock)
    (hrow : db.get approvalId = some row) :
    ∃ after, (expireAll db batch clock).get approvalId = some after ∧ RowStep call row after := by
  rw [expireAll, Keyed.get_change, hrow]
  refine ⟨_, rfl, ?_⟩
  dsimp only
  split
  · exact rowStep_expireRow _ _ _ _
  · exact .kept

/-- A row that is there, after the row of `named` was rewritten. -/
theorem get_modify {rewrite : Approval → Approval} (hid : ∀ row, (rewrite row).id = row.id)
    (named : String) (hrow : db.get approvalId = some row) :
    (db.modify named rewrite hid).get approvalId =
      some (if approvalId = named then rewrite row else row) := by
  by_cases hsame : approvalId = named
  · subst hsame
    rw [Keyed.get_modify_self hid hrow, if_pos rfl]
  · rw [Keyed.get_modify_of_ne hid hsame, hrow, if_neg hsame]

theorem step_resolve (db : Db) (named resolution resolvedBy : String) (note : Option String)
    (clock : Clock) : step db ⟨.resolve named resolution resolvedBy note, clock⟩ =
      committed db ((resolve db named resolution resolvedBy note clock).map (·.2)) := rfl

theorem step_resolve_of_decides {resolution resolvedBy : String} {note : Option String}
    {clock : Clock} (hrow : db.get approvalId = some row)
    (hdecides : Decides row resolution clock) :
    step db ⟨.resolve approvalId resolution resolvedBy note, clock⟩ =
      db.modify approvalId (decided · (Text.strip resolution) resolvedBy note (clock 1))
        fun row => id_decided row _ _ _ _ := by
  have hopen : isTerminal row.status = false := by
    rw [hdecides.pending]
    rfl
  simp only [step_resolve, resolve, hrow, hdecides.unexpired, hopen, require,
    if_pos hdecides.worded]
  rfl

/-- A `resolve` leaves the table alone, expires the row it names, or decides it. -/
theorem step_resolve_cases (db : Db) (named resolution resolvedBy : String)
    (note : Option String) (clock : Clock) :
    let after := step db ⟨.resolve named resolution resolvedBy note, clock⟩
    after = db ∨
    (∃ row, db.get named = some row ∧ row.status = .pending ∧
      after = db.modify named (markRowExpired · (clock 1)) fun row => id_markRowExpired row _) ∨
    (∃ row, db.get named = some row ∧ Decides row resolution clock ∧
      after = db.modify named (decided · (Text.strip resolution) resolvedBy note (clock 1))
        fun row => id_decided row _ _ _ _) := by
  intro after
  have hafter : after =
      committed db ((resolve db named resolution resolvedBy note clock).map (·.2)) := rfl
  cases hrow : db.get named with
  | none =>
      left
      rw [hafter]
      simp only [resolve, hrow]
      rfl
  | some row =>
      by_cases hexpired : isExpired row (clock 0) = true
      · refine Or.inr (Or.inl ⟨row, rfl, pending_of_expired hexpired, ?_⟩)
        rw [hafter]
        simp only [resolve, hrow, hexpired, if_true]
        rfl
      · have hunexpired : isExpired row (clock 0) = false := Bool.eq_false_iff.mpr hexpired
        by_cases hterminal : isTerminal row.status = true
        · left
          rw [hafter]
          simp only [resolve, hrow, hunexpired, hterminal]
          rfl
        · have hopen : isTerminal row.status = false := Bool.eq_false_iff.mpr hterminal
          have hpending : row.status = .pending := by
            cases hstatus : row.status with
            | pending => rfl
            | approved | rejected | expired =>
                rw [hstatus] at hterminal
                exact absurd rfl hterminal
          by_cases hworded : Text.strip resolution = ""
          · left
            have hblank : ¬ Text.strip resolution ≠ "" := fun hnot => hnot hworded
            rw [hafter]
            simp only [resolve, hrow, hunexpired, hopen, require, if_neg hblank]
            rfl
          · have hdecides : Decides row resolution clock := ⟨hpending, hunexpired, hworded⟩
            exact Or.inr (Or.inr ⟨row, rfl, hdecides, step_resolve_of_decides hrow hdecides⟩)

/-- A `request` leaves the table alone, or adds a pending row. -/
theorem step_request_cases (db : Db) (asked : ApprovalRequest) (drawn : String) (clock : Clock) :
    step db ⟨.request asked drawn, clock⟩ = db ∨
      ∃ added, added.status = .pending ∧
        db.insert added = some (step db ⟨.request asked drawn, clock⟩) := by
  have hstep : step db ⟨.request asked drawn, clock⟩ =
      committed db (request db asked drawn clock) := rfl
  rw [hstep]
  cases hinserted : request db asked drawn clock with
  | error => exact Or.inl rfl
  | ok =>
      right
      simp only [request, bind_eq_ok, require_eq_ok, orRaise_eq_ok] at hinserted
      obtain ⟨_, _, _, _, hinsert⟩ := hinserted
      exact ⟨_, rfl, hinsert⟩

theorem step_get_cases (db : Db) (named : String) (clock : Clock) :
    step db ⟨.get named, clock⟩ = db ∨
      step db ⟨.get named, clock⟩ =
        db.modify named (expireRow clock 0) (id_expireRow clock 0) := by
  have hstep : step db ⟨.get named, clock⟩ = (get db named clock).2 := rfl
  rw [hstep, get]
  cases db.get named with
  | none => exact Or.inl rfl
  | some => exact Or.inr rfl

theorem step_listPending (db : Db) (spaceId : String) (kinds : List String) (limit : Int)
    (clock : Clock) : step db ⟨.listPending spaceId kinds limit, clock⟩ =
      expireAll db (pendingBatch db spaceId kinds limit) clock := rfl

theorem step_expireDue (db : Db) (batchSize : Int) (clock : Clock) :
    step db ⟨.expireDue batchSize, clock⟩ = expireAll db (dueBatch db batchSize) clock := rfl

/-- What one call does to a row that is there. -/
theorem rowStep_step (call : Call) (hrow : db.get approvalId = some row) :
    ∃ after, (step db call).get approvalId = some after ∧ RowStep call row after := by
  obtain ⟨operation, clock⟩ := call
  cases operation with
  | request asked drawn =>
      refine ⟨row, ?_, .kept⟩
      rcases step_request_cases db asked drawn clock with hsame | ⟨added, _, hinsert⟩
      · rw [hsame]
        exact hrow
      · have hother : approvalId ≠ added.id := by
          intro htaken
          rw [htaken] at hrow
          rw [Keyed.insert_of_some hrow] at hinsert
          cases hinsert
        rw [Keyed.get_insert_of_ne hinsert hother]
        exact hrow
  | get named =>
      rcases step_get_cases db named clock with hsame | hmodified
      · rw [hsame]
        exact ⟨row, hrow, .kept⟩
      · rw [hmodified, get_modify _ named hrow]
        refine ⟨_, rfl, ?_⟩
        split
        · exact rowStep_expireRow _ _ _ _
        · exact .kept
  | resolve named resolution resolvedBy note =>
      rcases step_resolve_cases db named resolution resolvedBy note clock with
        hsame | ⟨found, hfound, hpending, hmodified⟩ | ⟨found, hfound, hdecides, hmodified⟩
      · rw [hsame]
        exact ⟨row, hrow, .kept⟩
      · rw [hmodified, get_modify _ named hrow]
        refine ⟨_, rfl, ?_⟩
        split
        · rename_i hnamed
          rw [hnamed, hfound] at hrow
          cases hrow
          exact .expired _ hpending
        · exact .kept
      · rw [hmodified, get_modify _ named hrow]
        refine ⟨_, rfl, ?_⟩
        split
        · rename_i hnamed
          rw [hnamed, hfound] at hrow
          cases hrow
          have hid : row.id = named := Keyed.key_of_get hfound
          subst hid
          exact .resolved rfl hdecides
        · exact .kept
  | listPending =>
      rw [step_listPending]
      exact rowStep_expireAll _ _ _ hrow
  | expireDue =>
      rw [step_expireDue]
      exact rowStep_expireAll _ _ _ hrow

theorem pending_of_new {after : Approval} (hnone : db.get approvalId = none)
    (hafter : (step db call).get approvalId = some after) : after.status = .pending := by
  have hchange : ∀ rewrite (hkey : ∀ row : Approval, (rewrite row).id = row.id),
      (db.change rewrite hkey).get approvalId ≠ some after := by
    intro rewrite hkey hsome
    rw [Keyed.get_change, hnone] at hsome
    cases hsome
  have hkept : step db call ≠ db := by
    intro hsame
    rw [hsame, hnone] at hafter
    cases hafter
  obtain ⟨operation, clock⟩ := call
  cases operation with
  | request asked drawn =>
      rcases step_request_cases db asked drawn clock with hsame | ⟨added, hpending, hinsert⟩
      · exact absurd hsame hkept
      · by_cases hnew : approvalId = added.id
        · rw [hnew, Keyed.get_insert_self hinsert] at hafter
          cases hafter
          exact hpending
        · rw [Keyed.get_insert_of_ne hinsert hnew, hnone] at hafter
          cases hafter
  | get named =>
      rcases step_get_cases db named clock with hsame | hmodified
      · exact absurd hsame hkept
      · rw [hmodified] at hafter
        exact absurd hafter (hchange _ _)
  | resolve named resolution resolvedBy note =>
      rcases step_resolve_cases db named resolution resolvedBy note clock with
        hsame | ⟨_, _, _, hmodified⟩ | ⟨_, _, _, hmodified⟩
      · exact absurd hsame hkept
      · rw [hmodified] at hafter
        exact absurd hafter (hchange _ _)
      · rw [hmodified] at hafter
        exact absurd hafter (hchange _ _)
  | listPending =>
      rw [step_listPending, expireAll] at hafter
      exact absurd hafter (hchange _ _)
  | expireDue =>
      rw [step_expireDue, expireAll] at hafter
      exact absurd hafter (hchange _ _)

end Steps

/-! ## Decided once -/

def outcome (row : Approval) : ApprovalStatus × Option String × Option String :=
  (row.status, row.resolvedBy, row.resolution)

/-- The approval has left `pending`, and this is how. -/
def Settled (approvalId : String) (ending : ApprovalStatus × Option String × Option String)
    (db : Db) : Prop :=
  ∃ row, db.get approvalId = some row ∧ row.status ≠ .pending ∧ outcome row = ending

theorem settled_step {db : Db} {approvalId : String}
    {ending : ApprovalStatus × Option String × Option String} (call : Call)
    (hsettled : Settled approvalId ending db) : Settled approvalId ending (step db call) := by
  obtain ⟨row, hrow, hleft, hending⟩ := hsettled
  obtain ⟨after, hafter, hstep⟩ := rowStep_step call hrow
  cases hstep with
  | kept => exact ⟨row, hafter, hleft, hending⟩
  | expired now hpending => exact absurd hpending hleft
  | resolved hoperation hdecides => exact absurd hdecides.pending hleft

/-! ## Decided in time -/

def Timely (row : Approval) : Prop :=
  row.status = .approved ∨ row.status = .rejected →
    ∃ instant, row.resolvedAt = some instant ∧ ∀ expiry, row.expiresAt = some expiry →
      instant < expiry

def AllTimely (db : Db) : Prop := ∀ approvalId row, db.get approvalId = some row → Timely row

theorem timely_decided_iff (row : Approval) (normalized resolvedBy : String)
    (note : Option String) (now : Time) :
    Timely (decided row normalized resolvedBy note now) ↔
      ∀ expiry, row.expiresAt = some expiry → now < expiry := by
  have hstatus : (decided row normalized resolvedBy note now).status = targetStatus normalized := by
    rw [decided]
  have hinstant : (decided row normalized resolvedBy note now).resolvedAt = some now := by
    rw [decided]
  have hexpiry : (decided row normalized resolvedBy note now).expiresAt = row.expiresAt := by
    rw [decided]
  unfold Timely
  rw [hstatus, hinstant, hexpiry]
  constructor
  · intro htimely
    obtain ⟨instant, hsame, hbefore⟩ := htimely (targetStatus_cases normalized)
    cases hsame
    exact hbefore
  · intro hbefore _
    exact ⟨now, rfl, hbefore⟩

theorem timely_markRowExpired (row : Approval) (now : Time) : Timely (markRowExpired row now) := by
  intro hdecided
  rcases hdecided with hdecided | hdecided
  · cases hdecided
  · cases hdecided

/-- No expiry lies between the reading at which `resolve` checks it and the reading at which it
decides. -/
def ReadsInTime (db : Db) (call : Call) : Prop :=
  ∀ approvalId resolution resolvedBy note row,
    call.operation = .resolve approvalId resolution resolvedBy note →
    db.get approvalId = some row → Decides row resolution call.clock →
    ∀ expiry, row.expiresAt = some expiry → call.clock 1 < expiry

theorem allTimely_step_iff {db : Db} (call : Call) (htimely : AllTimely db) :
    AllTimely (step db call) ↔ ReadsInTime db call := by
  constructor
  · intro hafter approvalId resolution resolvedBy note row hoperation hrow hdecides expiry hexpiry
    obtain ⟨operation, clock⟩ := call
    cases hoperation
    rw [step_resolve_of_decides hrow hdecides] at hafter
    have hdecided := hafter approvalId _ (Keyed.get_modify_self _ hrow)
    exact (timely_decided_iff _ _ _ _ _).mp hdecided expiry hexpiry
  · intro hreads approvalId after hafter
    cases hbefore : db.get approvalId with
    | none =>
        intro hdecided
        have hpending := pending_of_new hbefore hafter
        rw [hpending] at hdecided
        rcases hdecided with hdecided | hdecided
        · cases hdecided
        · cases hdecided
    | some row =>
        obtain ⟨found, hfound, hstep⟩ := rowStep_step call hbefore
        rw [hafter] at hfound
        cases hfound
        cases hstep with
        | kept => exact htimely approvalId _ hbefore
        | expired now => exact timely_markRowExpired row now
        | resolved hoperation hdecides =>
            have hid : row.id = approvalId := Keyed.key_of_get hbefore
            rw [hid] at hoperation
            rw [timely_decided_iff]
            exact hreads _ _ _ _ row hoperation hbefore hdecides

/-- Over every run, what has left pending keeps its status, its resolver and its resolution; and
approvals are approved and rejected before their expiry exactly when no expiry lies between the two
readings of a `resolve` that decides. -/
theorem decided_once_and_in_time_iff (calls : List Call) :
    (∀ approvalId ending, Absorbs step (Settled approvalId ending) .empty calls) ∧
        Throughout step AllTimely .empty calls ↔
      Along step ReadsInTime .empty calls := by
  have honce : ∀ approvalId ending, Absorbs step (Settled approvalId ending) .empty calls := by
    intro approvalId ending
    rw [absorbs_iff_along]
    intro done call _ hsettled
    exact settled_step call hsettled
  rw [and_iff_right honce]
  apply throughout_iff_along
  · intro approvalId row hrow
    cases hrow
  · intro db call htimely
    exact allTimely_step_iff call htimely

/-- An approval that lives for a second is asked for. -/
def briefRequest : ApprovalRequest where
  spaceId := "thread"
  kind := "exec_command"
  payload := []
  requestedBy := "codex"
  ttlSeconds := some 1
  approvalId := some "brief"

/-- It is checked in the last microsecond of its second, and approved in the next. -/
def straddlingCalls : List Call :=
  [⟨.request briefRequest "", fun _ => 0⟩,
    ⟨.resolve "brief" "approved" "lead" none, fun reading => if reading = 0 then 999999 else 1000000⟩]

/-- The clock never goes back, and the approval is approved at its expiry. -/
theorem approved_at_expiry :
    (∀ call ∈ straddlingCalls, Monotone call.clock) ∧
      straddlingCalls.Pairwise (fun earlier later => ∀ i j, earlier.clock i ≤ later.clock j) ∧
      ¬ Throughout step AllTimely .empty straddlingCalls := by
  refine ⟨?_, ?_, ?_⟩
  · intro call hcall
    simp only [straddlingCalls, List.mem_cons, List.not_mem_nil, or_false] at hcall
    rcases hcall with rfl | rfl
    · exact fun _ _ _ => le_rfl
    · intro i j hij
      by_cases hi : i = 0
      · by_cases hj : j = 0
        · simp [hi, hj]
        · simp [hi, hj]
      · have hj : j ≠ 0 := by omega
        simp [hi, hj]
  · simp only [straddlingCalls, List.pairwise_cons, List.mem_singleton, forall_eq,
      List.not_mem_nil, false_implies, implies_true, List.Pairwise.nil, and_true]
    intro _ j
    split <;> decide
  · intro htimely
    have hany : ((run step .empty straddlingCalls).get "brief").any (fun row =>
        row.status = .approved ∧ row.resolvedAt = some 1000000 ∧
          row.expiresAt = some 1000000) = true := by
      decide
    obtain ⟨row, hrow, hboth⟩ := (Option.any_eq_true ..).mp hany
    obtain ⟨happroved, hinstant, hexpiry⟩ := of_decide_eq_true hboth
    obtain ⟨instant, hsame, hbefore⟩ :=
      htimely straddlingCalls (List.prefix_refl _) "brief" row hrow (Or.inl happroved)
    rw [hinstant] at hsame
    cases hsame
    exact lt_irrefl _ (hbefore _ hexpiry)

end OpsCure.KernelApproval
