/-
Verification runs (`services/verification_service.py`): enqueue, claim, complete and the
review of the latest run.  A run that needs an operator waits at `review_pending`; a review
that finds no such run decides the newest run of the session, whatever became of it.
-/
import OpsCure.Library.Run
import OpsCure.Presence

namespace OpsCure.Verification

open Fallible Run Table

inductive RunStatus where
  | pending
  | claimed
  | completed
  | failed
  | reviewPending
  | approved
  | rejected
deriving DecidableEq, Repr

/-- `TERMINAL_VERIFY_STATES`. -/
def RunStatus.isTerminal (status : RunStatus) : Bool :=
  status ∈ [RunStatus.completed, .failed, .approved, .rejected]

def RunStatus.isDecided (status : RunStatus) : Bool :=
  status ∈ [RunStatus.approved, .rejected]

structure VerificationManifest where
  enabled : Bool
  provider : String
  runTimeoutSeconds : Int
  commands : List (String × List String)
  requireOperatorApproval : Bool
deriving Repr

structure ProjectManifest where
  profileName : String
  verification : VerificationManifest
deriving Repr

structure SessionRow where
  projectName : String
  targetProjectName : Option String
  preset : Option String
deriving DecidableEq, Repr

structure VerifyArtifact where
  artifactType : String
  label : String
  path : String
deriving DecidableEq, Repr

/-- A row of `review_decisions`. -/
structure ReviewDecision where
  decision : RunStatus
  reviewer : String
  note : Option String
  createdAt : Time
deriving DecidableEq, Repr

/-- A row of `verify_runs`, with its artifacts and its reviews. -/
structure VerifyRun where
  sessionId : Id
  requestedBy : String
  launcherId : Option String
  profileName : String
  mode : String
  provider : String
  timeoutSeconds : Int
  command : List String
  status : RunStatus
  reviewRequired : Bool
  summaryText : Option String
  errorText : Option String
  createdAt : Time
  claimedAt : Option Time
  completedAt : Option Time
  reviewedAt : Option Time
  artifacts : List VerifyArtifact
  reviewDecisions : List ReviewDecision
deriving DecidableEq, Repr

structure State where
  sessions : List SessionRow
  runs : List VerifyRun
deriving Repr

/-- Sessions without a verification run. -/
def State.start (sessions : List SessionRow) : State := ⟨sessions, []⟩

inductive VerificationError where
  | noSession (sessionId : Id)
  | notRegistered (profileName : String)
  | disabled (profileName : String)
  | modeNotConfigured (mode profileName available : String)
  | noRun (runId : Id)
  | assignedTo (runId : Id) (owner launcherId : String)
  | badDecision
  | nothingToReview
deriving DecidableEq, Repr

def VerificationError.text : VerificationError → String
  | noSession sessionId => s!"Session `{sessionId}` does not exist."
  | notRegistered profileName =>
      s!"Profile `{profileName}` is not currently registered by any launcher, " ++
        "so verification cannot be resolved."
  | disabled profileName => s!"Verification is disabled for profile `{profileName}`."
  | modeNotConfigured mode profileName available =>
      s!"Verification mode `{mode}` is not configured for profile `{profileName}`. " ++
        s!"Available modes: {available}."
  | noRun runId => s!"Verification run `{runId}` does not exist."
  | assignedTo runId owner launcherId =>
      s!"Verification run `{runId}` is assigned to launcher `{owner}`, not `{launcherId}`."
  | badDecision => "Verification review decision must be `approved` or `rejected`."
  | nothingToReview => "There is no verification run to review in this session."

/-! ## The operations -/

/-- `_require_session`. -/
def requireSession (s : State) (sessionId : Id) : Except VerificationError SessionRow :=
  orRaise s.sessions[sessionId]? (.noSession sessionId)

/-- `_require_run`. -/
def requireRun (s : State) (runId : Id) : Except VerificationError VerifyRun :=
  orRaise s.runs[runId]? (.noRun runId)

/-- `_load_manifest_for_session`, over the manifests of the launchers that are online. -/
def loadManifestForSession (registered : List ProjectManifest) (session : SessionRow) :
    Except VerificationError ProjectManifest :=
  let profileName := Text.orElse session.preset session.projectName
  orRaise (registered.find? (·.profileName = profileName)) (.notRegistered profileName)

/-- The modes a refused request is told about. -/
def availableModes (commands : List (String × List String)) : String :=
  let available := ", ".intercalate ((commands.map (·.1)).insertionSort (· ≤ ·))
  if available = "" then "none" else available

def enqueueRun (s : State) (sessionId : Id) (mode requestedBy : String)
    (registered : List ProjectManifest) (now : Time) : Except VerificationError (State × Id) := do
  let session ← requireSession s sessionId
  let manifest ← loadManifestForSession registered session
  let verification := manifest.verification
  require verification.enabled (.disabled manifest.profileName)
  let command := (verification.commands.lookup mode).getD []
  require (command ≠ [])
    (.modeNotConfigured mode manifest.profileName (availableModes verification.commands))
  let run : VerifyRun := {
    sessionId := sessionId
    requestedBy := requestedBy
    launcherId := none
    profileName := manifest.profileName
    mode := mode
    provider := verification.provider
    timeoutSeconds := verification.runTimeoutSeconds
    command := command
    status := .pending
    reviewRequired := verification.requireOperatorApproval
    summaryText := none
    errorText := none
    createdAt := now
    claimedAt := none
    completedAt := none
    reviewedAt := none
    artifacts := []
    reviewDecisions := [] }
  return ({ s with runs := s.runs ++ [run] }, s.runs.length)

/-- `VerifyClaimRequest.validate_capacity`. -/
def validateCapacity (capacity : Int) : Nat := (max 1 (min capacity 10)).toNat

def VerifyRun.claimedBy (run : VerifyRun) (launcherId : String) (now : Time) : VerifyRun :=
  { run with
    status := .claimed
    launcherId := some launcherId
    claimedAt := run.claimedAt.or (some now) }

def State.pendingRuns (s : State) (profiles : List String) (capacity : Nat) :
    List (VerifyRun × Id) :=
  (orderBy (fun left right => left.createdAt ≤ right.createdAt)
    (selectWhere (fun run => run.status = .pending ∧ run.profileName ∈ profiles) s.runs)).take
      capacity

/-- `claim_runs`, over the profiles the launcher's catalog lists. -/
def claimRuns (s : State) (launcherId : String) (capacity : Nat) (profiles : List String)
    (now : Time) : State × List Id :=
  let pendingRuns := s.pendingRuns profiles capacity
  ({ s with
      runs := pendingRuns.foldl
        (fun runs pending => update runs pending.2 (pending.1.claimedBy launcherId now)) s.runs },
    pendingRuns.map (·.2))

/-- `_resolve_completion_status`. -/
def resolveCompletionStatus (run : VerifyRun) (requestedStatus : String) : RunStatus :=
  let normalized := Text.lower (Text.strip requestedStatus)
  if normalized = "completed" then
    if run.reviewRequired then .reviewPending else .completed
  else .failed

structure Completion where
  runId : Id
  launcherId : String
  status : String
  summaryText : Option String
  errorText : Option String
  artifacts : List VerifyArtifact
deriving DecidableEq, Repr

def VerifyRun.assignedElsewhere (run : VerifyRun) (launcherId : String) : Bool :=
  Text.present run.launcherId && run.launcherId ≠ some launcherId

def VerifyRun.isSettled (run : VerifyRun) : Bool :=
  run.status.isTerminal || run.status = .reviewPending

def VerifyRun.finishedBy (run : VerifyRun) (completion : Completion) (now : Time) : VerifyRun :=
  { run with
    launcherId := some completion.launcherId
    summaryText := completion.summaryText
    errorText := completion.errorText
    completedAt := run.completedAt.or (some now)
    status := resolveCompletionStatus run completion.status
    artifacts := run.artifacts ++ completion.artifacts }

@[simp]
theorem VerifyRun.finishedBy_status (run : VerifyRun) (completion : Completion) (now : Time) :
    (run.finishedBy completion now).status = resolveCompletionStatus run completion.status := by
  simp only [VerifyRun.finishedBy]

def completeRun (s : State) (completion : Completion) (now : Time) :
    Except VerificationError (State × Id) := do
  let run ← requireRun s completion.runId
  let _ ← requireSession s run.sessionId
  require (¬ run.assignedElsewhere completion.launcherId)
    (.assignedTo completion.runId (run.launcherId.getD "") completion.launcherId)
  if run.isSettled then
    return (s, completion.runId)
  return ({ s with runs := update s.runs completion.runId (run.finishedBy completion now) },
    completion.runId)

def State.newestRun (s : State) (sessionId : Id) (keep : VerifyRun → Bool) :
    Option (VerifyRun × Id) :=
  firstBy (fun left right => right.createdAt ≤ left.createdAt)
    (selectWhere (fun run => run.sessionId = sessionId ∧ keep run) s.runs)

/-- `_latest_run`. -/
def State.latestRun (s : State) (sessionId : Id) (preferReviewPending : Bool) :
    Option (VerifyRun × Id) :=
  let reviewPending :=
    if preferReviewPending then s.newestRun sessionId fun run => run.status = .reviewPending
    else none
  reviewPending.or (s.newestRun sessionId fun _ => true)

structure Review where
  sessionId : Id
  decision : String
  reviewer : String
  note : Option String
deriving DecidableEq, Repr

def Review.status? (review : Review) : Option RunStatus :=
  if review.decision = "approved" then some .approved
  else if review.decision = "rejected" then some .rejected
  else none

def VerifyRun.reviewedBy (run : VerifyRun) (review : Review) (decision : RunStatus) (now : Time) :
    VerifyRun :=
  { run with
    reviewDecisions := run.reviewDecisions ++ [⟨decision, review.reviewer, review.note, now⟩]
    status := decision
    reviewedAt := run.reviewedAt.or (some now) }

def reviewLatest (s : State) (review : Review) (now : Time) :
    Except VerificationError (State × Id) := do
  let decision ← orRaise review.status? .badDecision
  let _ ← requireSession s review.sessionId
  let found ← orRaise (s.latestRun review.sessionId true) .nothingToReview
  return ({ s with runs := update s.runs found.2 (found.1.reviewedBy review decision now) }, found.2)

inductive Operation where
  | enqueueRun (sessionId : Id) (mode requestedBy : String) (registered : List ProjectManifest)
  | claimRuns (launcherId : String) (capacity : Int) (profiles : List String)
  | completeRun (completion : Completion)
  | reviewLatest (review : Review)
deriving Repr

structure Deed where
  operation : Operation
  now : Time
deriving Repr

def perform (s : State) (deed : Deed) : Except VerificationError State :=
  match deed.operation with
  | .enqueueRun sessionId mode requestedBy registered =>
      Prod.fst <$> enqueueRun s sessionId mode requestedBy registered deed.now
  | .claimRuns launcherId capacity profiles =>
      .ok (claimRuns s launcherId (validateCapacity capacity) profiles deed.now).1
  | .completeRun completion => Prod.fst <$> completeRun s completion deed.now
  | .reviewLatest review => Prod.fst <$> reviewLatest s review deed.now

/-- One request; a refused one is rolled back. -/
def step (s : State) (deed : Deed) : State := committed s (perform s deed)

/-! ## What one request does to a run -/

def Completes (s : State) (deed : Deed) (id : Id) (status : RunStatus) : Prop :=
  ∃ completion run, deed.operation = .completeRun completion ∧ completion.runId = id ∧
    s.runs[id]? = some run ∧ (s.sessions[run.sessionId]?).isSome ∧
    run.assignedElsewhere completion.launcherId = false ∧ run.isSettled = false ∧
    resolveCompletionStatus run completion.status = status

def Reviews (s : State) (deed : Deed) (id : Id) (decision : RunStatus) : Prop :=
  ∃ review run, deed.operation = .reviewLatest review ∧ review.status? = some decision ∧
    (s.sessions[review.sessionId]?).isSome ∧ s.latestRun review.sessionId true = some (run, id)

inductive Moves (s : State) (deed : Deed) (id : Id) : RunStatus → RunStatus → Prop where
  | stays (status : RunStatus) : Moves s deed id status status
  | claimed : Moves s deed id .pending .claimed
  | completed {before after : RunStatus} (hcompletes : Completes s deed id after)
      (hopen : before = .pending ∨ before = .claimed) : Moves s deed id before after
  | reviewed {before after : RunStatus} (hreviews : Reviews s deed id after) :
      Moves s deed id before after

variable {s t : State} {id : Id} {deed : Deed}

theorem latestRun_eq_some {sessionId : Id} {prefer : Bool} {found : VerifyRun × Id}
    (hfound : s.latestRun sessionId prefer = some found) : s.runs[found.2]? = some found.1 := by
  unfold State.latestRun at hfound
  rw [Option.or_eq_some_iff] at hfound
  rcases hfound with hpreferred | ⟨_, hnewest⟩
  · cases prefer with
    | false => cases hpreferred
    | true => exact (firstBy_selectWhere hpreferred).1
  · exact (firstBy_selectWhere hnewest).1

theorem claimRuns_run {launcherId : String} {capacity : Nat} {profiles : List String} {now : Time}
    {row : VerifyRun}
    (hrow : (claimRuns s launcherId capacity profiles now).1.runs[id]? = some row) :
    s.runs[id]? = some row ∨
      ∃ run, s.runs[id]? = some run ∧ run.status = .pending ∧ row = run.claimedBy launcherId now := by
  have hpending : ∀ found ∈ s.pendingRuns profiles capacity,
      s.runs[found.2]? = some found.1 ∧ found.1.status = .pending := by
    intro found hfound
    have hselected := mem_selectWhere.1 (mem_orderBy.1 (List.mem_of_mem_take hfound))
    exact ⟨hselected.1, (of_decide_eq_true hselected.2).1⟩
  change ((s.pendingRuns profiles capacity).foldl _ s.runs)[id]? = some row at hrow
  generalize s.pendingRuns profiles capacity = pendingRuns at hpending hrow
  induction pendingRuns using List.reverseRecOn generalizing row with
  | nil => exact Or.inl hrow
  | append_singleton earlier last ih =>
      rw [List.foldl_append] at hrow
      rcases getElem?_update_eq_some hrow with ⟨hid, hclaimed⟩ | hearlier
      · have hlast := hpending last (List.mem_append_right earlier List.mem_cons_self)
        rw [hid] at hlast
        exact Or.inr ⟨last.1, hlast.1, hlast.2, hclaimed⟩
      · exact ih (fun found hfound => hpending found (List.mem_append_left [last] hfound)) hearlier

theorem resolveCompletionStatus_eq (run : VerifyRun) (requestedStatus : String) :
    resolveCompletionStatus run requestedStatus = .failed ∨
      resolveCompletionStatus run requestedStatus =
        (if run.reviewRequired then .reviewPending else .completed) := by
  unfold resolveCompletionStatus
  by_cases hcompleted : Text.lower (Text.strip requestedStatus) = "completed"
  · rw [if_pos hcompleted]
    exact Or.inr rfl
  · rw [if_neg hcompleted]
    exact Or.inl rfl

theorem open_of_not_settled {run : VerifyRun} (hopen : run.isSettled = false) :
    run.status = .pending ∨ run.status = .claimed := by
  unfold VerifyRun.isSettled at hopen
  cases hstatus : run.status <;> rw [hstatus] at hopen <;> simp [RunStatus.isTerminal] at hopen ⊢

theorem status?_isDecided {review : Review} {decision : RunStatus}
    (hdecision : review.status? = some decision) : decision.isDecided := by
  unfold Review.status? at hdecision
  split at hdecision
  · rw [← Option.some.inj hdecision]
    rfl
  · split at hdecision
    · rw [← Option.some.inj hdecision]
      rfl
    · cases hdecision

def Stood (s : State) (deed : Deed) (id : Id) (row : VerifyRun) : Prop :=
  ∃ run, s.runs[id]? = some run ∧ row.reviewRequired = run.reviewRequired ∧
    Moves s deed id run.status row.status

theorem Stood.same (deed : Deed) {row : VerifyRun} (hrow : s.runs[id]? = some row) :
    Stood s deed id row :=
  ⟨row, hrow, rfl, .stays _⟩

theorem enqueueRun_run {sessionId added : Id} {mode requestedBy : String}
    {registered : List ProjectManifest} {row : VerifyRun}
    (hdone : enqueueRun s sessionId mode requestedBy registered deed.now = .ok (t, added))
    (hrow : t.runs[id]? = some row) :
    (s.runs[id]? = none ∧ row.status = .pending) ∨ Stood s deed id row := by
  unfold enqueueRun at hdone
  simp only [bind_eq_ok, pure_eq_ok, Prod.mk.injEq] at hdone
  obtain ⟨session, _, manifest, _, _, _, _, _, hruns, _⟩ := hdone
  rw [← hruns] at hrow
  rcases getElem?_concat_eq_some hrow with hstood | ⟨hid, hnew⟩
  · exact Or.inr (.same deed hstood)
  · refine Or.inl ⟨?_, ?_⟩
    · rw [hid]
      exact List.getElem?_eq_none (Nat.le_refl _)
    · rw [hnew]

theorem completeRun_run {completion : Completion} {settled : Id} {row : VerifyRun}
    (hdeed : deed.operation = .completeRun completion)
    (hdone : completeRun s completion deed.now = .ok (t, settled)) (hrow : t.runs[id]? = some row) :
    Stood s deed id row := by
  unfold completeRun at hdone
  simp only [bind_eq_ok, require_eq_ok] at hdone
  obtain ⟨run, hrun, session, hsession, _, howner, hdone⟩ := hdone
  rw [requireRun, orRaise_eq_ok] at hrun
  rw [requireSession, orRaise_eq_ok] at hsession
  split at hdone
  · rw [pure_eq_ok, Prod.mk.injEq] at hdone
    rw [← hdone.1] at hrow
    exact .same deed hrow
  · rename_i hopen
    rw [Bool.not_eq_true] at hopen howner
    rw [pure_eq_ok, Prod.mk.injEq] at hdone
    rw [← hdone.1] at hrow
    rcases getElem?_update_eq_some hrow with ⟨hid, hfinished⟩ | hstood
    · rw [hid] at hrun
      rw [hfinished]
      have hcompletes : Completes s deed id (resolveCompletionStatus run completion.status) :=
        ⟨completion, run, hdeed, hid, hrun, Option.isSome_iff_exists.mpr ⟨session, hsession⟩,
          howner, hopen, rfl⟩
      have hmoves : Moves s deed id run.status (run.finishedBy completion deed.now).status := by
        rw [VerifyRun.finishedBy_status]
        exact .completed hcompletes (open_of_not_settled hopen)
      exact ⟨run, hrun, rfl, hmoves⟩
    · exact .same deed hstood

theorem reviewLatest_run {review : Review} {reviewed : Id} {row : VerifyRun}
    (hdeed : deed.operation = .reviewLatest review)
    (hdone : reviewLatest s review deed.now = .ok (t, reviewed)) (hrow : t.runs[id]? = some row) :
    Stood s deed id row := by
  unfold reviewLatest at hdone
  simp only [bind_eq_ok, pure_eq_ok, Prod.mk.injEq, orRaise_eq_ok] at hdone
  obtain ⟨decision, hdecision, session, hsession, found, hfound, hruns, _⟩ := hdone
  rw [requireSession, orRaise_eq_ok] at hsession
  have hrun := latestRun_eq_some hfound
  rw [← hruns] at hrow
  rcases getElem?_update_eq_some hrow with ⟨hid, hdecided⟩ | hstood
  · subst hid
    rw [hdecided]
    exact ⟨found.1, hrun, rfl, .reviewed ⟨review, found.1, hdeed, hdecision,
      Option.isSome_iff_exists.mpr ⟨session, hsession⟩, hfound⟩⟩
  · exact .same deed hstood

theorem step_run {row : VerifyRun} (hrow : (step s deed).runs[id]? = some row) :
    (s.runs[id]? = none ∧ row.status = .pending) ∨ Stood s deed id row := by
  cases hdone : perform s deed with
  | error =>
      rw [step, hdone] at hrow
      exact Or.inr (.same deed hrow)
  | ok t =>
      rw [step, hdone, committed_ok] at hrow
      unfold perform at hdone
      split at hdone
      · obtain ⟨⟨after, added⟩, hqueued, hafter⟩ := map_eq_ok.1 hdone
        rw [← hafter] at hrow
        exact enqueueRun_run hqueued hrow
      · rw [← Except.ok.inj hdone] at hrow
        rcases claimRuns_run hrow with hstood | ⟨run, hrun, hpending, hclaimed⟩
        · exact Or.inr (.same deed hstood)
        · have hmoves : Moves s deed id run.status row.status := by
            rw [hclaimed, hpending]
            exact .claimed
          exact Or.inr ⟨run, hrun, by rw [hclaimed]; rfl, hmoves⟩
      · rename_i completion hdeed
        obtain ⟨⟨after, settled⟩, hcompleted, hafter⟩ := map_eq_ok.1 hdone
        rw [← hafter] at hrow
        exact Or.inr (completeRun_run hdeed hcompleted hrow)
      · rename_i review hdeed
        obtain ⟨⟨after, reviewed⟩, hreviewed, hafter⟩ := map_eq_ok.1 hdone
        rw [← hafter] at hrow
        exact Or.inr (reviewLatest_run hdeed hreviewed hrow)

def CompletedThenReviewed (s : State) (done : List Deed) (id : Id) : Prop :=
  ∃ first completion second review status decision,
    first ++ [completion] <+: second ∧ second ++ [review] <+: done ∧
      Completes (run step s first) completion id status ∧
      Reviews (run step s second) review id decision

def ReviewsWaiting (s : State) (deed : Deed) : Prop :=
  ∀ review decision, deed.operation = .reviewLatest review → review.status? = some decision →
    (s.sessions[review.sessionId]?).isSome →
    ∀ found ∈ s.latestRun review.sessionId true,
      found.1.status = .reviewPending ∨ found.1.status = decision

/-! ## Reviews that wait for a completion keep the gate -/

theorem claimRuns_length (s : State) (launcherId : String) (capacity : Nat)
    (profiles : List String) (now : Time) :
    (claimRuns s launcherId capacity profiles now).1.runs.length = s.runs.length := by
  change ((s.pendingRuns profiles capacity).foldl _ s.runs).length = _
  induction s.pendingRuns profiles capacity using List.reverseRecOn with
  | nil => rfl
  | append_singleton earlier last ih =>
      rw [List.foldl_append]
      exact List.length_set.trans ih

theorem step_length (s : State) (deed : Deed) : s.runs.length ≤ (step s deed).runs.length := by
  cases hdone : perform s deed with
  | error => rw [step, hdone, committed_error]
  | ok =>
      rw [step, hdone, committed_ok]
      unfold perform at hdone
      split at hdone
      · obtain ⟨⟨after, added⟩, hqueued, hafter⟩ := map_eq_ok.1 hdone
        unfold enqueueRun at hqueued
        simp only [bind_eq_ok, pure_eq_ok, Prod.mk.injEq] at hqueued
        obtain ⟨session, _, manifest, _, _, _, _, _, hruns, _⟩ := hqueued
        rw [← hafter, ← hruns, List.length_append]
        exact Nat.le_add_right _ _
      · rw [← Except.ok.inj hdone, claimRuns_length]
      · obtain ⟨⟨after, settled⟩, hcompleted, hafter⟩ := map_eq_ok.1 hdone
        unfold completeRun at hcompleted
        simp only [bind_eq_ok] at hcompleted
        obtain ⟨run, _, session, _, _, _, hcompleted⟩ := hcompleted
        split at hcompleted
        · rw [pure_eq_ok, Prod.mk.injEq] at hcompleted
          rw [← hafter, ← hcompleted.1]
        · rw [pure_eq_ok, Prod.mk.injEq] at hcompleted
          rw [← hafter, ← hcompleted.1]
          exact Nat.le_of_eq List.length_set.symm
      · obtain ⟨⟨after, reviewed⟩, hreviewed, hafter⟩ := map_eq_ok.1 hdone
        unfold reviewLatest at hreviewed
        simp only [bind_eq_ok, pure_eq_ok, Prod.mk.injEq] at hreviewed
        obtain ⟨decision, _, session, _, found, _, hruns, _⟩ := hreviewed
        rw [← hafter, ← hruns]
        exact Nat.le_of_eq List.length_set.symm

theorem step_moves (deed : Deed) {run : VerifyRun} (hrun : s.runs[id]? = some run) :
    ∃ row : VerifyRun, (step s deed).runs[id]? = some row ∧
      Moves s deed id run.status row.status := by
  have hlt := Nat.lt_of_lt_of_le (List.getElem?_eq_some_iff.mp hrun).1 (step_length s deed)
  have hrow : (step s deed).runs[id]? = some (step s deed).runs[id] :=
    List.getElem?_eq_getElem hlt
  rcases step_run hrow with ⟨hnone, _⟩ | ⟨found, hfound, _, hmoves⟩
  · rw [hrun] at hnone
    cases hnone
  · rw [Option.some.inj (hrun.symm.trans hfound)]
    exact ⟨_, hrow, hmoves⟩

def RunStatus.mayBecome (before after : RunStatus) : Bool :=
  before = after || (before = .pending && after = .claimed) ||
    (before ∈ [RunStatus.pending, .claimed] &&
      after ∈ [RunStatus.failed, .completed, .reviewPending]) ||
    (before = .reviewPending && after.isDecided)

theorem Completes.status {status : RunStatus} (hcompletes : Completes s deed id status) :
    status ∈ [RunStatus.failed, .completed, .reviewPending] := by
  obtain ⟨completion, run, _, _, _, _, _, _, hstatus⟩ := hcompletes
  rcases resolveCompletionStatus_eq run completion.status with hfailed | hcompleted
  · rw [hstatus] at hfailed
    rw [hfailed]
    decide
  · rw [hstatus] at hcompleted
    rw [hcompleted]
    split <;> decide

theorem Reviews.isDecided {decision : RunStatus} (hreviews : Reviews s deed id decision) :
    decision.isDecided := by
  obtain ⟨review, run, _, hdecision, _⟩ := hreviews
  exact status?_isDecided hdecision

theorem Reviews.before {decision : RunStatus} {run : VerifyRun}
    (hreviews : Reviews s deed id decision) (hwaiting : ReviewsWaiting s deed)
    (hrun : s.runs[id]? = some run) : run.status = .reviewPending ∨ run.status = decision := by
  obtain ⟨review, found, hdeed, hdecision, hsession, hfound⟩ := hreviews
  have hstatus := hwaiting review decision hdeed hdecision hsession (found, id) hfound
  rw [Option.some.inj (hrun.symm.trans (latestRun_eq_some hfound))]
  exact hstatus

theorem Moves.mayBecome {run : VerifyRun} {after : RunStatus}
    (hmoves : Moves s deed id run.status after) (hwaiting : ReviewsWaiting s deed)
    (hrun : s.runs[id]? = some run) : run.status.mayBecome after := by
  generalize hbefore : run.status = before at hmoves
  cases hmoves with
  | stays => simp [RunStatus.mayBecome]
  | claimed => rfl
  | completed hcompletes hopen =>
      have hafter := hcompletes.status
      rcases hopen with hpending | hclaimed
      · simp [RunStatus.mayBecome, hpending, hafter]
      · simp [RunStatus.mayBecome, hclaimed, hafter]
  | reviewed hreviews =>
      have hdecided := hreviews.isDecided
      rcases hreviews.before hwaiting hrun with hpending | hsame
      · rw [hpending] at hbefore
        simp [RunStatus.mayBecome, ← hbefore, hdecided]
      · rw [hsame] at hbefore
        simp [RunStatus.mayBecome, hbefore]

theorem RunStatus.mayBecome_ended {before after : RunStatus} (hmay : before.mayBecome after)
    (hended : before = .failed ∨ before.isDecided) : after = before := by
  revert hmay hended
  cases before <;> cases after <;> decide

theorem step_keeps_ended (hwaiting : ReviewsWaiting s deed) {run : VerifyRun}
    (hrun : s.runs[id]? = some run) (hended : run.status = .failed ∨ run.status.isDecided) :
    ∃ row : VerifyRun, (step s deed).runs[id]? = some row ∧ row.status = run.status := by
  obtain ⟨row, hrow, hmoves⟩ := step_moves deed hrun
  exact ⟨row, hrow, RunStatus.mayBecome_ended (hmoves.mayBecome hwaiting hrun) hended⟩

theorem CompletedThenReviewed.mono {done more : List Deed}
    (hdone : CompletedThenReviewed s done id) (hmore : done <+: more) :
    CompletedThenReviewed s more id := by
  obtain ⟨first, completion, second, review, status, decision, hfirst, hsecond, hboth⟩ := hdone
  exact ⟨first, completion, second, review, status, decision, hfirst, hsecond.trans hmore, hboth⟩

theorem Completes.reviewRequired {run : VerifyRun} {status : RunStatus}
    (hcompletes : Completes s deed id status) (hrun : s.runs[id]? = some run)
    (hrequired : run.reviewRequired) : status ≠ .completed := by
  obtain ⟨completion, found, _, _, hfound, _, _, _, hstatus⟩ := hcompletes
  rw [← hstatus, ← Option.some.inj (hrun.symm.trans hfound)]
  rcases resolveCompletionStatus_eq run completion.status with hfailed | hcompleted
  · rw [hfailed]
    decide
  · rw [hcompleted, if_pos hrequired]
    decide

end OpsCure.Verification
