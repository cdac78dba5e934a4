/-
Does a quorum close count the whole log?  The engine reads the log through a
query that returns at most a thousand events, the oldest ones, so the gate and
the whole log agree exactly when the quorum is not first reached later.
-/
import OpsCure.PolicyEngine

namespace OpsCure.PolicyEngine

open Contract V2

/-- The distinct actors with a close-intent ratify anywhere in the log. -/
def wholeLogRatifiers (store : Store) (operationId : Id) : Nat :=
  (closeRatifiers store operationId (store.log operationId).zipIdx).card

/-- The distinct actors with a close-intent ratify among the oldest events of
the log, as many as one query returns. -/
def oldestRatifiers (store : Store) (operationId : Id) : Nat :=
  (closeRatifiers store operationId (((store.log operationId).zipIdx).take 1000)).card

theorem oldestRatifiers_le (store : Store) (operationId : Id) :
    oldestRatifiers store operationId ≤ wholeLogRatifiers store operationId :=
  Finset.card_le_card (closeRatifiers_mono (List.take_sublist 1000 _))

theorem checkCloseAdmissible_quorum_iff {store : Store} {operationId : Id}
    {operation : Operation} {closerActorId resolution : Option String} {done : Unit}
    (hquorum : operation.operationPolicy.closePolicy = .quorum)
    (hartifact : checkArtifactGate operation resolution = .ok ()) :
    checkCloseAdmissible store operationId operation closerActorId resolution = .ok done ↔
      operation.operationPolicy.minRatifiers.getD 0 ≤ oldestRatifiers store operationId := by
  unfold checkCloseAdmissible
  rw [hartifact, hquorum]
  exact requireQuorumRatify_eq_ok_iff

/-- The gate admits a close exactly when the whole log holds the quorum, if and
only if a log that holds it already does so in its first thousand events. -/
theorem quorum_counts_whole_log_iff (store : Store) (operationId : Id)
    (operation : Operation) (closerActorId resolution : Option String)
    (hquorum : operation.operationPolicy.closePolicy = .quorum)
    (hartifact : checkArtifactGate operation resolution = .ok ()) :
    (checkCloseAdmissible store operationId operation closerActorId resolution = .ok () ↔
        operation.operationPolicy.minRatifiers.getD 0 ≤ wholeLogRatifiers store operationId) ↔
      (operation.operationPolicy.minRatifiers.getD 0 ≤ wholeLogRatifiers store operationId →
        operation.operationPolicy.minRatifiers.getD 0 ≤ oldestRatifiers store operationId) := by
  rw [checkCloseAdmissible_quorum_iff hquorum hartifact]
  have hle := oldestRatifiers_le store operationId
  constructor
  · intro hagree hwhole
    exact hagree.mpr hwhole
  · intro hearly
    exact ⟨fun hwindow => le_trans hwindow hle, hearly⟩

def quorumOfOne : OperationPolicy where
  closePolicy := .quorum
  joinPolicy := .selfOrInvite
  contextCompaction := .off
  maxRounds := none
  minRatifiers := some 1
  botOpen := true
  bindRemoteTask := true
  requiresArtifact := false
  maxRounds_pos := defaultOperationPolicy.maxRounds_pos
  minRatifiers_pos := by simp
  quorum_minRatifiers := by simp

def speechBy (actorId kind : String) (intent : Option String) : Event :=
  { actorId := actorId
    kind := kind
    payload := { text := .str "", lifecycle := none, expectedResponse := none, intent := intent }
    addressedToActorIds := []
    repliesToEventId := none
    privateToActorIds := none
    createdAt := 0 }

def inquiryWithLog (events : List Event) : Operation :=
  { spaceId := "chat:t"
    kind := .inquiry
    state := .opened
    title := "t"
    intent := none
    v1ConversationId := 0
    isGeneral := false
    policy := some quorumOfOne
    resolution := none
    resolutionSummary := none
    closedByActorId := none
    createdAt := 0
    updatedAt := 0
    closedAt := none
    participants := []
    events := events
    artifacts := [] }

/-- In a log of one ratify, the gate counts it: `quorum_counts_whole_log_iff` at a
short log. -/
theorem quorum_counts_short_log :
    let operation := inquiryWithLog [speechBy "@a" "chat.speech.ratify" (some "close")]
    let store : Store := ⟨[], [operation]⟩
    (checkCloseAdmissible store 0 operation none (some "answered") = .ok () ↔
        1 ≤ wholeLogRatifiers store 0) ↔
      (1 ≤ wholeLogRatifiers store 0 → 1 ≤ oldestRatifiers store 0) :=
  quorum_counts_whole_log_iff _ 0 _ none (some "answered") rfl rfl

def claims : List Event :=
  List.replicate 1000 (speechBy "@a" "chat.speech.claim" none)

theorem length_claims : claims.length = 1000 :=
  List.length_replicate

def lateRatify : Operation :=
  inquiryWithLog (claims ++ [speechBy "@a" "chat.speech.ratify" (some "close")])

/-- The late ratify fills the quorum, and the gate does not see it. -/
theorem quorum_misses_late_ratify :
    let store : Store := ⟨[], [lateRatify]⟩
    ¬(checkCloseAdmissible store 0 lateRatify none (some "answered") = .ok () ↔
      lateRatify.operationPolicy.minRatifiers.getD 0 ≤ wholeLogRatifiers store 0) := by
  intro store hagree
  let ratify := speechBy "@a" "chat.speech.ratify" (some "close")
  have hlog : store.log 0 = claims ++ [ratify] := rfl
  have hlate : (ratify, 1000) ∈ (store.log 0).zipIdx := by
    rw [hlog, List.mem_zipIdx_iff_getElem?, ← length_claims]
    exact List.getElem?_concat_length
  have hwhole : 1 ≤ wholeLogRatifiers store 0 := by
    refine Finset.card_pos.mpr ⟨"@a", ?_⟩
    simp only [closeRatifiers, closeRatifies, List.mem_toFinset, List.mem_map,
      List.mem_filter]
    exact ⟨(ratify, 1000), ⟨hlate, by decide⟩, rfl⟩
  have hwindow : oldestRatifiers store 0 = 0 := by
    have hnone : closeRatifies store 0 (((store.log 0).zipIdx).take 1000) = [] := by
      rw [← Table.zipIdx_take, hlog, List.take_left' length_claims]
      refine List.filter_eq_nil_iff.mpr fun row hrow => ?_
      have hclaim := List.eq_of_mem_replicate (List.fst_mem_of_mem_zipIdx hrow)
      rw [hclaim]
      simp only [Bool.and_eq_true, not_and]
      exact fun hratify => absurd hratify (by decide)
    simp only [oldestRatifiers, closeRatifiers, hnone, List.map_nil, List.toFinset_nil,
      Finset.card_empty]
  rw [checkCloseAdmissible_quorum_iff rfl rfl, hwindow] at hagree
  exact absurd (hagree.mpr hwhole) (by decide)

end OpsCure.PolicyEngine
