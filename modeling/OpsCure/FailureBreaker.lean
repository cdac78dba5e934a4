/-
What the agent loop remembers of its posts (`agent_loop.py`, `_post_claim`), and what its next
prompt says of it (`_build_prompt`): the last rejection on an operation, and how often a kind of
speech was refused there.  The counter is called one of consecutive failures; a success on the
operation alone sets it back.
-/
import OpsCure.Library.Dict
import OpsCure.Library.Run
import OpsCure.Library.Streaks

namespace OpsCure.AgentLoop

open Run Streaks

/-! ## The loop -/

/-- What the next prompt is told of a post that was refused. -/
structure PostRejection where
  detail : String
  rejectedKind : String
  httpStatus : String
  transient : String
deriving DecidableEq, Repr

structure LoopState where
  lastPostRejection : List (String × PostRejection)
  consecutiveKindFailures : List (String × List (String × Nat))
deriving DecidableEq, Repr

def LoopState.start : LoopState := ⟨[], []⟩

/-- How a reply of one kind ends: it is refused before it is sent, for a prefix in its middle, or
the request is answered, or it is not. -/
inductive Outcome where
  | refused
  | success
  | httpError (code : Nat) (detailText : String)
  | networkError
deriving DecidableEq, Repr

/-- A reply on an operation.  Its kind is the one of its prefix, or of the prefix in its middle. -/
structure Post where
  opId : String
  kind : String
  outcome : Outcome
deriving DecidableEq, Repr

/-- The first characters of a text. -/
def clip (text : String) (limit : Nat) : String := String.ofList (text.toList.take limit)

def midBodyDetail (probeKind : String) : String :=
  s!"Detected structured prefix [{probeKind.toUpper}] mid-body. Per spec §8.1.1, [KIND] MUST be " ++
    "the very first non-whitespace characters of your reply. Re-write with the prefix at " ++
    "position 0; any leading prose makes the parser fall back to plain CLAIM and your " ++
    "structured intent is lost."

/-- `400 <= e.code < 500`. -/
def isClientError (code : Nat) : Bool := 400 ≤ code && code < 500

def LoopState.opFailures (s : LoopState) (opId : String) : List (String × Nat) :=
  (s.consecutiveKindFailures.lookup opId).getD []

def LoopState.failures (s : LoopState) (opId kind : String) : Nat :=
  ((s.opFailures opId).lookup kind).getD 0

/-- What `_post_claim` remembers of a reply. -/
def step (s : LoopState) (post : Post) : LoopState :=
  match post.outcome with
  | .refused =>
      { s with
        lastPostRejection := Dict.set s.lastPostRejection post.opId
          ⟨midBodyDetail post.kind, post.kind, "0-self", "false"⟩ }
  | .success =>
      { lastPostRejection := Dict.pop s.lastPostRejection post.opId
        consecutiveKindFailures := Dict.pop s.consecutiveKindFailures post.opId }
  | .httpError code detailText =>
      { lastPostRejection := Dict.set s.lastPostRejection post.opId
          ⟨clip detailText 500, post.kind, toString code, if 500 ≤ code then "true" else "false"⟩
        consecutiveKindFailures :=
          if isClientError code then
            Dict.set s.consecutiveKindFailures post.opId
              (Dict.set (s.opFailures post.opId) post.kind (s.failures post.opId post.kind + 1))
          else s.consecutiveKindFailures }
  | .networkError => s

/-! ## The prompt -/

/-- How many failures in a row make the prompt insist. -/
def insistAfter : Nat := 2

/-- The breaker: the prompt insists on another kind. -/
def LoopState.insists (s : LoopState) (opId : String) : Bool :=
  match s.lastPostRejection.lookup opId with
  | none => false
  | some rejected =>
      rejected.transient ≠ "true" && insistAfter ≤ s.failures opId rejected.rejectedKind

/-! ## Failures in a row -/

/-- A post that was refused for a fault of its own, of one kind. -/
def clientErrorOf (kind : String) (post : Post) : Bool :=
  match post.outcome with
  | .httpError code _ => isClientError code && post.kind = kind
  | _ => false

def succeeds (post : Post) : Bool := post.outcome = .success

def postsOf (opId : String) (posts : List Post) : List Post := posts.filter (·.opId = opId)

/-- The counters of an operation tell how many client errors of their kind it ends with, and the
prompt insists exactly when these are as many as it takes. -/
structure CountsStreaks (posts : List Post) (opId : String) : Prop where
  counts : ∀ kind, (run step .start posts).failures opId kind =
    streak (clientErrorOf kind) (postsOf opId posts)
  insists : (run step .start posts).insists opId = true ↔
    ∃ kind, insistAfter ≤ streak (clientErrorOf kind) (postsOf opId posts)

theorem postsOf_concat (opId : String) (posts : List Post) (post : Post) :
    postsOf opId (posts ++ [post]) =
      if post.opId = opId then postsOf opId posts ++ [post] else postsOf opId posts := by
  rw [postsOf, List.filter_append, List.filter_singleton]
  by_cases hown : post.opId = opId
  · simp only [decide_eq_true hown, if_pos hown]
    rfl
  · simp only [decide_eq_false hown, if_neg hown]
    exact List.append_nil _

theorem not_succeeds_of_clientError {kind : String} (post : Post)
    (herror : clientErrorOf kind post = true) : succeeds post = false := by
  unfold clientErrorOf at herror
  cases houtcome : post.outcome with
  | success =>
      rw [houtcome] at herror
      cases herror
  | refused => simp [succeeds, houtcome]
  | httpError => simp [succeeds, houtcome]
  | networkError => simp [succeeds, houtcome]

theorem failures_step (s : LoopState) (post : Post) (opId kind : String) :
    (step s post).failures opId kind =
      if post.opId = opId then
        if succeeds post then 0
        else if clientErrorOf kind post then s.failures opId kind + 1 else s.failures opId kind
      else s.failures opId kind := by
  by_cases hown : post.opId = opId
  · rw [if_pos hown]
    subst hown
    cases houtcome : post.outcome with
    | refused => simp [step, succeeds, clientErrorOf, LoopState.failures, LoopState.opFailures, houtcome]
    | success =>
        simp [step, succeeds, LoopState.failures, LoopState.opFailures, houtcome,
          Dict.lookup_pop]
    | networkError => simp [step, succeeds, clientErrorOf, houtcome]
    | httpError code =>
        cases hclient : isClientError code with
        | false =>
            simp [step, succeeds, clientErrorOf, LoopState.failures, LoopState.opFailures,
              houtcome, hclient]
        | true =>
            by_cases hkind : post.kind = kind
            · subst hkind
              simp [step, succeeds, clientErrorOf, LoopState.failures, LoopState.opFailures,
                houtcome, hclient, Dict.lookup_set]
            · have hother : ¬ kind = post.kind := fun hsame => hkind hsame.symm
              simp [step, succeeds, clientErrorOf, LoopState.failures, LoopState.opFailures,
                houtcome, hclient, Dict.lookup_set, hkind, hother]
  · rw [if_neg hown]
    have hother : ¬ opId = post.opId := fun hsame => hown hsame.symm
    cases houtcome : post.outcome with
    | refused => simp [step, LoopState.failures, LoopState.opFailures, houtcome]
    | success =>
        simp [step, LoopState.failures, LoopState.opFailures, houtcome, Dict.lookup_pop, hother]
    | networkError => simp [step, houtcome]
    | httpError code =>
        cases hclient : isClientError code with
        | false => simp [step, LoopState.failures, LoopState.opFailures, houtcome, hclient]
        | true =>
            simp [step, LoopState.failures, LoopState.opFailures, houtcome, hclient,
              Dict.lookup_set, hother]

/-- A counter tells the client errors of its kind since the last success on its operation. -/
theorem failures_run (posts : List Post) (opId kind : String) :
    (run step .start posts).failures opId kind =
      hitsSince succeeds (clientErrorOf kind) (postsOf opId posts) := by
  induction posts using List.reverseRecOn with
  | nil => rfl
  | append_singleton posts post ih =>
      rw [run_concat, failures_step, postsOf_concat, ih]
      split
      · rw [hitsSince_concat]
      · rfl

theorem rejection_step_other {s : LoopState} {post : Post} {opId : String}
    (hother : ¬ post.opId = opId) :
    (step s post).lastPostRejection.lookup opId = s.lastPostRejection.lookup opId := by
  have hne : ¬ opId = post.opId := fun hsame => hother hsame.symm
  cases houtcome : post.outcome with
  | refused => simp [step, houtcome, Dict.lookup_set, hne]
  | success => simp [step, houtcome, Dict.lookup_pop, hne]
  | networkError => simp [step, houtcome]
  | httpError => simp [step, houtcome, Dict.lookup_set, hne]

theorem rejection_of_streak {posts : List Post} {opId kind : String}
    (hstreak : 0 < streak (clientErrorOf kind) (postsOf opId posts)) :
    ∃ rejected, (run step .start posts).lastPostRejection.lookup opId = some rejected ∧
      rejected.rejectedKind = kind ∧ rejected.transient = "false" := by
  induction posts using List.reverseRecOn with
  | nil => exact absurd hstreak (Nat.lt_irrefl 0)
  | append_singleton posts post ih =>
      rw [postsOf_concat] at hstreak
      rw [run_concat]
      by_cases hown : post.opId = opId
      · rw [if_pos hown, streak_concat] at hstreak
        split at hstreak
        · next herror =>
            unfold clientErrorOf at herror
            cases houtcome : post.outcome with
            | httpError code detailText =>
                simp only [houtcome, Bool.and_eq_true, decide_eq_true_eq] at herror
                obtain ⟨hclient, hkind⟩ := herror
                have hless : ¬ 500 ≤ code := by
                  have := (Bool.and_eq_true _ _ ▸ hclient : _ ∧ _).2
                  exact Nat.not_le.mpr (of_decide_eq_true this)
                refine ⟨⟨clip detailText 500, post.kind, toString code, "false"⟩, ?_, hkind, rfl⟩
                simp [step, houtcome, Dict.lookup_set, hown, hless]
            | refused => rw [houtcome] at herror; cases herror
            | success => rw [houtcome] at herror; cases herror
            | networkError => rw [houtcome] at herror; cases herror
        · exact absurd hstreak (Nat.lt_irrefl 0)
      · rw [if_neg hown] at hstreak
        rw [rejection_step_other hown]
        exact ih hstreak

/-- The counters of an operation tell its streaks exactly when, since its last success, no client
error of a kind is followed by anything but client errors of that kind. -/
theorem counts_streaks_iff (posts : List Post) (opId : String) :
    CountsStreaks posts opId ↔
      ∀ kind, Unbroken succeeds (clientErrorOf kind) (postsOf opId posts) := by
  have hcounter : ∀ kind, (run step .start posts).failures opId kind =
      streak (clientErrorOf kind) (postsOf opId posts) ↔
        Unbroken succeeds (clientErrorOf kind) (postsOf opId posts) := by
    intro kind
    rw [failures_run]
    exact hitsSince_eq_streak_iff not_succeeds_of_clientError _
  constructor
  · intro hcounts kind
    exact (hcounter kind).mp (hcounts.counts kind)
  · intro hunbroken
    have hcounts := fun kind => (hcounter kind).mpr (hunbroken kind)
    refine ⟨hcounts, ?_, ?_⟩
    · intro hinsists
      unfold LoopState.insists at hinsists
      split at hinsists
      · cases hinsists
      · next rejected _ =>
          refine ⟨rejected.rejectedKind, ?_⟩
          rw [← hcounts]
          exact of_decide_eq_true (Bool.and_eq_true _ _ ▸ hinsists : _ ∧ _).2
    · rintro ⟨kind, hlimit⟩
      have hpositive : 0 < streak (clientErrorOf kind) (postsOf opId posts) :=
        Nat.lt_of_lt_of_le (by decide) hlimit
      obtain ⟨rejected, hfound, hkind, htransient⟩ := rejection_of_streak hpositive
      have hreached : insistAfter ≤ (run step .start posts).failures opId rejected.rejectedKind := by
        rw [hkind, hcounts]
        exact hlimit
      simp [LoopState.insists, hfound, htransient, hreached]

/-- A claim and an objection are refused in turn: the prompt speaks of two claims in a row. -/
theorem turns_not_in_a_row :
    ¬ CountsStreaks
      [⟨"op", "claim", .httpError 400 "kind not allowed"⟩,
        ⟨"op", "object", .httpError 400 "kind not allowed"⟩,
        ⟨"op", "claim", .httpError 400 "kind not allowed"⟩] "op" := by
  intro hcounts
  exact absurd (hcounts.counts "claim") (by decide)

end OpsCure.AgentLoop
