/-
Is `max_rounds` a hard cap on an operation's speech?  Speech acts and the policy
sweeper's defers pass the gate; what the system emits by itself does not, so the
cap holds along a run exactly when no emission posts speech on a full operation.
-/
import OpsCure.Library.Run
import OpsCure.PolicySweeper
import OpsCure.ProgressionSweeper
import OpsCure.Speech

namespace OpsCure.RoundCap

open Session Run Contract V2 OperationMirror Chat

def speechCount (store : Store) (operationId : Id) : Nat :=
  (store.log operationId).countP fun event => isSpeechKind event.kind

/-- The operation exists, and its policy caps its rounds at `n`. -/
def Capped (store : Store) (operationId : Id) (n : Nat) : Prop :=
  ∃ operation, store.getOperation operationId = some operation ∧
    operation.operationPolicy.maxRounds = some n

theorem speechCount_le_countSpeechEvents (store : Store) (operationId : Id) :
    speechCount store operationId ≤ store.countSpeechEvents operationId := by
  apply List.countP_mono_left
  intro event _ hspeech
  exact likeSpeech_of_isSpeechKind hspeech

theorem speechCount_congr {store other : Store}
    (hoperations : other.operations = store.operations) (operationId : Id) :
    speechCount other operationId = speechCount store operationId := by
  rw [speechCount, speechCount, Store.log_congr hoperations]

variable {operationId : Id} {n : Nat} {s : State}

theorem Capped.grows {before after : Store} (hcapped : Capped before operationId n)
    (hgrows : before.Grows after) : Capped after operationId n := by
  rcases hcapped with ⟨operation, hoperation, hmax⟩
  rcases hgrows.getOperation hoperation with ⟨joined, more, hafter⟩
  exact ⟨operation.extend joined more, hafter, hmax⟩

variable {eventId : Option EventId} {conversationId : Id} {clock : Clock}

theorem speechCount_addMessage {after : State} {row : Conversation} {message : Message}
    {options : MirrorOptions} {now : Time}
    (hadded : addMessage s row message options now = .ok (after, eventId)) (operationId : Id) :
    speechCount after.store operationId = speechCount s.store operationId +
      (if row.v2OperationId = some operationId ∧ isSpeechKind message.eventKind then 1
        else 0) := by
  rw [speechCount, addMessage_log hadded, List.countP_append]
  congr 1
  by_cases hmirror : row.v2OperationId = some operationId
  · by_cases hspeech : isSpeechKind message.eventKind
    · simp [hmirror, hspeech, eventOf, mirrorRecord]
    · simp [hmirror, hspeech, eventOf, mirrorRecord]
  · simp [hmirror]

theorem isSpeechKind_overSpeech : isSpeechKind eventConversationOverSpeech = false := by
  decide

/-- A gated speech act leaves at most `n` speech events. -/
theorem submitSession_within {config : Config} {after : State} {request : SpeechRequest}
    (hcapped : Capped s.store operationId n) (hcount : speechCount s.store operationId ≤ n)
    (hok : submitSession config s conversationId request clock = .ok (eventId, after)) :
    speechCount after.store operationId ≤ n := by
  rcases submitSession_eq_ok hok with ⟨row, gated, posted, options, turned, hsubmitted⟩
  have hoperations := (checkSpeechPolicy_eq_ok hsubmitted.gates).1.operations
  have hspeech : speechCount posted.store operationId ≤ n := by
    rw [speechCount_addMessage hsubmitted.speech, speechCount_congr hoperations]
    by_cases hmirror : row.v2OperationId = some operationId
    · -- the gate counted this operation's log before the act was posted
      rcases hcapped with ⟨operation, hoperation, hmax⟩
      have hgate := (checkSpeechPolicy_eq_ok hsubmitted.gates).2 operationId operation hmirror
        hoperation
      have hrounds := (PolicyEngine.checkSpeechAdmissible_eq_ok_iff.1 hgate).1
      have hroom := PolicyEngine.checkMaxRounds_eq_ok_iff.1 hrounds n hmax
      have hle := speechCount_le_countSpeechEvents s.store operationId
      split
      · omega
      · omega
    · simpa [hmirror] using hcount
  rcases hsubmitted.left with rfl | ⟨warningId, hwarned⟩
  · exact hspeech
  · have hquiet : isSpeechKind (overSpeechMessage config.policy conversationId turned
        (clock 3)).eventKind = false := isSpeechKind_overSpeech
    have hsame := speechCount_addMessage hwarned operationId
    simp only [hquiet, Bool.false_eq_true, and_false, if_false, Nat.add_zero] at hsame
    rw [hsame]
    exact hspeech

theorem submitSpeech_within (config : Config) (conversationId : Id) (request : SpeechRequest)
    (clock : Clock) (hcapped : Capped s.store operationId n)
    (hcount : speechCount s.store operationId ≤ n) :
    speechCount (exec (submitSpeech config conversationId request clock) s).2.store
      operationId ≤ n := by
  have hoperations := (registers_provision config s request.actorName).operations
  have hasked : Capped (provision config s request.actorName).store operationId n :=
    hcapped.grows (.of_operations hoperations)
  have hfew : speechCount (provision config s request.actorName).store operationId ≤ n := by
    rwa [speechCount_congr hoperations]
  rcases submitSpeech_state config conversationId request clock s with hleft | ⟨_, hsession⟩
  · rw [hleft]
    exact hfew
  · exact submitSession_within hasked hfew hsession

inductive Producer where
  | submit (conversationId : Id) (request : SpeechRequest) (clock : Clock)
  | autoDefer (plan : PolicySweeper.DeferPlan) (clock : Clock)
  | progression (action : Progression.SweepAction) (conversationId : Id) (clock : Clock)
  | emit (conversationId : Id) (kind : String) (addressedToHandle : Option String)
      (repliesToV2EventId : Option EventId) (payload : List (String × Json)) (clock : Clock)

def step (config : Config) (s : State) : Producer → State
  | .submit conversationId request clock =>
      (exec (submitSpeech config conversationId request clock) s).2
  | .autoDefer plan clock => (exec (PolicySweeper.emitDefer config plan clock) s).2
  | .progression action conversationId clock =>
      (exec (Progression.emitAction action conversationId clock) s).2
  | .emit conversationId kind addressedToHandle repliesToV2EventId payload clock =>
      (exec (emitSystemEvent conversationId kind addressedToHandle repliesToV2EventId payload
        clock) s).2

/-- What a producer emits in the system's name: the conversation, the kind, and the
event replied to. -/
def emission : Producer → Option (Id × String × Option EventId)
  | .submit _ _ _ | .autoDefer _ _ => none
  | .progression action conversationId _ =>
      some (conversationId, Progression.emittedKind action.action,
        some action.repliesToEventId)
  | .emit conversationId kind _ repliesToV2EventId _ _ =>
      some (conversationId, kind, repliesToV2EventId)

/-- A speech-category emission lands on the operation while it is full. -/
def Overruns (operationId : Id) (n : Nat) (s : State) (producer : Producer) : Prop :=
  ∃ conversationId kind parent row, emission producer = some (conversationId, kind, parent) ∧
    s.conversations[conversationId]? = some row ∧ row.v2OperationId = some operationId ∧
    (parent.all fun id => (s.store.getEvent id).isSome) ∧
    isSpeechKind kind ∧ n ≤ speechCount s.store operationId

theorem emit_within_iff {kind : String} {addressedToHandle : Option String}
    {parent : Option EventId} {payload : List (String × Json)}
    (hcapped : Capped s.store operationId n) (hcount : speechCount s.store operationId ≤ n) :
    speechCount (exec (emitSystemEvent conversationId kind addressedToHandle parent payload
        clock) s).2.store operationId ≤ n ↔
      ¬∃ row, s.conversations[conversationId]? = some row ∧
        row.v2OperationId = some operationId ∧
        (parent.all fun id => (s.store.getEvent id).isSome) ∧
        isSpeechKind kind ∧ n ≤ speechCount s.store operationId := by
  rw [emitSystemEvent_state]
  rcases hsession : emitSession s conversationId kind addressedToHandle parent payload clock
    with error | ⟨eventId, left⟩
  · -- refused: nothing was posted, and nothing could have been
    refine iff_of_true hcount ?_
    rintro ⟨row, hrow, hmirror, hparent, -, -⟩
    rcases hcapped with ⟨operation, hoperation, -⟩
    rcases emitSession_posts hrow hmirror hoperation hparent with ⟨after, hok⟩
    rw [hsession] at hok
    cases hok
  · change speechCount left.store operationId ≤ n ↔ _
    rcases emitSession_eq_ok.1 hsession with ⟨row, hrow, hadded⟩
    have hgain : speechCount left.store operationId = speechCount s.store operationId +
        (if row.v2OperationId = some operationId ∧ isSpeechKind kind then 1 else 0) :=
      speechCount_addMessage hadded operationId
    have hexists : row.v2OperationId = some operationId →
        parent.all fun id => (s.store.getEvent id).isSome := by
      intro hmirror
      rcases addMessage_eq_ok.1 hadded with ⟨hnone, _⟩ | ⟨_, _, _, _, hparent, _⟩
      · rw [hnone] at hmirror
        cases hmirror
      · exact hparent
    by_cases hspeaks : row.v2OperationId = some operationId ∧ isSpeechKind kind
    · rw [if_pos hspeaks] at hgain
      constructor
      · rintro hfits ⟨_, -, -, -, -, hfull⟩
        omega
      · intro hroom
        by_contra hover
        exact hroom ⟨row, hrow, hspeaks.1, hexists hspeaks.1, hspeaks.2, by omega⟩
    · rw [if_neg hspeaks] at hgain
      refine iff_of_true (by omega) ?_
      rintro ⟨other, hother, hmirror, -, hspeech, -⟩
      rw [hrow] at hother
      cases hother
      exact hspeaks ⟨hmirror, hspeech⟩

theorem step_grows (config : Config) (s : State) (producer : Producer) :
    s.store.Grows (step config s producer).store := by
  cases producer with
  | submit conversationId request clock =>
      exact submitSpeech_grows config conversationId request clock s
  | autoDefer plan clock =>
      simp only [step, PolicySweeper.emitDefer]
      split
      · exact .of_operations rfl
      · exact submitSpeech_grows config plan.conversationId _ clock s
  | progression action conversationId clock =>
      exact emitSystemEvent_grows conversationId _ _ _ _ clock s
  | emit conversationId kind addressedToHandle parent payload clock =>
      exact emitSystemEvent_grows conversationId kind addressedToHandle parent payload clock s

theorem step_within_iff (config : Config) (hcapped : Capped s.store operationId n)
    (hcount : speechCount s.store operationId ≤ n) (producer : Producer) :
    speechCount (step config s producer).store operationId ≤ n ↔
      ¬Overruns operationId n s producer := by
  have hsilent : emission producer = none → ¬Overruns operationId n s producer := by
    rintro hnone ⟨_, _, _, _, hsome, _⟩
    rw [hnone] at hsome
    cases hsome
  cases producer with
  | submit conversationId request clock =>
      exact iff_of_true
        (submitSpeech_within config conversationId request clock hcapped hcount) (hsilent rfl)
  | autoDefer plan clock =>
      refine iff_of_true ?_ (hsilent rfl)
      simp only [step, PolicySweeper.emitDefer]
      split
      · exact hcount
      · exact submitSpeech_within config plan.conversationId _ clock hcapped hcount
  | progression =>
      apply (emit_within_iff hcapped hcount).trans
      simp [Overruns, emission]
  | emit =>
      apply (emit_within_iff hcapped hcount).trans
      simp [Overruns, emission]

/-- Along every run of the four producers, in any order, the operation stays within
its cap throughout if and only if no emission of speech lands on it while it is full. -/
theorem max_rounds_hard_cap_iff (config : Config) (s : State) (operationId : Id) (n : Nat)
    (producers : List Producer) (hcapped : Capped s.store operationId n)
    (hcount : speechCount s.store operationId ≤ n) :
    Throughout (step config) (fun t => speechCount t.store operationId ≤ n) s producers ↔
      Along (step config) (fun t producer => ¬Overruns operationId n t producer) s
        producers := by
  apply throughout_iff_along_under (I := fun t => Capped t.store operationId n) hcapped
  · exact fun t producer ht => ht.grows (step_grows config t producer)
  · exact hcount
  · exact fun t producer ht hfew => step_within_iff config ht hfew producer

/-- An inquiry capped at one round, in which `alice` asked `bob` her one question. -/
def fullRoom : State :=
  (exec (submitSpeech plainConfig 1
    { speechOf "alice" .question with addressedTo := some "bob" } fun _ => 0)
    (roomWith .inquiry inquiry_ne_general (some [("max_rounds", .int 1)]))).2

/-- What the progression sweeper does about the unanswered question. -/
def chase (action : Progression.Decision) (reason : String) : Producer :=
  .progression
    { operationId := 1
      action := action
      reason := reason
      targetHandle := "@bob"
      repliesToEventId := ⟨1, 1⟩ } 1 fun _ => 0

def nudges : List Producer :=
  [chase .nudge "idle ≥30.0s, channel=actor_id", chase .nudge "idle ≥30.0s, channel=actor_id"]

/-- A question of one round is asked and nudged about: within the cap throughout. -/
theorem nudges_within_cap :
    Throughout (step plainConfig) (fun t => speechCount t.store 1 ≤ 1) fullRoom nudges ↔
      Along (step plainConfig) (fun t producer => ¬Overruns 1 1 t producer) fullRoom nudges :=
  max_rounds_hard_cap_iff plainConfig fullRoom 1 1 nudges ⟨_, rfl, rfl⟩ (by decide)

/-- After two nudges the sweeper escalates with a defer, which is speech: the sweeper
decides so, and the operation exceeds its cap of one. -/
theorem escalation_exceeds_cap :
    let escalation := chase .defer "escalating after 2 nudges"
    let chased := run (step plainConfig) fullRoom nudges
    (Progression.plans .usual chased (seconds 60)).map
        (fun plan => Producer.progression plan.1 plan.2 fun _ => 0) = [escalation] ∧
      ¬Throughout (step plainConfig) (fun t => speechCount t.store 1 ≤ 1) fullRoom
        (nudges ++ [escalation]) := by
  refine ⟨rfl, ?_⟩
  intro hall
  have hover := hall _ List.prefix_rfl
  exact absurd hover (by decide)

end OpsCure.RoundCap
