/-
What `unaddressed_speech_count` counts.  A watch beside the run tells the rounds: a round
lasts while the same speaker is expected, and its tally is of those who chime in.  The
column agrees with the tally as long as whoever sets the expected speaker resets it.
-/
import OpsCure.Histories

namespace OpsCure.Chat

open Fallible Session Table Run Contract V2 OperationMirror RemoteTask Api

/-! ## Rounds -/

def warnings (log : List Event) : Nat :=
  log.countP fun event => event.kind = eventConversationOverSpeech

def warningsOf (s : State) (conversationId : Id) : Nat :=
  match (s.conversations[conversationId]?).bind (·.v2OperationId) with
  | none => 0
  | some operationId => warnings (s.store.log operationId)

def expectedIn (s : State) (conversationId : Id) : Option String :=
  (s.conversations[conversationId]?).bind (·.expectedSpeaker)

/-- Someone else than the expected speaker speaks and addresses nobody. -/
def chimesIn (config : Config) (s : State) (conversationId : Id) : Act → Bool
  | .move (.submitSpeech id request clock) =>
      id = conversationId && (exec (submitSpeech config id request clock) s).1.isOk &&
        (computeEffectiveAddr (primaryAddress request) request.expectedResponse).toOption =
          some none &&
        Text.present (expectedIn s conversationId) &&
        some request.actorName ≠ expectedIn s conversationId
  | _ => false

/-- A round: those who chimed in so far, and the warnings recorded before it began. -/
structure Round where
  tally : Nat
  warned : Nat
deriving DecidableEq, Repr

def Round.start : Round := ⟨0, 0⟩

/-- A new round begins when the expected speaker is set or cleared. -/
def Round.next (api : ApiConfig) (conversationId : Id) (round : Round) (s : State)
    (act : Act) : Round :=
  let after := systemStep api s act
  if expectedIn after conversationId ≠ expectedIn s conversationId then
    ⟨0, warningsOf after conversationId⟩
  else if chimesIn api.chat s conversationId act then
    { round with tally := round.tally + 1 }
  else round

def watch (api : ApiConfig) (conversationId : Id) (w : State × Round) (act : Act) :
    State × Round :=
  (systemStep api w.1 act, w.2.next api conversationId w.1 act)

def GaugeTells (policy : ChatPolicyConfig) (conversationId : Id) (s : State)
    (round : Round) : Prop :=
  ∀ row ∈ s.conversations[conversationId]?, row.unaddressedSpeechCount = round.tally ∧
    warningsOf s conversationId =
      round.warned + if policy.overSpeechThreshold ≤ round.tally then 1 else 0

instance (policy : ChatPolicyConfig) (conversationId : Id) (s : State) (round : Round) :
    Decidable (GaugeTells policy conversationId s round) :=
  inferInstanceAs (Decidable (∀ row ∈ s.conversations[conversationId]?, _ ∧ _))

def TaskRequest.nextSpeaker (expected : Option String) : TaskRequest → Option String
  | .claim request _ => some request.actorId
  | .complete _ | .fail _ => none
  | _ => expected

theorem echoRow_gauge (config : Config) (taskId : Id) (request : TaskRequest) (task : Task)
    (row : Conversation) (now : Time) :
    (echoRow row ((request.plan config taskId).emission task) now).gauge =
      (request.nextSpeaker row.expectedSpeaker, row.unaddressedSpeechCount) := by
  cases request <;> rfl

/-- A hand-off or a task event sets another speaker only while nobody has chimed in, and no
over-speech warning is emitted from outside. -/
def KeepsRounds (api : ApiConfig) (s : State) : Act → Prop
  | .move (.transferOwner conversationId byActor newOwner _ _) =>
      ∀ row, HandoffPasses api.chat s conversationId byActor row →
        row.expectedSpeaker ≠ some newOwner → row.unaddressedSpeechCount = 0
  | .move (.coordinate conversationId request clocks) =>
      ∀ taskId row, EchoPasses api.chat s conversationId taskId request clocks row →
        row.expectedSpeaker ≠ request.nextSpeaker row.expectedSpeaker →
          row.unaddressedSpeechCount = 0
  | .move (.emitSystemEvent conversationId kind _ parent _ _) =>
      kind = eventConversationOverSpeech → ∀ row, ¬ EmitPasses s conversationId parent row
  | _ => True

/-! ## Acts that are no speech in the conversation -/

/-- A conversation after some writes of an act: its gauge as it was or turned once, with
the warnings it had; or it is new. -/
def Turned (s : State) (may : Gates) (id : Id) (row : Conversation)
    (operation : V2.Operation) : Prop :=
  (∃ old before, Mirror s id old before ∧
      (row.gauge = old.gauge ∨ may.turn id old.gauge row.gauge) ∧
      warnings operation.events = warnings before.events) ∨
    s.conversations.length ≤ id ∧ row.unaddressedSpeechCount = 0 ∧
      warnings operation.events = 0

theorem warnings_remains {row marked : V2.Operation} (hremains : row.Remains marked) :
    warnings marked.events = warnings row.events := by
  have hcount : ∀ events : List Event, warnings events =
      (events.map Event.said).countP fun said => said.2.1 = eventConversationOverSpeech := by
    intro events
    rw [List.countP_map]
    rfl
  rw [hcount, hcount, hremains.said]

theorem warnings_rowAfter {row : V2.Operation} {record : MessageRecord} (now : Time)
    (hkind : record.eventKind ≠ eventConversationOverSpeech) :
    warnings (rowAfter row record now).events = warnings row.events := by
  have hnot : decide ((eventOf record now).kind = eventConversationOverSpeech) = false :=
    decide_eq_false hkind
  simp [warnings, rowAfter, List.countP_append, hnot]

variable {id : Id} {row : Conversation}

theorem turned_wrote {s u : State} {may : Gates} {after : V2.Operation} (hmirrored : Mirrored s)
    (hdescends : Descends s u) (hfrom : ∀ old new, may.turn id old new →
      ∃ row₀, s.conversations[id]? = some row₀ ∧ old = row₀.gauge)
    (hunwarned : ∀ author, ¬ may.post id author eventConversationOverSpeech)
    (hbefore : ∀ old before, Mirror u id old before → Turned s may id old before)
    (hwrote : Wrote s may u id row after) : Turned s may id row after := by
  have hnew : id = u.conversations.length → s.conversations.length ≤ id := by
    intro hid
    by_contra hlt
    rcases hmirrored.mirror (Nat.not_le.mp hlt) with ⟨old, before, hold⟩
    rcases hdescends id old before hold with ⟨found, _, hfound, _⟩
    have hlt' := (List.getElem?_eq_some_iff.mp hfound.conversation).1
    exact absurd hid hlt'.ne
  cases hwrote with
  | kept old before hmirror hsame hturn hremains =>
      rw [Turned, warnings_remains hremains]
      rcases hbefore old before hmirror with
        ⟨first, opened, hfirst, hgauge, hwarned⟩ | ⟨hid, hquiet, hwarned⟩
      · left
        refine ⟨first, opened, hfirst, ?_, hwarned⟩
        rcases hturn with hsame | hturn
        · rw [hsame]
          exact hgauge
        · -- whatever turned the gauge before, a turn starts from the gauge of the act
          rcases hfrom _ _ hturn with ⟨row₀, hrow₀, hstart⟩
          rw [hfirst.conversation] at hrow₀
          cases hrow₀
          rw [hstart] at hturn
          exact Or.inr hturn
      · right
        rcases hturn with hsame | hturn
        · have hcount : row.unaddressedSpeechCount = old.unaddressedSpeechCount :=
            congrArg Prod.snd hsame
          exact ⟨hid, hcount.trans hquiet, hwarned⟩
        · rcases hfrom _ _ hturn with ⟨row₀, hrow₀, _⟩
          have hlt := (List.getElem?_eq_some_iff.mp hrow₀).1
          exact absurd hlt (Nat.not_lt.mpr hid)
  | founded now hid hopened hunresolved hunowned hunaddressed hquiet hfounded =>
      right
      rw [hfounded.events]
      exact ⟨hnew hid, hquiet, rfl⟩
  | announced policy now before record sent hid hopened hunresolved hquiet hfounded hauthor
      hkind haddressed hafter =>
      right
      have hother : record.eventKind ≠ eventConversationOverSpeech := by
        rw [hkind]
        decide
      rw [hafter, warnings_rowAfter sent hother, hfounded.events]
      exact ⟨hnew hid, hquiet, rfl⟩
  | said before row₀ record now hmirror hknown hstate hmay hafter =>
      have hother : record.eventKind ≠ eventConversationOverSpeech := by
        intro hkind
        rw [hkind] at hmay
        exact hunwarned _ hmay
      rw [Turned, hafter, warnings_rowAfter now hother]
      exact hbefore row before hmirror
  | closed old before record now closedBy resolution summary closedAt operationClosedAt
      operationNow hmirror hopen hmay hkind hrow hremains =>
      have hother : record.eventKind ≠ eventConversationOverSpeech := by
        rw [hkind]
        decide
      rw [Turned, warnings_remains hremains, warnings_rowAfter now hother, hrow]
      exact hbefore old before hmirror

theorem Act.turn_from {api : ApiConfig} {s : State} {act : Act} {old new : Option String × Nat}
    (hturn : (act.gates api s).turn id old new) :
    ∃ row₀, s.conversations[id]? = some row₀ ∧ old = row₀.gauge := by
  cases act with
  | move taken =>
      change MayTurn api.chat s taken id old new at hturn
      cases hturn with
      | spoke hpasses => exact ⟨_, hpasses.found, rfl⟩
      | handedOff hpasses => exact ⟨_, hpasses.found, rfl⟩
      | echoed hpasses => exact ⟨_, hpasses.found, rfl⟩
  | finishAppend => exact hturn.elim

/-! ## The watch -/

structure Watched (policy : ChatPolicyConfig) (conversationId : Id) (s : State)
    (round : Round) : Prop where
  tells : GaugeTells policy conversationId s round
  unopened : s.conversations.length ≤ conversationId → round = .start

theorem warningsOf_eq {s : State} (hmirrored : Mirrored s) {operation : V2.Operation}
    (hmirror : Mirror s id row operation) : warningsOf s id = warnings operation.events := by
  rw [warningsOf, hmirror.conversation, Option.bind_some,
    hmirrored.linked id row hmirror.conversation]
  change warnings (s.store.log id) = _
  rw [Store.log_eq_of_getOperation hmirror.operation]

theorem expectedIn_eq {s : State} (hrow : s.conversations[id]? = some row) :
    expectedIn s id = row.expectedSpeaker := by
  rw [expectedIn, hrow]
  rfl

theorem expectedIn_unopened {s : State} (hnew : s.conversations.length ≤ id) :
    expectedIn s id = none := by
  rw [expectedIn, List.getElem?_eq_none hnew]
  rfl

section Watch

variable {api : ApiConfig} {conversationId : Id} {s : State} {round : Round} {act : Act}

theorem next_of_same (hexpected : expectedIn (systemStep api s act) conversationId =
      expectedIn s conversationId)
    (hsilent : chimesIn api.chat s conversationId act = false) :
    round.next api conversationId s act = round := by
  simp [Round.next, hexpected, hsilent]

theorem next_of_set (hexpected : expectedIn (systemStep api s act) conversationId ≠
      expectedIn s conversationId) :
    round.next api conversationId s act =
      ⟨0, warningsOf (systemStep api s act) conversationId⟩ := by
  simp [Round.next, hexpected]

theorem next_of_chimesIn (hexpected : expectedIn (systemStep api s act) conversationId =
      expectedIn s conversationId)
    (hchimes : chimesIn api.chat s conversationId act = true) :
    round.next api conversationId s act = { round with tally := round.tally + 1 } := by
  simp [Round.next, hexpected, hchimes]

theorem undue (policy : ChatPolicyConfig) :
    (if policy.overSpeechThreshold ≤ 0 then 1 else 0) = 0 := by
  have hpos := policy.overSpeechThreshold_pos
  exact if_neg (by omega)

/-- An act that is no speech in the conversation keeps the watch, when it sets another
speaker only while the gauge is at zero. -/
theorem watched_of_turned (hmirrored : Mirrored s) (hafter : Mirrored (systemStep api s act))
    (hwatched : Watched api.chat.policy conversationId s round)
    (hlength : s.conversations.length ≤ (systemStep api s act).conversations.length)
    (hsilent : chimesIn api.chat s conversationId act = false)
    (hquiet : ∀ row new, s.conversations[conversationId]? = some row →
      (act.gates api s).turn conversationId row.gauge new →
      new.2 = row.unaddressedSpeechCount ∧
        (row.expectedSpeaker ≠ new.1 → row.unaddressedSpeechCount = 0))
    (hturned : ∀ row operation, Mirror (systemStep api s act) conversationId row operation →
      Turned s (act.gates api s) conversationId row operation) :
    Watched api.chat.policy conversationId (systemStep api s act)
      (round.next api conversationId s act) := by
  by_cases hlt : conversationId < (systemStep api s act).conversations.length
  · rcases hafter.mirror hlt with ⟨row, operation, hmirror⟩
    have hrow := hmirror.conversation
    have hexpected := expectedIn_eq hrow
    have hwarned := warningsOf_eq hafter hmirror
    refine ⟨?_, fun hnot => absurd hlt (Nat.not_lt.mpr hnot)⟩
    intro found hfound
    rw [Option.mem_def, hrow] at hfound
    cases hfound
    rcases hturned row operation hmirror with
      ⟨old, before, hold, hgauge, hsame⟩ | ⟨hnew, hzero, hnone⟩
    · rcases hwatched.tells old hold.conversation with ⟨hcount, hwarnings⟩
      rw [warningsOf_eq hmirrored hold] at hwarnings
      have holdExpected := expectedIn_eq hold.conversation
      have hgauge' : row.unaddressedSpeechCount = old.unaddressedSpeechCount ∧
          (old.expectedSpeaker ≠ row.expectedSpeaker → old.unaddressedSpeechCount = 0) := by
        rcases hgauge with hkept | hturn
        · have hspeaker : row.expectedSpeaker = old.expectedSpeaker := congrArg Prod.fst hkept
          exact ⟨congrArg Prod.snd hkept, fun hne => absurd hspeaker.symm hne⟩
        · exact hquiet old row.gauge hold.conversation hturn
      by_cases hspeaker : row.expectedSpeaker = old.expectedSpeaker
      · rw [next_of_same (by rw [hexpected, holdExpected, hspeaker]) hsilent, hgauge'.1, hwarned,
          hsame]
        exact ⟨hcount, hwarnings⟩
      · rw [next_of_set (by rw [hexpected, holdExpected]; exact hspeaker), hgauge'.1, undue]
        exact ⟨hgauge'.2 (Ne.symm hspeaker), rfl⟩
    · have hstart := hwatched.unopened hnew
      by_cases hspeaker : row.expectedSpeaker = none
      · rw [next_of_same (by rw [hexpected, expectedIn_unopened hnew, hspeaker]) hsilent,
          hstart, hwarned, hnone, Round.start, undue]
        exact ⟨hzero, rfl⟩
      · rw [next_of_set (by rw [hexpected, expectedIn_unopened hnew]; exact hspeaker), undue]
        exact ⟨hzero, rfl⟩
  · have hnew := Nat.not_lt.mp hlt
    have hstart := hwatched.unopened (hlength.trans hnew)
    have hexpected : expectedIn (systemStep api s act) conversationId =
        expectedIn s conversationId := by
      rw [expectedIn_unopened hnew, expectedIn_unopened (hlength.trans hnew)]
    rw [next_of_same hexpected hsilent]
    constructor
    · intro row hrow
      rw [List.getElem?_eq_none hnew] at hrow
      cases hrow
    · exact fun _ => hstart

end Watch

/-! ## Speech in the conversation -/

theorem warnings_append (log more : List Event) :
    warnings (log ++ more) = warnings log + warnings more :=
  List.countP_append

theorem Spoken.turn {config : Config} {s after : State} {conversationId : Id}
    {request : SpeechRequest} {clock : Clock} {eventId : Option EventId}
    {effective : Option String} {gated posted : State}
    (hspoken : Spoken config s conversationId request clock eventId after row effective gated
      posted) (hlinked : row.v2OperationId = some conversationId) :
    let turn := takeTurn config.policy row request.actorName effective
    (∃ turned, after.conversations[conversationId]? = some turned ∧
      turned.gauge = turn.1.gauge) ∧
    warnings (after.store.log conversationId) =
      warnings (s.store.log conversationId) + if turn.2 then 1 else 0 := by
  intro turn
  rcases hspoken.speech with ⟨expected, hspeech⟩
  have hsilent : speechEventKind request.kind ≠ eventConversationOverSpeech := by
    cases request.kind <;> decide
  have hposted : warnings (posted.store.log conversationId) =
      warnings (s.store.log conversationId) := by
    rw [addMessage_log hspeech, if_pos hlinked, warnings_append,
      Store.log_congr hspoken.registered.operations]
    simp [warnings, eventOf, mirrorRecord, speechMessage, hsilent]
  have hfound : posted.conversations[conversationId]? = some row := by
    rw [(addMessage_frame hspeech).2.1, hspoken.registered.conversations]
    exact hspoken.passes.found
  have hturned := hspoken.turned
  rw [takeTurn_spokenRow] at hturned
  let turned := spokenRow turn.1 (clock 0)
  have hwritten : (posted.setConversation conversationId turned).conversations[conversationId]? =
      some turned := getElem?_update_self hfound
  unfold endTurn at hturned
  by_cases htrips : turn.2 = true
  · rw [if_pos htrips] at hturned
    simp only [bind_eq_ok, pure_eq_ok, Prod.exists] at hturned
    rcases hturned with ⟨_, warningId, hwarned, rfl⟩
    have hkept : turned.v2OperationId = some conversationId :=
      (takeTurn_v2OperationId _ _ _ _).trans hlinked
    constructor
    · refine ⟨turned, ?_, rfl⟩
      rw [(addMessage_frame hwarned).2.1]
      exact hwritten
    · rw [addMessage_log hwarned, if_pos hkept, warnings_append, if_pos htrips, ← hposted]
      rfl
  · rw [if_neg htrips] at hturned
    cases hturned
    refine ⟨⟨turned, hwritten, rfl⟩, ?_⟩
    rw [if_neg htrips, Nat.add_zero]
    exact hposted

def OutOfTurn (row : Conversation) (actorName : String) (effective : Option String) : Prop :=
  effective = none ∧ Text.present row.expectedSpeaker ∧ some actorName ≠ row.expectedSpeaker

theorem takeTurn_cases (policy : ChatPolicyConfig) (row : Conversation) (actorName : String)
    (effective : Option String) :
    let turn := takeTurn policy row actorName effective
    (turn.1.expectedSpeaker ≠ row.expectedSpeaker ∧ turn.1.unaddressedSpeechCount = 0 ∧
      turn.2 = false) ∨
    (turn.1.expectedSpeaker = row.expectedSpeaker ∧
      turn.1.unaddressedSpeechCount = row.unaddressedSpeechCount ∧ turn.2 = false ∧
      ¬ OutOfTurn row actorName effective) ∨
    (turn.1.expectedSpeaker = row.expectedSpeaker ∧
      turn.1.unaddressedSpeechCount = row.unaddressedSpeechCount + 1 ∧
      turn.2 = decide (row.unaddressedSpeechCount + 1 = policy.overSpeechThreshold) ∧
      OutOfTurn row actorName effective) := by
  intro turn
  cases effective with
  | some addressed =>
      by_cases hsame : some addressed = row.expectedSpeaker
      · right
        left
        refine ⟨hsame, ?_, rfl, fun hout => absurd hout.1 (by simp)⟩
        simp [turn, takeTurn, hsame]
      · left
        refine ⟨hsame, ?_, rfl⟩
        simp [turn, takeTurn, hsame]
  | none =>
      by_cases hauthor : some actorName = row.expectedSpeaker
      · left
        have hturn : turn = ({ row with expectedSpeaker := none, unaddressedSpeechCount := 0 },
            false) := if_pos hauthor
        rw [hturn, ← hauthor]
        exact ⟨(Option.some_ne_none actorName).symm, rfl, rfl⟩
      · right
        by_cases hpresent : Text.present row.expectedSpeaker
        · right
          have hturn : turn = ({ row with
              unaddressedSpeechCount := row.unaddressedSpeechCount + 1 },
              decide (row.unaddressedSpeechCount + 1 = policy.overSpeechThreshold)) :=
            (if_neg hauthor).trans (if_pos hpresent)
          rw [hturn]
          exact ⟨rfl, rfl, rfl, rfl, hpresent, hauthor⟩
        · left
          have hturn : turn = (row, false) := (if_neg hauthor).trans (if_neg hpresent)
          rw [hturn]
          exact ⟨rfl, rfl, rfl, fun hout => hpresent hout.2.1⟩

section SpeechWatched

variable {api : ApiConfig} {conversationId : Id} {s : State} {round : Round}
  {request : SpeechRequest} {clock : Clock}

theorem chimesIn_speech :
    chimesIn api.chat s conversationId (.move (.submitSpeech conversationId request clock)) =
      ((exec (submitSpeech api.chat conversationId request clock) s).1.isOk &&
        (computeEffectiveAddr (primaryAddress request) request.expectedResponse).toOption =
          some none &&
        Text.present (expectedIn s conversationId) &&
        some request.actorName ≠ expectedIn s conversationId) := by
  simp [chimesIn]

theorem watched_refused (hwatched : Watched api.chat.policy conversationId s round)
    {error : ChatError}
    (hexec : exec (submitSpeech api.chat conversationId request clock) s =
      (.error error, provision api.chat s request.actorName)) :
    let act := Act.move (.submitSpeech conversationId request clock)
    Watched api.chat.policy conversationId (systemStep api s act)
      (round.next api conversationId s act) := by
  intro act
  have hstep : systemStep api s act = provision api.chat s request.actorName :=
    congrArg Prod.snd hexec
  have hregisters := registers_provision api.chat s request.actorName
  have hsilent : chimesIn api.chat s conversationId act = false := by
    rw [chimesIn_speech, hexec]
    rfl
  have hexpected : expectedIn (systemStep api s act) conversationId =
      expectedIn s conversationId := by
    rw [hstep, expectedIn, expectedIn, hregisters.conversations]
  have hwarned : warningsOf (systemStep api s act) conversationId =
      warningsOf s conversationId := by
    rw [hstep, warningsOf, warningsOf, hregisters.conversations]
    simp only [Store.log_congr hregisters.operations]
  rw [next_of_same hexpected hsilent]
  constructor
  · intro found hfound
    rw [hstep, hregisters.conversations] at hfound
    rw [hwarned]
    exact hwatched.tells found hfound
  · rw [hstep, hregisters.conversations]
    exact hwatched.unopened

/-- An accepted one turns the gauge and the round alike. -/
theorem watched_spoken (hmirrored : Mirrored s)
    (hwatched : Watched api.chat.policy conversationId s round) {after : State}
    {eventId : Option EventId} {row : Conversation} {effective : Option String}
    {gated posted : State}
    (hspoken : Spoken api.chat s conversationId request clock eventId after row effective gated
      posted)
    (hexec : exec (submitSpeech api.chat conversationId request clock) s =
      (.ok eventId, after)) :
    let act := Act.move (.submitSpeech conversationId request clock)
    Watched api.chat.policy conversationId (systemStep api s act)
      (round.next api conversationId s act) := by
  intro act
  have hstep : systemStep api s act = after := congrArg Prod.snd hexec
  have hrow := hspoken.passes.found
  have hlinked := hmirrored.linked conversationId row hrow
  have hmirrored' : Mirrored after := by
    rw [← hstep]
    exact (systemStep_writes api s act).keeps hmirrored fun _ _ hu hwrite => hwrite.mirrored hu
  rcases hspoken.turn hlinked with ⟨⟨turned, hturned, hgauge⟩, hwarnings⟩
  have hspeaker := congrArg Prod.fst hgauge
  have hcount := congrArg Prod.snd hgauge
  simp only [Conversation.gauge] at hspeaker hcount
  have hbefore : warningsOf s conversationId = warnings (s.store.log conversationId) := by
    rw [warningsOf, hrow, Option.bind_some, hlinked]
  have hnow : warningsOf (systemStep api s act) conversationId =
      warnings (after.store.log conversationId) := by
    rw [hstep, warningsOf, hturned, Option.bind_some,
      hmirrored'.linked conversationId turned hturned]
  have hexpected : expectedIn (systemStep api s act) conversationId =
      turned.expectedSpeaker := by
    rw [hstep]
    exact expectedIn_eq hturned
  have hexpected₀ := expectedIn_eq hrow
  have hchimes : chimesIn api.chat s conversationId act = true ↔
      OutOfTurn row request.actorName effective := by
    rw [chimesIn_speech, hexec, hspoken.passes.addressed, hexpected₀]
    simp [OutOfTurn, Except.isOk, Except.toBool, Except.toOption, and_assoc]
  rcases hwatched.tells row hrow with ⟨htally, hround⟩
  -- it is enough that the round that follows tells the row that follows
  suffices htells : turned.unaddressedSpeechCount =
        (round.next api conversationId s act).tally ∧
      warnings (after.store.log conversationId) =
        (round.next api conversationId s act).warned +
          if api.chat.policy.overSpeechThreshold ≤
            (round.next api conversationId s act).tally then 1 else 0 by
    constructor
    · intro found hfound
      rw [hstep, Option.mem_def, hturned] at hfound
      cases hfound
      rw [hnow]
      exact htells
    · intro hnot
      rw [hstep] at hnot
      exact absurd (List.getElem?_eq_some_iff.mp hturned).1 (Nat.not_lt.mpr hnot)
  rw [hcount, hwarnings, ← hbefore]
  rcases takeTurn_cases api.chat.policy row request.actorName effective with
    ⟨hset, hzero, hquiet⟩ | ⟨hkept, hsame, hquiet, hin⟩ | ⟨hkept, hmore, htrips, hout⟩
  · rw [next_of_set (by rw [hexpected, hexpected₀, hspeaker]; exact hset), undue, hnow,
      hwarnings, hbefore, hzero]
    exact ⟨rfl, rfl⟩
  · rw [next_of_same (by rw [hexpected, hexpected₀, hspeaker, hkept])
      (Bool.eq_false_iff.mpr fun hchimes' => hin (hchimes.mp hchimes')), hsame, hquiet]
    exact ⟨htally, hround⟩
  · rw [next_of_chimesIn (by rw [hexpected, hexpected₀, hspeaker, hkept]) (hchimes.mpr hout),
      hmore, htrips, hround, htally]
    refine ⟨rfl, ?_⟩
    simp only [decide_eq_true_eq]
    split_ifs <;> omega

end SpeechWatched

/-! ## Runs -/

theorem unwarned_of_keepsRounds {api : ApiConfig} {conversationId : Id} {s : State}
    {act : Act} (hkeeps : KeepsRounds api s act)
    (hspeech : ∀ request clock, act ≠ .move (.submitSpeech conversationId request clock))
    (author : String) :
    ¬ (act.gates api s).post conversationId author eventConversationOverSpeech := by
  intro hmay
  cases act with
  | finishAppend => exact hmay.elim
  | move taken =>
      change MayPost api.chat s taken conversationId author eventConversationOverSpeech at hmay
      generalize hkind : eventConversationOverSpeech = kind at hmay
      cases hmay with
      | spoke => exact hspeech _ _ rfl
      | overSpoke => exact hspeech _ _ rfl
      | handedOff => exact absurd hkind (by decide)
      | warned => exact absurd hkind (by decide)
      | emitted hpasses => exact hkeeps hkind.symm _ hpasses
      | @echoed _ taskId request _ _ task hpasses =>
          have hkinds : ∀ kind ∈ taskEventKinds, kind ≠ eventConversationOverSpeech := by
            decide
          exact hkinds _ (plan_eventKind_mem api.chat taskId request task) hkind.symm

theorem turn_of_keepsRounds {api : ApiConfig} {conversationId : Id} {s : State} {act : Act}
    (hkeeps : KeepsRounds api s act)
    (hspeech : ∀ request clock, act ≠ .move (.submitSpeech conversationId request clock))
    {new : Option String × Nat} (hrow : s.conversations[conversationId]? = some row)
    (hturn : (act.gates api s).turn conversationId row.gauge new) :
    new.2 = row.unaddressedSpeechCount ∧
      (row.expectedSpeaker ≠ new.1 → row.unaddressedSpeechCount = 0) := by
  have hthis : ∀ found, s.conversations[conversationId]? = some found → found = row := by
    intro found hfound
    exact Option.some.inj (hfound.symm.trans hrow)
  cases act with
  | finishAppend => exact hturn.elim
  | move taken =>
      change MayTurn api.chat s taken conversationId row.gauge new at hturn
      generalize row.gauge = old at hturn
      cases hturn with
      | spoke => exact absurd rfl (hspeech _ _)
      | handedOff hpasses =>
          have hsame := hthis _ hpasses.found
          subst hsame
          exact ⟨rfl, hkeeps _ hpasses⟩
      | echoed hpasses =>
          have hsame := hthis _ hpasses.found
          subst hsame
          rw [echoRow_gauge]
          exact ⟨rfl, hkeeps _ _ hpasses⟩

/-- An act that keeps the rounds keeps the watch on every conversation. -/
theorem watched_step {api : ApiConfig} {conversationId : Id} {s : State} {round : Round}
    {act : Act} (hmirrored : Mirrored s)
    (hwatched : Watched api.chat.policy conversationId s round)
    (hkeeps : KeepsRounds api s act) :
    Mirrored (systemStep api s act) ∧
      Watched api.chat.policy conversationId (systemStep api s act)
        (round.next api conversationId s act) := by
  have hwrites := systemStep_writes api s act
  have hmirrored' : Mirrored (systemStep api s act) :=
    hwrites.keeps hmirrored fun _ _ hu hwrite => hwrite.mirrored hu
  refine ⟨hmirrored', ?_⟩
  by_cases hspeech : ∃ request clock, act = .move (.submitSpeech conversationId request clock)
  · rcases hspeech with ⟨request, clock, rfl⟩
    rcases submitSpeech_cases api.chat conversationId request clock s with
      ⟨_, error, hexec⟩ | ⟨eventId, after, row, effective, gated, posted, hspoken, hexec⟩
    · exact watched_refused hwatched hexec
    · exact watched_spoken hmirrored hwatched hspoken hexec
  · have hlength : s.conversations.length ≤ (systemStep api s act).conversations.length :=
      hwrites.keeps (P := fun u => s.conversations.length ≤ u.conversations.length) le_rfl
        fun _ _ hu hwrite => hu.trans hwrite.length_le
    have hsilent : chimesIn api.chat s conversationId act = false := by
      unfold chimesIn
      split
      · rename_i id request clock
        have hother : id ≠ conversationId := by
          rintro rfl
          exact hspeech ⟨request, clock, rfl⟩
        simp [hother]
      · rfl
    have hother : ∀ request clock,
        act ≠ .move (.submitSpeech conversationId request clock) := by
      intro request clock hact
      exact hspeech ⟨request, clock, hact⟩
    have hunwarned := unwarned_of_keepsRounds hkeeps hother
    apply watched_of_turned hmirrored hmirrored' hwatched hlength hsilent
      fun _ _ hrow hturn => turn_of_keepsRounds hkeeps hother hrow hturn
    have hturned : Mirrored (systemStep api s act) ∧ Lawful (fun id row operation =>
        id = conversationId → Turned s (act.gates api s) id row operation)
          (systemStep api s act) := by
      apply hwrites.keepsMirrors hmirrored
      · intro id row operation hmirror _
        exact Or.inl ⟨row, operation, hmirror, Or.inl rfl, rfl⟩
      · rintro u id row after hdescends hbefore hwrote rfl
        exact turned_wrote hmirrored hdescends (fun _ _ hturn => Act.turn_from hturn) hunwarned
          (fun old before hmirror => hbefore old before hmirror rfl) hwrote
    intro row operation hmirror
    exact hturned.2 conversationId row operation hmirror rfl

theorem run_watch (api : ApiConfig) (conversationId : Id) (acts : List Act)
    (w : State × Round) :
    (run (watch api conversationId) w acts).1 = run (systemStep api) w.1 acts := by
  induction acts generalizing w with
  | nil => rfl
  | cons act acts ih => exact ih (watch api conversationId w act)

/-- While hand-offs and task events set another speaker only when nobody has chimed in, and
nobody emits a warning from outside, the column is the tally of the round in every state of
every conversation, and every round has its one warning from the threshold on. -/
theorem gauge_tells (api : ApiConfig) {s : State} (hfresh : Fresh s) (acts : List Act)
    (hkeeps : Along (systemStep api) (KeepsRounds api) s acts) (conversationId : Id) :
    Throughout (watch api conversationId)
      (fun w => GaugeTells api.chat.policy conversationId w.1 w.2) (s, .start) acts := by
  have hwatched : Throughout (watch api conversationId) (fun w => Mirrored w.1 ∧
      Watched api.chat.policy conversationId w.1 w.2) (s, .start) acts := by
    apply throughout_of_preserved
    · refine ⟨.of_fresh hfresh, ?_, fun _ => rfl⟩
      intro row hrow
      rw [hfresh.no_conversations] at hrow
      cases hrow
    · rintro done act hact ⟨hmirrored, hwatched⟩
      have hhere := hkeeps done act hact
      have hsame := run_watch api conversationId done (s, .start)
      rw [← hsame] at hhere
      exact watched_step hmirrored hwatched hhere
  intro done hdone
  exact (hwatched done hdone).2.tells

/-! ## A hand-off in the middle of a round -/

/-- `alice` asks `bob`, and `carol` chimes in. -/
def chimedIn : List Act :=
  [.move (.openConversation "room" (openingOf .inquiry inquiry_ne_general none) (fun _ => 0)
      fun _ => 0),
    .move (.submitSpeech 1 { speechOf "alice" .question with addressedTo := some "bob" }
      fun _ => 1),
    .move (.submitSpeech 1 (speechOf "carol" .claim) fun _ => 2)]

def handedToDave : Act := .move (.transferOwner 1 "alice" "dave" none fun _ => 4)

/-- `bob` answers before `alice` hands the inquiry to `dave`. -/
theorem answered_round_tells :
    Throughout (watch plainApi 1)
      (fun w => GaugeTells plainApi.chat.policy 1 w.1 w.2) (emptyRoom, .start)
      (chimedIn ++ [.move (.submitSpeech 1 (speechOf "bob" .answer) fun _ => 3),
        handedToDave]) := by
  apply gauge_tells plainApi ⟨rfl, rfl⟩
  refine along_cons trivial (along_cons trivial (along_cons trivial (along_cons trivial
    (along_cons ?_ (along_nil _ _ _)))))
  intro row hpasses _
  have hquiet : ((run (systemStep plainApi) emptyRoom (chimedIn ++
      [.move (.submitSpeech 1 (speechOf "bob" .answer) fun _ => 3)])).conversations[1]?).all
        fun row => row.unaddressedSpeechCount = 0 := by
    decide
  have hfound := hpasses.found
  simp only [Option.all_eq_true, decide_eq_true_eq] at hquiet
  exact hquiet row hfound

/-- `alice` hands the inquiry to `dave` while `carol`'s remark is counted. -/
theorem handed_off_round_lies :
    ¬ Throughout (watch plainApi 1)
      (fun w => GaugeTells plainApi.chat.policy 1 w.1 w.2) (emptyRoom, .start)
      (chimedIn ++ [handedToDave]) := by
  intro htells
  exact absurd (htells _ List.prefix_rfl) (by decide)

end OpsCure.Chat
