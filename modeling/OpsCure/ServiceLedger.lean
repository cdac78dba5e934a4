/-
What the operations of the chat service do to the ledger.  Speech, handoff, warnings and
system events leave it alone; opening and closing are the two moves it has for them.
-/
import OpsCure.Closing
import OpsCure.Ledger

namespace OpsCure.Chat

open Fallible Session Table Contract V2 OperationMirror RemoteTask

def Conversation.entry (row : Conversation) : Entry where
  kind := row.kind
  closed := row.state = .closed
  isGeneral := row.isGeneral
  boundTaskId := row.boundTaskId
  v2OperationId := row.v2OperationId

def State.ledger (s : State) : Ledger where
  entries := s.conversations.map Conversation.entry
  operations := s.store.operations.map fun row => (row.kind, row.state)
  tasks := s.tasks

theorem ledger_operation (s : State) (id : Id) :
    s.ledger.operations[id]? = s.store.kindState id :=
  List.getElem?_map

variable {s after : State} {id conversationId : Id} {row : Conversation} {now : Time}
  {config : Config} {clock : Clock} {result : Summary} {threshold : Int}

theorem ledger_entry (hrow : s.conversations[id]? = some row) :
    s.ledger.entries[id]? = some row.entry := by
  simp [State.ledger, hrow]

variable {t : State} {old : Conversation} {eventId : Option EventId} {discordThreadId : String}

theorem ledger_congr (hentries : t.conversations.map Conversation.entry =
      s.conversations.map Conversation.entry)
    (hkinds : ∀ id, t.store.kindState id = s.store.kindState id) (htasks : t.tasks = s.tasks) :
    t.ledger = s.ledger := by
  have hoperations : t.ledger.operations = s.ledger.operations := by
    apply List.ext_getElem?
    intro id
    rw [ledger_operation, ledger_operation, hkinds]
  rw [State.ledger, State.ledger, Ledger.mk.injEq]
  exact ⟨hentries, hoperations, htasks⟩

theorem map_entry_update {rows : List Conversation} (hold : rows[id]? = some old)
    (hsame : row.entry = old.entry) :
    (update rows id row).map Conversation.entry = rows.map Conversation.entry := by
  apply List.ext_getElem?
  intro other
  rw [List.getElem?_map, List.getElem?_map]
  by_cases hother : id = other
  · subst hother
    rw [getElem?_update_self hold, hold, Option.map_some, Option.map_some, hsame]
  · rw [getElem?_update_of_ne hother]

/-! ## Quiet sessions -/

theorem Registers.ledger (hregisters : Registers s t) : t.ledger = s.ledger := by
  apply ledger_congr
  · rw [hregisters.conversations]
  · exact hregisters.grows.kindState
  · exact hregisters.tasks

theorem addMessage_ledger {message : Message} {options : MirrorOptions}
    (hadded : addMessage s row message options now = .ok (after, eventId)) :
    after.ledger = s.ledger := by
  rcases addMessage_frame hadded with ⟨_, hconversations, htasks⟩
  apply ledger_congr
  · rw [hconversations]
  · exact (addMessage_grows hadded).kindState
  · exact htasks

theorem setConversation_ledger (hold : s.conversations[id]? = some old)
    (hsame : row.entry = old.entry) : (s.setConversation id row).ledger = s.ledger := by
  apply ledger_congr
  · exact map_entry_update hold hsame
  · exact fun _ => rfl
  · rfl

theorem takeTurn_entry (policy : ChatPolicyConfig) (row : Conversation) (actorName : String)
    (effective : Option String) :
    (takeTurn policy row actorName effective).1.entry = row.entry := by
  unfold takeTurn
  split
  · rfl
  · split_ifs <;> rfl

theorem submitSession_ledger {request : SpeechRequest}
    (hok : submitSession config s conversationId request clock = .ok (eventId, after)) :
    after.ledger = s.ledger := by
  rcases submitSession_eq_ok hok with ⟨row, gated, posted, options, turned, hsubmitted⟩
  have hgated := (checkSpeechPolicy_eq_ok hsubmitted.gates).1
  rcases addMessage_frame hsubmitted.speech with ⟨_, hconversations, _⟩
  have hfound : posted.conversations[conversationId]? = some row := by
    rw [hconversations, hgated.conversations]
    exact hsubmitted.found
  have hturned : turned.entry = row.entry := by
    rcases hsubmitted.turn with ⟨effective, hturn⟩
    rw [hturn]
    exact takeTurn_entry _ _ _ _
  have hwritten : (posted.setConversation conversationId turned).ledger = s.ledger := by
    rw [setConversation_ledger hfound hturned, addMessage_ledger hsubmitted.speech,
      hgated.ledger]
  rcases hsubmitted.left with rfl | ⟨warningId, hwarned⟩
  · exact hwritten
  · rw [addMessage_ledger hwarned]
    exact hwritten

theorem submitSpeech_ledger (config : Config) (conversationId : Id)
    (request : SpeechRequest) (clock : Clock) (s : State) :
    (exec (submitSpeech config conversationId request clock) s).2.ledger = s.ledger := by
  have hasked := (registers_provision config s request.actorName).ledger
  rcases submitSpeech_state config conversationId request clock s with hleft | ⟨_, hsession⟩
  · rw [hleft]
    exact hasked
  · exact (submitSession_ledger hsession).trans hasked

theorem transferSession_ledger {byActor newOwner : String} {reason : Option String}
    (hok : transferSession s conversationId byActor newOwner reason clock =
      .ok (result, after)) : after.ledger = s.ledger := by
  simp only [transferSession, getConversation, bind_eq_ok, orRaise_eq_ok, require_eq_ok,
    pure_eq_ok, Prod.exists, Prod.mk.injEq] at hok
  rcases hok with ⟨row, hrow, _, _, _, _, _, _, _, _, posted, _, hadded, _, rfl⟩
  exact (addMessage_ledger hadded).trans (setConversation_ledger hrow rfl)

theorem transferOwner_ledger (config : Config) (conversationId : Id)
    (byActor newOwner : String) (reason : Option String) (clock : Clock) (s : State) :
    (exec (transferOwner config conversationId byActor newOwner reason clock) s).2.ledger =
      s.ledger := by
  have hasked := (registers_provision config s byActor).ledger
  rw [transferOwner, exec_bind, exec_checkCapability]
  by_cases hpermitted : permits config s byActor .conversationHandoff
  · rw [if_pos hpermitted]
    simp only [exec_transaction]
    rcases hsession : transferSession (provision config s byActor) conversationId byActor
      newOwner reason clock with error | ⟨result, after⟩
    · exact hasked
    · exact (transferSession_ledger hsession).trans hasked
  · rw [if_neg hpermitted]
    exact hasked

theorem emitSystemEvent_ledger (conversationId : Id) (kind : String)
    (addressedToHandle : Option String) (parent : Option EventId)
    (payload : List (String × Json)) (clock : Clock) (s : State) :
    (exec (emitSystemEvent conversationId kind addressedToHandle parent payload clock)
      s).2.ledger = s.ledger := by
  rw [emitSystemEvent_state]
  rcases hsession : emitSession s conversationId kind addressedToHandle parent payload clock
    with error | ⟨eventId, left⟩
  · rfl
  · rcases emitSession_eq_ok.1 hsession with ⟨row, _, hadded⟩
    exact addMessage_ledger hadded

/-! ## Opening -/

theorem foldl_roles_operations (roles : List (String × String)) (store : Store) :
    (roles.foldl (fun known role => known.ensureActorByHandle role.1 .ai) store).operations =
      store.operations := by
  induction roles generalizing store with
  | nil => rfl
  | cons role roles ih =>
      rw [List.foldl_cons, ih, Store.ensureActorByHandle_operations]

theorem mirrorConversationOpen_operations (store : Store) (record : OpenRecord) (now : Time) :
    (mirrorConversationOpen store record now).2 = store.operations.length ∧
      (mirrorConversationOpen store record now).1.operations.map
          (fun row => (row.kind, row.state)) =
        store.operations.map (fun row => (row.kind, row.state)) ++
          [(record.kind, .opened)] := by
  constructor
  · simp only [mirrorConversationOpen, Store.insertOperation, foldl_roles_operations,
      Store.ensureActorByHandle_operations]
  · simp only [mirrorConversationOpen, Store.insertOperation, foldl_roles_operations,
      Store.ensureActorByHandle_operations, List.map_append, List.map_cons, List.map_nil]

theorem addConversation_ledger (s : State) (now : Time) (hopen : row.state = .opened) :
    (addConversation s row now).ledger =
      s.ledger.opened row.kind row.isGeneral row.boundTaskId := by
  have hmirrored := mirrorConversationOpen_operations s.store
    { v1ConversationId := s.conversations.length
      threadId := row.threadId
      kind := row.kind
      title := row.title
      intent := row.intent
      openerActor := row.openerActor
      ownerActor := row.ownerActor
      addressedTo := row.expectedSpeaker
      isGeneral := row.isGeneral } now
  simp [addConversation, State.ledger, Ledger.opened, Conversation.entry, hmirrored.1,
    hmirrored.2, hopen]

theorem ensureGeneral_ledger (s : State) (threadId : Id) (now : Time) :
    (ensureGeneral s threadId now).ledger = s.ledger ∨
      (ensureGeneral s threadId now).ledger = s.ledger.opened .general true none := by
  unfold ensureGeneral
  split
  · exact Or.inl rfl
  · exact Or.inr (addConversation_ledger s now rfl)

theorem openSession_ledger {threadId : Id} {request : OpenRequest} {policy : OperationPolicy}
    {boundTaskId : Option Id}
    (hok : openSession s threadId request policy boundTaskId clock = .ok (result, after)) :
    ∃ l, (l = s.ledger ∨ l = s.ledger.opened .general true none) ∧
      after.ledger = l.opened request.kind false boundTaskId := by
  simp only [openSession, bind_eq_ok, require_eq_ok, pure_eq_ok, Prod.exists,
    Prod.mk.injEq] at hok
  rcases hok with ⟨_, _, posted, _, hadded, _, rfl⟩
  refine ⟨(ensureGeneral s threadId (clock 0)).ledger, ensureGeneral_ledger s threadId _, ?_⟩
  rw [addMessage_ledger hadded]
  let row := { newConversation threadId request.kind request.title request.intent
      request.openerActor (clock 1) with
    ownerActor := some (Text.orElse request.ownerActor request.openerActor)
    expectedSpeaker := request.addressedTo
    parentConversationId := request.parentConversationId
    boundTaskId := boundTaskId }
  have hrow : (addConversation (ensureGeneral s threadId (clock 0)) row (clock 2)).ledger =
      (ensureGeneral s threadId (clock 0)).ledger.opened request.kind false boundTaskId :=
    addConversation_ledger _ _ rfl
  rw [← hrow]
  apply ledger_congr
  · rfl
  · apply Store.kindState_modifyOperation
    exact fun _ => ⟨rfl, rfl⟩
  · rfl

theorem exec_openSession_ledger (threadId : Id) (request : OpenRequest)
    (policy : OperationPolicy) (boundTaskId : Option Id) (clock : Clock) (s : State) :
    let left := (exec (transaction fun s =>
      openSession s threadId request policy boundTaskId clock) s).2
    left.ledger = s.ledger ∨
      ∃ l, (l = s.ledger ∨ l = s.ledger.opened .general true none) ∧
        left.ledger = l.opened request.kind false boundTaskId := by
  intro left
  have hleft : left = (exec (transaction fun s =>
      openSession s threadId request policy boundTaskId clock) s).2 := rfl
  rw [exec_transaction] at hleft
  rcases hsession : openSession s threadId request policy boundTaskId clock with
    error | ⟨result, after⟩
  · rw [hsession] at hleft
    exact Or.inl (congrArg State.ledger hleft)
  · rw [hsession] at hleft
    rw [hleft]
    exact Or.inr (openSession_ledger hsession)

/-- The task an opening binds, if it does: none, or one the service has just created. -/
def Funds (config : Config) (l base : Ledger) (boundTaskId : Option Id) : Prop :=
  boundTaskId = none ∧ base = l ∨
    config.remoteTasks = true ∧ boundTaskId = some l.tasks.tasks.length ∧
      ∃ payload clock, base = l.serve ⟨.createTask payload, clock⟩

/-- An opening creates the task to bind first; what it opens, it opens after that. -/
theorem openConversation_ledger (config : Config) (discordThreadId : String)
    (request : OpenRequest) (clock taskClock : Clock) (s : State) :
    let left := (exec (openConversation config discordThreadId request clock taskClock) s).2
    ∃ base boundTaskId, Funds config s.ledger base boundTaskId ∧
      (left.ledger = base ∨
        ∃ l, (l = base ∨ l = base.opened .general true none) ∧
          left.ledger = l.opened request.kind false boundTaskId) := by
  intro left
  have hleft : left = (exec (openConversation config discordThreadId request clock taskClock)
      s).2 := rfl
  let asked := provision config s request.openerActor
  have hasked : asked.ledger = s.ledger :=
    (registers_provision config s request.openerActor).ledger
  -- refused before the task is created
  have hrefused : left = asked → ∃ base boundTaskId,
      Funds config s.ledger base boundTaskId ∧ (left.ledger = base ∨
        ∃ l, (l = base ∨ l = base.opened .general true none) ∧
          left.ledger = l.opened request.kind false boundTaskId) := by
    intro hsame
    exact ⟨s.ledger, none, Or.inl ⟨rfl, rfl⟩, Or.inl (by rw [hsame]; exact hasked)⟩
  rw [openConversation, exec_bind, exec_checkCapability] at hleft
  by_cases hpermitted : permits config s request.openerActor .conversationOpen
  · simp only [if_pos hpermitted, exec_bind, exec_query] at hleft
    split at hleft
    · rename_i policy after hpolicy
      rw [Prod.mk.injEq] at hpolicy
      rcases hpolicy with ⟨_, rfl⟩
      split at hleft
      · rename_i threadId after hthread
        rw [Prod.mk.injEq] at hthread
        rcases hthread with ⟨hchecks, rfl⟩
        simp only [bind_eq_ok, require_eq_ok, orRaise_eq_ok] at hchecks
        rcases hchecks with ⟨_, _, _, hserved, _⟩
        by_cases hbound : request.kind = .task ∧ policy.bindRemoteTask
        · simp only [hbound, decide_true, if_true, exec_transaction, and_self] at hleft
          let payload := taskRequest threadId request (request.objective.getD "")
          let funded := { asked with tasks := (createTask asked.tasks payload taskClock).1 }
          have hfunded : funded.ledger = s.ledger.serve ⟨.createTask payload, taskClock⟩ := by
            rw [← hasked]
            rfl
          refine ⟨funded.ledger, some s.ledger.tasks.tasks.length,
            Or.inr ⟨hserved (by simpa using hbound), rfl, payload, taskClock, hfunded⟩, ?_⟩
          have hopened := exec_openSession_ledger threadId request policy
            (some s.ledger.tasks.tasks.length) clock funded
          rw [← hasked] at hopened ⊢
          rw [hleft]
          exact hopened
        · simp only [hbound, decide_false, Bool.false_eq_true, if_false] at hleft
          refine ⟨s.ledger, none, Or.inl ⟨rfl, rfl⟩, ?_⟩
          have hopened := exec_openSession_ledger threadId request policy none clock asked
          rw [hasked] at hopened
          rw [hleft]
          exact hopened
      · rename_i error after hthread
        rw [Prod.mk.injEq] at hthread
        rcases hthread with ⟨_, rfl⟩
        exact hrefused hleft
    · rename_i error after hpolicy
      rw [Prod.mk.injEq] at hpolicy
      rcases hpolicy with ⟨_, rfl⟩
      exact hrefused hleft
  · rw [if_neg hpermitted] at hleft
    exact hrefused hleft

/-! ## Closing -/

theorem closeSession_ledger {closedBy resolution : String} {summary : Option String}
    {bypass : Bool} (hrow : s.conversations[conversationId]? = some row)
    (hok : closeSession config s conversationId row closedBy resolution summary bypass clock =
      .ok (result, after)) : after.ledger = s.ledger.close conversationId := by
  rcases closeSession_eq_ok hok with ⟨_, hconversations, _, htasks, _, hkinds⟩
  have hentry := ledger_entry hrow
  have hentries : after.ledger.entries = (s.ledger.close conversationId).entries := by
    apply List.ext_getElem?
    intro other
    rw [Ledger.close_entry, State.ledger, State.ledger, List.getElem?_map, List.getElem?_map,
      hconversations]
    by_cases hsame : conversationId = other
    · subst hsame
      rw [getElem?_update_self hrow, hrow]
      simp [Conversation.entry, closedRow]
    · rw [getElem?_update_of_ne hsame]
      simp [hsame, Function.comp_def]
  have hoperations : after.ledger.operations =
      (s.ledger.close conversationId).operations := by
    apply List.ext_getElem?
    intro other
    rw [ledger_operation, hkinds, Ledger.close_operation hentry, ledger_operation]
    rfl
  have hserved : after.ledger.tasks = (s.ledger.close conversationId).tasks := by
    rw [Ledger.close_tasks]
    exact htasks
  cases hclosed : s.ledger.close conversationId
  rw [hclosed] at hentries hoperations hserved
  rw [State.ledger, Ledger.mk.injEq]
  exact ⟨hentries, hoperations, hserved⟩

/-- A close leaves the ledger alone, or closes a conversation that was there to close and
that the state machine lets close; by hand, only one whose task is settled. -/
theorem closeConversation_ledger (config : Config) (conversationId : Id)
    (closedBy resolution : String) (summary : Option String) (bypass : Bool) (clock : Clock)
    (s : State) :
    let left := (exec (closeConversation config conversationId closedBy resolution summary
      bypass clock) s).2
    left.ledger = s.ledger ∨
      ∃ row, requireClosable s conversationId = .ok row ∧
        (bypass = false → TaskSettled config s row) ∧
        (∀ operationId, row.v2OperationId = some operationId →
          Closable s.store operationId resolution bypass) ∧
        left.ledger = s.ledger.close conversationId := by
  intro left
  have hleft : left = (exec (closeConversation config conversationId closedBy resolution
    summary bypass clock) s).2 := rfl
  rw [exec_closeConversation] at hleft
  cases hrow : requireClosable s conversationId with
  | error =>
      rw [hrow] at hleft
      exact Or.inl (congrArg State.ledger hleft)
  | ok row =>
      rw [hrow] at hleft
      have hfound := (requireClosable_eq_ok.1 hrow).1
      cases bypass with
      | true =>
          simp only [if_true, exec_transaction] at hleft
          rcases hclose : closeSession config s conversationId row closedBy resolution summary
            true clock with error | ⟨result, after⟩
          · rw [hclose] at hleft
            exact Or.inl (congrArg State.ledger hleft)
          · rw [hclose] at hleft
            right
            refine ⟨row, rfl, by simp, (closeSession_eq_ok hclose).2.2.2.2.1, ?_⟩
            rw [hleft]
            exact closeSession_ledger hfound hclose
      | false =>
          have hasked := registers_provision config s closedBy
          simp only [Bool.false_eq_true, if_false] at hleft
          cases hcloser : checkCloser row closedBy resolution with
          | error =>
              rw [hcloser] at hleft
              exact Or.inl (congrArg State.ledger hleft)
          | ok =>
              simp only [hcloser, exec_transaction] at hleft
              by_cases hpermitted : permits config s closedBy .conversationCloseOpener
              · rw [if_pos hpermitted] at hleft
                rcases hhand : closeByHand config (provision config s closedBy) conversationId
                  row closedBy resolution summary clock with error | ⟨result, after⟩
                · rw [hhand] at hleft
                  rw [hleft]
                  exact Or.inl hasked.ledger
                · rw [hhand] at hleft
                  rcases closeByHand_eq_ok.1 hhand with ⟨gated, hgate, hsettled, hclose⟩
                  have hregisters := hasked.trans (checkClosePolicy_eq_ok hgate).1
                  right
                  refine ⟨row, rfl, fun _ => hsettled.of_tasks hregisters.tasks.symm, ?_, ?_⟩
                  · intro operationId hmirror
                    have hclosable := (closeSession_eq_ok hclose).2.2.2.2.1 operationId hmirror
                    exact hclosable.of_getOperation (hregisters.getOperation operationId).symm
                  · rw [hleft, ← hregisters.ledger]
                    apply closeSession_ledger ?_ hclose
                    rw [hregisters.conversations]
                    exact hfound
              · rw [if_neg hpermitted] at hleft
                rw [hleft]
                exact Or.inl hasked.ledger

theorem abandonIdle_ledger (config : Config) (conversationId : Id) (summary : String)
    (clock : Clock) (s : State) :
    let left := (exec (abandonIdle config conversationId summary clock) s).2
    left.ledger = s.ledger ∨ left.ledger = s.ledger.close conversationId := by
  intro left
  have hclose := closeConversation_ledger config conversationId "system" "abandoned"
    (some summary) true clock s
  have hleft : left.ledger = (exec (closeConversation config conversationId "system"
      "abandoned" (some summary) true clock) s).2.ledger := by
    simp only [left, abandonIdle, exec_bind, exec_transaction]
    rcases exec (closeConversation config conversationId "system" "abandoned" (some summary)
      true clock) s with ⟨error | result, closed⟩
    · rfl
    · cases hrow : closed.conversations[conversationId]? with
      | none => simp only [hrow]
      | some =>
          simp only [hrow]
          exact setConversation_ledger hrow rfl
  rw [hleft]
  rcases hclose with hsame | ⟨_, _, _, _, hclosed⟩
  · exact Or.inl hsame
  · exact Or.inr hclosed

theorem warnIdle_ledger {level : Nat}
    (hok : warnIdle s conversationId threshold now clock level = .ok after) :
    after.ledger = s.ledger := by
  simp only [warnIdle, getConversation, bind_eq_ok, orRaise_eq_ok, pure_eq_ok,
    Prod.exists] at hok
  rcases hok with ⟨row, hrow, posted, _, hadded, rfl⟩
  rcases addMessage_frame hadded with ⟨_, hconversations, _⟩
  have hposted : posted.conversations[conversationId]? = some row := by
    rw [hconversations]
    exact hrow
  rw [← addMessage_ledger hadded]
  apply setConversation_ledger hposted
  rfl

def abandonedBy (config : Config) (s : State) (discordThreadId : String) (threshold : Int)
    (now : Time) : List Id :=
  match findThread s discordThreadId with
  | none => []
  | some threadId =>
      ((idleRows config s threadId threshold now).filter fun row =>
        targetTier config.policy threshold now row.1 = 3).map (·.2)

theorem closable_of_abandonedBy (hid : id ∈ abandonedBy config s discordThreadId threshold now) :
    ∃ row, requireClosable s id = .ok row := by
  unfold abandonedBy at hid
  split at hid
  · cases hid
  · rcases List.mem_map.mp hid with ⟨⟨row, found⟩, hrow, rfl⟩
    have hidle := (List.mem_filter.mp hrow).1
    simp only [idleRows, mem_selectWhere, decide_eq_true_eq] at hidle
    rcases hidle with ⟨hfound, _, hopen, hgeneral, _⟩
    refine ⟨row, requireClosable_eq_ok.2 ⟨hfound, hgeneral, ?_⟩⟩
    simp [hopen]

theorem sweepSession_ledger {abandoned : List (Id × String)}
    (hok : sweepSession config s discordThreadId threshold now clock =
      .ok (abandoned, after)) :
    after.ledger = s.ledger ∧
      ∀ item ∈ abandoned, item.1 ∈ abandonedBy config s discordThreadId threshold now := by
  simp only [sweepSession, bind_eq_ok, orRaise_eq_ok, pure_eq_ok, Prod.mk.injEq] at hok
  rcases hok with ⟨threadId, hthread, warned, hwarned, rfl, rfl⟩
  constructor
  · apply foldlM_keeps (P := fun t : State => t.ledger = s.ledger) ?_ rfl hwarned
    intro t row u ht hlevels
    apply foldlM_keeps (P := fun t : State => t.ledger = s.ledger) ?_ ht hlevels
    intro t level u ht hwarn
    exact (warnIdle_ledger hwarn).trans ht
  · intro item hitem
    rcases List.mem_map.mp hitem with ⟨row, hrow, rfl⟩
    rw [abandonedBy, hthread]
    exact List.mem_map_of_mem hrow

theorem sweepIdle_keeps {P : Ledger → Prop} (config : Config) (discordThreadId : String)
    (idleThresholdSeconds : Int) (now : Time) (clock : Clock) (closeClock : Nat → Clock)
    (hs : P s.ledger) (hclose : 0 < idleThresholdSeconds →
      ∀ id ∈ abandonedBy config s discordThreadId (max 0 idleThresholdSeconds) now,
        ∀ l, P l → P (l.close id)) :
    P (exec (sweepIdleConversations config discordThreadId idleThresholdSeconds now clock
      closeClock) s).2.ledger := by
  unfold sweepIdleConversations
  simp only
  split
  · exact hs
  · rename_i hthreshold
    have hpos : 0 < idleThresholdSeconds := by
      by_contra hnot
      exact hthreshold (max_eq_left (not_lt.mp hnot))
    rw [exec_bind, exec_transaction]
    rcases hsession : sweepSession config s discordThreadId (max 0 idleThresholdSeconds) now
      clock with error | ⟨abandoned, after⟩
    · exact hs
    · rcases sweepSession_ledger hsession with ⟨hsame, hmem⟩
      have hafter : P after.ledger := by
        rw [hsame]
        exact hs
      apply keeps_forM (P := fun t : State => P t.ledger) abandoned.zipIdx ?_ after hafter
      intro item hitem t ht
      have hin := hmem item.1 (List.fst_mem_of_mem_zipIdx hitem)
      rcases abandonIdle_ledger config item.1.1 item.1.2 (closeClock item.2) t with
        hkept | hclosed
      · rw [hkept]
        exact ht
      · rw [hclosed]
        exact hclose hpos item.1.1 hin t.ledger ht

end OpsCure.Chat
