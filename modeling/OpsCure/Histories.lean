/-
What a write leaves of a conversation and of the operation that mirrors it: both as they
were up to notes and marks, a new pair, the pair with one more message, or the pair closed
with its message.
-/
import OpsCure.ActWrites

namespace OpsCure.Chat

open Fallible Session Table Run Contract V2 OperationMirror RemoteTask Api

/-! ## New operations -/

/-- What the mirror is told about the conversation a row opens. -/
def openRecord (conversationId : Id) (row : Conversation) : OpenRecord :=
  { v1ConversationId := conversationId
    threadId := row.threadId
    kind := row.kind
    title := row.title
    intent := row.intent
    openerActor := row.openerActor
    ownerActor := row.ownerActor
    addressedTo := row.expectedSpeaker
    isGeneral := row.isGeneral }

def founders (row : Conversation) (now : Time) : List Participant :=
  (openingParticipants (openRecord 0 row)).map fun role =>
    { actorId := role.1, role := role.2, joinedAt := now }

structure Founded (id : Id) (row : Conversation) (policy : Option OperationPolicy)
    (now : Time) (operation : V2.Operation) : Prop where
  home : operation.v1ConversationId = id
  participants : operation.participants = founders row now
  policy : operation.policy = policy
  events : operation.events = []
  state : operation.state = .opened
  resolution : operation.resolution = none

theorem mirrorConversationOpen_rows (store : Store) (record : OpenRecord) (now : Time) :
    ∃ operation, (mirrorConversationOpen store record now).1.operations =
        store.operations ++ [operation] ∧
      operation.v1ConversationId = record.v1ConversationId ∧
      operation.participants = (openingParticipants record).map (fun role =>
        { actorId := role.1, role := role.2, joinedAt := now }) ∧
      operation.policy = none ∧ operation.events = [] ∧ operation.state = .opened ∧
      operation.resolution = none := by
  simp only [mirrorConversationOpen, Store.insertOperation, foldl_roles_operations,
    Store.ensureActorByHandle_operations]
  exact ⟨_, rfl, rfl, rfl, rfl, rfl, rfl, rfl⟩

theorem addConversation_rows (s : State) (row : Conversation) (now : Time) :
    (∃ operation, (addConversation s row now).store.operations =
        s.store.operations ++ [operation] ∧
        Founded s.conversations.length row none now operation) ∧
      (addConversation s row now).conversations = s.conversations ++
        [{ row with v2OperationId := some s.store.operations.length }] := by
  have hid := (mirrorConversationOpen_operations s.store
    (openRecord s.conversations.length row) now).1
  rcases mirrorConversationOpen_rows s.store (openRecord s.conversations.length row) now with
    ⟨operation, hrows, hhome, hparticipants, hpolicy, hevents, hstate, hresolution⟩
  refine ⟨⟨operation, hrows, hhome, hparticipants, hpolicy, hevents, hstate, hresolution⟩, ?_⟩
  rw [← hid]
  rfl

theorem governed_rows (s : State) (row : Conversation) (policy : OperationPolicy)
    (now set : Time) :
    (∃ operation, (governed s row policy now set).store.operations =
        s.store.operations ++ [operation] ∧
        Founded s.conversations.length row (some policy) now operation) ∧
      (governed s row policy now set).conversations = s.conversations ++
        [{ row with v2OperationId := some s.store.operations.length }] := by
  rcases addConversation_rows s row now with ⟨⟨operation, hrows, hfounded⟩, hconversations⟩
  refine ⟨⟨{ operation with policy := some policy, updatedAt := set }, ?_,
    hfounded.home, hfounded.participants, rfl, hfounded.events, hfounded.state, hfounded.resolution⟩,
    hconversations⟩
  change (addConversation s row now).store.operations.modify _ _ = _
  rw [hrows, modify_concat]

/-! ## Rows after a write -/

def closedOperation (operation : V2.Operation) (closedBy resolution : String)
    (summary : Option String) (closedAt now : Time) : V2.Operation :=
  { operation with
    state := .closed
    resolution := some resolution
    resolutionSummary := summary
    closedByActorId := closerOf closedBy
    closedAt := some closedAt
    updatedAt := now }

theorem getOperation_closedStore (store : Store) (id other : Id) (closedBy resolution : String)
    (summary : Option String) (closedAt updated : Time) :
    (closedStore store id closedBy resolution summary closedAt updated).getOperation other =
      (store.getOperation other).map fun operation =>
        if other = id then closedOperation operation closedBy resolution summary closedAt updated
        else operation := by
  have hregistered : (registerCloser store closedBy).getOperation other =
      store.getOperation other := by
    rw [Store.getOperation, Store.getOperation, registerCloser_operations]
  rw [closedStore, Store.closeOperation]
  by_cases hother : other = id
  · subst hother
    rw [Store.getOperation_modifyOperation_self, hregistered]
    simp only [if_pos]
    rfl
  · rw [Store.getOperation_modifyOperation_of_ne (Ne.symm hother), hregistered]
    simp only [if_neg hother, Option.map_id']

variable {s t s₀ : State} {options : MirrorOptions} {eventId : Option EventId} {id : Id}
  {config : Config} {may : Gates}

theorem addMessage_operation {after : State} {row : Conversation} {message : Message} {now : Time}
    {operation : V2.Operation}
    (hadded : addMessage s row message options now = .ok (after, eventId))
    (hafter : after.store.getOperation id = some operation) :
    (row.v2OperationId ≠ some id ∧ s.store.getOperation id = some operation) ∨
      row.v2OperationId = some id ∧ ∃ before, s.store.getOperation id = some before ∧
        operation = rowAfter before (mirrorRecord s message options) now := by
  rcases addMessage_eq_ok.1 hadded with
    ⟨hnone, _, rfl⟩ | ⟨operationId, before, hsome, hbefore, _, _, rfl⟩
  · left
    rw [hnone]
    exact ⟨by simp, hafter⟩
  · by_cases hsame : operationId = id
    · subst hsame
      right
      refine ⟨hsome, before, hbefore, ?_⟩
      have hset : (mirroredStore s.store operationId (mirrorRecord s message options) now
          before).getOperation operationId =
            some (rowAfter before (mirrorRecord s message options) now) := by
        have hlt := (List.getElem?_eq_some_iff.mp hbefore).1
        simp [Store.getOperation, mirroredStore, hlt]
      rw [hset] at hafter
      exact (Option.some.inj hafter).symm
    · left
      have hkept : (mirroredStore s.store operationId (mirrorRecord s message options) now
          before).getOperation id = s.store.getOperation id := by
        simp [Store.getOperation, mirroredStore, hsame]
      rw [hkept] at hafter
      refine ⟨?_, hafter⟩
      rw [hsome]
      intro hid
      exact hsame (Option.some.inj hid)

theorem marks_recordClose (config : Config) (s : State) (eventId : Option EventId) :
    s.store.Marks (recordClose config s eventId).store := by
  unfold recordClose
  split
  · exact .refl _
  · apply Store.Marks.modifyOperation
    intro row _
    exact ⟨rfl, rfl, rfl, rfl, Iff.rfl, rfl, fun _ _ hreply => hreply⟩

theorem mirrorClose_operation {row : Conversation} {closedBy resolution : String}
    {summary : Option String} {bypass : Bool} {clock : Clock} {store : Store}
    {operation : V2.Operation}
    (hok : mirrorClose s row closedBy resolution summary bypass clock = .ok store)
    (hafter : store.getOperation id = some operation) :
    (row.v2OperationId ≠ some id ∧ s.store.getOperation id = some operation) ∨
      row.v2OperationId = some id ∧ ∃ before, s.store.getOperation id = some before ∧
        operation = closedOperation before closedBy resolution summary (clock 1) (clock 2) := by
  rcases mirrorClose_eq_ok.1 hok with ⟨hnone, rfl⟩ | ⟨operationId, hsome, _, rfl⟩
  · left
    rw [hnone]
    exact ⟨by simp, hafter⟩
  · rw [getOperation_closedStore] at hafter
    rcases Option.map_eq_some_iff.mp hafter with ⟨before, hbefore, hsame⟩
    by_cases hid : id = operationId
    · subst hid
      rw [if_pos rfl] at hsame
      exact Or.inr ⟨hsome, before, hbefore, hsame.symm⟩
    · rw [if_neg hid] at hsame
      subst hsame
      left
      refine ⟨?_, hbefore⟩
      rw [hsome]
      intro hother
      exact hid (Option.some.inj hother).symm

/-! ## Conversations and their operations -/

structure Mirrored (s : State) : Prop where
  lengths : s.conversations.length = s.store.operations.length
  linked : ∀ (id : Id) (row : Conversation), s.conversations[id]? = some row →
    row.v2OperationId = some id

theorem Mirrored.of_fresh (hfresh : Fresh s) : Mirrored s where
  lengths := by rw [hfresh.no_conversations, hfresh.no_operations]; rfl
  linked := by
    intro id row hrow
    rw [hfresh.no_conversations] at hrow
    cases hrow

theorem length_operations_eq {before after : Store}
    (hsame : ∀ id, (after.getOperation id).isSome = (before.getOperation id).isSome) :
    after.operations.length = before.operations.length := by
  have hlt : ∀ id, id < after.operations.length ↔ id < before.operations.length := by
    intro id
    have hthere : ∀ store : Store,
        id < store.operations.length ↔ (store.getOperation id).isSome = true := by
      intro store
      simp [Store.getOperation]
    rw [hthere, hthere, hsame]
  apply Nat.le_antisymm
  · exact Nat.not_lt.mp fun hmore => absurd ((hlt _).mp hmore) (Nat.lt_irrefl _)
  · exact Nat.not_lt.mp fun hmore => absurd ((hlt _).mpr hmore) (Nat.lt_irrefl _)

theorem addMessage_length {after : State} {row : Conversation} {message : Message} {now : Time}
    (hadded : addMessage s row message options now = .ok (after, eventId)) :
    after.store.operations.length = s.store.operations.length := by
  apply length_operations_eq
  intro id
  rw [← Store.isSome_kindState, ← Store.isSome_kindState, (addMessage_grows hadded).kindState]

theorem Mirrored.concat (hmirrored : Mirrored s) {row : Conversation}
    (hconversations : t.conversations = s.conversations ++
      [{ row with v2OperationId := some s.store.operations.length }])
    (hlength : t.store.operations.length = s.store.operations.length + 1) : Mirrored t where
  lengths := by
    rw [hconversations, hlength, List.length_append, hmirrored.lengths]
    rfl
  linked := by
    intro id found hfound
    rw [hconversations] at hfound
    rcases getElem?_concat_eq_some hfound with hold | ⟨hid, rfl⟩
    · exact hmirrored.linked id found hold
    · rw [hid, hmirrored.lengths]

theorem Mirrored.update (hmirrored : Mirrored s) {conversationId : Id} {row old : Conversation}
    (hold : s.conversations[conversationId]? = some old)
    (hsame : row.v2OperationId = old.v2OperationId)
    (hconversations : t.conversations = update s.conversations conversationId row)
    (hlength : t.store.operations.length = s.store.operations.length) : Mirrored t where
  lengths := by
    rw [hconversations, hlength, ← hmirrored.lengths]
    exact List.length_set
  linked := by
    intro id found hfound
    rw [hconversations] at hfound
    by_cases hthis : conversationId = id
    · subst hthis
      rw [getElem?_update_self hold] at hfound
      cases hfound
      rw [hsame]
      exact hmirrored.linked conversationId old hold
    · rw [getElem?_update_of_ne hthis] at hfound
      exact hmirrored.linked id found hfound

theorem Mirrored.congr (hmirrored : Mirrored s)
    (hconversations : t.conversations = s.conversations)
    (hlength : t.store.operations.length = s.store.operations.length) : Mirrored t where
  lengths := by rw [hconversations, hlength, hmirrored.lengths]
  linked := by
    rw [hconversations]
    exact hmirrored.linked

theorem Write.mirrored (hwrite : Write config s₀ may s t) (hmirrored : Mirrored s) :
    Mirrored t := by
  cases hwrite with
  | registers hregisters =>
      exact hmirrored.congr hregisters.conversations (by rw [hregisters.operations])
  | serves => exact hmirrored.congr rfl rfl
  | marks store hmarks => exact hmirrored.congr rfl hmarks.length
  | opens row now =>
      rcases addConversation_rows s row now with ⟨⟨operation, hrows, _⟩, hconversations⟩
      apply hmirrored.concat hconversations
      rw [hrows]
      exact List.length_append
  | notes hold hsame =>
      have hlinked := congrArg (fun charter => charter.2.2.1) hsame
      exact hmirrored.update hold hlinked rfl rfl
  | announces hopened hunresolved hquiet hauthor hkind haddressed hadded =>
      rename_i row policy now set message options sent eventId
      rcases governed_rows s row policy now set with ⟨⟨operation, hrows, _⟩, hconversations⟩
      apply hmirrored.concat ((addMessage_frame hadded).2.1.trans hconversations)
      rw [addMessage_length hadded, hrows]
      exact List.length_append
  | posts hknown hfound hstate hmay hadded =>
      exact hmirrored.congr (addMessage_frame hadded).2.1 (addMessage_length hadded)
  | closes hfound hopen hmay hclosed =>
      rcases closeSession_eq_ok hclosed with ⟨_, hconversations, _, _, _, hkinds⟩
      apply hmirrored.update hfound _ hconversations
      · apply length_operations_eq
        intro id
        rw [← Store.isSome_kindState, ← Store.isSome_kindState, hkinds, Option.isSome_map]
      · rfl

structure Mirror (s : State) (id : Id) (row : Conversation) (operation : V2.Operation) :
    Prop where
  conversation : s.conversations[id]? = some row
  operation : s.store.getOperation id = some operation

/-- What a write leaves of a conversation and its operation. -/
inductive Wrote (s₀ : State) (may : Gates) (s : State) (id : Id) (row : Conversation)
    (after : V2.Operation) : Prop
  | kept (old : Conversation) (before : V2.Operation) (hbefore : Mirror s id old before)
      (hsame : row.charter = old.charter)
      (hturn : row.gauge = old.gauge ∨ may.turn id old.gauge row.gauge)
      (hremains : before.Remains after)
  | founded (now : Time) (hid : id = s.conversations.length) (hopened : row.state = .opened)
      (hunresolved : row.resolution = none) (hunowned : row.ownerActor = none)
      (hunaddressed : row.expectedSpeaker = none) (hquiet : row.unaddressedSpeechCount = 0)
      (hfounded : Founded id row none now after)
  | announced (policy : OperationPolicy) (now : Time) (before : V2.Operation)
      (record : MessageRecord) (sent : Time)
      (hid : id = s.conversations.length) (hopened : row.state = .opened)
      (hunresolved : row.resolution = none) (hquiet : row.unaddressedSpeechCount = 0)
      (hfounded : Founded id row (some policy) now before)
      (hauthor : record.actorName = row.openerActor)
      (hkind : record.eventKind = eventConversationOpened)
      (haddressed : record.addressedTo = row.expectedSpeaker)
      (hafter : after = rowAfter before record sent)
  | said (before : V2.Operation) (row₀ : Conversation) (record : MessageRecord) (now : Time)
      (hbefore : Mirror s id row before)
      (hknown : s₀.conversations[id]? = some row₀)
      (hstate : row.state = row₀.state)
      (hmay : may.post id record.actorName record.eventKind)
      (hafter : after = rowAfter before record now)
  | closed (old : Conversation) (before : V2.Operation) (record : MessageRecord) (now : Time)
      (closedBy resolution : String) (summary : Option String)
      (closedAt operationClosedAt operationNow : Time)
      (hbefore : Mirror s id old before)
      (hopen : old.state ≠ .closed)
      (hmay : may.close id record.actorName)
      (hkind : record.eventKind = eventConversationClosed)
      (hrow : row = closedRow old closedBy resolution summary closedAt)
      (hremains : (rowAfter (closedOperation before closedBy resolution summary
        operationClosedAt operationNow) record now).Remains after)

theorem addMessage_mirror {after : State} {row₁ : Conversation} {message : Message} {now : Time}
    {operationId : Id} {row : Conversation} {operation : V2.Operation}
    (hlinked : row₁.v2OperationId = some operationId)
    (hadded : addMessage s row₁ message options now = .ok (after, eventId))
    (hafter : Mirror after id row operation) :
    (operationId ≠ id ∧ Mirror s id row operation) ∨
      operationId = id ∧ ∃ before, Mirror s id row before ∧
        operation = rowAfter before (mirrorRecord s message options) now := by
  have hconversation := hafter.conversation
  rw [(addMessage_frame hadded).2.1] at hconversation
  rcases addMessage_operation hadded hafter.operation with
    ⟨hother, hsame⟩ | ⟨hthis, before, hbefore, hrow⟩
  · left
    refine ⟨?_, hconversation, hsame⟩
    intro hid
    rw [hlinked, hid] at hother
    exact hother rfl
  · right
    rw [hlinked] at hthis
    exact ⟨Option.some.inj hthis, before, ⟨hconversation, hbefore⟩, hrow⟩

/-- What a write leaves of any conversation that has its mirror. -/
theorem Write.wrote (hwrite : Write config s₀ may s t) (hmirrored : Mirrored s)
    {row : Conversation} {after : V2.Operation} (hafter : Mirror t id row after) :
    Wrote s₀ may s id row after := by
  have hkept : ∀ {kept : Conversation} {operation : V2.Operation},
      Mirror s id kept operation → Wrote s₀ may s id kept operation := by
    intro kept operation hmirror
    exact .kept kept operation hmirror rfl (Or.inl rfl) (.refl operation)
  cases hwrite with
  | registers hregisters =>
      apply hkept
      constructor
      · rw [← hregisters.conversations]
        exact hafter.conversation
      · rw [← hregisters.getOperation]
        exact hafter.operation
  | serves => exact hkept ⟨hafter.conversation, hafter.operation⟩
  | marks store hmarks =>
      rcases hmarks.unmarked hafter.operation with ⟨before, hbefore, hremains⟩
      exact .kept row before ⟨hafter.conversation, hbefore⟩ rfl (Or.inl rfl) hremains
  | opens newRow now hopened hunresolved hunowned hunaddressed hquiet =>
      rcases addConversation_rows s newRow now with
        ⟨⟨operation, hrows, hfounded⟩, hconversations⟩
      have hrow := hafter.conversation
      have hoperation := hafter.operation
      rw [hconversations] at hrow
      rw [Store.getOperation, hrows] at hoperation
      rcases getElem?_concat_eq_some hrow with hold | ⟨hid, hnew⟩
      · rcases getElem?_concat_eq_some hoperation with hbefore | ⟨hid, _⟩
        · exact hkept ⟨hold, hbefore⟩
        · have hlt := (List.getElem?_eq_some_iff.mp hold).1
          rw [hid, hmirrored.lengths] at hlt
          exact absurd hlt (Nat.lt_irrefl _)
      · rcases getElem?_concat_eq_some hoperation with hbefore | ⟨_, hthis⟩
        · have hlt := (List.getElem?_eq_some_iff.mp hbefore).1
          rw [hid, hmirrored.lengths] at hlt
          exact absurd hlt (Nat.lt_irrefl _)
        · subst hnew
          subst hthis
          exact .founded now hid hopened hunresolved hunowned hunaddressed hquiet
            ⟨hfounded.home.trans hid.symm, hfounded.participants, hfounded.policy,
              hfounded.events, hfounded.state, hfounded.resolution⟩
  | notes hold hsame hturn =>
      rename_i conversationId newRow old
      by_cases hthis : conversationId = id
      · subst hthis
        have hrow := hafter.conversation
        rw [State.setConversation, getElem?_update_self hold] at hrow
        cases hrow
        exact .kept old after ⟨hold, hafter.operation⟩ hsame hturn (.refl after)
      · apply hkept
        constructor
        · have hrow := hafter.conversation
          rw [State.setConversation, getElem?_update_of_ne hthis] at hrow
          exact hrow
        · exact hafter.operation
  | announces hopened hunresolved hquiet hauthor hkind haddressed hadded =>
      rename_i newRow policy now set message options sent eventId
      rcases governed_rows s newRow policy now set with
        ⟨⟨operation, hrows, hfounded⟩, hconversations⟩
      rcases addMessage_mirror rfl hadded hafter with
        ⟨hother, hmirror⟩ | ⟨hid, before, hmirror, hsaid⟩
      · have hrow := hmirror.conversation
        have hoperation := hmirror.operation
        rw [hconversations] at hrow
        rw [Store.getOperation, hrows] at hoperation
        rcases getElem?_concat_eq_some hrow with hold | ⟨hid, _⟩
        · rcases getElem?_concat_eq_some hoperation with hbefore | ⟨hid, _⟩
          · exact hkept ⟨hold, hbefore⟩
          · exact absurd hid.symm hother
        · rw [hmirrored.lengths] at hid
          exact absurd hid.symm hother
      · have hrow := hmirror.conversation
        have hoperation := hmirror.operation
        rw [hconversations, ← hid, ← hmirrored.lengths, List.getElem?_concat_length] at hrow
        rw [Store.getOperation, hrows, ← hid, List.getElem?_concat_length] at hoperation
        cases hrow
        cases hoperation
        exact .announced policy now operation _ sent (hid.symm.trans hmirrored.lengths.symm)
          hopened hunresolved hquiet
          ⟨hfounded.home.trans (hmirrored.lengths.trans hid), hfounded.participants,
            hfounded.policy, hfounded.events, hfounded.state, hfounded.resolution⟩
          hauthor hkind haddressed hsaid
  | posts hknown hfound hstate hmay hadded =>
      rename_i conversationId row₀ found message options now eventId
      rcases addMessage_mirror (hmirrored.linked _ _ hfound) hadded hafter with
        ⟨_, hmirror⟩ | ⟨hid, before, hmirror, hsaid⟩
      · exact hkept hmirror
      · subst hid
        have hsame : found = row :=
          Option.some.inj (hfound.symm.trans hmirror.conversation)
        rw [hsame] at hstate
        exact .said before row₀ _ now hmirror hknown hstate hmay hsaid
  | closes hfound hopen hmay hclosed =>
      rename_i conversationId old closedBy resolution summary bypass clock result
      have hlinked := hmirrored.linked _ _ hfound
      have hrow := hafter.conversation
      rw [(closeSession_eq_ok hclosed).2.1] at hrow
      simp only [closeSession, bind_eq_ok, pure_eq_ok, Prod.exists, Prod.mk.injEq] at hclosed
      rcases hclosed with ⟨store, hstore, posted, eventId, hadded, _, rfl⟩
      rcases (marks_recordClose config posted eventId).unmarked hafter.operation with
        ⟨unmarked, hunmarked, hremains⟩
      by_cases hthis : conversationId = id
      · subst hthis
        rw [getElem?_update_self hfound] at hrow
        cases hrow
        rcases addMessage_operation hadded hunmarked with
          ⟨hother, _⟩ | ⟨_, between, hbetween, rfl⟩
        · exact absurd hlinked hother
        · rcases mirrorClose_operation hstore hbetween with
            ⟨hother, _⟩ | ⟨_, before, hbefore, rfl⟩
          · exact absurd hlinked hother
          · exact .closed old before _ _ closedBy resolution summary _ _ _ ⟨hfound, hbefore⟩
              hopen hmay rfl rfl hremains
      · rw [getElem?_update_of_ne hthis] at hrow
        have hother : old.v2OperationId ≠ some id := by
          rw [hlinked]
          intro hid
          exact hthis (Option.some.inj hid)
        rcases addMessage_operation hadded hunmarked with ⟨_, hsame⟩ | ⟨hid, _⟩
        · rcases mirrorClose_operation hstore hsame with ⟨_, hbefore⟩ | ⟨hid, _⟩
          · exact .kept row unmarked ⟨hrow, hbefore⟩ rfl (Or.inl rfl) hremains
          · exact absurd hid hother
        · exact absurd hid hother

/-! ## The rule for runs -/

theorem Write.length_le (hwrite : Write config s₀ may s t) :
    s.conversations.length ≤ t.conversations.length := by
  cases hwrite with
  | registers hregisters => rw [hregisters.conversations]
  | serves => exact le_rfl
  | marks => exact le_rfl
  | opens row now =>
      rw [(addConversation_rows s row now).2, List.length_append]
      exact Nat.le_add_right _ _
  | notes => exact List.length_set.ge
  | announces hopened hunresolved hquiet hauthor hkind haddressed hadded =>
      rename_i row policy now set message options sent eventId
      rw [(addMessage_frame hadded).2.1, (governed_rows s row policy now set).2,
        List.length_append]
      exact Nat.le_add_right _ _
  | posts hknown hfound hstate hmay hadded => rw [(addMessage_frame hadded).2.1]
  | closes hfound hopen hmay hclosed =>
      rw [(closeSession_eq_ok hclosed).2.1]
      exact List.length_set.ge

theorem Mirrored.mirror (hmirrored : Mirrored s) (hlt : id < s.conversations.length) :
    ∃ row operation, Mirror s id row operation := by
  have hlt' : id < s.store.operations.length := by
    rw [← hmirrored.lengths]
    exact hlt
  exact ⟨_, _, List.getElem?_eq_getElem hlt, List.getElem?_eq_getElem hlt'⟩

/-- `after` has the policy, the participants and the log of `before`, in place. -/
structure Grown (before after : V2.Operation) : Prop where
  policy : after.policy = before.policy
  participants : before.participants <+: after.participants
  said : before.events.map Event.said <+: after.events.map Event.said
  replies : ∀ index parent, replyAt before.events index = some parent →
    replyAt after.events index = some parent

theorem Grown.trans {before between after : V2.Operation} (hfirst : Grown before between)
    (hlast : Grown between after) : Grown before after where
  policy := hlast.policy.trans hfirst.policy
  participants := hfirst.participants.trans hlast.participants
  said := hfirst.said.trans hlast.said
  replies := fun index parent hreply =>
    hlast.replies index parent (hfirst.replies index parent hreply)

theorem Grown.of_remains {before after : V2.Operation} (hremains : before.Remains after) :
    Grown before after where
  policy := hremains.policy
  participants := hremains.participants.symm ▸ List.prefix_rfl
  said := hremains.said.symm ▸ List.prefix_rfl
  replies := hremains.replies

theorem Grown.isSome_event {before after : V2.Operation} (hgrown : Grown before after)
    {index : Nat} (hevent : (before.events[index]?).isSome) :
    (after.events[index]?).isSome := by
  rcases Option.isSome_iff_exists.mp hevent with ⟨event, hevent⟩
  have hlt := (List.getElem?_eq_some_iff.mp hevent).1
  have hlonger := hgrown.said.length_le
  rw [List.length_map, List.length_map] at hlonger
  rw [List.getElem?_eq_getElem (hlt.trans_le hlonger)]
  rfl

theorem Grown.rowAfter (before : V2.Operation) (record : MessageRecord) (now : Time) :
    Grown before (OperationMirror.rowAfter before record now) where
  policy := rfl
  participants := prefix_joinParticipants _ _ _
  said := by
    change _ <+: (before.events ++ [eventOf record now]).map Event.said
    rw [List.map_append]
    exact List.prefix_append _ _
  replies := by
    intro index parent hreply
    rw [replyAt, Option.bind_eq_some_iff] at hreply
    rcases hreply with ⟨event, hevent, hparent⟩
    have hlt := (List.getElem?_eq_some_iff.mp hevent).1
    change (before.events ++ [eventOf record now])[index]?.bind (·.repliesToEventId) = _
    rw [List.getElem?_append_left hlt, hevent]
    exact hparent

/-- Every operation of `s` is in `t`. -/
def Descends (s t : State) : Prop :=
  ∀ id row before, Mirror s id row before →
    ∃ row' after, Mirror t id row' after ∧ Grown before after

theorem Descends.refl (s : State) : Descends s s :=
  fun _ row before hmirror => ⟨row, before, hmirror, .of_remains (.refl before)⟩

theorem Descends.trans {u : State} (hfirst : Descends s t) (hlast : Descends t u) :
    Descends s u := by
  intro id row before hbefore
  rcases hfirst id row before hbefore with ⟨row', between, hbetween, hgrown⟩
  rcases hlast id row' between hbetween with ⟨row'', after, hafter, hgrown'⟩
  exact ⟨row'', after, hafter, hgrown.trans hgrown'⟩

theorem Descends.operation (hdescends : Descends s t) (hmirrored : Mirrored s)
    {before : V2.Operation} (hbefore : s.store.getOperation id = some before) :
    ∃ after, t.store.getOperation id = some after ∧ Grown before after := by
  have hlt := (List.getElem?_eq_some_iff.mp hbefore).1
  rw [← hmirrored.lengths] at hlt
  rcases hmirrored.mirror hlt with ⟨row, found, hmirror⟩
  have hthis : found = before := Option.some.inj (hmirror.operation.symm.trans hbefore)
  rcases hdescends id row found hmirror with ⟨row', after, hafter, hgrown⟩
  rw [hthis] at hgrown
  exact ⟨after, hafter.operation, hgrown⟩

theorem getEvent_of_grown {before after : Store}
    (hgrown : ∀ id row, before.getOperation id = some row →
      ∃ row', after.getOperation id = some row' ∧ Grown row row')
    {id : EventId} (hevent : (before.getEvent id).isSome) : (after.getEvent id).isSome := by
  rw [Store.getEvent] at hevent ⊢
  cases hoperation : before.getOperation id.operation with
  | none =>
      rw [Store.log, hoperation] at hevent
      cases hevent
  | some row =>
      rcases hgrown id.operation row hoperation with ⟨row', hafter, hrow⟩
      rw [Store.log_eq_of_getOperation hoperation] at hevent
      rw [Store.log_eq_of_getOperation hafter]
      exact hrow.isSome_event hevent

theorem Write.descends (hwrite : Write config s₀ may s t) (hmirrored : Mirrored s) :
    Descends s t := by
  intro id row before hbefore
  have hlt := (List.getElem?_eq_some_iff.mp hbefore.conversation).1
  rcases (hwrite.mirrored hmirrored).mirror (hlt.trans_le hwrite.length_le) with
    ⟨row', after, hafter⟩
  refine ⟨row', after, hafter, ?_⟩
  have hthis : ∀ old found, Mirror s id old found → found = before := by
    intro old found hfound
    exact Option.some.inj (hfound.operation.symm.trans hbefore.operation)
  cases hwrite.wrote hmirrored hafter with
  | kept old found hfound hsame hturn hremains =>
      rw [← hthis old found hfound]
      exact .of_remains hremains
  | founded now hid =>
      exact absurd hid hlt.ne
  | announced policy now found record sent hid => exact absurd hid hlt.ne
  | said found row₀ record now hfound hknown hstate hmay hafter =>
      rw [← hthis row' found hfound, hafter]
      exact .rowAfter found record now
  | closed old found record now closedBy resolution summary closedAt operationClosedAt
      operationNow hfound hopen hmay hkind hrow hremains =>
      rw [← hthis old found hfound]
      have hshut : Grown found (closedOperation found closedBy resolution summary
          operationClosedAt operationNow) :=
        ⟨rfl, List.prefix_rfl, List.prefix_rfl, fun _ _ hreply => hreply⟩
      exact (hshut.trans (.rowAfter _ record now)).trans (.of_remains hremains)

theorem Writes.keeps {P : State → Prop} (hwrites : Writes config s₀ may s t) (hs : P s)
    (hwrite : ∀ u v, P u → Write config s₀ may u v → P v) : P t := by
  induction hwrites with
  | refl => exact hs
  | tail _ hlast ih => exact hwrite _ _ ih hlast

def Lawful (law : Id → Conversation → V2.Operation → Prop) (s : State) : Prop :=
  ∀ id row operation, Mirror s id row operation → law id row operation

theorem Writes.keepsMirrors {law : Id → Conversation → V2.Operation → Prop}
    (hwrites : Writes config s₀ may s₀ t) (hmirrored : Mirrored s₀) (hlawful : Lawful law s₀)
    (hwrote : ∀ u id row after, Descends s₀ u →
      (∀ old before, Mirror u id old before → law id old before) →
      Wrote s₀ may u id row after → law id row after) : Mirrored t ∧ Lawful law t := by
  have hkept : Mirrored t ∧ Descends s₀ t ∧ Lawful law t := by
    apply hwrites.keeps (P := fun u => Mirrored u ∧ Descends s₀ u ∧ Lawful law u)
      ⟨hmirrored, .refl s₀, hlawful⟩
    rintro u v ⟨hu, hdescends, hlaw⟩ hwrite
    refine ⟨hwrite.mirrored hu, hdescends.trans (hwrite.descends hu), ?_⟩
    intro id row after hafter
    exact hwrote u id row after hdescends (hlaw id) (hwrite.wrote hu hafter)
  exact ⟨hkept.1, hkept.2.2⟩

theorem throughout_lawful (api : ApiConfig) (hfresh : Fresh s) {acts : List Act}
    {law : Id → Conversation → V2.Operation → Prop} {C : State → Act → Prop}
    (halong : Along (systemStep api) C s acts)
    (hwrote : ∀ t act, Mirrored t → C t act → ∀ u id row after, Descends t u →
      (∀ old before, Mirror u id old before → law id old before) →
      Wrote t (act.gates api t) u id row after → law id row after) :
    Throughout (systemStep api) (fun t => Mirrored t ∧ Lawful law t) s acts := by
  apply throughout_of_preserved
  · refine ⟨.of_fresh hfresh, ?_⟩
    intro id row operation hmirror
    have hrow := hmirror.conversation
    rw [hfresh.no_conversations] at hrow
    cases hrow
  · rintro done act hact ⟨hmirrored, hlawful⟩
    apply (systemStep_writes api _ act).keepsMirrors hmirrored hlawful
    exact hwrote _ act hmirrored (halong done act hact)

end OpsCure.Chat
