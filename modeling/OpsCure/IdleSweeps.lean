/-
Is idle sweeping confluent (`sweep_idle_conversations`)?  What a sweep does to a conversation
depends on the level its idleness has reached and on the count of levels it has been warned of.
Sweeps before the last one change when something is recorded, and nothing else.
-/
import OpsCure.Library.Escalation
import OpsCure.Histories

namespace OpsCure.Chat

open Fallible Session Table Run Contract V2 OperationMirror Escalation

/-! ## A conversation but for the time -/

/-- The fields of a payload that tell when it was written: how old the conversation was, the text of
the close that tells its age, and the times of the first warning and of the close. -/
def clockFields : List String :=
  ["ageSeconds", "resolution_summary", "idle_warning_emitted_at", "closed_at"]

def timeless : Json → Json
  | .obj fields => .obj (fields.filter fun field => field.1 ∉ clockFields)
  | content => content

def Message.outline (message : Message) : Message :=
  { message with
    content := timeless message.content
    createdAt := 0 }

def Conversation.outline (row : Conversation) : Conversation :=
  { row with
    resolutionSummary := row.resolutionSummary.map fun _ => ""
    idleWarningEmittedAt := row.idleWarningEmittedAt.map fun _ => 0
    closedAt := row.closedAt.map fun _ => 0 }

def eventOutline (event : Event) : Event :=
  { event with
    payload :=
      { event.payload with
        text := timeless event.payload.text
        lifecycle := event.payload.lifecycle.map timeless }
    createdAt := 0 }

def participantOutline (participant : Participant) : Participant :=
  { participant with joinedAt := 0 }

/-- The card of a close tells its time, and is left out. -/
def operationOutline (operation : V2.Operation) : V2.Operation :=
  { operation with
    resolutionSummary := operation.resolutionSummary.map fun _ => ""
    updatedAt := 0
    closedAt := operation.closedAt.map fun _ => 0
    participants := operation.participants.map participantOutline
    events := operation.events.map eventOutline
    artifacts := [] }

/-- All that is recorded of a conversation, but for the times. -/
structure Outline where
  row : Conversation
  messages : List Message
  operation : V2.Operation

def outlineAt (s : State) (id : Id) : Option Outline :=
  (s.conversations[id]?).bind fun row =>
    (s.store.getOperation id).map fun operation =>
      { row := row.outline
        messages := (s.messages.filter (·.conversationId = id)).map Message.outline
        operation := operationOutline operation }

theorem outlineAt_eq_some {s : State} {id : Id} {o : Outline} :
    outlineAt s id = some o ↔ ∃ row operation, s.conversations[id]? = some row ∧
      s.store.getOperation id = some operation ∧
      o = { row := row.outline
            messages := (s.messages.filter (·.conversationId = id)).map Message.outline
            operation := operationOutline operation } := by
  rw [outlineAt]
  simp only [Option.bind_eq_some_iff, Option.map_eq_some_iff]
  constructor
  · rintro ⟨row, hrow, operation, hoperation, rfl⟩
    exact ⟨row, operation, hrow, hoperation, rfl⟩
  · rintro ⟨row, operation, hrow, hoperation, rfl⟩
    exact ⟨row, hrow, operation, hoperation, rfl⟩

theorem timeless_timeless (content : Json) : timeless (timeless content) = timeless content := by
  cases content with
  | obj =>
      rw [timeless, timeless, List.filter_filter]
      simp
  | _ => rfl

theorem isObj_timeless (content : Json) : (timeless content).isObj = content.isObj := by
  cases content <;> rfl

/-! ## Posting -/

def plainRecord (message : Message) : MessageRecord where
  actorName := message.actorName
  eventKind := message.eventKind
  content := message.content
  addressedTo := message.addressedTo
  addressedToMany := message.addressedToMany.getD []
  repliesToV2EventId := none
  privateToActors := []
  expectedResponse := none

def Outline.post (id : Id) (o : Outline) (message : Message) : Outline :=
  let record := plainRecord message.outline
  { row := o.row
    messages := o.messages ++
      [{ message.outline with v2EventId := some ⟨id, o.operation.events.length⟩ }]
    operation :=
      { o.operation with
        participants := joinParticipants o.operation.participants record 0
        events := o.operation.events ++ [eventOutline (eventOf record 0)] } }

theorem eventOutline_eventOf (message : Message) (now : Time) :
    eventOutline (eventOf (plainRecord message) now) =
      eventOutline (eventOf (plainRecord message.outline) 0) := by
  have hlifecycle : (if isSpeechKind message.eventKind ∨ !message.content.isObj then none
        else some message.content).map timeless =
      (if isSpeechKind message.eventKind ∨ !(timeless message.content).isObj then none
        else some (timeless message.content)).map timeless := by
    rw [isObj_timeless]
    split_ifs
    · rfl
    · rw [Option.map_some, Option.map_some, timeless_timeless]
  simp only [eventOutline, eventOf, Event.mk.injEq, EventPayload.mk.injEq]
  exact ⟨rfl, rfl, ⟨(timeless_timeless _).symm, hlifecycle, rfl, trivial⟩, rfl, rfl, rfl, trivial⟩

theorem joinAs_outline (now : Time) (role : String) (participants : List Participant)
    (actorId : String) : (joinAs now role participants actorId).map participantOutline =
      joinAs 0 role (participants.map participantOutline) actorId := by
  have hthere : (participants.map participantOutline).any (·.actorId = actorId) =
      participants.any (·.actorId = actorId) := by
    rw [List.any_map]
    rfl
  rw [joinAs, joinAs, hthere]
  split
  · rfl
  · rw [List.map_append]
    rfl

theorem joinParticipants_outline (participants : List Participant) (record : MessageRecord)
    (now : Time) : (joinParticipants participants record now).map participantOutline =
      joinParticipants (participants.map participantOutline) record 0 := by
  rw [joinParticipants, joinParticipants, joinAs_outline]
  congr 1
  generalize addressedHandles record = handles
  induction handles generalizing participants with
  | nil => rfl
  | cons handle handles ih =>
      rw [List.foldl_cons, List.foldl_cons, ih, joinAs_outline]

theorem mirrorRecord_plain (s : State) {message : Message}
    (hquiet : message.repliesToSpeechId = none) :
    mirrorRecord s message {} = plainRecord message := by
  rw [mirrorRecord, plainRecord, hquiet]
  rfl

theorem operationOutline_rowAfter (operation : V2.Operation) (message : Message) (now : Time) :
    operationOutline (rowAfter operation (plainRecord message) now) =
      { operationOutline operation with
        participants := joinParticipants (operationOutline operation).participants
          (plainRecord message.outline) 0
        events := (operationOutline operation).events ++
          [eventOutline (eventOf (plainRecord message.outline) 0)] } := by
  have hparticipants : (rowAfter operation (plainRecord message) now).participants.map
      participantOutline = joinParticipants (operationOutline operation).participants
        (plainRecord message.outline) 0 :=
    joinParticipants_outline operation.participants (plainRecord message) now
  have hevents : (rowAfter operation (plainRecord message) now).events.map eventOutline =
      (operationOutline operation).events ++
        [eventOutline (eventOf (plainRecord message.outline) 0)] := by
    rw [← eventOutline_eventOf message now]
    exact List.map_append
  rw [operationOutline, hparticipants, hevents]
  rfl

theorem addMessage_outline {s after : State} {row : Conversation} {message : Message} {now : Time}
    {eventId : Option EventId} {id : Id} (hlinked : row.v2OperationId = some id)
    (hhome : message.conversationId = id) (hquiet : message.repliesToSpeechId = none)
    (hadded : addMessage s row message {} now = .ok (after, eventId)) (other : Id) :
    outlineAt after other =
      (outlineAt s other).map fun o => if other = id then o.post id message else o := by
  rcases addMessage_eq_ok.1 hadded with ⟨hnone, _⟩ |
    ⟨operationId, operation, hsome, hoperation, _, rfl, rfl⟩
  · rw [hlinked] at hnone
    cases hnone
  · rw [hlinked] at hsome
    cases hsome
    rw [mirrorRecord_plain s hquiet]
    have hlt := (List.getElem?_eq_some_iff.mp hoperation).1
    by_cases hsame : other = id
    · subst hsame
      have hafter : (mirroredStore s.store other (plainRecord message) now operation).getOperation
          other = some (rowAfter operation (plainRecord message) now) := by
        simp [Store.getOperation, mirroredStore, hlt]
      have hmessages : (s.messages ++ [{ message with
          v2EventId := some ⟨other, operation.events.length⟩ }]).filter
            (·.conversationId = other) =
          s.messages.filter (·.conversationId = other) ++ [{ message with
            v2EventId := some ⟨other, operation.events.length⟩ }] := by
        rw [List.filter_append]
        simp [hhome]
      have hlength : (operationOutline operation).events.length = operation.events.length :=
        List.length_map _
      simp only [outlineAt, hafter, hmessages, hoperation, if_pos]
      cases s.conversations[other]? with
      | none => rfl
      | some =>
          simp only [Option.bind_some, Option.map_some, Outline.post, operationOutline_rowAfter,
            List.map_append, hlength]
          rfl
    · have hafter : (mirroredStore s.store id (plainRecord message) now operation).getOperation
          other = s.store.getOperation other := by
        simp [Store.getOperation, mirroredStore, Ne.symm hsame]
      have hmessages : (s.messages ++ [{ message with
          v2EventId := some ⟨id, operation.events.length⟩ }]).filter
            (·.conversationId = other) = s.messages.filter (·.conversationId = other) := by
        rw [List.filter_append]
        simp [hhome, Ne.symm hsame]
      simp only [outlineAt, hafter, hmessages, if_neg hsame, Option.map_id']

theorem setConversation_outline {s : State} {id : Id} {row old : Conversation}
    (hold : s.conversations[id]? = some old) (other : Id) :
    outlineAt (s.setConversation id row) other =
      (outlineAt s other).map fun o => if other = id then { o with row := row.outline } else o := by
  by_cases hsame : other = id
  · subst hsame
    have hrow : (s.setConversation other row).conversations[other]? = some row :=
      getElem?_update_self hold
    rw [outlineAt, hrow, outlineAt, hold]
    simp only [Option.bind_some, if_pos, Option.map_map]
    rfl
  · have hrow : (s.setConversation id row).conversations[other]? = s.conversations[other]? :=
      getElem?_update_of_ne (Ne.symm hsame)
    rw [outlineAt, hrow]
    simp only [if_neg hsame, Option.map_id']
    rfl

theorem post_outline (id : Id) (o : Outline) {message other : Message}
    (hsame : message.outline = other.outline) : o.post id message = o.post id other := by
  rw [Outline.post, Outline.post, hsame]

/-! ## What a sweep changes -/

def idleWarning (id : Id) (row : Conversation) (threshold : Int) (now sent : Time) (level : Nat) :
    Message :=
  lifecycleMessage row id "system" eventConversationIdleWarning row.expectedSpeaker
    (.obj [("conversationId", .int id),
      ("kind", .str row.kind.text),
      ("title", .str row.title),
      ("expectedSpeaker", optionJson row.expectedSpeaker),
      ("ownerActor", optionJson row.ownerActor),
      ("lastSpeechAt", .int (lastActive row)),
      ("ageSeconds", .int ((now - lastActive row) / 1000000)),
      ("idleThresholdSeconds", .int threshold),
      ("level", .int level)])
    sent

def abandonment (id : Id) (closed : Conversation) (sent : Time) : Message :=
  lifecycleMessage closed id "system" eventConversationClosed none (summaryPayload id closed) sent

def Outline.warn (id : Id) (threshold : Int) (o : Outline) (level : Nat) : Outline :=
  { o.post id (idleWarning id o.row threshold 0 0 level) with
    row := { o.row with idleWarningEmittedAt := some 0, idleWarningCount := level } }

def Outline.close (id : Id) (o : Outline) : Outline :=
  let closed := closedRow o.row "system" "abandoned" (some "") 0
  let noted : Outline :=
    { o with
      row := closed
      operation := closedOperation o.operation "system" "abandoned" (some "") 0 0 }
  noted.post id (abandonment id closed 0)

def Outline.abandon (id : Id) (o : Outline) : Outline :=
  { o.close id with row := { (o.close id).row with idleWarningCount := 3 } }

/-- Every conversation is changed in its own way, and nothing else but the actors is. -/
structure Changed (config : Config) (change : Id → Outline → Outline) (s t : State) : Prop where
  sound : SoundState config t
  threads : t.threads = s.threads
  tasks : t.tasks = s.tasks
  outlines : ∀ id, outlineAt t id = (outlineAt s id).map (change id)

/-- A change of some conversations alone. -/
def only (ids : List Id) (change : Id → Outline → Outline) (id : Id) (o : Outline) : Outline :=
  if id ∈ ids then change id o else o

theorem only_self (id : Id) (change : Id → Outline → Outline) :
    only [id] change id = change id := by
  funext o
  simp [only]

theorem only_of_ne {id other : Id} (hother : other ≠ id) (change : Id → Outline → Outline) :
    only [id] change other = fun o => o := by
  funext o
  simp [only, hother]

theorem only_cons {id : Id} {ids : List Id} (hnew : id ∉ ids) (change : Id → Outline → Outline)
    (other : Id) (o : Outline) :
    only ids change other (only [id] change other o) = only (id :: ids) change other o := by
  by_cases hother : other = id
  · subst hother
    simp [only, hnew]
  · simp [only, hother]

namespace Changed

variable {config : Config} {change further : Id → Outline → Outline} {s t u : State}

theorem refl (hsound : SoundState config s) : Changed config (fun _ o => o) s s where
  sound := hsound
  threads := rfl
  tasks := rfl
  outlines := by
    intro id
    rw [Option.map_id']

theorem trans (hfirst : Changed config change s t) (hrest : Changed config further t u) :
    Changed config (fun id o => further id (change id o)) s u where
  sound := hrest.sound
  threads := hrest.threads.trans hfirst.threads
  tasks := hrest.tasks.trans hfirst.tasks
  outlines := by
    intro id
    rw [hrest.outlines, hfirst.outlines, Option.map_map]
    rfl

theorem congr (hchanged : Changed config change s t)
    (hsame : ∀ id o, outlineAt s id = some o → change id o = further id o) :
    Changed config further s t where
  sound := hchanged.sound
  threads := hchanged.threads
  tasks := hchanged.tasks
  outlines := by
    intro id
    rw [hchanged.outlines]
    cases ho : outlineAt s id with
    | none => rfl
    | some o => exact congrArg some (hsame id o ho)

theorem cons {id : Id} {ids : List Id} (hfirst : Changed config (only [id] change) s t)
    (hrest : Changed config (only ids change) t u) (hnew : id ∉ ids) :
    Changed config (only (id :: ids) change) s u :=
  (hfirst.trans hrest).congr fun other o _ => only_cons hnew change other o

theorem kept {id other : Id} (hchanged : Changed config (only [id] change) s t)
    (hother : other ≠ id) : outlineAt t other = outlineAt s other := by
  rw [hchanged.outlines, only_of_ne hother, Option.map_id']

end Changed

theorem exists_operation {config : Config} {s : State} {id : Id} {row : Conversation}
    (hsound : SoundState config s) (hrow : s.conversations[id]? = some row) :
    row.v2OperationId = some id ∧ ∃ operation, s.store.getOperation id = some operation ∧
      operation.kind = row.kind ∧ (row.isGeneral = true ↔ row.kind = .general) ∧
      (operation.state = .closed ↔ row.state = .closed) := by
  rcases hsound.linked id row.entry (ledger_entry hrow) with ⟨state, hstate, hlinked⟩
  rw [ledger_operation, Store.kindState] at hstate
  rcases Option.map_eq_some_iff.mp hstate with ⟨operation, hoperation, hsame⟩
  rw [Prod.mk.injEq] at hsame
  refine ⟨hlinked.mirrored, operation, hoperation, hsame.1, hlinked.general, ?_⟩
  rw [hsame.2, hlinked.closed]
  exact decide_eq_true_iff

theorem exists_outline {config : Config} {s : State} {id : Id} {row : Conversation}
    (hsound : SoundState config s) (hrow : s.conversations[id]? = some row) :
    ∃ o, outlineAt s id = some o ∧ o.row = row.outline := by
  rcases exists_operation hsound hrow with ⟨_, operation, hoperation, _⟩
  exact ⟨_, outlineAt_eq_some.2 ⟨row, operation, hrow, hoperation, rfl⟩, rfl⟩

theorem idleWarning_outline (id : Id) (row : Conversation) (threshold : Int) (now sent : Time)
    (level : Nat) : (idleWarning id row threshold now sent level).outline =
      (idleWarning id row.outline threshold 0 0 level).outline := by
  simp [Message.outline, idleWarning, lifecycleMessage, timeless, clockFields, lastActive,
    Conversation.outline]

theorem timeless_summaryPayload (id : Id) (row : Conversation) :
    timeless (summaryPayload id row) = timeless (summaryPayload id row.outline) := by
  simp [timeless, clockFields, summaryPayload, Conversation.outline]

theorem outline_closedRow (row : Conversation) (summary : String) (now : Time) :
    (closedRow row "system" "abandoned" (some summary) now).outline =
      closedRow row.outline "system" "abandoned" (some "") 0 := rfl

theorem abandonment_outline (id : Id) (row : Conversation) (summary : String) (now sent : Time) :
    (abandonment id (closedRow row "system" "abandoned" (some summary) now) sent).outline =
      (abandonment id (closedRow row.outline "system" "abandoned" (some "") 0) 0).outline := by
  have hpayload := timeless_summaryPayload id
    (closedRow row "system" "abandoned" (some summary) now)
  rw [outline_closedRow] at hpayload
  simp only [Message.outline, abandonment, lifecycleMessage, hpayload]
  rfl

/-- A warning can always be recorded. -/
theorem warnIdle_changed {config : Config} {s : State} {id : Id} (hsound : SoundState config s)
    (hthere : (outlineAt s id).isSome) (threshold : Int) (now : Time) (clock : Clock)
    (level : Nat) : ∃ t, warnIdle s id threshold now clock level = .ok t ∧
      Changed config (only [id] fun id o => o.warn id threshold level) s t := by
  obtain ⟨o, ho⟩ := Option.isSome_iff_exists.mp hthere
  obtain ⟨row, operation, hrow, hoperation, hoeq⟩ := outlineAt_eq_some.1 ho
  obtain ⟨hlinked, _⟩ := exists_operation hsound hrow
  let message := idleWarning id row threshold now (clock level) level
  let noted := { row with
    idleWarningEmittedAt := row.idleWarningEmittedAt.or (some now)
    idleWarningCount := level }
  obtain ⟨posted, eventId, hadded⟩ : ∃ posted eventId,
      addMessage s row message {} (clock level) = .ok (posted, eventId) := by
    apply addMessage_isOk rfl
    intro operationId hother
    rw [hlinked] at hother
    cases hother
    rw [hoperation]
    rfl
  obtain ⟨hthreads, hconversations, htasks⟩ := addMessage_frame hadded
  have hposted : posted.conversations[id]? = some row := by
    rw [hconversations]
    exact hrow
  have hwarned : warnIdle s id threshold now clock level =
      .ok (posted.setConversation id noted) := by
    simp only [warnIdle, getConversation, bind_eq_ok, orRaise_eq_ok, pure_eq_ok, Prod.exists]
    exact ⟨row, hrow, posted, eventId, hadded, rfl⟩
  refine ⟨_, hwarned, ?_⟩
  constructor
  · exact hsound.of_ledger (warnIdle_ledger hwarned)
  · exact hthreads
  · exact htasks
  · intro other
    rw [setConversation_outline hposted, addMessage_outline hlinked rfl rfl hadded,
      Option.map_map]
    by_cases hother : other = id
    · subst hother
      have hwarning := idleWarning_outline other row threshold now (clock level) level
      rw [only_self, ho, hoeq]
      simp only [Option.map_some, Function.comp_apply, if_pos]
      rw [post_outline other _ hwarning]
      have hnoted : noted.outline =
          { row.outline with
            idleWarningEmittedAt := some 0
            idleWarningCount := level } := by
        have hemitted : (row.idleWarningEmittedAt.or (some now)).map (fun _ => (0 : Time)) =
            some 0 := by
          cases row.idleWarningEmittedAt <;> rfl
        simp only [noted, Conversation.outline, hemitted]
      rw [hnoted]
      rfl
    · rw [only_of_ne hother]
      simp only [if_neg hother]
      rfl

theorem closedStore_outline (s : State) (id : Id) (summary : String) (closedAt updated : Time)
    (other : Id) :
    outlineAt { s with
        store := closedStore s.store id "system" "abandoned" (some summary) closedAt updated }
        other =
      (outlineAt s other).map fun o => if other = id then
        { o with operation := closedOperation o.operation "system" "abandoned" (some "") 0 0 }
      else o := by
  simp only [outlineAt, getOperation_closedStore]
  cases s.conversations[other]? with
  | none => rfl
  | some =>
      simp only [Option.bind_some, Option.map_map]
      congr 1
      funext operation
      by_cases hother : other = id
      · simp only [Function.comp_apply, if_pos hother]
        rfl
      · simp only [Function.comp_apply, if_neg hother]

theorem recordClose_outline (config : Config) (s : State) (eventId : Option EventId) (other : Id) :
    outlineAt (recordClose config s eventId) other = outlineAt s other := by
  unfold recordClose
  split
  · rfl
  · rename_i artifact _
    by_cases hother : artifact.eventId.operation = other
    · subst hother
      simp only [outlineAt, Store.insertArtifact, Store.getOperation_modifyOperation_self,
        Option.map_map]
      rfl
    · simp only [outlineAt, Store.insertArtifact,
        Store.getOperation_modifyOperation_of_ne hother]

theorem closeSession_outline {config : Config} {s closed : State} {id : Id} {row : Conversation}
    {summary : String} {clock : Clock} {result : Summary}
    (hrow : s.conversations[id]? = some row) (hlinked : row.v2OperationId = some id)
    (hclose : closeSession config s id row "system" "abandoned" (some summary) true clock =
      .ok (result, closed)) (other : Id) :
    outlineAt closed other =
      (outlineAt s other).map fun o => if other = id then o.close id else o := by
  simp only [closeSession, bind_eq_ok, pure_eq_ok, Prod.exists, Prod.mk.injEq] at hclose
  obtain ⟨store, hstore, posted, eventId, hadded, _, rfl⟩ := hclose
  rcases mirrorClose_eq_ok.1 hstore with ⟨hnone, _⟩ | ⟨operationId, hsome, _, rfl⟩
  · rw [hlinked] at hnone
    cases hnone
  · rw [hlinked] at hsome
    cases hsome
    have hfound : (State.conversations { s with
        store := closedStore s.store id "system" "abandoned" (some summary) (clock 1) (clock 2)
        })[id]? = some row := hrow
    rw [recordClose_outline, addMessage_outline hlinked rfl rfl hadded,
      setConversation_outline hfound, closedStore_outline, Option.map_map, Option.map_map]
    by_cases hother : other = id
    · subst hother
      cases ho : outlineAt s other with
      | none => rfl
      | some =>
          obtain ⟨known, operation, hknown, _, rfl⟩ := outlineAt_eq_some.1 ho
          rw [hrow] at hknown
          cases hknown
          have hmessage := abandonment_outline other row summary (clock 0) (clock 3)
          simp only [Option.map_some, Function.comp_apply, if_pos]
          rw [outline_closedRow]
          exact congrArg some (post_outline other _ hmessage)
    · simp only [if_neg hother]
      rfl

/-- An open conversation that is not general can always be abandoned. -/
theorem abandonIdle_changed {config : Config} {s : State} {id : Id} {o : Outline}
    (hsound : SoundState config s) (ho : outlineAt s id = some o) (hopen : o.row.state = .opened)
    (hgeneral : o.row.isGeneral = false) (summary : String) (clock : Clock) :
    ∃ t, exec (abandonIdle config id summary clock) s = (.ok ⟨⟩, t) ∧
      Changed config (only [id] fun id o => o.abandon id) s t := by
  obtain ⟨row, operation, hrow, hoperation, rfl⟩ := outlineAt_eq_some.1 ho
  obtain ⟨hlinked, found, hfound, hkind, hkindGeneral, hstate⟩ := exists_operation hsound hrow
  rw [hoperation] at hfound
  cases hfound
  have hopened : row.state ≠ .closed := by
    intro hclosed
    have hsame : row.state = .opened := hopen
    rw [hclosed] at hsame
    cases hsame
  have hspecial : row.isGeneral = false := hgeneral
  have hclosable : ∀ operationId, row.v2OperationId = some operationId →
      Closable s.store operationId "abandoned" true := by
    intro operationId hother
    rw [hlinked] at hother
    cases hother
    refine ⟨operation, hoperation, fun hclosed => hopened (hstate.mp hclosed), ?_,
      Or.inl ⟨rfl, rfl⟩⟩
    intro hsame
    rw [hkind] at hsame
    have htrue := hkindGeneral.mpr hsame
    rw [hspecial] at htrue
    cases htrue
  obtain ⟨result, closed, hclose⟩ : ∃ result closed, closeSession config s id row "system"
      "abandoned" (some summary) true clock = .ok (result, closed) :=
    closeSession_isOk_iff.2 hclosable
  obtain ⟨_, hconversations, hthreads, htasks, _, _⟩ := closeSession_eq_ok hclose
  have hthere : closed.conversations[id]? =
      some (closedRow row "system" "abandoned" (some summary) (clock 0)) := by
    rw [hconversations]
    exact getElem?_update_self hrow
  have hexec : exec (closeConversation config id "system" "abandoned" (some summary) true clock)
      s = (.ok result, closed) := by
    rw [exec_closeConversation, requireClosable_eq_ok.2 ⟨hrow, hspecial, hopened⟩]
    exact exec_transaction_ok.2 hclose
  have habandoned : exec (abandonIdle config id summary clock) s = (.ok ⟨⟩,
      closed.setConversation id
        { closedRow row "system" "abandoned" (some summary) (clock 0) with
          idleWarningCount := 3 }) := by
    rw [abandonIdle, exec_bind, hexec]
    simp only [exec_transaction, hthere]
  refine ⟨_, habandoned, ?_⟩
  constructor
  · apply (hsound.of_close (closeSession_ledger hrow hclose)).of_ledger
    exact setConversation_ledger hthere rfl
  · exact hthreads
  · exact htasks
  · intro other
    rw [setConversation_outline hthere, closeSession_outline hrow hlinked hclose,
      Option.map_map]
    by_cases hother : other = id
    · subst hother
      rw [only_self, ho]
      simp only [Option.map_some, Function.comp_apply, if_pos]
      rfl
    · rw [only_of_ne hother]
      simp only [if_neg hother]
      rfl

/-! ## A sweep -/

def ladder (id : Id) (threshold : Int) : Ladder Outline where
  top := 3
  count := fun o => o.row.idleWarningCount
  warn := Outline.warn id threshold
  finish := Outline.abandon id
  count_warn := fun _ _ => rfl
  count_finish := fun _ => rfl

/-- The level the idleness of a conversation has reached, if a sweep of the thread sees it. -/
def reached (config : Config) (home : Option Id) (threshold : Int) (now : Time) (o : Outline) :
    Nat :=
  if 0 < threshold ∧ home = some o.row.threadId ∧ o.row.state = .opened ∧
      o.row.isGeneral = false then
    targetTier config.policy threshold now o.row
  else 0

theorem targetTier_le (policy : ChatPolicyConfig) (threshold : Int) (now : Time)
    (row : Conversation) : targetTier policy threshold now row ≤ 3 := by
  unfold targetTier
  dsimp only
  split_ifs <;> omega

theorem targetTier_mono (policy : ChatPolicyConfig) (threshold : Int) {now later : Time}
    (hlater : now ≤ later) (row : Conversation) :
    targetTier policy threshold now row ≤ targetTier policy threshold later row := by
  have hage : now - lastActive row ≤ later - lastActive row := Int.sub_le_sub_right hlater _
  unfold targetTier
  grind

theorem reached_mono (config : Config) (home : Option Id) (threshold : Int) {now later : Time}
    (hlater : now ≤ later) (o : Outline) :
    reached config home threshold now o ≤ reached config home threshold later o := by
  unfold reached
  split_ifs
  · exact targetTier_mono config.policy threshold hlater o.row
  · exact Nat.le_refl 0

theorem steady_reached (config : Config) (home : Option Id) (id : Id) (threshold : Int) :
    (ladder id threshold).Steady (reached config home threshold) where
  reached_le := by
    intro now o
    unfold reached
    split_ifs
    · exact targetTier_le config.policy threshold now o.row
    · exact Nat.zero_le 3
  reached_warn := fun _ _ _ => rfl

theorem warnLevels_changed {config : Config} {s : State} {id : Id} (hsound : SoundState config s)
    (hthere : (outlineAt s id).isSome) (threshold : Int) (now : Time) (clock : Clock)
    (levels : List Nat) :
    ∃ t, levels.foldlM (fun s level => warnIdle s id threshold now clock level) s = .ok t ∧
      Changed config (only [id] fun id o => levels.foldl (Outline.warn id threshold) o) s t := by
  induction levels generalizing s with
  | nil =>
      refine ⟨s, rfl, (Changed.refl hsound).congr ?_⟩
      intro other o _
      simp [only]
  | cons level levels ih =>
      obtain ⟨between, hwarn, hfirst⟩ := warnIdle_changed hsound hthere threshold now clock level
      have hstays : (outlineAt between id).isSome := by
        rw [hfirst.outlines, Option.isSome_map]
        exact hthere
      obtain ⟨t, hwarns, hrest⟩ := ih hfirst.sound hstays
      refine ⟨t, ?_, (hfirst.trans hrest).congr ?_⟩
      · rw [List.foldlM_cons, bind_eq_ok]
        exact ⟨between, hwarn, hwarns⟩
      · intro other o _
        by_cases hother : other = id
        · subst hother
          rw [only_self, only_self, only_self, List.foldl_cons]
        · rw [only_of_ne hother, only_of_ne hother, only_of_ne hother]

/-- The warnings of a sweep: each conversation is warned of the levels it was found to have
reached. -/
theorem warnRows_changed {config : Config} (threshold : Int) (now : Time) (clock : Clock)
    {rows : List (Conversation × Id)} {s : State} (hsound : SoundState config s)
    (hdistinct : rows.Pairwise fun left right => left.2 ≠ right.2)
    (hrows : ∀ row ∈ rows, ∃ o, outlineAt s row.2 = some o ∧ o.row = row.1.outline) :
    ∃ t, rows.foldlM (fun s row =>
        (warningLevels row.1 (targetTier config.policy threshold now row.1)).foldlM
          (fun s level => warnIdle s row.2 threshold now clock level) s) s = .ok t ∧
      Changed config (only (rows.map (·.2)) fun id o =>
        (ladder id threshold).warned (targetTier config.policy threshold now o.row) o) s t := by
  induction rows generalizing s with
  | nil =>
      refine ⟨s, rfl, (Changed.refl hsound).congr ?_⟩
      intro other o _
      simp [only]
  | cons row rows ih =>
      obtain ⟨hnew, hothers⟩ := List.pairwise_cons.mp hdistinct
      obtain ⟨o, ho, hrow⟩ := hrows row List.mem_cons_self
      have hthere : (outlineAt s row.2).isSome := by rw [ho]; rfl
      obtain ⟨between, hwarn, hlevels⟩ := warnLevels_changed hsound hthere threshold now clock
        (warningLevels row.1 (targetTier config.policy threshold now row.1))
      -- the levels were read off the row as the sweep found it
      have hfirst : Changed config (only [row.2] fun id o =>
          (ladder id threshold).warned (targetTier config.policy threshold now o.row) o)
          s between := by
        apply hlevels.congr
        intro other found hfound
        by_cases hother : other = row.2
        · subst hother
          rw [ho] at hfound
          cases hfound
          rw [only_self, only_self, hrow]
          have hcount : (ladder row.2 threshold).count o = row.1.idleWarningCount := by
            change o.row.idleWarningCount = _
            rw [hrow]
            rfl
          rw [Ladder.warned, hcount]
          rfl
        · rw [only_of_ne hother, only_of_ne hother]
      obtain ⟨t, hwarns, hrest⟩ := ih hfirst.sound hothers (by
        intro other hother
        rw [hfirst.kept (Ne.symm (hnew other hother))]
        exact hrows other (List.mem_cons_of_mem row hother))
      refine ⟨t, ?_, hfirst.cons hrest ?_⟩
      · rw [List.foldlM_cons, bind_eq_ok]
        exact ⟨between, hwarn, hwarns⟩
      · intro hmem
        obtain ⟨other, hother, hsame⟩ := List.mem_map.mp hmem
        exact hnew other hother hsame.symm

theorem abandonAll_changed {config : Config} (closeClock : Nat → Clock)
    {items : List ((Id × String) × Nat)} {s : State} (hsound : SoundState config s)
    (hdistinct : items.Pairwise fun left right => left.1.1 ≠ right.1.1)
    (hitems : ∀ item ∈ items, ∃ o, outlineAt s item.1.1 = some o ∧ o.row.state = .opened ∧
      o.row.isGeneral = false) :
    ∃ t, exec (items.forM fun item => abandonIdle config item.1.1 item.1.2 (closeClock item.2)) s =
        (.ok ⟨⟩, t) ∧
      Changed config (only (items.map (·.1.1)) fun id o => o.abandon id) s t := by
  induction items generalizing s with
  | nil =>
      refine ⟨s, rfl, (Changed.refl hsound).congr ?_⟩
      intro other o _
      simp [only]
  | cons item items ih =>
      obtain ⟨hnew, hothers⟩ := List.pairwise_cons.mp hdistinct
      obtain ⟨o, ho, hopen, hgeneral⟩ := hitems item List.mem_cons_self
      obtain ⟨between, habandon, hfirst⟩ := abandonIdle_changed hsound ho hopen hgeneral item.1.2
        (closeClock item.2)
      obtain ⟨t, habandons, hrest⟩ := ih hfirst.sound hothers (by
        intro other hother
        rw [hfirst.kept (Ne.symm (hnew other hother))]
        exact hitems other (List.mem_cons_of_mem item hother))
      refine ⟨t, ?_, hfirst.cons hrest ?_⟩
      · change exec (abandonIdle config item.1.1 item.1.2 (closeClock item.2) >>= fun _ =>
          items.forM fun item => abandonIdle config item.1.1 item.1.2 (closeClock item.2)) s = _
        rw [exec_bind, habandon]
        exact habandons
      · intro hmem
        obtain ⟨other, hother, hsame⟩ := List.mem_map.mp hmem
        exact hnew other hother hsame.symm

theorem reached_eq_targetTier {config : Config} {home : Option Id} {threshold : Int} {now : Time}
    {o : Outline} (hless : o.row.idleWarningCount < reached config home threshold now o) :
    reached config home threshold now o = targetTier config.policy threshold now o.row ∧
      o.row.state = .opened ∧ o.row.isGeneral = false := by
  unfold reached at hless ⊢
  split_ifs at hless ⊢ with hseen
  · exact ⟨rfl, hseen.2.2.1, hseen.2.2.2⟩
  · exact absurd hless (Nat.not_lt_zero _)

section Swept

variable {config : Config} {s : State} {threadId : Id} {threshold : Int} {now : Time} {id : Id}
  {row : Conversation} {o : Outline}

theorem mem_idleRows (hpos : 0 < threshold) (ho : outlineAt s id = some o) :
    (row, id) ∈ idleRows config s threadId threshold now ↔ s.conversations[id]? = some row ∧
      o.row.idleWarningCount < reached config (some threadId) threshold now o := by
  rw [idleRows, mem_selectWhere, decide_eq_true_eq]
  apply and_congr_right
  intro hrow
  obtain ⟨known, operation, hknown, _, rfl⟩ := outlineAt_eq_some.1 ho
  have hsame : known = row := Option.some.inj (hknown.symm.trans hrow)
  subst hsame
  constructor
  · rintro ⟨hthread, hopen, hgeneral, hless⟩
    have hseen : reached config (some threadId) threshold now
        { row := known.outline
          messages := (s.messages.filter (·.conversationId = id)).map Message.outline
          operation := operationOutline operation } =
        targetTier config.policy threshold now known :=
      if_pos ⟨hpos, congrArg some hthread.symm, hopen, hgeneral⟩
    rw [hseen]
    exact hless
  · intro hless
    have hseen := hless
    unfold reached at hseen
    split_ifs at hseen with hsees
    · exact ⟨(Option.some.inj hsees.2.1).symm, hsees.2.2.1, hsees.2.2.2, hseen⟩
    · exact absurd hseen (Nat.not_lt_zero _)

theorem swept_iff (hpos : 0 < threshold) (ho : outlineAt s id = some o) :
    id ∈ (idleRows config s threadId threshold now).map (·.2) ↔
      o.row.idleWarningCount < reached config (some threadId) threshold now o := by
  obtain ⟨row, operation, hrow, _, _⟩ := outlineAt_eq_some.1 ho
  constructor
  · intro hmem
    obtain ⟨⟨found, other⟩, hfound, rfl⟩ := List.mem_map.mp hmem
    exact ((mem_idleRows hpos ho).mp hfound).2
  · intro hless
    exact List.mem_map.mpr ⟨(row, id), (mem_idleRows hpos ho).mpr ⟨hrow, hless⟩, rfl⟩

theorem abandoned_iff (hpos : 0 < threshold) (ho : outlineAt s id = some o) :
    id ∈ ((idleRows config s threadId threshold now).filter fun row =>
        targetTier config.policy threshold now row.1 = 3).map (·.2) ↔
      o.row.idleWarningCount < reached config (some threadId) threshold now o ∧
        reached config (some threadId) threshold now o = 3 := by
  obtain ⟨row, operation, hrow, _, hoeq⟩ := outlineAt_eq_some.1 ho
  have hrowTier : targetTier config.policy threshold now o.row =
      targetTier config.policy threshold now row := by
    rw [hoeq]
    rfl
  constructor
  · intro hmem
    obtain ⟨⟨found, other⟩, hfound, rfl⟩ := List.mem_map.mp hmem
    obtain ⟨hidle, htier⟩ := List.mem_filter.mp hfound
    obtain ⟨hthere, hless⟩ := (mem_idleRows hpos ho).mp hidle
    have hsame : found = row := Option.some.inj (hthere.symm.trans hrow)
    rw [hsame] at htier
    refine ⟨hless, ?_⟩
    rw [(reached_eq_targetTier hless).1, hrowTier]
    exact of_decide_eq_true htier
  · rintro ⟨hless, htier⟩
    rw [(reached_eq_targetTier hless).1, hrowTier] at htier
    apply List.mem_map.mpr
    refine ⟨(row, id), List.mem_filter.mpr ⟨(mem_idleRows hpos ho).mpr ⟨hrow, hless⟩, ?_⟩, rfl⟩
    exact decide_eq_true htier

theorem sweep_eq (hpos : 0 < threshold) (ho : outlineAt s id = some o) :
    only (((idleRows config s threadId threshold now).filter fun row =>
        targetTier config.policy threshold now row.1 = 3).map (·.2)) (fun id o => o.abandon id) id
      (only ((idleRows config s threadId threshold now).map (·.2)) (fun id o =>
        (ladder id threshold).warned (targetTier config.policy threshold now o.row) o) id o) =
      (ladder id threshold).sweep (reached config (some threadId) threshold) now o := by
  unfold only
  rw [Ladder.sweep, Ladder.advance]
  by_cases hless : o.row.idleWarningCount < reached config (some threadId) threshold now o
  · have hcount : (ladder id threshold).count o <
        reached config (some threadId) threshold now o := hless
    rw [if_pos ((swept_iff hpos ho).mpr hless), if_pos hcount]
    obtain ⟨htier, _⟩ := reached_eq_targetTier hless
    by_cases hfinal : reached config (some threadId) threshold now o = 3
    · have hlast : reached config (some threadId) threshold now o = (ladder id threshold).top :=
        hfinal
      rw [if_pos ((abandoned_iff hpos ho).mpr ⟨hless, hfinal⟩), if_pos hlast, htier]
      rfl
    · have hlast : reached config (some threadId) threshold now o ≠ (ladder id threshold).top :=
        hfinal
      rw [if_neg fun hmem => hfinal ((abandoned_iff hpos ho).mp hmem).2, if_neg hlast, htier]
  · have hcount : ¬ (ladder id threshold).count o <
        reached config (some threadId) threshold now o := hless
    rw [if_neg fun hmem => hless ((abandoned_iff hpos ho).mp hmem).1,
      if_neg fun hmem => hless ((swept_iff hpos ho).mp hmem), if_neg hcount]

end Swept

theorem sweepSession_changed {config : Config} {s : State} (hsound : SoundState config s)
    {discordThreadId : String} {threadId : Id}
    (hthread : findThread s discordThreadId = some threadId) (threshold : Int) (now : Time)
    (clock : Clock) :
    ∃ after, sweepSession config s discordThreadId threshold now clock =
        .ok (((idleRows config s threadId threshold now).filter fun row =>
          targetTier config.policy threshold now row.1 = 3).map fun row =>
            (row.2, abandonSummary config threshold now row.1), after) ∧
      Changed config (only ((idleRows config s threadId threshold now).map (·.2)) fun id o =>
        (ladder id threshold).warned (targetTier config.policy threshold now o.row) o) s after := by
  have hdistinct : (idleRows config s threadId threshold now).Pairwise
      fun left right => left.2 ≠ right.2 := pairwise_selectWhere _ _
  have hrows : ∀ row ∈ idleRows config s threadId threshold now,
      ∃ o, outlineAt s row.2 = some o ∧ o.row = row.1.outline := by
    intro row hrow
    exact exists_outline hsound (mem_selectWhere.1 hrow).1
  obtain ⟨after, hwarns, hwarned⟩ := warnRows_changed threshold now clock hsound hdistinct hrows
  refine ⟨after, ?_, hwarned⟩
  simp only [sweepSession, bind_eq_ok, orRaise_eq_ok, pure_eq_ok]
  exact ⟨threadId, hthread, after, hwarns, rfl⟩

theorem warned_row (id : Id) (threshold : Int) (tier : Nat) (o : Outline) :
    ((ladder id threshold).warned tier o).row.state = o.row.state ∧
      ((ladder id threshold).warned tier o).row.isGeneral = o.row.isGeneral := by
  constructor
  · exact apply_warned (ladder id threshold) (fun o => o.row.state) (fun _ _ => rfl) tier o
  · exact apply_warned (ladder id threshold) (fun o => o.row.isGeneral) (fun _ _ => rfl) tier o

theorem open_of_abandoned {config : Config} {s after : State} {threadId : Id} {threshold : Int}
    {now : Time} {id : Id} (hsound : SoundState config s) (hpos : 0 < threshold)
    (hwarned : Changed config (only ((idleRows config s threadId threshold now).map (·.2))
      fun id o => (ladder id threshold).warned (targetTier config.policy threshold now o.row) o)
      s after)
    (hid : id ∈ ((idleRows config s threadId threshold now).filter fun row =>
      targetTier config.policy threshold now row.1 = 3).map (·.2)) :
    ∃ o, outlineAt after id = some o ∧ o.row.state = .opened ∧ o.row.isGeneral = false := by
  obtain ⟨row, hrow, rfl⟩ := List.mem_map.mp hid
  have hthere := (mem_selectWhere.1 (List.mem_filter.mp hrow).1).1
  obtain ⟨o, ho, _⟩ := exists_outline hsound hthere
  obtain ⟨hless, _⟩ := (abandoned_iff hpos ho).mp hid
  obtain ⟨_, hopen, hgeneral⟩ := reached_eq_targetTier hless
  obtain ⟨hstate, hsame⟩ := warned_row row.2 threshold
    (targetTier config.policy threshold now o.row) o
  refine ⟨_, ?_, hstate.trans hopen, hsame.trans hgeneral⟩
  rw [hwarned.outlines, ho, Option.map_some, only, if_pos ((swept_iff hpos ho).mpr hless)]

theorem map_abandoned (rows : List (Conversation × Id)) (summary : Conversation → String) :
    ((rows.map fun row => (row.2, summary row.1)).zipIdx.map fun item => item.1.1) =
      rows.map (·.2) := by
  have hfirst : (fun item : (Id × String) × Nat => item.1.1) = Prod.fst ∘ Prod.fst := rfl
  rw [hfirst, ← List.map_map, List.zipIdx_map_fst, List.map_map]
  rfl

/-- A sweep takes every conversation to the level its idleness has reached. -/
theorem sweepIdle_changed {config : Config} {s : State} (hsound : SoundState config s)
    (discordThreadId : String) (idleThresholdSeconds : Int) (now : Time) (clock : Clock)
    (closeClock : Nat → Clock) :
    Changed config (fun id => (ladder id (max 0 idleThresholdSeconds)).sweep
        (reached config (findThread s discordThreadId) (max 0 idleThresholdSeconds)) now) s
      (exec (sweepIdleConversations config discordThreadId idleThresholdSeconds now clock
        closeClock) s).2 := by
  unfold sweepIdleConversations
  generalize hthreshold : max 0 idleThresholdSeconds = threshold
  have hnonneg : 0 ≤ threshold := by omega
  dsimp only
  by_cases hzero : threshold = 0
  · rw [if_pos hzero]
    apply (Changed.refl hsound).congr
    intro id o _
    have hunseen : reached config (findThread s discordThreadId) threshold now o = 0 := by
      apply if_neg
      intro hsees
      exact absurd hzero (Int.ne_of_gt hsees.1)
    rw [Ladder.sweep, hunseen]
    exact (advance_of_le _ (Nat.zero_le _)).symm
  · have hpos : 0 < threshold := by omega
    rw [if_neg hzero, exec_bind, exec_transaction]
    cases hthread : findThread s discordThreadId with
    | none =>
        have hfails : sweepSession config s discordThreadId threshold now clock =
            .error (.threadNotFound discordThreadId) := by
          rw [sweepSession, hthread]
          rfl
        rw [hfails]
        apply (Changed.refl hsound).congr
        intro id o _
        have hunseen : reached config none threshold now o = 0 := by
          apply if_neg
          intro hsees
          cases hsees.2.1
        rw [Ladder.sweep, hunseen]
        exact (advance_of_le _ (Nat.zero_le _)).symm
    | some threadId =>
        obtain ⟨after, hsession, hwarned⟩ := sweepSession_changed hsound hthread threshold now clock
        rw [hsession]
        dsimp only
        generalize hrows : (idleRows config s threadId threshold now).filter (fun row =>
          decide (targetTier config.policy threshold now row.1 = 3)) = rows
        have hids := map_abandoned rows (abandonSummary config threshold now)
        generalize (rows.map fun row =>
          (row.2, abandonSummary config threshold now row.1)).zipIdx = items at hids ⊢
        have hdistinct : rows.Pairwise fun left right => left.2 ≠ right.2 := by
          rw [← hrows]
          exact (pairwise_selectWhere _ _).filter _
        obtain ⟨t, hcloses, hclosed⟩ : ∃ t, exec (items.forM fun item =>
            abandonIdle config item.1.1 item.1.2 (closeClock item.2)) after = (.ok ⟨⟩, t) ∧
            Changed config (only (items.map (·.1.1)) fun id o => o.abandon id) after t := by
          apply abandonAll_changed closeClock hwarned.sound
          · apply List.pairwise_map.mp
            rw [hids]
            exact List.pairwise_map.mpr hdistinct
          · intro item hitem
            apply open_of_abandoned hsound hpos hwarned
            rw [hrows, ← hids]
            exact List.mem_map_of_mem hitem
        rw [hcloses]
        rw [hids, ← hrows] at hclosed
        apply (hwarned.trans hclosed).congr
        intro id o ho
        exact sweep_eq hpos ho

/-! ## Schedules -/

structure Sweeping where
  discordThreadId : String
  now : Time
  clock : Clock
  closeClock : Nat → Clock

def Sweeping.move (threshold : Int) (sweeping : Sweeping) : Move :=
  .sweepIdle sweeping.discordThreadId threshold sweeping.now sweeping.clock sweeping.closeClock

def levelAt (config : Config) (s : State) (threshold : Int) (sweeping : Sweeping) (o : Outline) :
    Nat :=
  reached config (findThread s sweeping.discordThreadId) threshold sweeping.now o

theorem steady_levelAt (config : Config) (s : State) (id : Id) (threshold : Int) :
    (ladder id threshold).Steady (levelAt config s threshold) where
  reached_le := fun sweeping o => (steady_reached config _ id threshold).reached_le sweeping.now o
  reached_warn := fun _ _ _ => rfl

theorem levelAt_le (config : Config) {s : State} (threshold : Int) {sweeping last : Sweeping}
    (hbefore : sweeping.now ≤ last.now) {o : Outline}
    (hthread : findThread s last.discordThreadId = some o.row.threadId) :
    levelAt config s threshold sweeping o ≤ levelAt config s threshold last o := by
  by_cases hsame : findThread s sweeping.discordThreadId = some o.row.threadId
  · rw [levelAt, levelAt, hsame, hthread]
    exact reached_mono config _ threshold hbefore o
  · have hunseen : levelAt config s threshold sweeping o = 0 := by
      apply if_neg
      exact fun hsees => hsame hsees.2.1
    rw [hunseen]
    exact Nat.zero_le _

theorem run_changed {config : Config} {s : State} (hsound : SoundState config s) (threshold : Int)
    (sweeps : List Sweeping) :
    Changed config (fun id o => sweeps.foldl (fun o sweeping =>
        (ladder id (max 0 threshold)).sweep (levelAt config s (max 0 threshold)) sweeping o) o) s
      (run (serviceStep config) s (sweeps.map (Sweeping.move threshold))) := by
  induction sweeps generalizing s with
  | nil => exact .refl hsound
  | cons sweeping sweeps ih =>
      have hfirst : Changed config (fun id => (ladder id (max 0 threshold)).sweep
          (levelAt config s (max 0 threshold)) sweeping) s
          (serviceStep config s (sweeping.move threshold)) :=
        sweepIdle_changed hsound sweeping.discordThreadId threshold sweeping.now sweeping.clock
          sweeping.closeClock
      have hlevels : levelAt config (serviceStep config s (sweeping.move threshold))
          (max 0 threshold) = levelAt config s (max 0 threshold) := by
        funext other o
        rw [levelAt, levelAt, findThread, findThread, hfirst.threads]
      have hrest := ih hfirst.sound
      rw [hlevels] at hrest
      rw [List.map_cons, run_cons]
      exact hfirst.trans hrest

theorem threadId_sweep (config : Config) (s : State) (id : Id) (threshold : Int)
    (sweeping : Sweeping) (o : Outline) :
    ((ladder id threshold).sweep (levelAt config s threshold) sweeping o).row.threadId =
      o.row.threadId :=
  apply_sweep (fun o => o.row.threadId) (fun _ _ => rfl) (fun _ => rfl) sweeping o

theorem outlineAt_schedule {config : Config} {s : State} (hsound : SoundState config s)
    (threshold : Int) {schedule : List Sweeping} {last : Sweeping}
    (hbefore : ∀ sweeping ∈ schedule, sweeping.now ≤ last.now) {id : Id} {o : Outline}
    (ho : outlineAt s id = some o)
    (hthread : findThread s last.discordThreadId = some o.row.threadId) :
    outlineAt (run (serviceStep config) s ((schedule ++ [last]).map (Sweeping.move threshold)))
        id =
      some ((ladder id (max 0 threshold)).sweep (levelAt config s (max 0 threshold)) last o) := by
  rw [(run_changed hsound threshold (schedule ++ [last])).outlines, ho, Option.map_some,
    List.foldl_append, List.foldl_cons, List.foldl_nil]
  apply congrArg some
  apply (steady_levelAt config s id (max 0 threshold)).sweep_foldl
    (P := fun o => findThread s last.discordThreadId = some o.row.threadId)
  · intro sweeping found hfound
    rw [threadId_sweep]
    exact hfound
  · intro sweeping hmem found hfound
    exact levelAt_le config (max 0 threshold) (hbefore sweeping hmem) hfound
  · exact hthread

/-! ## What is recorded -/

def warningLevel (message : Message) : Option Json :=
  if message.eventKind = eventConversationIdleWarning then message.content.get? "level" else none

def warnedLevels (messages : List Message) : List Json :=
  messages.filterMap warningLevel

def recordedCloses (messages : List Message) : Nat :=
  messages.countP (·.eventKind = eventConversationClosed)

theorem warningLevel_idleWarning (id : Id) (row : Conversation) (threshold : Int) (level : Nat)
    (eventId : Option EventId) :
    warningLevel { (idleWarning id row threshold 0 0 level).outline with v2EventId := eventId } =
      some (.int level) := by
  simp [warningLevel, idleWarning, lifecycleMessage, Message.outline, timeless, clockFields,
    Json.get?, List.lookup_cons]

theorem warnedLevels_warned (id : Id) (threshold : Int) (o : Outline) (levels : List Nat) :
    warnedLevels (levels.foldl (Outline.warn id threshold) o).messages =
      warnedLevels o.messages ++ levels.map fun level => .int level := by
  induction levels generalizing o with
  | nil => simp
  | cons level levels ih =>
      have hfirst : warnedLevels (o.warn id threshold level).messages =
          warnedLevels o.messages ++ [.int level] := by
        change warnedLevels (o.messages ++ [_]) = _
        rw [warnedLevels, List.filterMap_append]
        exact congrArg (o.messages.filterMap warningLevel ++ ·)
          (List.filterMap_cons_some (warningLevel_idleWarning id o.row threshold level _))
      rw [List.foldl_cons, ih, hfirst, List.append_assoc]
      rfl

theorem recordedCloses_warned (id : Id) (threshold : Int) (o : Outline) (levels : List Nat) :
    recordedCloses (levels.foldl (Outline.warn id threshold) o).messages =
      recordedCloses o.messages := by
  induction levels generalizing o with
  | nil => rfl
  | cons level levels ih =>
      have hfirst : recordedCloses (o.warn id threshold level).messages =
          recordedCloses o.messages := by
        change recordedCloses (o.messages ++ [_]) = _
        rw [recordedCloses, List.countP_append]
        exact Nat.add_zero _
      rw [List.foldl_cons, ih, hfirst]

theorem recorded_abandon (id : Id) (o : Outline) :
    warnedLevels (o.abandon id).messages = warnedLevels o.messages ∧
      recordedCloses (o.abandon id).messages = recordedCloses o.messages + 1 := by
  constructor
  · change warnedLevels (o.messages ++ [_]) = _
    rw [warnedLevels, List.filterMap_append]
    exact List.append_nil _
  · change recordedCloses (o.messages ++ [_]) = _
    rw [recordedCloses, List.countP_append]
    rfl

theorem recorded_advance (id : Id) (threshold : Int) (tier : Nat) (o : Outline) :
    let after := (ladder id threshold).advance tier o
    warnedLevels after.messages =
        warnedLevels o.messages ++ (warningLevels o.row tier).map (fun level => .int level) ∧
      recordedCloses after.messages =
        recordedCloses o.messages + if o.row.idleWarningCount < tier ∧ tier = 3 then 1 else 0 := by
  intro after
  have hwarnings := warnedLevels_warned id threshold o (warningLevels o.row tier)
  have hcloses := recordedCloses_warned id threshold o (warningLevels o.row tier)
  by_cases hless : o.row.idleWarningCount < tier
  · by_cases hfinal : tier = 3
    · have hafter : after = ((warningLevels o.row tier).foldl (Outline.warn id threshold)
          o).abandon id := (if_pos hless).trans (if_pos hfinal)
      obtain ⟨hsame, hmore⟩ := recorded_abandon id
        ((warningLevels o.row tier).foldl (Outline.warn id threshold) o)
      rw [hafter, hsame, hmore, hwarnings, hcloses, if_pos ⟨hless, hfinal⟩]
      exact ⟨rfl, rfl⟩
    · have hafter : after = (warningLevels o.row tier).foldl (Outline.warn id threshold) o :=
        (if_pos hless).trans (if_neg hfinal)
      rw [hafter, hwarnings, hcloses, if_neg fun hboth => hfinal hboth.2]
      exact ⟨rfl, rfl⟩
  · have hafter : after = o := if_neg hless
    have hnone : warningLevels o.row tier = [] := by
      have hlength : min tier (3 - 1) - o.row.idleWarningCount = 0 := by omega
      change levels 3 o.row.idleWarningCount tier = []
      rw [levels_eq, hlength]
      rfl
    rw [hafter, hnone, if_neg fun hboth => hless hboth.1]
    exact ⟨(List.append_nil _).symm, rfl⟩

/-- At the end of every schedule of sweeps of one threshold, a conversation of the thread that
the last of them sweeps is, but for the times, as that sweep alone would have left it: warned of
the levels it had reached by then, each once and in order, and closed once if that was the last. -/
theorem sweeps_confluent (config : Config) {s₀ : State} (hfresh : Fresh s₀) (moves : List Move)
    (threshold : Int) {schedule : List Sweeping} {last single : Sweeping}
    (hbefore : ∀ sweeping ∈ schedule, sweeping.now ≤ last.now)
    (hthread : single.discordThreadId = last.discordThreadId) (hnow : single.now = last.now)
    {id : Id} {o : Outline} (ho : outlineAt (run (serviceStep config) s₀ moves) id = some o)
    (hhome : findThread (run (serviceStep config) s₀ moves) last.discordThreadId =
      some o.row.threadId) :
    let s := run (serviceStep config) s₀ moves
    let tier := levelAt config s (max 0 threshold) last o
    ∃ after,
      outlineAt (run (serviceStep config) s ((schedule ++ [last]).map (Sweeping.move threshold)))
        id = some after ∧
      outlineAt (serviceStep config s (single.move threshold)) id = some after ∧
      after.row.idleWarningCount = max o.row.idleWarningCount tier ∧
      warnedLevels after.messages =
        warnedLevels o.messages ++ (warningLevels o.row tier).map (fun level => .int level) ∧
      (warningLevels o.row tier).Sublist [1, 2] ∧
      recordedCloses after.messages =
        recordedCloses o.messages + if o.row.idleWarningCount < tier ∧ tier = 3 then 1 else 0 := by
  intro s tier
  have hsound : SoundState config s := run_sound config hfresh moves moves List.prefix_rfl
  have hswept := outlineAt_schedule hsound threshold hbefore ho hhome
  have hlevel : levelAt config s (max 0 threshold) single o = tier := by
    rw [levelAt, hthread, hnow]
    rfl
  have hone : outlineAt (serviceStep config s (single.move threshold)) id =
      some ((ladder id (max 0 threshold)).advance tier o) := by
    have hchanged := run_changed hsound threshold [single]
    have houtline := hchanged.outlines id
    rw [ho, Option.map_some, List.foldl_cons, List.foldl_nil, Ladder.sweep, hlevel] at houtline
    exact houtline
  have htop : tier ≤ (ladder id (max 0 threshold)).top :=
    (steady_levelAt config s id (max 0 threshold)).reached_le last o
  obtain ⟨hwarnings, hcloses⟩ := recorded_advance id (max 0 threshold) tier o
  refine ⟨_, hswept, hone, ?_, hwarnings, ?_, hcloses⟩
  · exact count_advance _ htop
  · exact levels_sublist 3 o.row.idleWarningCount tier

/-- `alice` opens an inquiry, and nobody speaks. -/
def silentInquiry : List Move :=
  [.openConversation "room" (openingOf .inquiry inquiry_ne_general none) (fun _ => 0) (fun _ => 0)]

def sweepAt (after : Int) : Sweeping where
  discordThreadId := "room"
  now := seconds after
  clock := fun _ => seconds after
  closeClock := fun _ _ => seconds after

theorem silentInquiry_outline : ∃ o,
    outlineAt (run (serviceStep plainConfig) emptyRoom silentInquiry) 1 = some o ∧
      o.row.threadId = 0 ∧ o.row.idleWarningCount = 0 ∧ warnedLevels o.messages = [] ∧
      recordedCloses o.messages = 0 ∧ levelAt plainConfig
        (run (serviceStep plainConfig) emptyRoom silentInquiry) 60 (sweepAt 240) o = 2 := by
  have hfound : (outlineAt (run (serviceStep plainConfig) emptyRoom silentInquiry) 1).map
      (fun o => (o.row.threadId, o.row.idleWarningCount, (warnedLevels o.messages).length,
        recordedCloses o.messages, levelAt plainConfig
          (run (serviceStep plainConfig) emptyRoom silentInquiry) 60 (sweepAt 240) o)) =
      some (0, 0, 0, 0, 2) := by decide
  obtain ⟨o, ho, hparts⟩ := Option.map_eq_some_iff.mp hfound
  simp only [Prod.mk.injEq, List.length_eq_zero_iff] at hparts
  exact ⟨o, ho, hparts⟩

theorem silent_inquiry_confluent :
    let s := run (serviceStep plainConfig) emptyRoom silentInquiry
    ∃ after,
      outlineAt (run (serviceStep plainConfig) s
        (([sweepAt 60] ++ [sweepAt 240]).map (Sweeping.move 60))) 1 = some after ∧
      outlineAt (serviceStep plainConfig s ((sweepAt 240).move 60)) 1 = some after ∧
      after.row.idleWarningCount = 2 ∧ warnedLevels after.messages = [.int 1, .int 2] ∧
      recordedCloses after.messages = 0 := by
  intro s
  obtain ⟨o, ho, hthreadId, hcount, hwarnings, hcloses, hlevel⟩ := silentInquiry_outline
  have hhome : findThread s (sweepAt 240).discordThreadId = some o.row.threadId := by
    rw [hthreadId]
    decide
  have hbefore : ∀ sweeping ∈ [sweepAt 60], sweeping.now ≤ (sweepAt 240).now := by
    intro sweeping hmem
    rw [List.mem_singleton.mp hmem]
    decide
  obtain ⟨after, hswept, hone, htier, hwarned, _, hclosed⟩ := sweeps_confluent plainConfig
    ⟨rfl, rfl⟩ silentInquiry 60 hbefore rfl rfl ho hhome
  have hbase : levelAt plainConfig s (max 0 60) (sweepAt 240) o = 2 := hlevel
  rw [hbase, hcount] at htier
  rw [hbase, hwarnings, warningLevels, hcount] at hwarned
  rw [hbase, hcloses, hcount] at hclosed
  exact ⟨after, hswept, hone, htier, hwarned, hclosed⟩

/-- Warned in the first minute, or only after four: the time of the first warning tells. -/
theorem first_warning_tells :
    let s := run (serviceStep plainConfig) emptyRoom silentInquiry
    (run (serviceStep plainConfig) s
        (([sweepAt 60] ++ [sweepAt 240]).map (Sweeping.move 60))).conversations ≠
      (serviceStep plainConfig s ((sweepAt 240).move 60)).conversations := by
  decide +kernel

end OpsCure.Chat
