/-
The two records of a conversation, the v1 messages and the v2 event log, and what a run of
the bridge makes of both: they say the same, in the same order, and neither loses anything.
-/
import OpsCure.Invitations
import OpsCure.PushPull

namespace OpsCure.Chat

open Session Run Contract V2 OperationMirror PolicyEngine Api

/-! ## Messages and events -/

/-- The events of an operation that messages are stamped with, as the messages were written. -/
def State.stamps (s : State) (operationId : Id) : List EventId :=
  (s.messages.filterMap (·.v2EventId)).filter (·.operation = operationId)

/-- A message and an event say the same: who, what, in which words and to whom. -/
structure Twins (message : Message) (event : Event) : Prop where
  actor : event.actorId = handleOrSystem (some message.actorName)
  kind : event.kind = message.eventKind
  text : event.payload.text = message.content
  addressed : event.addressedToActorIds = (List.filterMap normalizeHandle
    (message.addressedTo :: (message.addressedToMany.getD []).map some)).eraseDups

/-- Every message has its event, and the log of an operation is what the stamps count up. -/
structure DualWritten (s : State) : Prop where
  twins : ∀ message ∈ s.messages, ∃ id event, message.v2EventId = some id ∧
    s.store.getEvent id = some event ∧ Twins message event
  stamps : ∀ operationId, s.stamps operationId =
    (List.range (s.store.log operationId).length).map (EventId.mk operationId)

variable {s t after s₀ : State} {row : Conversation} {config : Config} {may : Gates} {now : Time}
  {options : MirrorOptions} {eventId : Option EventId} {operationId : Id}

theorem length_log_eq {before after : Store}
    (hsame : ∀ id, (after.getEvent id).isSome = (before.getEvent id).isSome) (operationId : Id) :
    (after.log operationId).length = (before.log operationId).length := by
  have hlt : ∀ index, index < (after.log operationId).length ↔
      index < (before.log operationId).length := by
    intro index
    have hthis := hsame { operation := operationId, index := index }
    rw [Bool.eq_iff_iff] at hthis
    simpa [Store.getEvent] using hthis
  have hfirst := hlt (after.log operationId).length
  have hlast := hlt (before.log operationId).length
  omega

/-- The events may change, as long as they say the same. -/
theorem DualWritten.of_events (hdual : DualWritten s) (hmessages : t.messages = s.messages)
    (hsame : ∀ id, (t.store.getEvent id).isSome = (s.store.getEvent id).isSome)
    (htwins : ∀ id before event, s.store.getEvent id = some before →
      t.store.getEvent id = some event →
        ∀ message, Twins message before → Twins message event) :
    DualWritten t where
  twins := by
    intro message hmessage
    rw [hmessages] at hmessage
    rcases hdual.twins message hmessage with ⟨id, before, hid, hbefore, htwin⟩
    have hthere := hsame id
    rw [hbefore, Option.isSome_some, Option.isSome_iff_exists] at hthere
    rcases hthere with ⟨event, hevent⟩
    exact ⟨id, event, hid, hevent, htwins id before event hbefore hevent message htwin⟩
  stamps := by
    intro operationId
    rw [length_log_eq hsame, ← hdual.stamps, State.stamps, State.stamps, hmessages]

theorem DualWritten.of_logs (hdual : DualWritten s) (hmessages : t.messages = s.messages)
    (hlogs : ∀ id, t.store.log id = s.store.log id) : DualWritten t := by
  have hsame : ∀ id, t.store.getEvent id = s.store.getEvent id := by
    intro id
    rw [Store.getEvent, Store.getEvent, hlogs]
  apply hdual.of_events hmessages
  · intro id
    rw [hsame]
  · intro id before event hbefore hevent message htwin
    rw [hsame, hbefore] at hevent
    cases hevent
    exact htwin

/-- A message is written with its event, and the event takes the next place. -/
theorem DualWritten.of_added {message : Message} (hdual : DualWritten s)
    (hmirror : row.v2OperationId = some operationId)
    (hadded : addMessage s row message options now = .ok (after, eventId)) :
    DualWritten after := by
  rcases addMessage_eventId hadded with ⟨hmessages, hstamp⟩
  rw [hmirror, Option.map_some] at hstamp
  subst hstamp
  constructor
  · intro sent hsent
    rw [hmessages] at hsent
    rcases List.mem_append.mp hsent with hold | hnew
    · rcases hdual.twins sent hold with ⟨id, event, hid, hevent, htwin⟩
      exact ⟨id, event, hid, (addMessage_extends hadded).getEvent hevent, htwin⟩
    · rw [List.mem_singleton.mp hnew]
      exact ⟨_, _, rfl, addMessage_getEvent hadded, rfl, rfl, rfl, rfl⟩
  · intro other
    have hbefore := hdual.stamps other
    rw [State.stamps] at hbefore ⊢
    rw [hmessages, addMessage_log hadded, hmirror, List.filterMap_append, List.filter_append,
      hbefore, List.length_append]
    by_cases hthis : operationId = other
    · subst hthis
      simp [List.range_succ]
    · simp [hthis]

/-- An actor takes part in an operation at most once, and those that an event is by or
addressed to take part. -/
structure RollCall (operation : V2.Operation) : Prop where
  once : (operation.participants.map (·.actorId)).Nodup
  present : ∀ said ∈ operation.events.map Event.said,
    isParticipant operation.participants said.1 ∧
      ∀ handle ∈ said.2.2, isParticipant operation.participants handle

theorem nodup_joinAs {participants : List Participant}
    (hnodup : (participants.map (·.actorId)).Nodup) (joinedAt : Time) (role actorId : String) :
    ((joinAs joinedAt role participants actorId).map (·.actorId)).Nodup := by
  unfold joinAs
  split
  · exact hnodup
  · rename_i hnew
    rw [List.map_append]
    apply hnodup.append (List.nodup_singleton _)
    intro handle hold hthis
    rcases List.mem_map.mp hold with ⟨participant, hmem, rfl⟩
    apply hnew
    rw [List.any_eq_true]
    exact ⟨participant, hmem, decide_eq_true (List.mem_singleton.mp hthis)⟩

theorem nodup_joinParticipants {participants : List Participant}
    (hnodup : (participants.map (·.actorId)).Nodup) (record : MessageRecord) (now : Time) :
    ((joinParticipants participants record now).map (·.actorId)).Nodup := by
  apply nodup_joinAs
  generalize addressedHandles record = handles
  induction handles generalizing participants with
  | nil => exact hnodup
  | cons handle handles ih => exact ih (nodup_joinAs hnodup now "addressed" handle)

theorem nodup_roles {first : String} {second third : Option String} (hsecond : first ∉ second)
    (hthird : first ∉ third) (hother : ∀ handle ∈ second, handle ∉ third) :
    (first :: (second.toList ++ third.toList)).Nodup := by
  cases second <;> cases third <;> simp_all [Ne.symm]

theorem nodup_founders (row : Conversation) (now : Time) :
    ((founders row now).map (·.actorId)).Nodup := by
  let opener := handleOrSystem (some (openRecord 0 row).openerActor)
  let owner := normalizeHandle (openRecord 0 row).ownerActor
  let addressed := normalizeHandle (openRecord 0 row).addressedTo
  have hroles : (founders row now).map (·.actorId) = opener ::
      ((owner.filter (· ≠ opener)).toList ++
        (addressed.filter fun handle => handle ≠ opener ∧ some handle ≠ owner).toList) := by
    simp [founders, openingParticipants, opener, owner, addressed, Option.toList_map,
      Function.comp_def]
  rw [hroles]
  apply nodup_roles
  · simp
  · simp
  · intro handle howner haddressed
    simp only [Option.mem_filter_iff, decide_eq_true_eq] at howner haddressed
    exact haddressed.2.2 (Option.mem_def.mp howner.1).symm

theorem RollCall.of_remains {before after : V2.Operation} (hcalled : RollCall before)
    (hremains : before.Remains after) : RollCall after where
  once := by
    rw [hremains.participants]
    exact hcalled.once
  present := by
    rw [hremains.participants, hremains.said]
    exact hcalled.present

/-- Whoever speaks or is spoken to joins. -/
theorem RollCall.rowAfter {before : V2.Operation} (hcalled : RollCall before)
    (record : MessageRecord) (now : Time) :
    RollCall (OperationMirror.rowAfter before record now) where
  once := nodup_joinParticipants hcalled.once record now
  present := by
    intro said hsaid
    change said ∈ (before.events ++ [eventOf record now]).map Event.said at hsaid
    change isParticipant (joinParticipants before.participants record now) said.1 ∧
      ∀ handle ∈ said.2.2,
        isParticipant (joinParticipants before.participants record now) handle
    rw [List.map_append] at hsaid
    rcases List.mem_append.mp hsaid with hold | hnew
    · have hprefix := prefix_joinParticipants before.participants record now
      rcases hcalled.present said hold with ⟨hactor, haddressed⟩
      have hin := isParticipant_of_prefix hprefix hactor
      exact ⟨hin, fun handle hmem => isParticipant_of_prefix hprefix (haddressed handle hmem)⟩
    · rw [List.map_singleton, List.mem_singleton] at hnew
      subst hnew
      exact ⟨isParticipant_joinParticipants.2 (Or.inr (Or.inr rfl)),
        fun handle hmem => isParticipant_joinParticipants.2 (Or.inr (Or.inl hmem))⟩

theorem RollCall.of_founded {id : Id} {policy : Option OperationPolicy} {operation : V2.Operation}
    (hfounded : Founded id row policy now operation) : RollCall operation where
  once := by
    rw [hfounded.participants]
    exact nodup_founders row now
  present := by
    rw [hfounded.events]
    intro said hsaid
    cases hsaid

theorem rollCall_wrote {id : Id} {operation : V2.Operation}
    (hbefore : ∀ old before, Mirror s id old before → RollCall before)
    (hwrote : Wrote s₀ may s id row operation) : RollCall operation := by
  cases hwrote with
  | kept old before hthere hsame hturn hremains =>
      exact (hbefore old before hthere).of_remains hremains
  | founded now hid hopened hunresolved hunowned hunaddressed hquiet hfounded =>
      exact .of_founded hfounded
  | announced policy now before record sent hid hopened hunresolved hquiet hfounded hauthor
      hkind haddressed hafter =>
      rw [hafter]
      exact (RollCall.of_founded hfounded).rowAfter record sent
  | said before row₀ record now hthere hknown hstate hmay hafter =>
      rw [hafter]
      exact (hbefore row before hthere).rowAfter record now
  | closed old before record now closedBy resolution summary closedAt operationClosedAt
      operationNow hthere hopen hmay hkind hrow hremains =>
      have hshut : RollCall (closedOperation before closedBy resolution summary
          operationClosedAt operationNow) :=
        ⟨(hbefore old before hthere).once, (hbefore old before hthere).present⟩
      exact (hshut.rowAfter record now).of_remains hremains

/-! ## What stays -/

/-- Every conversation of `s` is in `t`, with its operation, and is closed for good. -/
def Stays (s t : State) : Prop :=
  ∀ id row before, Mirror s id row before → ∃ row' after, Mirror t id row' after ∧
    Grown before after ∧ (row.state = .closed → row'.charter = row.charter)

theorem Stays.refl (s : State) : Stays s s :=
  fun _ row before hmirror => ⟨row, before, hmirror, .of_remains (.refl before), fun _ => rfl⟩

theorem Stays.trans {u : State} (hfirst : Stays s t) (hlast : Stays t u) : Stays s u := by
  intro id row before hbefore
  rcases hfirst id row before hbefore with ⟨row', between, hbetween, hgrown, hcharter⟩
  rcases hlast id row' between hbetween with ⟨row'', after, hafter, hgrown', hcharter'⟩
  refine ⟨row'', after, hafter, hgrown.trans hgrown', ?_⟩
  intro hclosed
  have hstill : row'.state = .closed := (congrArg Prod.fst (hcharter hclosed)).trans hclosed
  exact (hcharter' hstill).trans (hcharter hclosed)

theorem Write.stays (hwrite : Write config s₀ may s t) (hmirrored : Mirrored s) : Stays s t := by
  intro id row before hbefore
  rcases hwrite.descends hmirrored id row before hbefore with ⟨row', after, hafter, hgrown⟩
  refine ⟨row', after, hafter, hgrown, ?_⟩
  intro hclosed
  have hlt := (List.getElem?_eq_some_iff.mp hbefore.conversation).1
  have hthis : ∀ old found, Mirror s id old found → old = row := by
    intro old found hfound
    exact Option.some.inj (hfound.conversation.symm.trans hbefore.conversation)
  cases hwrite.wrote hmirrored hafter with
  | kept old found hfound hsame =>
      rw [← hthis old found hfound]
      exact hsame
  | founded now hid =>
      exact absurd hid hlt.ne
  | announced policy now found record sent hid => exact absurd hid hlt.ne
  | said found row₀ record now hfound =>
      rw [hthis row' found hfound]
  | closed old found record now closedBy resolution summary closedAt operationClosedAt
      operationNow hfound hopen =>
      rw [hthis old found hfound] at hopen
      exact absurd hclosed hopen

end OpsCure.Chat

namespace OpsCure.Api

open Session Run Contract V2 OperationMirror PolicyEngine Chat

/-! ## Runs of the bridge -/

variable {b : Bridge} {eventId : Option EventId}

/-- In every reachable state, an actor takes part in an operation at most once, all that
speak or are spoken to take part, and whoever takes part is a registered actor. -/
theorem roll_call (api : ApiConfig) {s : State} (hfresh : Fresh s) (deeds : List Deed) :
    let reached := (run (bridgeStep api) (Bridge.of s) deeds).chat.store
    ∀ id operation, reached.getOperation id = some operation → RollCall operation ∧
      ∀ participant ∈ operation.participants, IsActor reached participant.actorId := by
  intro reached id operation hoperation
  have hordered := (reached_coherent api hfresh deeds).ordered
  let called := fun t : State => Mirrored t ∧ Lawful (fun _ _ operation => RollCall operation) t
  have hrun : Throughout (bridgeStep api) (fun b => called b.chat) (Bridge.of s) deeds := by
    apply throughout_of_preserved
    · refine ⟨.of_fresh hfresh, ?_⟩
      intro id row operation hmirror
      have hnone := hmirror.conversation
      change s.conversations[id]? = some row at hnone
      rw [hfresh.no_conversations] at hnone
      cases hnone
    · intro done deed _ hhere
      apply deed_keeps api (P := called) _ hhere
      intro before may after hlawful hwrites
      exact hwrites.keepsMirrors hlawful.1 hlawful.2
        fun _ _ _ _ _ hbefore hwrote => rollCall_wrote hbefore hwrote
  have hlt := (List.getElem?_eq_some_iff.mp hoperation).1
  rw [← hordered.mirrored.lengths] at hlt
  rcases hordered.mirrored.mirror hlt with ⟨row, found, hmirror⟩
  have hthis : found = operation := Option.some.inj (hmirror.operation.symm.trans hoperation)
  subst hthis
  exact ⟨(hrun deeds List.prefix_rfl).2 id row found hmirror,
    fun participant => hordered.enrolled id found participant hoperation⟩

theorem empty_room_roll_call :
    let reached := (run (bridgeStep plainApi) (Bridge.of emptyRoom) [openedInquiry]).chat.store
    ∀ id operation, reached.getOperation id = some operation → RollCall operation ∧
      ∀ participant ∈ operation.participants, IsActor reached participant.actorId :=
  roll_call plainApi ⟨rfl, rfl⟩ [openedInquiry]

/-- From `b` to `c` the messages, the events and the mail stay as they are, a new mail is
about a new event, and every conversation stays with its operation. -/
structure Kept (b c : Bridge) : Prop where
  messages : b.chat.messages <+: c.chat.messages
  settled : Settled b c
  stays : Stays b.chat c.chat

/-- Each item of an inbox is about an event that its reader may read. -/
def Discreet (b : Bridge) : Prop :=
  ∀ item ∈ b.inboxes, ∃ event, b.chat.store.getEvent item.eventId = some event ∧
    visibleTo (some item.inboxOf) event

theorem Discreet.of_pushes {missed : EventId → Prop} {c : Bridge} (hdiscreet : Discreet b)
    (hpushes : Pushes missed b c) : Discreet c := by
  intro item hitem
  rcases (hpushes.inboxes item).mp hitem with hold | ⟨id, _, _, hnew⟩
  · rcases hdiscreet item hold with ⟨event, hevent, hvisible⟩
    exact ⟨event, hpushes.recorded.extends_store.getEvent hevent, hvisible⟩
  · rcases mem_inboxFanout.1 hnew with ⟨event, participant, hevent, _, hvisible, rfl⟩
    exact ⟨event, hevent, hvisible⟩

theorem deed_discreet (api : ApiConfig) (hordered : Ordered b.chat) (hdiscreet : Discreet b)
    (deed : Deed) : Discreet (bridgeStep api b deed) := by
  by_cases hservice : deed.isService
  · exact hdiscreet.of_pushes (service_pushes api b hservice)
  · cases deed with
    | coordinate conversationId request clocks =>
        exact hdiscreet.of_pushes (coordinate_pushes api b conversationId request clocks)
    | appendEvent operationId request clock finishClock =>
        cases appendEvent_appends api hordered operationId request clock finishClock with
        | left hpushes => exact hdiscreet.of_pushes hpushes
        | finished operation id first posted hoperation hcompletable hpushes hnext hfirst hreply
            hintent hvisible hfinishes =>
            intro item hitem
            rw [hfinishes.inboxes] at hitem
            rcases hdiscreet.of_pushes hpushes item hitem with ⟨event, hevent, hsees⟩
            rw [hfinishes.events]
            by_cases hthis : item.eventId = id
            · rw [hthis] at hevent
              rw [if_pos hthis, hevent]
              exact ⟨_, rfl, hsees⟩
            · rw [if_neg hthis]
              exact ⟨event, hevent, hsees⟩
    | _ => exact absurd rfl hservice

/-- No whisper gets to an outsider: whatever has been delivered to an inbox, or is returned
to an actor that reads the log, is an event that is public, or private to the reader, or the
reader's own. -/
theorem whispers_stay_private (api : ApiConfig) {s : State} (hfresh : Fresh s)
    (deeds : List Deed) :
    let b := run (bridgeStep api) (Bridge.of s) deeds
    Discreet b ∧ ∀ id reader body, IsActor b.chat.store reader → Returned b id reader body →
      ∃ event, b.chat.store.getEvent id = some event ∧ visibleTo (some reader) event := by
  intro b
  have hrun : Throughout (bridgeStep api) (fun b => Ordered b.chat ∧ Discreet b)
      (Bridge.of s) deeds := by
    apply throughout_of_preserved
    · refine ⟨.of_fresh hfresh, ?_⟩
      intro item hitem
      cases hitem
    · intro done deed _ hhere
      exact ⟨deed_ordered api hhere.1 deed, deed_discreet api hhere.1 hhere.2 deed⟩
  refine ⟨(hrun deeds List.prefix_rfl).2, ?_⟩
  intro id reader body hreader hreturned
  rcases (returned_iff (resolveActorId_of_isActor hreader)).mp hreturned with
    ⟨event, hevent, hvisible, _⟩
  exact ⟨event, hevent, hvisible⟩

theorem empty_room_whispers :
    Discreet (run (bridgeStep plainApi) (Bridge.of emptyRoom) [openedInquiry, doneClaim]) :=
  (whispers_stay_private plainApi ⟨rfl, rfl⟩ [openedInquiry, doneClaim]).1

end OpsCure.Api
