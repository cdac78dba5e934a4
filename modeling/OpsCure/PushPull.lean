/-
The push and the pull view of a log: what the inbox fan-out delivers to a participant, and
what `GET /v2/operations/{id}/events` returns when read as that participant.
-/
import OpsCure.Deeds

namespace OpsCure.Api

open Fallible Run V2 Chat

/-! ## The two views -/

def Delivered (b : Bridge) (id : EventId) (reader : String) (item : InboxItem) : Prop :=
  item ∈ b.inboxes ∧ item.inboxOf = reader ∧ item.eventId = id

def Returned (b : Bridge) (id : EventId) (reader : String) (body : EventBody) : Prop :=
  body.id = id ∧ ∃ afterSeq kinds limit page,
    listEvents b.chat.store id.operation afterSeq kinds (some reader) limit = .ok page ∧
      body ∈ page.events

/-- An item and a body say the same about their event. -/
structure SameContent (item : InboxItem) (body : EventBody) : Prop where
  kind : item.kind = body.kind
  payload : item.payload = body.payload
  addressedTo : item.addressedToActorIds = body.addressedToActorIds
  privateTo : item.privateToActorIds = body.privateToActorIds
  repliesTo : item.repliesToEventId = body.repliesToEventId
  expectedResponse : item.expectedResponse = body.expectedResponse

structure Agrees (b : Bridge) (id : EventId) (reader : String) : Prop where
  delivered_iff : (∃ item, Delivered b id reader item) ↔ ∃ body, Returned b id reader body
  same : ∀ item body, Delivered b id reader item → Returned b id reader body →
    SameContent item body

variable {store : Store} {operationId : Id} {b : Bridge}

variable {afterSeq limit : Nat} {item : InboxItem}

theorem listEvents_eq_ok {kinds : List String} {actorHandle : Option String} {page : EventsPage}
    (hpage : listEvents store operationId afterSeq kinds actorHandle limit = .ok page)
    (body : EventBody) :
    body ∈ page.events ↔ ∃ row ∈ selectEvents store operationId afterSeq kinds limit,
      visibleTo (resolveActorId store actorHandle) row.1 ∧
        body = serializeEvent { operation := operationId, index := row.2 } row.1 := by
  simp only [listEvents, bind_eq_ok, orRaise_eq_ok, pure_eq_ok] at hpage
  rcases hpage with ⟨operation, hoperation, rfl⟩
  simp only [List.mem_map, List.mem_filter, and_assoc, eq_comm]

theorem listEvents_isOk {operation : V2.Operation}
    (hoperation : store.getOperation operationId = some operation) (afterSeq : Nat)
    (kinds : List String) (actorHandle : Option String) (limit : Nat) :
    ∃ page, listEvents store operationId afterSeq kinds actorHandle limit = .ok page := by
  rw [listEvents, hoperation]
  exact ⟨_, rfl⟩

theorem selectEvents_one {id : EventId} {event : Event} (hevent : store.getEvent id = some event) :
    selectEvents store id.operation id.index [] 1 = [(event, id.index)] := by
  have hrow : (store.log id.operation)[id.index]? = some event := hevent
  rcases List.getElem?_eq_some_iff.mp hrow with ⟨hlt, hhere⟩
  have hall : ∀ rows : List (Event × Nat), (rows.filter fun row =>
      ([] : List String) = [] ∨ row.1.kind ∈ ([] : List String)) = rows := by
    intro rows
    apply List.filter_eq_self.mpr
    intro row _
    simp
  have hlength : id.index < (store.log id.operation).zipIdx.length := by
    rw [List.length_zipIdx]
    exact hlt
  have hplace : (store.log id.operation).zipIdx[id.index] = (event, id.index) := by
    rw [List.getElem_zipIdx, Nat.zero_add, hhere]
  rw [selectEvents, hall, List.drop_eq_getElem_cons hlength, hplace]
  rfl

theorem getEvent_of_selected {kinds : List String} {row : Event × Nat}
    (hrow : row ∈ selectEvents store operationId afterSeq kinds limit) :
    store.getEvent { operation := operationId, index := row.2 } = some row.1 := by
  have hwindow := List.mem_of_mem_take hrow
  have hplace := List.mem_of_mem_drop (List.mem_filter.mp hwindow).1
  exact List.mem_zipIdx_iff_getElem?.mp hplace

theorem returned_iff {id : EventId} {reader : String} {body : EventBody}
    (hreader : resolveActorId b.chat.store (some reader) = some reader) :
    Returned b id reader body ↔ ∃ event, b.chat.store.getEvent id = some event ∧
      visibleTo (some reader) event ∧ body = serializeEvent id event := by
  constructor
  · rintro ⟨hid, afterSeq, kinds, limit, page, hpage, hbody⟩
    rcases (listEvents_eq_ok hpage body).mp hbody with ⟨row, hrow, hvisible, rfl⟩
    have hthis : { operation := id.operation, index := row.2 } = id := hid
    have hevent := getEvent_of_selected hrow
    rw [hthis] at hevent ⊢
    rw [hreader] at hvisible
    exact ⟨row.1, hevent, hvisible, rfl⟩
  · rintro ⟨event, hevent, hvisible, rfl⟩
    have hselected := selectEvents_one hevent
    cases hoperation : b.chat.store.getOperation id.operation with
    | none =>
        rw [Store.getEvent, Store.log, hoperation] at hevent
        cases hevent
    | some =>
        rcases listEvents_isOk hoperation id.index [] (some reader) 1 with ⟨page, hpage⟩
        refine ⟨rfl, id.index, [], 1, page, hpage, ?_⟩
        rw [listEvents_eq_ok hpage, hselected, hreader]
        exact ⟨(event, id.index), List.mem_singleton_self _, hvisible, rfl⟩

theorem mem_inboxFanout {id : EventId} :
    item ∈ inboxFanout store operationId id ↔
      ∃ event participant, store.getEvent id = some event ∧
        participant ∈ store.listParticipants operationId ∧
        visibleTo (some participant.actorId) event ∧
        item = inboxItem operationId id event participant := by
  unfold inboxFanout
  cases hevent : store.getEvent id with
  | none =>
      constructor
      · intro hitem
        cases hitem
      · rintro ⟨_, _, habsurd, _⟩
        cases habsurd
  | some event =>
      have hvisible : ∀ participant : Participant,
          (event.privateToActorIds.all fun readers =>
            participant.actorId ∈ readers ∨ participant.actorId = event.actorId) =
          visibleTo (some participant.actorId) event := by
        intro participant
        unfold visibleTo
        cases event.privateToActorIds with
        | none => rfl
        | some => simp [or_comm]
      simp only [List.mem_map, List.mem_filter, hvisible, Option.some.injEq]
      constructor
      · rintro ⟨participant, ⟨hmem, hsees⟩, rfl⟩
        exact ⟨event, participant, rfl, hmem, hsees, rfl⟩
      · rintro ⟨_, participant, rfl, hmem, hsees, rfl⟩
        exact ⟨participant, ⟨hmem, hsees⟩, rfl⟩

theorem resolveActorId_of_isActor {reader : String} (hreader : IsActor store reader) :
    resolveActorId store (some reader) = some reader := by
  rcases Option.isSome_iff_exists.mp hreader.known with ⟨actor, hactor⟩
  have hfound : store.actors.find? (·.handle = reader) = some actor := hactor
  have hhandle : actor.handle = reader := by simpa using List.find?_some hfound
  rw [resolveActorId, hreader.normal, Option.bind_some, hactor, Option.map_some, hhandle]

section Views

variable {c : Bridge} {id : EventId} {reader : String} {seen : Store} {first event : Event}

/-- What went out about an event, from a store that holds it as `first`. -/
structure WentOut (c : Bridge) (id : EventId) (reader : String) (seen : Store)
    (first : Event) : Prop where
  reader_isActor : IsActor c.chat.store reader
  held : seen.getEvent id = some first
  takes_part : ∃ participant ∈ seen.listParticipants id.operation,
    participant.actorId = reader
  items : ∀ item, item.eventId = id →
    (item ∈ c.inboxes ↔ item ∈ inboxFanout seen id.operation id)

theorem WentOut.delivered_iff (hout : WentOut c id reader seen first) {item : InboxItem} :
    Delivered c id reader item ↔ ∃ participant ∈ seen.listParticipants id.operation,
      participant.actorId = reader ∧ visibleTo (some reader) first ∧
        item = inboxItem id.operation id first participant := by
  constructor
  · rintro ⟨hitem, hreader, hid⟩
    rw [hout.items item hid, mem_inboxFanout] at hitem
    rcases hitem with ⟨found, participant, hfound, hmem, hvisible, rfl⟩
    rw [hout.held] at hfound
    cases hfound
    have hthis : participant.actorId = reader := hreader
    rw [hthis] at hvisible
    exact ⟨participant, hmem, hthis, hvisible, rfl⟩
  · rintro ⟨participant, hmem, hthis, hvisible, rfl⟩
    refine ⟨?_, hthis, rfl⟩
    rw [hout.items _ rfl, mem_inboxFanout]
    rw [← hthis] at hvisible
    exact ⟨first, participant, hout.held, hmem, hvisible, rfl⟩

theorem WentOut.agrees (hout : WentOut c id reader seen first)
    (hevent : c.chat.store.getEvent id = some event)
    (hvisible : visibleTo (some reader) event = visibleTo (some reader) first)
    (hsame : visibleTo (some reader) first → event = first) : Agrees c id reader := by
  have hreturned : ∀ body, Returned c id reader body ↔ ∃ event,
      c.chat.store.getEvent id = some event ∧ visibleTo (some reader) event ∧
        body = serializeEvent id event :=
    fun _ => returned_iff (resolveActorId_of_isActor hout.reader_isActor)
  constructor
  · constructor
    · rintro ⟨item, hitem⟩
      rcases hout.delivered_iff.1 hitem with ⟨_, _, _, hsees, _⟩
      rw [← hvisible] at hsees
      exact ⟨_, (hreturned _).mpr ⟨event, hevent, hsees, rfl⟩⟩
    · rintro ⟨body, hbody⟩
      rcases (hreturned body).mp hbody with ⟨found, hfound, hsees, _⟩
      rw [hevent] at hfound
      cases hfound
      rw [hvisible] at hsees
      rcases hout.takes_part with ⟨participant, hmem, hthis⟩
      exact ⟨_, hout.delivered_iff.2 ⟨participant, hmem, hthis, hsees, rfl⟩⟩
  · intro item body hitem hbody
    rcases hout.delivered_iff.1 hitem with ⟨participant, _, _, hsees, rfl⟩
    rcases (hreturned body).mp hbody with ⟨found, hfound, _, rfl⟩
    rw [hevent] at hfound
    cases hfound
    rw [hsame hsees]
    exact ⟨rfl, rfl, rfl, rfl, rfl, rfl⟩

theorem WentOut.not_agrees (hout : WentOut c id reader seen first)
    (hevent : c.chat.store.getEvent id = some event)
    (hvisible : visibleTo (some reader) event) (hsaw : visibleTo (some reader) first)
    (hother : first.payload ≠ event.payload) : ¬ Agrees c id reader := by
  intro hagrees
  have hreader := resolveActorId_of_isActor hout.reader_isActor
  rcases hout.takes_part with ⟨participant, hmem, hthis⟩
  have hdelivered : Delivered c id reader (inboxItem id.operation id first participant) :=
    hout.delivered_iff.2 ⟨participant, hmem, hthis, hsaw, rfl⟩
  have hreturned : Returned c id reader (serializeEvent id event) :=
    (returned_iff hreader).mpr ⟨event, hevent, hvisible, rfl⟩
  exact hother (hagrees.same _ _ hdelivered hreturned).payload

theorem not_agrees_of_missed (hreader : IsActor c.chat.store reader)
    (hevent : c.chat.store.getEvent id = some event) (hvisible : visibleTo (some reader) event)
    (hmissed : ∀ item ∈ c.inboxes, item.eventId ≠ id) : ¬ Agrees c id reader := by
  intro hagrees
  have hreturned : Returned c id reader (serializeEvent id event) :=
    (returned_iff (resolveActorId_of_isActor hreader)).mpr ⟨event, hevent, hvisible, rfl⟩
  rcases hagrees.delivered_iff.2 ⟨_, hreturned⟩ with ⟨item, hitem, _, hid⟩
  exact hmissed item hitem hid

end Views

/-! ## Runs of the bridge -/

/-- The chat is ordered, and what was pushed is about events that are there. -/
structure Coherent (b : Bridge) : Prop where
  ordered : Ordered b.chat
  mailed : ∀ item ∈ b.inboxes, (b.chat.store.getEvent item.eventId).isSome

/-- From `b` to `c` actors, events and mail stay, and new mail is about new events. -/
structure Settled (b c : Bridge) : Prop where
  actors : b.chat.store.actors <+: c.chat.store.actors
  events : ∀ id event, b.chat.store.getEvent id = some event →
    c.chat.store.getEvent id = some event
  kept : ∀ item ∈ b.inboxes, item ∈ c.inboxes
  added : ∀ item ∈ c.inboxes, item ∈ b.inboxes ∨
    b.chat.store.getEvent item.eventId = none

theorem Settled.refl (b : Bridge) : Settled b b where
  actors := List.prefix_rfl
  events := fun _ _ hevent => hevent
  kept := fun _ hitem => hitem
  added := fun _ hitem => Or.inl hitem

theorem Settled.trans {c d : Bridge} (hfirst : Settled b c) (hlast : Settled c d) :
    Settled b d where
  actors := hfirst.actors.trans hlast.actors
  events := fun id event hevent => hlast.events id event (hfirst.events id event hevent)
  kept := fun item hitem => hlast.kept item (hfirst.kept item hitem)
  added := by
    intro item hitem
    rcases hlast.added item hitem with hbefore | hnew
    · exact hfirst.added item hbefore
    · right
      by_contra hold
      rcases Option.ne_none_iff_exists'.mp hold with ⟨event, hevent⟩
      rw [hfirst.events _ event hevent] at hnew
      cases hnew

theorem eventId_of_mem_fanout {id : EventId} (hitem : item ∈ inboxFanout store operationId id) :
    item.eventId = id := by
  rcases mem_inboxFanout.1 hitem with ⟨_, _, _, _, _, rfl⟩
  rfl

theorem Settled.of_pushes {missed : EventId → Prop} {c : Bridge} (hpushes : Pushes missed b c) :
    Settled b c where
  actors := hpushes.recorded.extends_store.actors
  events := fun _ _ hevent => hpushes.recorded.extends_store.getEvent hevent
  kept := fun item hitem => (hpushes.inboxes item).mpr (Or.inl hitem)
  added := by
    intro item hitem
    rcases (hpushes.inboxes item).mp hitem with hold | ⟨id, hnone, _, hnew⟩
    · exact Or.inl hold
    · right
      rw [eventId_of_mem_fanout hnew]
      exact hnone

theorem Settled.agrees_iff {c : Bridge} {id : EventId} {reader : String} (hsettled : Settled b c)
    (hreader : IsActor b.chat.store reader) (hthere : (b.chat.store.getEvent id).isSome) :
    Agrees c id reader ↔ Agrees b id reader := by
  rcases Option.isSome_iff_exists.mp hthere with ⟨event, hevent⟩
  have hdelivered : ∀ item, Delivered c id reader item ↔ Delivered b id reader item := by
    intro item
    constructor
    · rintro ⟨hitem, hto, rfl⟩
      rcases hsettled.added item hitem with hold | hnew
      · exact ⟨hold, hto, rfl⟩
      · rw [hevent] at hnew
        cases hnew
    · rintro ⟨hitem, hto, hid⟩
      exact ⟨hsettled.kept item hitem, hto, hid⟩
  have hreturned : ∀ body, Returned c id reader body ↔ Returned b id reader body := by
    intro body
    rw [returned_iff (resolveActorId_of_isActor (hreader.later hsettled.actors)),
      returned_iff (resolveActorId_of_isActor hreader), hsettled.events id event hevent, hevent]
  constructor
  · rintro ⟨hiff, hsame⟩
    simp only [hdelivered, hreturned] at hiff hsame
    exact ⟨hiff, hsame⟩
  · rintro ⟨hiff, hsame⟩
    simp only [← hdelivered, ← hreturned] at hiff hsame
    exact ⟨hiff, hsame⟩

theorem deed_keeps (api : ApiConfig) {P : State → Prop}
    (hkeeps : ∀ s may t, P s → Writes api.chat s may s t → P t) (hhere : P b.chat)
    (deed : Deed) : P (bridgeStep api b deed).chat := by
  by_cases hservice : deed.isService
  · rcases service_writes api b hservice with ⟨may, _, hwrites⟩
    exact hkeeps _ may _ hhere hwrites
  · cases deed with
    | coordinate conversationId request clocks =>
        rw [bridgeStep, exec_publishingTask, publishTask_chat]
        exact hkeeps _ _ _ hhere
          (coordinate_writes api.chat conversationId request clocks b.chat)
    | appendEvent operationId request clock finishClock =>
        rcases appendEvent_run api operationId request clock finishClock b with ⟨acts, hacts⟩
        rw [bridgeStep, hacts]
        have hrun : Throughout (systemStep api) P b.chat acts := by
          apply throughout_of_preserved hhere
          intro done act _ hdone
          exact hkeeps _ _ _ hdone (systemStep_writes api _ act)
        exact hrun acts List.prefix_rfl
    | _ => exact absurd rfl hservice

theorem deed_ordered (api : ApiConfig) (hordered : Ordered b.chat) (deed : Deed) :
    Ordered (bridgeStep api b deed).chat :=
  deed_keeps api (fun _ _ _ hhere hwrites => hhere.of_writes hwrites) hordered deed

theorem deed_settled (api : ApiConfig) (hordered : Ordered b.chat) (deed : Deed) :
    Settled b (bridgeStep api b deed) := by
  by_cases hservice : deed.isService
  · exact .of_pushes (service_pushes api b hservice)
  · cases deed with
    | coordinate conversationId request clocks =>
        exact .of_pushes (coordinate_pushes api b conversationId request clocks)
    | appendEvent operationId request clock finishClock =>
        cases appendEvent_appends api hordered operationId request clock finishClock with
        | left hpushes => exact .of_pushes hpushes
        | finished operation id event posted hoperation hcompletable hpushes hnext hevent hreply
            hintent hvisible hfinishes =>
            have hposted := Settled.of_pushes hpushes
            refine ⟨?_, ?_, ?_, ?_⟩
            · rw [hfinishes.actors]
              exact hposted.actors
            · intro other found hfound
              rw [hfinishes.events, if_neg]
              · exact hposted.events other found hfound
              · rintro rfl
                rw [getEvent_nextEvent hnext] at hfound
                cases hfound
            · rw [hfinishes.inboxes]
              exact hposted.kept
            · rw [hfinishes.inboxes]
              exact hposted.added
    | _ => exact absurd rfl hservice

theorem deed_mailed (api : ApiConfig) (hcoherent : Coherent b) (deed : Deed) :
    ∀ item ∈ (bridgeStep api b deed).inboxes,
      ((bridgeStep api b deed).chat.store.getEvent item.eventId).isSome := by
  have hpushed : ∀ {missed : EventId → Prop} {c : Bridge}, Pushes missed b c →
      ∀ item ∈ c.inboxes, (c.chat.store.getEvent item.eventId).isSome := by
    intro missed c hpushes item hitem
    rcases (hpushes.inboxes item).mp hitem with hold | ⟨id, _, _, hnew⟩
    · rcases Option.isSome_iff_exists.mp (hcoherent.mailed item hold) with ⟨event, hevent⟩
      rw [hpushes.recorded.extends_store.getEvent hevent]
      rfl
    · rw [eventId_of_mem_fanout hnew]
      exact isSome_of_mem_fanout hnew
  by_cases hservice : deed.isService
  · exact hpushed (service_pushes api b hservice)
  · cases deed with
    | coordinate conversationId request clocks =>
        exact hpushed (coordinate_pushes api b conversationId request clocks)
    | appendEvent operationId request clock finishClock =>
        cases appendEvent_appends api hcoherent.ordered operationId request clock finishClock with
        | left hpushes => exact hpushed hpushes
        | finished operation id event posted hoperation hcompletable hpushes hnext hevent hreply
            hintent hvisible hfinishes =>
            intro item hitem
            rw [hfinishes.inboxes] at hitem
            have hthere := hpushed hpushes item hitem
            rw [hfinishes.events]
            split
            · rw [hevent]
              rfl
            · exact hthere
    | _ => exact absurd rfl hservice

theorem deed_coherent (api : ApiConfig) (hcoherent : Coherent b) (deed : Deed) :
    Coherent (bridgeStep api b deed) :=
  ⟨deed_ordered api hcoherent.ordered deed, deed_mailed api hcoherent deed⟩

theorem reached_coherent (api : ApiConfig) {s : State} (hfresh : Fresh s) (deeds : List Deed) :
    Coherent (run (bridgeStep api) (Bridge.of s) deeds) := by
  have hstart : Coherent (Bridge.of s) := by
    refine ⟨.of_fresh hfresh, ?_⟩
    intro item hitem
    cases hitem
  have hrun : Throughout (bridgeStep api) Coherent (Bridge.of s) deeds := by
    apply throughout_of_preserved hstart
    intro done deed _ hhere
    exact deed_coherent api hhere deed
  exact hrun deeds List.prefix_rfl

theorem run_settled (api : ApiConfig) (hcoherent : Coherent b) (deeds : List Deed) :
    Settled b (run (bridgeStep api) b deeds) := by
  induction deeds generalizing b with
  | nil => exact .refl b
  | cons deed deeds ih =>
      exact (deed_settled api hcoherent.ordered deed).trans
        (ih (deed_coherent api hcoherent deed))

/-! ## The theorem -/

/-- The deeds that leave the two views of an event apart, for a reader: an operation of the
task coordinator, on its echo, which is not fanned out; and a request to append a ratify
that states an intent, on its event, which gets the intent after the fan-out, for those that
may read it. -/
def Strays (api : ApiConfig) (b : Bridge) (reader : String) (id : EventId) : Deed → Prop
  | .coordinate conversationId _ _ => nextEvent b.chat conversationId = some id
  | .appendEvent operationId request _ _ =>
      ∃ operation, b.chat.store.getOperation operationId = some operation ∧
        nextEvent b.chat operation.v1ConversationId = some id ∧
        (keptIntent request).isSome ∧ mayRead request reader ∧
        Completable api b.chat operation.v1ConversationId request
  | _ => False

theorem wentOut_of_pushes {missed : EventId → Prop} {seen c : Bridge} {id : EventId}
    {reader : String} {first : Event} (hcoherent : Coherent b) (hpushes : Pushes missed b seen)
    (hnew : b.chat.store.getEvent id = none) (hkept : ¬ missed id)
    (hinboxes : c.inboxes = seen.inboxes) (hreader : IsActor c.chat.store reader)
    (hfirst : seen.chat.store.getEvent id = some first)
    (hmember : ∃ participant ∈ seen.chat.store.listParticipants id.operation,
      participant.actorId = reader) : WentOut c id reader seen.chat.store first := by
  refine ⟨hreader, hfirst, hmember, ?_⟩
  intro item hid
  rw [hinboxes, hpushes.inboxes]
  constructor
  · rintro (hold | ⟨other, _, _, hitem⟩)
    · have hthere := hcoherent.mailed item hold
      rw [hid, hnew] at hthere
      cases hthere
    · have hthis := eventId_of_mem_fanout hitem
      rw [hid] at hthis
      rw [hthis]
      exact hitem
  · exact fun hitem => Or.inr ⟨id, hnew, hkept, hitem⟩

/-- The two views of an event agree, for a participant, right after the deed that records it
exactly when the deed does not stray. -/
theorem agrees_recorded (api : ApiConfig) (hcoherent : Coherent b) (deed : Deed) {id : EventId}
    {participant : Participant} (hnew : b.chat.store.getEvent id = none)
    (hrecorded : ((bridgeStep api b deed).chat.store.getEvent id).isSome) (hmem : participant ∈
      (bridgeStep api b deed).chat.store.listParticipants id.operation) :
    Agrees (bridgeStep api b deed) id participant.actorId ↔
      ¬ Strays api b participant.actorId id deed := by
  have hreader : IsActor (bridgeStep api b deed).chat.store participant.actorId :=
    (deed_ordered api hcoherent.ordered deed).enrolled.isActor hmem
  rcases Option.isSome_iff_exists.mp hrecorded with ⟨event, hevent⟩
  have hpushed : ∀ missed, Pushes missed b (bridgeStep api b deed) → ¬ missed id →
      Agrees (bridgeStep api b deed) id participant.actorId := by
    intro missed hpushes hkept
    have hout := wentOut_of_pushes hcoherent hpushes hnew hkept rfl hreader hevent
      ⟨participant, hmem, rfl⟩
    exact hout.agrees hevent rfl fun _ => rfl
  by_cases hservice : deed.isService
  · refine iff_of_true (hpushed _ (service_pushes api b hservice) not_false) ?_
    cases deed with
    | coordinate => cases hservice
    | appendEvent => cases hservice
    | _ => exact not_false
  · cases deed with
    | coordinate conversationId request clocks =>
        have hpushes := coordinate_pushes api b conversationId request clocks
        by_cases hnext : nextEvent b.chat conversationId = some id
        · refine iff_of_false ?_ (not_not_intro hnext)
          have hpublic := coordinate_echo api b conversationId request clocks hnext hnew hevent
          have hvisible : visibleTo (some participant.actorId) event := by
            rw [visibleTo, hpublic]
            rfl
          refine not_agrees_of_missed hreader hevent hvisible ?_
          rintro item hitem rfl
          rcases (hpushes.inboxes item).mp hitem with hold | ⟨other, _, hother, hnewer⟩
          · have hthere := hcoherent.mailed item hold
            rw [hnew] at hthere
            cases hthere
          · rw [eventId_of_mem_fanout hnewer] at hnext
            exact hother hnext
        · exact iff_of_true (hpushed _ hpushes hnext) hnext
    | appendEvent operationId request clock finishClock =>
        cases appendEvent_appends api hcoherent.ordered operationId request clock finishClock with
        | left hpushes hleft =>
            refine iff_of_true (hpushed _ hpushes not_false) ?_
            rintro ⟨operation, hoperation, hnext, _, _, hcompletable⟩
            exact hleft operation id hoperation hnext hrecorded hcompletable
        | finished operation next first posted hoperation hcompletable hpushes hnext hfirst
            hreply hintent hvisible hfinishes =>
            have hmember : ∃ joined ∈ posted.chat.store.listParticipants id.operation,
                joined.actorId = participant.actorId := by
              rw [← hfinishes.participants]
              exact ⟨participant, hmem, rfl⟩
            have hstrays : Strays api b participant.actorId id
                (.appendEvent operationId request clock finishClock) ↔
                  id = next ∧ (keptIntent request).isSome ∧
                    mayRead request participant.actorId := by
              constructor
              · rintro ⟨found, hfound, hhere, hkept, hreads, _⟩
                rw [hoperation] at hfound
                cases hfound
                rw [hnext] at hhere
                exact ⟨(Option.some.inj hhere).symm, hkept, hreads⟩
              · rintro ⟨rfl, hkept, hreads⟩
                exact ⟨operation, hoperation, hnext, hkept, hreads, hcompletable⟩
            have hevents := hfinishes.events id
            rw [hevent] at hevents
            rw [hstrays]
            by_cases hthis : id = next
            · subst hthis
              rw [if_pos rfl, hfirst, Option.map_some, Option.some.injEq] at hevents
              have hout := wentOut_of_pushes hcoherent hpushes hnew not_false
                hfinishes.inboxes hreader hfirst hmember
              have hsame : visibleTo (some participant.actorId) event =
                  visibleTo (some participant.actorId) first := by
                rw [hevents]
                rfl
              have hintents : event = { first with payload := { first.payload with
                  intent := keptIntent request } } := by
                rw [hevents, finished, hreply, hintent, Option.or_self, Option.or_none, ← hreply]
              by_cases hreads : mayRead request participant.actorId
              · rw [← hvisible] at hreads
                cases hkept : keptIntent request with
                | some intent =>
                    refine iff_of_false ?_ (by simp [← hvisible, hreads])
                    refine hout.not_agrees hevent (hsame.trans hreads) hreads ?_
                    intro hpayload
                    have hintent' := congrArg EventPayload.intent hpayload
                    rw [hintents, hkept, hintent] at hintent'
                    cases hintent'
                | none =>
                    refine iff_of_true ?_ (by simp)
                    apply hout.agrees hevent hsame
                    intro _
                    rw [hintents, hkept, ← hintent]
              · refine iff_of_true ?_ (fun hstrays => hreads hstrays.2.2)
                apply hout.agrees hevent hsame
                intro hsees
                rw [hvisible] at hsees
                exact absurd hsees hreads
            · rw [if_neg hthis] at hevents
              refine iff_of_true ?_ (fun hstrays => hthis hstrays.1)
              have hout := wentOut_of_pushes hcoherent hpushes hnew not_false
                hfinishes.inboxes hreader hevents.symm hmember
              exact hout.agrees hevent rfl fun _ => rfl
    | _ => exact absurd rfl hservice

/-- In every run, the two views of an event agree for a participant, once the event is
recorded and ever after, exactly when the deed that records it does not stray. -/
theorem push_iff_pull (api : ApiConfig) {s : State} (hfresh : Fresh s)
    (deeds later : List Deed) (deed : Deed) :
    let before := run (bridgeStep api) (Bridge.of s) deeds
    let recorded := bridgeStep api before deed
    ∀ id participant, before.chat.store.getEvent id = none →
      (recorded.chat.store.getEvent id).isSome →
      participant ∈ recorded.chat.store.listParticipants id.operation →
      (Agrees (run (bridgeStep api) recorded later) id participant.actorId ↔
        ¬ Strays api before participant.actorId id deed) := by
  intro before recorded id participant hnew hrecorded hmem
  have hbefore : Coherent before := reached_coherent api hfresh deeds
  have hcoherent : Coherent recorded := deed_coherent api hbefore deed
  have hreader := hcoherent.ordered.enrolled.isActor hmem
  rw [(run_settled api hcoherent later).agrees_iff hreader hrecorded]
  exact agrees_recorded api hbefore deed hnew hrecorded hmem

/-! ## Requests that are pushed and pulled -/

def openedInquiry : Deed :=
  .openConversation "room" (openingOf .inquiry inquiry_ne_general none) (fun _ => 0) fun _ => 0

def appended (request : EventRequest) : Deed :=
  .appendEvent 1 request (fun _ => 1) fun _ => 2

def aliceAsOpener : Participant := ⟨"@alice", "opener", 0⟩

def inquiryOpened : Bridge := run (bridgeStep plainApi) (Bridge.of emptyRoom) [openedInquiry]

def doneClaim : Deed := appended (requestOf "speech.claim" [("text", .str "done")])

/-- A claim reads the same either way. -/
theorem claim_agrees :
    Agrees (run (bridgeStep plainApi) (bridgeStep plainApi inquiryOpened doneClaim) [doneClaim])
      { operation := 1, index := 1 } "@alice" := by
  have hnew : inquiryOpened.chat.store.getEvent { operation := 1, index := 1 } = none := by
    decide
  have hrecorded : ((bridgeStep plainApi inquiryOpened doneClaim).chat.store.getEvent
      { operation := 1, index := 1 }).isSome := by
    decide
  have hmem : aliceAsOpener ∈
      (bridgeStep plainApi inquiryOpened doneClaim).chat.store.listParticipants 1 := by
    decide
  apply (push_iff_pull plainApi (s := emptyRoom) ⟨rfl, rfl⟩ [openedInquiry] [doneClaim] doneClaim
    { operation := 1, index := 1 } aliceAsOpener hnew hrecorded hmem).mpr
  rintro ⟨_, _, _, hkept, _⟩
  exact absurd hkept (by decide)

/-- A ratify that states an intent is pushed without it, and read with it. -/
theorem stated_intent_is_not_pushed :
    let recorded := bridgeStep plainApi inquiryOpened (appended (requestOf "speech.ratify"
      [("text", .str "yes"), ("intent", .str "close")]))
    ¬ ∀ id participant, inquiryOpened.chat.store.getEvent id = none →
      (recorded.chat.store.getEvent id).isSome →
      participant ∈ recorded.chat.store.listParticipants id.operation →
      Agrees recorded id participant.actorId := by
  intro recorded hall
  have hcoherent : Coherent inquiryOpened :=
    reached_coherent plainApi (s := emptyRoom) ⟨rfl, rfl⟩ [openedInquiry]
  have hnew : inquiryOpened.chat.store.getEvent { operation := 1, index := 1 } = none := by
    decide
  have hrecorded : (recorded.chat.store.getEvent { operation := 1, index := 1 }).isSome := by
    decide
  have hmem : aliceAsOpener ∈ recorded.chat.store.listParticipants 1 := by
    decide
  have hagrees := hall { operation := 1, index := 1 } aliceAsOpener hnew hrecorded hmem
  refine (agrees_recorded plainApi hcoherent _ hnew hrecorded hmem).mp hagrees ?_
  exact ⟨_, rfl, rfl, by decide, by decide, fun hevidence => absurd hevidence (by decide),
    fun _ => ⟨"", rfl⟩⟩

end OpsCure.Api
