/-
What is recorded: every new event of a log comes with the message that carries it, the
events that are there stay as they are, and whoever takes part in an operation is a
registered actor.
-/
import OpsCure.Histories

namespace OpsCure.Chat

open Fallible Session Table Contract V2 OperationMirror RemoteTask

/-! ## New events and their messages -/

/-- From `s` to `t` messages are added, each new event is that of a new message, and what
was there stays. -/
structure Recorded (s t : State) : Prop where
  extends_store : s.store.Extends t.store
  messages : s.messages <+: t.messages
  carried : ∀ id, (∃ message ∈ t.messages.drop s.messages.length,
      message.v2EventId = some id) ↔
    s.store.getEvent id = none ∧ (t.store.getEvent id).isSome

variable {s t after s₀ : State} {row : Conversation} {now : Time} {before store : Store}
  {config : Config} {may : Gates} {handle : String}

theorem Recorded.of_logs (hactors : s.store.actors <+: t.store.actors)
    (hlogs : ∀ id, t.store.log id = s.store.log id) (hmessages : t.messages = s.messages) :
    Recorded s t where
  extends_store := ⟨hactors, fun id => by rw [hlogs]⟩
  messages := by rw [hmessages]
  carried := by
    intro id
    have hsame : t.store.getEvent id = s.store.getEvent id := by
      rw [Store.getEvent, Store.getEvent, hlogs]
    rw [hmessages, List.drop_length, hsame]
    cases s.store.getEvent id <;> simp

theorem Recorded.refl (s : State) : Recorded s s :=
  .of_logs List.prefix_rfl (fun _ => rfl) rfl

theorem Recorded.trans {u : State} (hfirst : Recorded s t) (hlast : Recorded t u) :
    Recorded s u where
  extends_store := hfirst.extends_store.trans hlast.extends_store
  messages := hfirst.messages.trans hlast.messages
  carried := by
    intro id
    have hnew : u.messages.drop s.messages.length =
        t.messages.drop s.messages.length ++ u.messages.drop t.messages.length := by
      rcases hfirst.messages with ⟨first, hfirst⟩
      rcases hlast.messages with ⟨last, hlast⟩
      rw [← hlast, ← hfirst, List.drop_left, List.append_assoc, List.drop_left,
        ← List.append_assoc, List.drop_left]
    have hsplit : (∃ message ∈ u.messages.drop s.messages.length,
        message.v2EventId = some id) ↔
          (s.store.getEvent id = none ∧ (t.store.getEvent id).isSome) ∨
            (t.store.getEvent id = none ∧ (u.store.getEvent id).isSome) := by
      rw [← hfirst.carried, ← hlast.carried, hnew]
      simp only [List.mem_append, or_and_right, exists_or]
    rw [hsplit]
    constructor
    · rintro (⟨hnone, hsome⟩ | ⟨hnone, hsome⟩)
      · rcases Option.isSome_iff_exists.mp hsome with ⟨event, hevent⟩
        rw [hlast.extends_store.getEvent hevent]
        exact ⟨hnone, rfl⟩
      · refine ⟨?_, hsome⟩
        by_contra hold
        rcases Option.ne_none_iff_exists'.mp hold with ⟨event, hevent⟩
        rw [hfirst.extends_store.getEvent hevent] at hnone
        cases hnone
    · rintro ⟨hnone, hsome⟩
      by_cases hbetween : t.store.getEvent id = none
      · exact Or.inr ⟨hbetween, hsome⟩
      · exact Or.inl ⟨hnone, Option.isSome_iff_ne_none.mpr hbetween⟩

theorem Recorded.of_registers (hregisters : Registers s t) : Recorded s t :=
  .of_logs hregisters.actors (Store.log_congr hregisters.operations) hregisters.messages

variable {options : MirrorOptions} {eventId : Option EventId} {conversationId : Id}
  {closedBy resolution : String} {bypass : Bool} {clock : Clock} {result : Summary}
  {participant : Participant}

/-- A message is recorded with its event. -/
theorem Recorded.of_added {message : Message}
    (hadded : addMessage s row message options now = .ok (after, eventId)) :
    Recorded s after where
  extends_store := addMessage_extends hadded
  messages := by
    rcases addMessage_eq_ok.1 hadded with ⟨_, _, rfl⟩ | ⟨_, _, _, _, _, _, rfl⟩
    · exact List.prefix_append _ _
    · exact List.prefix_append _ _
  carried := by
    intro id
    have hcarried : (∃ sent ∈ after.messages.drop s.messages.length,
        sent.v2EventId = some id) ↔ eventId = some id := by
      rcases addMessage_eq_ok.1 hadded with ⟨_, rfl, rfl⟩ | ⟨_, _, _, _, _, _, rfl⟩
      · simp
      · simp
    rw [hcarried]
    constructor
    · rintro rfl
      rw [addMessage_getEvent hadded]
      refine ⟨?_, rfl⟩
      rcases addMessage_eq_ok.1 hadded with
        ⟨_, habsurd, _⟩ | ⟨operationId, operation, _, hoperation, _, hid, _⟩
      · cases habsurd
      · cases hid
        rw [Store.getEvent, Store.log_eq_of_getOperation hoperation]
        exact List.getElem?_eq_none le_rfl
    · rintro ⟨hnone, hsome⟩
      rw [Store.getEvent, addMessage_log hadded] at hsome
      have hpast : (s.store.log id.operation).length ≤ id.index :=
        List.getElem?_eq_none_iff.mp hnone
      rcases addMessage_eq_ok.1 hadded with
        ⟨hunmirrored, _, _⟩ | ⟨operationId, operation, hmirror, hoperation, _, hid, _⟩
      · rw [hunmirrored, if_neg (by simp), List.append_nil] at hsome
        rw [List.getElem?_eq_none hpast] at hsome
        cases hsome
      · by_cases hthis : operationId = id.operation
        · rw [hmirror, if_pos (congrArg some hthis), Option.isSome_iff_exists] at hsome
          rcases hsome with ⟨event, hevent⟩
          have hlt := (List.getElem?_eq_some_iff.mp hevent).1
          rw [List.length_append, List.length_singleton] at hlt
          rw [hid, Option.some.injEq]
          have hindex : operation.events.length = id.index := by
            rw [← hthis, Store.log_eq_of_getOperation hoperation] at hpast hlt
            exact Nat.le_antisymm hpast (Nat.lt_succ_iff.mp hlt)
          rw [hthis, hindex]
        · rw [hmirror, if_neg (fun hsame => hthis (Option.some.inj hsame)), List.append_nil,
            List.getElem?_eq_none hpast] at hsome
          cases hsome

/-! ## What an opening and a close record -/

theorem actors_prefix_mirrorConversationOpen (store : Store) (record : OpenRecord)
    (now : Time) : store.actors <+: (mirrorConversationOpen store record now).1.actors := by
  have hroles : ∀ (roles : List (String × String)) (known : Store),
      known.actors <+: (roles.foldl (fun known role =>
        known.ensureActorByHandle role.1 .ai) known).actors := by
    intro roles known
    have hfolded := actors_prefix_foldl_ensure (roles.map Prod.fst) known
    rw [List.foldl_map] at hfolded
    exact hfolded
  exact (store.actors_prefix_ensureActorByHandle _ _).trans (hroles _ _)

theorem log_concat {after : Store} {operation : V2.Operation}
    (hrows : after.operations = before.operations ++ [operation]) (hempty : operation.events = [])
    (id : Id) : after.log id = before.log id := by
  rw [Store.log, Store.log, Store.getOperation, Store.getOperation, hrows]
  by_cases hlt : id < before.operations.length
  · rw [List.getElem?_append_left hlt]
  · have hnone : before.operations[id]? = none := List.getElem?_eq_none (not_lt.mp hlt)
    cases hfound : (before.operations ++ [operation])[id]? with
    | none => rw [hnone]
    | some =>
        rcases getElem?_concat_eq_some hfound with hold | ⟨_, rfl⟩
        · rw [hnone] at hold
          cases hold
        · rw [hnone]
          exact hempty

theorem Recorded.of_opened (s : State) (row : Conversation) (now : Time) :
    Recorded s (addConversation s row now) := by
  rcases (addConversation_rows s row now).1 with ⟨operation, hrows, hfounded⟩
  exact .of_logs (actors_prefix_mirrorConversationOpen _ _ _)
    (log_concat hrows hfounded.events) rfl

theorem Recorded.of_governed (s : State) (row : Conversation) (policy : OperationPolicy)
    (now set : Time) : Recorded s (governed s row policy now set) := by
  rcases (governed_rows s row policy now set).1 with ⟨operation, hrows, hfounded⟩
  exact .of_logs (actors_prefix_mirrorConversationOpen _ _ now)
    (log_concat hrows hfounded.events) rfl

/-- From `s` to `t` nothing is recorded. -/
structure Quiet (s t : State) : Prop where
  actors : s.store.actors <+: t.store.actors
  logs : ∀ id, t.store.log id = s.store.log id
  messages : t.messages = s.messages

theorem closeSession_added {summary : Option String}
    (hok : closeSession config s conversationId row closedBy resolution summary bypass clock =
      .ok (result, after)) :
    ∃ shut closed message sent posted eventId, Quiet s shut ∧
      closed.v2OperationId = row.v2OperationId ∧
      addMessage shut closed message {} sent = .ok (posted, eventId) ∧ Quiet posted after := by
  simp only [closeSession, bind_eq_ok, pure_eq_ok, Prod.exists, Prod.mk.injEq] at hok
  rcases hok with ⟨store, hstore, posted, eventId, hadded, _, rfl⟩
  refine ⟨_, _, _, _, posted, eventId, ?_, rfl, hadded, ?_⟩
  · rcases mirrorClose_eq_ok.1 hstore with ⟨_, rfl⟩ | ⟨operationId, _, _, rfl⟩
    · exact ⟨List.prefix_rfl, fun _ => rfl, rfl⟩
    · refine ⟨actors_prefix_registerCloser _ closedBy, ?_, rfl⟩
      intro id
      have hkept : (closedStore s.store operationId closedBy resolution summary (clock 1)
          (clock 2)).log id = (registerCloser s.store closedBy).log id := by
        apply Store.log_modifyOperation
        exact fun _ => rfl
      exact hkept.trans (Store.log_congr (registerCloser_operations _ _) id)
  · unfold recordClose
    split
    · exact ⟨List.prefix_rfl, fun _ => rfl, rfl⟩
    · refine ⟨List.prefix_rfl, ?_, rfl⟩
      intro id
      apply Store.log_modifyOperation
      exact fun _ => rfl

theorem Recorded.of_quiet (hquiet : Quiet s t) : Recorded s t :=
  .of_logs hquiet.actors hquiet.logs hquiet.messages

theorem Recorded.of_closed {summary : Option String}
    (hok : closeSession config s conversationId row closedBy resolution summary bypass clock =
      .ok (result, after)) : Recorded s after := by
  rcases closeSession_added hok with ⟨shut, closed, message, sent, posted, eventId, hshut, _,
    hadded, hdigested⟩
  exact ((Recorded.of_quiet hshut).trans (.of_added hadded)).trans (.of_quiet hdigested)

theorem Write.recorded_or_marks (hwrite : Write config s₀ may s t) :
    Recorded s t ∨ may.rewrite ∧ ∃ store, s.store.Marks store ∧ t = { s with store := store } := by
  cases hwrite with
  | registers hregisters => exact Or.inl (.of_registers hregisters)
  | serves => exact Or.inl (.of_logs List.prefix_rfl (fun _ => rfl) rfl)
  | marks store hmarks hlogs =>
      rcases hlogs with hrewrites | hlogs
      · exact Or.inr ⟨hrewrites, store, hmarks, rfl⟩
      · left
        refine .of_logs ?_ hlogs rfl
        rw [hmarks.actors]
  | opens row now =>
      exact Or.inl (.of_opened s row now)
  | notes => exact Or.inl (.of_logs List.prefix_rfl (fun _ => rfl) rfl)
  | announces hopened hunresolved hquiet hauthor hkind haddressed hadded =>
      exact Or.inl ((Recorded.of_governed s _ _ _ _).trans (.of_added hadded))
  | posts hknown hfound hstate hmay hadded => exact Or.inl (.of_added hadded)
  | closes hfound hopen hmay hclosed => exact Or.inl (.of_closed hclosed)

theorem Write.recorded (hkeeps : ¬ may.rewrite) (hwrite : Write config s₀ may s t) :
    Recorded s t :=
  hwrite.recorded_or_marks.resolve_right fun hmarks => hkeeps hmarks.1

theorem Write.lengthens (hwrite : Write config s₀ may s t) :
    s.store.actors <+: t.store.actors ∧ s.messages <+: t.messages := by
  rcases hwrite.recorded_or_marks with hrecorded | ⟨_, store, hmarks, rfl⟩
  · exact ⟨hrecorded.extends_store.actors, hrecorded.messages⟩
  · exact ⟨hmarks.actors.symm ▸ List.prefix_rfl, List.prefix_rfl⟩

theorem Writes.recorded (hwrites : Writes config s₀ may s t) (hkeeps : ¬ may.rewrite) :
    Recorded s t := by
  apply hwrites.keeps (P := Recorded s) (.refl s)
  intro u v hu hwrite
  exact hu.trans (hwrite.recorded hkeeps)

/-! ## Who takes part is registered -/

structure IsActor (store : Store) (handle : String) : Prop where
  normal : normalizeHandle (some handle) = some handle
  known : (store.getActorByHandle handle).isSome

/-- Whoever takes part in an operation is a registered actor. -/
def Enrolled (store : Store) : Prop :=
  ∀ id row participant, store.getOperation id = some row → participant ∈ row.participants →
    IsActor store participant.actorId

theorem IsActor.later {after : Store} (hactor : IsActor before handle)
    (hactors : before.actors <+: after.actors) :
    IsActor after handle where
  normal := hactor.normal
  known := by
    rcases Option.isSome_iff_exists.mp hactor.known with ⟨actor, hknown⟩
    rw [Store.getActorByHandle_of_prefix hactors hknown]
    rfl

theorem Enrolled.isActor (henrolled : Enrolled store) {operationId : Id}
    (hmem : participant ∈ store.listParticipants operationId) :
    IsActor store participant.actorId := by
  cases hoperation : store.getOperation operationId with
  | none =>
      rw [Store.listParticipants, hoperation] at hmem
      cases hmem
  | some operation =>
      rw [Store.listParticipants, hoperation] at hmem
      exact henrolled operationId operation participant hoperation hmem

theorem normalizeHandle_withAt (handle : String) :
    normalizeHandle (some (withAt handle)) = some (withAt handle) := by
  have hhead := head?_withAt handle
  have hne : withAt handle ≠ "" := by
    intro hempty
    rw [hempty] at hhead
    cases hhead
  simp [normalizeHandle, hne, withAt_withAt]

theorem normalizeHandle_normal {actor : Option String}
    (hhandle : normalizeHandle actor = some handle) :
    normalizeHandle (some handle) = some handle := by
  rcases Option.map_eq_some_iff.mp hhandle with ⟨name, _, rfl⟩
  exact normalizeHandle_withAt name

theorem normalizeHandle_handleOrSystem (actor : Option String) :
    normalizeHandle (some (handleOrSystem actor)) = some (handleOrSystem actor) := by
  unfold handleOrSystem
  cases hactor : normalizeHandle actor with
  | none => exact normalizeHandle_withAt "@system"
  | some => exact normalizeHandle_normal hactor

theorem isSome_foldl_ensure {handles : List String} (hmem : handle ∈ handles) (store : Store) :
    ((handles.foldl (fun known handle => known.ensureActorByHandle handle .ai)
      store).getActorByHandle handle).isSome := by
  induction handles generalizing store with
  | nil => cases hmem
  | cons first handles ih =>
      rw [List.foldl_cons]
      rcases List.mem_cons.mp hmem with rfl | hlater
      · have hfirst := store.isSome_getActorByHandle_ensure handle .ai
        rcases Option.isSome_iff_exists.mp hfirst with ⟨actor, hactor⟩
        rw [Store.getActorByHandle_of_prefix (actors_prefix_foldl_ensure handles _) hactor]
        rfl
      · exact ih hlater _

theorem isActor_joined {participants : List Participant} {record : MessageRecord}
    (hold : ∀ old ∈ participants, IsActor (registerActors store record) old.actorId)
    (hmem : participant ∈ joinParticipants participants record now) :
    IsActor (registerActors store record) participant.actorId := by
  rcases mem_joinParticipants hmem with hbefore | ⟨haddressed, _⟩ | ⟨hspeaker, _⟩
  · exact hold participant hbefore
  · constructor
    · simp only [addressedHandles, List.mem_eraseDups, List.mem_filterMap] at haddressed
      rcases haddressed with ⟨_, _, hhandle⟩
      exact normalizeHandle_normal hhandle
    · exact isSome_foldl_ensure (List.mem_append_left _ haddressed) _
  · rw [hspeaker]
    exact ⟨normalizeHandle_handleOrSystem _, isSome_speaker_registerActors store record⟩

theorem Enrolled.of_rows {after : Store} (henrolled : Enrolled before)
    (hactors : before.actors <+: after.actors)
    (hrows : ∀ id row, after.getOperation id = some row →
      ∃ old, before.getOperation id = some old ∧ row.participants = old.participants) :
    Enrolled after := by
  intro id row participant hrow hmem
  rcases hrows id row hrow with ⟨old, hold, hsame⟩
  rw [hsame] at hmem
  exact (henrolled id old participant hold hmem).later hactors

theorem Enrolled.of_added {message : Message} (henrolled : Enrolled s.store)
    (hadded : addMessage s row message options now = .ok (after, eventId)) :
    Enrolled after.store := by
  have hactors := (addMessage_extends hadded).actors
  intro id operation participant hoperation hmem
  rcases addMessage_operation hadded hoperation with
    ⟨_, hsame⟩ | ⟨hmirror, before, hbefore, rfl⟩
  · exact (henrolled id operation participant hsame hmem).later hactors
  · rcases addMessage_eq_ok.1 hadded with ⟨hnone, _⟩ | ⟨_, _, _, _, _, _, rfl⟩
    · rw [hnone] at hmirror
      cases hmirror
    · have hjoined := isActor_joined
        (fun old hold => (henrolled id before old hbefore hold).later hactors) hmem
      exact ⟨hjoined.normal, hjoined.known⟩

theorem isActor_opened {record : OpenRecord} {role : String × String}
    (hrole : role ∈ openingParticipants record) :
    IsActor (mirrorConversationOpen store record now).1 role.1 := by
  constructor
  · simp only [openingParticipants, List.mem_append, List.mem_singleton, Option.mem_toList,
      Option.map_eq_some_iff, Option.filter_eq_some_iff] at hrole
    rcases hrole with (rfl | ⟨handle, ⟨hhandle, _⟩, rfl⟩) | ⟨handle, ⟨hhandle, _⟩, rfl⟩
    · exact normalizeHandle_handleOrSystem _
    · exact normalizeHandle_normal hhandle
    · exact normalizeHandle_normal hhandle
  · have hensured := isSome_foldl_ensure (List.mem_map_of_mem (f := Prod.fst) hrole)
      (store.ensureActorByHandle (handleOrSystem (some record.openerActor))
        (if handleOrSystem (some record.openerActor) = "@system" then .human else .ai))
    rw [List.foldl_map] at hensured
    exact hensured

theorem Enrolled.of_founded (henrolled : Enrolled s.store) {after : Store}
    {policy : Option OperationPolicy} {operation : V2.Operation}
    (hactors : after.actors = (addConversation s row now).store.actors)
    (hrows : after.operations = s.store.operations ++ [operation])
    (hfounded : Founded s.conversations.length row policy now operation) : Enrolled after := by
  intro id found participant hfound hmem
  rw [Store.getOperation, hrows] at hfound
  have hopened : (addConversation s row now).store.actors <+: after.actors := by
    rw [hactors]
  rcases getElem?_concat_eq_some hfound with hold | ⟨_, rfl⟩
  · exact ((henrolled id found participant hold hmem).later
      (actors_prefix_mirrorConversationOpen _ _ now)).later hopened
  · rw [hfounded.participants] at hmem
    rcases List.mem_map.mp hmem with ⟨role, hrole, rfl⟩
    have hfounder : IsActor (addConversation s row now).store role.1 := isActor_opened hrole
    exact hfounder.later hopened

theorem Enrolled.of_closed {summary : Option String} (henrolled : Enrolled s.store)
    (hok : closeSession config s conversationId row closedBy resolution summary bypass clock =
      .ok (result, after)) : Enrolled after.store := by
  simp only [closeSession, bind_eq_ok, pure_eq_ok, Prod.exists, Prod.mk.injEq] at hok
  rcases hok with ⟨store, hstore, posted, eventId, hadded, _, rfl⟩
  have hclosed : Enrolled store := by
    apply henrolled.of_rows
    · rcases mirrorClose_eq_ok.1 hstore with ⟨_, rfl⟩ | ⟨operationId, _, _, rfl⟩
      · exact List.prefix_rfl
      · exact actors_prefix_registerCloser _ closedBy
    · intro id found hfound
      rcases mirrorClose_operation hstore hfound with ⟨_, hsame⟩ | ⟨_, before, hbefore, rfl⟩
      · exact ⟨found, hsame, rfl⟩
      · exact ⟨before, hbefore, rfl⟩
  have hposted : Enrolled posted.store := Enrolled.of_added hclosed hadded
  have hmarks := marks_recordClose config posted eventId
  apply hposted.of_rows
  · rw [hmarks.actors]
  · intro id found hfound
    rcases hmarks.unmarked hfound with ⟨before, hbefore, hremains⟩
    exact ⟨before, hbefore, hremains.participants⟩

theorem Write.enrolled (hwrite : Write config s₀ may s t) (henrolled : Enrolled s.store) :
    Enrolled t.store := by
  cases hwrite with
  | registers hregisters =>
      apply henrolled.of_rows hregisters.actors
      intro id row hrow
      rw [hregisters.getOperation] at hrow
      exact ⟨row, hrow, rfl⟩
  | serves => exact henrolled
  | marks store hmarks =>
      apply henrolled.of_rows
      · rw [hmarks.actors]
      · intro id row hrow
        rcases hmarks.unmarked hrow with ⟨before, hbefore, hremains⟩
        exact ⟨before, hbefore, hremains.participants⟩
  | opens row now =>
      rcases (addConversation_rows s row now).1 with ⟨operation, hrows, hfounded⟩
      exact henrolled.of_founded rfl hrows hfounded
  | notes => exact henrolled
  | announces hopened hunresolved hquiet hauthor hkind haddressed hadded =>
      rename_i row policy now set message options sent eventId
      rcases (governed_rows s row policy now set).1 with ⟨operation, hrows, hfounded⟩
      have hgoverned : Enrolled (governed s row policy now set).store :=
        henrolled.of_founded rfl hrows hfounded
      exact hgoverned.of_added hadded
  | posts hknown hfound hstate hmay hadded => exact henrolled.of_added hadded
  | closes hfound hopen hmay hclosed => exact henrolled.of_closed hclosed

end OpsCure.Chat
