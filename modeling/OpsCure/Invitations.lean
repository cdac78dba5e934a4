/-
Who lets whom into an operation that is `invite_only`.  The join gate looks at `invite`
and `join` only; every other message makes its author a participant.
-/
import OpsCure.Histories

namespace OpsCure

open Run Contract V2 OperationMirror Api

/-! ## Who joins with a message -/

namespace PolicyEngine

variable {participants : List Participant}

theorem isParticipant_iff {actorId : String} :
    isParticipant participants actorId ↔
      ∃ participant ∈ participants, participant.actorId = actorId := by
  simp [isParticipant]

theorem isParticipant_of_prefix {joined : List Participant} {actorId : String}
    (hjoined : participants <+: joined) (hmem : isParticipant participants actorId) :
    isParticipant joined actorId := by
  rcases isParticipant_iff.1 hmem with ⟨participant, hin, hthis⟩
  exact isParticipant_iff.2 ⟨participant, hjoined.subset hin, hthis⟩

theorem isParticipant_joinAs (joinedAt : Time) (role : String)
    (participants : List Participant) (actorId : String) :
    isParticipant (joinAs joinedAt role participants actorId) actorId := by
  by_cases hin : isParticipant participants actorId
  · exact isParticipant_of_prefix (prefix_joinAs _ _ _ _) hin
  · have hany : participants.any (·.actorId = actorId) = false := Bool.eq_false_iff.mpr hin
    rw [joinAs, hany]
    exact isParticipant_iff.2 ⟨_, List.mem_append_right _ List.mem_cons_self, rfl⟩

theorem isParticipant_foldl_joinAs (joinedAt : Time) (role : String) {actorIds : List String}
    {actorId : String} (hmem : actorId ∈ actorIds) (participants : List Participant) :
    isParticipant (actorIds.foldl (joinAs joinedAt role) participants) actorId := by
  induction actorIds generalizing participants with
  | nil => cases hmem
  | cons first actorIds ih =>
      rw [List.foldl_cons]
      rcases List.mem_cons.mp hmem with rfl | hlater
      · exact isParticipant_of_prefix (prefix_foldl_joinAs _ _ _ _)
          (isParticipant_joinAs _ _ _ _)
      · exact ih hlater _

theorem isParticipant_joinParticipants {record : MessageRecord} {now : Time} {actorId : String} :
    isParticipant (joinParticipants participants record now) actorId ↔
      isParticipant participants actorId ∨ actorId ∈ addressedHandles record ∨
        actorId = handleOrSystem (some record.actorName) := by
  constructor
  · intro hmem
    rcases isParticipant_iff.1 hmem with ⟨participant, hin, rfl⟩
    rcases mem_joinParticipants hin with hold | haddressed | hspeaker
    · exact Or.inl (isParticipant_iff.2 ⟨participant, hold, rfl⟩)
    · exact Or.inr (Or.inl haddressed.1)
    · exact Or.inr (Or.inr hspeaker.1)
  · rintro (hold | haddressed | rfl)
    · exact isParticipant_of_prefix (prefix_joinParticipants _ _ _) hold
    · exact isParticipant_of_prefix (prefix_joinAs _ _ _ _)
        (isParticipant_foldl_joinAs _ _ haddressed _)
    · exact isParticipant_joinAs _ _ _ _

end PolicyEngine

namespace Chat

open PolicyEngine

/-! ## How an actor came to take part -/

def AddressedAtOpen (operation : V2.Operation) (actorId : String) : Prop :=
  ∃ opened ∈ operation.events.head?, opened.kind = eventConversationOpened ∧
    actorId ∈ opened.addressedToActorIds

def Founding (operation : V2.Operation) (actorId : String) : Prop :=
  (∃ participant ∈ operation.participants, participant.actorId = actorId ∧
    participant.role ∈ ["opener", "owner"]) ∨ AddressedAtOpen operation actorId

/-- The actor took part when the log had `count` events: it was there from the start, or
one of them is its own or addresses it. -/
def Seated (operation : V2.Operation) (count : Nat) (actorId : String) : Prop :=
  Founding operation actorId ∨ ∃ event ∈ operation.events.take count,
    event.actorId = actorId ∨ actorId ∈ event.addressedToActorIds

/-- The actor became a participant through an event that addresses it and whose author
took part already. -/
def Invited (operation : V2.Operation) (actorId : String) : Prop :=
  ∃ row ∈ operation.events.zipIdx, actorId ∈ row.1.addressedToActorIds ∧
    ¬ Seated operation row.2 actorId ∧ Seated operation row.2 row.1.actorId

/-- Every participant was there from the start, or was let in by one. -/
def Vouched (operation : V2.Operation) : Prop :=
  ∀ participant ∈ operation.participants,
    Founding operation participant.actorId ∨ Invited operation participant.actorId

section Decide

variable (operation : V2.Operation) (actorId : String)

instance : Decidable (AddressedAtOpen operation actorId) :=
  inferInstanceAs (Decidable (∃ opened ∈ operation.events.head?, _ ∧ _))

instance : Decidable (Founding operation actorId) :=
  inferInstanceAs (Decidable (_ ∨ _))

instance (count : Nat) : Decidable (Seated operation count actorId) :=
  inferInstanceAs (Decidable (_ ∨ _))

instance : Decidable (Invited operation actorId) :=
  inferInstanceAs (Decidable (∃ row ∈ operation.events.zipIdx, _))

instance : Decidable (Vouched operation) :=
  inferInstanceAs (Decidable (∀ participant ∈ operation.participants, _))

end Decide

/-! ## Marks change none of this -/

/-- The same participants, and the same log as far as authors, kinds and addressees go. -/
structure SameSaid (row marked : V2.Operation) : Prop where
  participants : marked.participants = row.participants
  said : marked.events.map Event.said = row.events.map Event.said

theorem SameSaid.symm {row marked : V2.Operation} (hsame : SameSaid row marked) :
    SameSaid marked row :=
  ⟨hsame.participants.symm, hsame.said.symm⟩

theorem SameSaid.of_remains {row marked : V2.Operation} (hremains : row.Remains marked) :
    SameSaid row marked :=
  ⟨hremains.participants, hremains.said⟩

section Marks

variable {row marked : V2.Operation} {actorId : String} {count : Nat}

theorem said_eq {event other : Event} (hsaid : event.said = other.said) :
    event.actorId = other.actorId ∧ event.kind = other.kind ∧
      event.addressedToActorIds = other.addressedToActorIds := by
  simpa [Event.said] using hsaid

theorem mem_of_map_said {events others : List Event}
    (hsaid : events.map Event.said = others.map Event.said) {event : Event}
    (hevent : event ∈ events) : ∃ other ∈ others, other.said = event.said := by
  have hmem : event.said ∈ others.map Event.said := hsaid ▸ List.mem_map_of_mem hevent
  exact List.mem_map.mp hmem

theorem Founding.congr (hsame : SameSaid row marked) (hfounding : Founding row actorId) :
    Founding marked actorId := by
  rcases hfounding with hrole | ⟨opened, hopened, hkind, haddressed⟩
  · left
    rw [hsame.participants]
    exact hrole
  · right
    have hhead : marked.events.head?.map Event.said = row.events.head?.map Event.said := by
      rw [← List.head?_map, ← List.head?_map, hsame.said]
    rw [Option.mem_def.mp hopened] at hhead
    rcases Option.map_eq_some_iff.mp hhead with ⟨found, hfound, hsaid⟩
    rcases said_eq hsaid with ⟨_, hkind', haddressed'⟩
    refine ⟨found, hfound, hkind'.trans hkind, ?_⟩
    rw [haddressed']
    exact haddressed

theorem Seated.congr (hsame : SameSaid row marked) (hseated : Seated row count actorId) :
    Seated marked count actorId := by
  rcases hseated with hfounding | ⟨event, hevent, hnames⟩
  · exact Or.inl (hfounding.congr hsame)
  · right
    have htake : (row.events.take count).map Event.said =
        (marked.events.take count).map Event.said := by
      rw [List.map_take, List.map_take, hsame.said]
    rcases mem_of_map_said htake hevent with ⟨found, hfound, hsaid⟩
    rcases said_eq hsaid with ⟨hauthor, _, haddressed⟩
    refine ⟨found, hfound, ?_⟩
    rw [hauthor, haddressed]
    exact hnames

theorem Invited.congr (hsame : SameSaid row marked) (hinvited : Invited row actorId) :
    Invited marked actorId := by
  rcases hinvited with ⟨⟨event, place⟩, hrow, haddressed, hnew, hauthor⟩
  have hevent : row.events[place]? = some event := List.mem_zipIdx_iff_getElem?.mp hrow
  have hplace : (marked.events.map Event.said)[place]? = some event.said := by
    rw [hsame.said, List.getElem?_map, hevent]
    rfl
  rw [List.getElem?_map] at hplace
  rcases Option.map_eq_some_iff.mp hplace with ⟨found, hfound, hsaid⟩
  rcases said_eq hsaid with ⟨hauthor', _, haddressed'⟩
  refine ⟨(found, place), List.mem_zipIdx_iff_getElem?.mpr hfound, ?_, ?_, ?_⟩
  · rw [haddressed']
    exact haddressed
  · intro hseated
    exact hnew (hseated.congr hsame.symm)
  · rw [hauthor']
    exact hauthor.congr hsame

theorem Vouched.congr (hsame : SameSaid row marked) (hvouched : Vouched row) :
    Vouched marked := by
  intro participant hparticipant
  rw [hsame.participants] at hparticipant
  rcases hvouched participant hparticipant with hfounding | hinvited
  · exact Or.inl (hfounding.congr hsame)
  · exact Or.inr (hinvited.congr hsame)

end Marks

/-! ## One more message -/

section Message

variable {row : V2.Operation} {record : MessageRecord} {now : Time} {actorId : String}
  {count : Nat}

theorem Founding.rowAfter (hfounding : Founding row actorId) (record : MessageRecord)
    (now : Time) : Founding (OperationMirror.rowAfter row record now) actorId := by
  rcases hfounding with ⟨participant, hin, hrole⟩ | ⟨opened, hopened, hthis⟩
  · exact Or.inl ⟨participant, (prefix_joinParticipants _ _ _).subset hin, hrole⟩
  · right
    refine ⟨opened, ?_, hthis⟩
    change opened ∈ (row.events ++ [eventOf record now]).head?
    rw [List.head?_append, Option.mem_def.mp hopened]
    rfl

theorem Founding.of_rowAfter (hopened : row.events ≠ [])
    (hfounding : Founding (OperationMirror.rowAfter row record now) actorId) :
    Founding row actorId := by
  rcases hfounding with ⟨participant, hin, hthis, hrole⟩ | ⟨opened, hhead, hthis⟩
  · rcases mem_joinParticipants hin with hold | ⟨_, hlate⟩ | ⟨_, hlate⟩
    · exact Or.inl ⟨participant, hold, hthis, hrole⟩
    · rw [hlate] at hrole
      exact absurd hrole (by decide)
    · rw [hlate] at hrole
      exact absurd hrole (by decide)
  · right
    refine ⟨opened, ?_, hthis⟩
    change opened ∈ (row.events ++ [eventOf record now]).head? at hhead
    rw [List.head?_append_of_ne_nil _ hopened] at hhead
    exact hhead

theorem Seated.rowAfter (hseated : Seated row count actorId) (record : MessageRecord)
    (now : Time) : Seated (OperationMirror.rowAfter row record now) count actorId := by
  rcases hseated with hfounding | ⟨event, hevent, hnames⟩
  · exact Or.inl (hfounding.rowAfter record now)
  · right
    refine ⟨event, ?_, hnames⟩
    change event ∈ (row.events ++ [eventOf record now]).take count
    rw [List.take_append]
    exact List.mem_append_left _ hevent

theorem Seated.of_rowAfter (hopened : row.events ≠ []) (hcount : count ≤ row.events.length)
    (hseated : Seated (OperationMirror.rowAfter row record now) count actorId) :
    Seated row count actorId := by
  rcases hseated with hfounding | ⟨event, hevent, hnames⟩
  · exact Or.inl (hfounding.of_rowAfter hopened)
  · right
    refine ⟨event, ?_, hnames⟩
    change event ∈ (row.events ++ [eventOf record now]).take count at hevent
    rw [List.take_append_of_le_length hcount] at hevent
    exact hevent

theorem Invited.rowAfter (hopened : row.events ≠ []) (hinvited : Invited row actorId)
    (record : MessageRecord) (now : Time) :
    Invited (OperationMirror.rowAfter row record now) actorId := by
  rcases hinvited with ⟨⟨event, place⟩, hrow, haddressed, hnew, hauthor⟩
  have hevent : row.events[place]? = some event := List.mem_zipIdx_iff_getElem?.mp hrow
  have hlt : place < row.events.length := (List.getElem?_eq_some_iff.mp hevent).1
  refine ⟨(event, place), ?_, haddressed, ?_, hauthor.rowAfter record now⟩
  · apply List.mem_zipIdx_iff_getElem?.mpr
    change (row.events ++ [eventOf record now])[place]? = some event
    rw [List.getElem?_append_left hlt]
    exact hevent
  · intro hseated
    exact hnew (hseated.of_rowAfter hopened hlt.le)

/-- An operation whose log tells who takes part. -/
structure Attended (operation : V2.Operation) : Prop where
  opened : operation.events ≠ []
  seated : ∀ actorId, isParticipant operation.participants actorId ↔
    Seated operation operation.events.length actorId

theorem Attended.congr {marked : V2.Operation} (hsame : SameSaid row marked)
    (hattended : Attended row) : Attended marked := by
  have hlength : marked.events.length = row.events.length := by
    have hmap := congrArg List.length hsame.said
    simpa using hmap
  constructor
  · intro hnone
    apply hattended.opened
    rw [hnone] at hlength
    exact List.length_eq_zero_iff.mp hlength.symm
  · intro actorId
    rw [hsame.participants, hattended.seated, hlength]
    exact ⟨fun hseated => hseated.congr hsame, fun hseated => hseated.congr hsame.symm⟩

theorem seated_rowAfter (hopened : row.events ≠ []) :
    Seated (OperationMirror.rowAfter row record now) (row.events.length + 1) actorId ↔
      Seated row row.events.length actorId ∨ actorId ∈ addressedHandles record ∨
        actorId = handleOrSystem (some record.actorName) := by
  have htake : (OperationMirror.rowAfter row record now).events.take (row.events.length + 1) =
      row.events ++ [eventOf record now] := by
    apply List.take_of_length_le
    exact List.length_append.le
  constructor
  · rintro (hfounding | ⟨event, hevent, hnames⟩)
    · exact Or.inl (Or.inl (hfounding.of_rowAfter hopened))
    · rw [htake] at hevent
      rcases List.mem_append.mp hevent with hold | hlast
      · left
        right
        refine ⟨event, ?_, hnames⟩
        rw [List.take_length]
        exact hold
      · rw [List.mem_singleton.mp hlast] at hnames
        rcases hnames with hauthor | haddressed
        · exact Or.inr (Or.inr hauthor.symm)
        · exact Or.inr (Or.inl haddressed)
  · have hlast : eventOf record now ∈
        (OperationMirror.rowAfter row record now).events.take (row.events.length + 1) := by
      rw [htake]
      exact List.mem_append_right _ List.mem_cons_self
    rintro (hseated | haddressed | hauthor)
    · rcases hseated.rowAfter record now with hfounding | ⟨event, hevent, hnames⟩
      · exact Or.inl hfounding
      · exact Or.inr ⟨event, List.take_subset_take_left _ (Nat.le_succ _) hevent, hnames⟩
    · exact Or.inr ⟨_, hlast, Or.inr haddressed⟩
    · exact Or.inr ⟨_, hlast, Or.inl hauthor.symm⟩

theorem Attended.rowAfter (hattended : Attended row) (record : MessageRecord) (now : Time) :
    Attended (OperationMirror.rowAfter row record now) := by
  have hlength : (OperationMirror.rowAfter row record now).events.length =
      row.events.length + 1 := List.length_append
  constructor
  · exact List.append_ne_nil_of_left_ne_nil hattended.opened _
  · intro actorId
    rw [hlength, seated_rowAfter hattended.opened, ← hattended.seated]
    exact isParticipant_joinParticipants

theorem Vouched.rowAfter (hattended : Attended row) (hvouched : Vouched row)
    (hauthor : isParticipant row.participants (handleOrSystem (some record.actorName))) :
    Vouched (OperationMirror.rowAfter row record now) := by
  intro participant hparticipant
  by_cases hold : isParticipant row.participants participant.actorId
  · rcases isParticipant_iff.1 hold with ⟨known, hknown, hthis⟩
    rw [← hthis]
    rcases hvouched known hknown with hfounding | hinvited
    · exact Or.inl (hfounding.rowAfter record now)
    · exact Or.inr (hinvited.rowAfter hattended.opened record now)
  · right
    refine ⟨(eventOf record now, row.events.length), ?_, ?_, ?_, ?_⟩
    · apply List.mem_zipIdx_iff_getElem?.mpr
      exact List.getElem?_concat_length
    · rcases mem_joinParticipants hparticipant with hin | haddressed | ⟨hspeaker, _⟩
      · exact absurd (isParticipant_iff.2 ⟨participant, hin, rfl⟩) hold
      · exact haddressed.1
      · rw [← hspeaker] at hauthor
        exact absurd hauthor hold
    · intro hseated
      exact hold ((hattended.seated _).mpr (hseated.of_rowAfter hattended.opened le_rfl))
    · exact ((hattended.seated _).mp hauthor).rowAfter record now

end Message

/-! ## An operation as it is announced -/

theorem mem_founders {row : Conversation} {now : Time} {participant : Participant}
    (hmem : participant ∈ founders row now) :
    participant.role ∈ ["opener", "owner"] ∨
      some participant.actorId = normalizeHandle row.expectedSpeaker := by
  simp only [founders, List.mem_map] at hmem
  rcases hmem with ⟨role, hrole, rfl⟩
  simp only [openingParticipants, List.mem_append, List.mem_singleton, Option.mem_toList,
    Option.map_eq_some_iff, Option.filter_eq_some_iff] at hrole
  rcases hrole with (rfl | ⟨handle, _, rfl⟩) | ⟨handle, ⟨hhandle, _⟩, rfl⟩
  · exact Or.inl (by simp)
  · exact Or.inl (by simp)
  · exact Or.inr hhandle.symm

theorem opener_founds (row : Conversation) (now : Time) :
    ∃ participant ∈ founders row now,
      participant.actorId = handleOrSystem (some row.openerActor) ∧
        participant.role = "opener" := by
  refine ⟨⟨handleOrSystem (some row.openerActor), "opener", now⟩, ?_, rfl, rfl⟩
  apply List.mem_map.mpr
  exact ⟨(handleOrSystem (some row.openerActor), "opener"), List.mem_cons_self, rfl⟩

section Announced

variable {id : Id} {row : Conversation} {policy : OperationPolicy} {now sent : Time}
  {before : V2.Operation} {record : MessageRecord}

theorem founding_announced (hfounded : Founded id row (some policy) now before)
    (hauthor : record.actorName = row.openerActor)
    (hkind : record.eventKind = eventConversationOpened)
    (haddressed : record.addressedTo = row.expectedSpeaker)
    {participant : Participant}
    (hparticipant : participant ∈ (rowAfter before record sent).participants) :
    Founding (rowAfter before record sent) participant.actorId := by
  have hevents : (rowAfter before record sent).events = [eventOf record sent] := by
    rw [rowAfter, hfounded.events]
    rfl
  have hopen : ∀ actorId ∈ addressedHandles record,
      Founding (rowAfter before record sent) actorId := by
    intro actorId hin
    right
    refine ⟨eventOf record sent, ?_, hkind, hin⟩
    rw [hevents]
    rfl
  have hjoined : participant ∈ joinParticipants (founders row now) record sent := by
    rw [← hfounded.participants]
    exact hparticipant
  rcases mem_joinParticipants hjoined with hfounder | hin | ⟨hspeaker, _⟩
  · rcases mem_founders hfounder with hrole | hexpected
    · exact Or.inl ⟨participant, hparticipant, rfl, hrole⟩
    · apply hopen
      rw [addressedHandles, List.mem_eraseDups, haddressed]
      exact List.mem_filterMap.mpr ⟨_, List.mem_cons_self, hexpected.symm⟩
  · exact hopen _ hin.1
  · left
    rcases opener_founds row now with ⟨opener, hin, hthis, hrole⟩
    refine ⟨opener, ?_, ?_, ?_⟩
    · change opener ∈ joinParticipants before.participants record sent
      rw [hfounded.participants]
      exact (prefix_joinParticipants _ _ _).subset hin
    · rw [hthis, hspeaker, hauthor]
    · rw [hrole]
      exact List.mem_cons_self

theorem attended_announced (hfounded : Founded id row (some policy) now before)
    (hauthor : record.actorName = row.openerActor)
    (hkind : record.eventKind = eventConversationOpened)
    (haddressed : record.addressedTo = row.expectedSpeaker) :
    Attended (rowAfter before record sent) := by
  have hevents : (rowAfter before record sent).events = [eventOf record sent] := by
    rw [rowAfter, hfounded.events]
    rfl
  constructor
  · rw [hevents]
    exact List.cons_ne_nil _ _
  · intro actorId
    constructor
    · intro hmem
      rcases isParticipant_iff.1 hmem with ⟨participant, hin, rfl⟩
      exact Or.inl (founding_announced hfounded hauthor hkind haddressed hin)
    · have hnamed : ∀ event ∈ (rowAfter before record sent).events,
          event.actorId = actorId ∨ actorId ∈ event.addressedToActorIds →
          isParticipant (rowAfter before record sent).participants actorId := by
        intro event hevent hnames
        rw [hevents] at hevent
        rw [List.mem_singleton.mp hevent] at hnames
        apply isParticipant_joinParticipants.2
        rcases hnames with hauthored | hin
        · exact Or.inr (Or.inr hauthored.symm)
        · exact Or.inr (Or.inl hin)
      rintro ((⟨participant, hin, hthis, _⟩ | ⟨opened, hopened, _, hin⟩) |
        ⟨event, hevent, hnames⟩)
      · exact isParticipant_iff.2 ⟨participant, hin, hthis⟩
      · exact hnamed opened (List.mem_of_mem_head? hopened) (Or.inr hin)
      · exact hnamed event (List.mem_of_mem_take hevent) hnames

end Announced

/-! ## Runs -/

/-- What a run keeps of an operation with a policy of its own: its log tells who takes
part, and under `invite_only` they are vouched for. -/
def Guarded (operation : V2.Operation) : Prop :=
  operation.policy ≠ none → Attended operation ∧
    (operation.operationPolicy.joinPolicy = .inviteOnly → Vouched operation)

/-- Whatever an act posts into an operation that is `invite_only` is by a participant. -/
def PostsAsParticipant (api : ApiConfig) (s : State) (act : Act) : Prop :=
  ∀ (conversationId : Id) (author : String),
    (∃ kind, (act.gates api s).post conversationId author kind) ∨
      (act.gates api s).close conversationId author →
    ∀ (row : Conversation) (operationId : Id) (operation : V2.Operation),
      s.conversations[conversationId]? = some row → row.v2OperationId = some operationId →
      s.store.getOperation operationId = some operation →
      operation.operationPolicy.joinPolicy = .inviteOnly →
      isParticipant operation.participants (handleOrSystem (some author))

theorem guarded_wrote {api : ApiConfig} {t u : State} {act : Act} {id : Id}
    {row : Conversation} {after : V2.Operation} (hmirrored : Mirrored t)
    (hposts : PostsAsParticipant api t act) (hdescends : Descends t u)
    (hbefore : ∀ old before, Mirror u id old before → Guarded before)
    (hwrote : Wrote t (act.gates api t) u id row after) : Guarded after := by
  -- who took part when the act began still does
  have hmember : ∀ (row₀ old : Conversation) (before : V2.Operation) (author : String),
      t.conversations[id]? = some row₀ → Mirror u id old before →
      before.operationPolicy.joinPolicy = .inviteOnly →
      ((∃ kind, (act.gates api t).post id author kind) ∨ (act.gates api t).close id author) →
      isParticipant before.participants (handleOrSystem (some author)) := by
    intro row₀ old before author hrow hmirror hpolicy hmay
    rcases hmirrored.mirror (List.getElem?_eq_some_iff.mp hrow).1 with
      ⟨found, operation, hfound⟩
    rcases hdescends id found operation hfound with ⟨_, between, hbetween, hgrown⟩
    have hthis : between = before :=
      Option.some.inj (hbetween.operation.symm.trans hmirror.operation)
    rw [hthis] at hgrown
    have hpolicy' : operation.operationPolicy.joinPolicy = .inviteOnly := by
      rw [V2.Operation.operationPolicy, ← hgrown.policy]
      exact hpolicy
    exact isParticipant_of_prefix hgrown.participants (hposts id author hmay found id operation
      hfound.conversation (hmirrored.linked id found hfound.conversation) hfound.operation
      hpolicy')
  intro hown
  cases hwrote with
  | kept old before hmirror hsame hturn hremains =>
      rw [hremains.policy] at hown
      rcases hbefore old before hmirror hown with ⟨hattended, hvouched⟩
      refine ⟨hattended.congr (.of_remains hremains), ?_⟩
      intro hpolicy
      rw [V2.Operation.operationPolicy, hremains.policy] at hpolicy
      exact (hvouched hpolicy).congr (.of_remains hremains)
  | founded now hid hopened hunresolved hunowned hunaddressed hquiet hfounded =>
      exact absurd hfounded.policy hown
  | announced policy now before record sent hid hopened hunresolved hquiet hfounded hauthor
      hkind haddressed hafter =>
      rw [hafter]
      refine ⟨attended_announced hfounded hauthor hkind haddressed, ?_⟩
      intro _ participant hparticipant
      exact Or.inl (founding_announced hfounded hauthor hkind haddressed hparticipant)
  | said before row₀ record now hmirror hknown hstate hmay hafter =>
      subst hafter
      rcases hbefore row before hmirror hown with ⟨hattended, hvouched⟩
      refine ⟨hattended.rowAfter record now, ?_⟩
      intro hpolicy
      exact (hvouched hpolicy).rowAfter hattended
        (hmember row₀ row before _ hknown hmirror hpolicy (Or.inl ⟨_, hmay⟩))
  | closed old before record now closedBy resolution summary closedAt operationClosedAt
      operationNow hmirror hopen hmay hkind hrow hremains =>
      rw [hremains.policy] at hown
      rcases hbefore old before hmirror hown with ⟨hattended, hvouched⟩
      have hshut : Attended (closedOperation before closedBy resolution summary
          operationClosedAt operationNow) := ⟨hattended.opened, hattended.seated⟩
      refine ⟨(hshut.rowAfter record now).congr (.of_remains hremains), ?_⟩
      intro hpolicy
      rw [V2.Operation.operationPolicy, hremains.policy] at hpolicy
      have hvouched' : Vouched (closedOperation before closedBy resolution summary
          operationClosedAt operationNow) := hvouched hpolicy
      rcases act.closable hmay with ⟨row₀, hknown, _⟩
      exact (hvouched'.rowAfter hshut
        (hmember row₀ old before _ hknown hmirror hpolicy (Or.inr hmay))).congr
        (.of_remains hremains)

variable {s : State}

/-- While whatever is posted into an `invite_only` operation is by one of its participants,
its participants are vouched for, and its log tells who they are. -/
theorem run_guarded (api : ApiConfig) (hfresh : Fresh s) (acts : List Act)
    (hposts : Along (systemStep api) (PostsAsParticipant api) s acts) :
    Throughout (systemStep api) (fun t => Mirrored t ∧
      Lawful (fun _ _ operation => Guarded operation) t) s acts := by
  apply throughout_lawful api hfresh hposts
  intro t act hmirrored hposts' u id row after hdescends hbefore hwrote
  exact guarded_wrote hmirrored hposts' hdescends hbefore hwrote

/-- While whatever is posted into an `invite_only` operation is by one of its participants,
every participant of such an operation that did not found it was let in by one. -/
theorem invite_only_vouched (api : ApiConfig) {s : State} (hfresh : Fresh s) (acts : List Act)
    (hposts : Along (systemStep api) (PostsAsParticipant api) s acts) :
    Throughout (systemStep api) (fun t => ∀ operationId operation,
      t.store.getOperation operationId = some operation →
      operation.operationPolicy.joinPolicy = .inviteOnly → Vouched operation) s acts := by
  intro done hdone operationId operation hoperation hpolicy
  rcases run_guarded api hfresh acts hposts done hdone with ⟨hmirrored, hguarded⟩
  have hlt := (List.getElem?_eq_some_iff.mp hoperation).1
  rw [← hmirrored.lengths] at hlt
  have hown : operation.policy ≠ none := by
    intro hnone
    rw [V2.Operation.operationPolicy, hnone] at hpolicy
    exact absurd hpolicy (by decide)
  exact (hguarded operationId _ operation ⟨List.getElem?_eq_getElem hlt, hoperation⟩ hown).2
    hpolicy

/-! ## Guests and intruders -/

/-- `alice` opens an inquiry that is `invite_only`. -/
def openedForInvited : Act :=
  .move (.openConversation "room" (openingOf .inquiry inquiry_ne_general
    (some [("join_policy", .str "invite_only")])) (fun _ => 0) fun _ => 0)

/-- She invites `bob`, who joins. -/
def invitedGuest : List Act :=
  [openedForInvited,
    .move (.submitSpeech 1 { speechOf "alice" .invite with addressedTo := some "bob" }
      fun _ => 1),
    .move (.submitSpeech 1 (speechOf "bob" .join) fun _ => 2)]

theorem postsAsParticipant_speech {api : ApiConfig} {conversationId : Id}
    {request : SpeechRequest} {clock : Clock}
    (hmember : (s.conversations[conversationId]?).all fun row =>
      decide (row.unaddressedSpeechCount + 1 < api.chat.policy.overSpeechThreshold) &&
        (row.v2OperationId.bind s.store.getOperation).all fun operation =>
          isParticipant operation.participants (handleOrSystem (some request.actorName))) :
    PostsAsParticipant api s (.move (.submitSpeech conversationId request clock)) := by
  intro other author hmay row operationId operation hrow hmirror hoperation _
  rcases hmay with ⟨kind, hpost⟩ | hclose
  · change MayPost api.chat s _ other author kind at hpost
    cases hpost with
    | spoke =>
        rw [hrow, Option.all_some, Bool.and_eq_true, hmirror, Option.bind_some, hoperation]
          at hmember
        exact hmember.2
    | overSpoke hpasses htrips =>
        have hcount := takeTurn_trips htrips
        rw [hpasses.found, Option.all_some, Bool.and_eq_true, decide_eq_true_iff] at hmember
        exact absurd hcount hmember.1.ne
  · cases (show MayClose api.chat s _ other author from hclose)

theorem invited_guest_vouched :
    Throughout (systemStep plainApi) (fun t => ∀ operationId operation,
      t.store.getOperation operationId = some operation →
      operation.operationPolicy.joinPolicy = .inviteOnly → Vouched operation)
      emptyRoom invitedGuest := by
  apply invite_only_vouched plainApi ⟨rfl, rfl⟩
  apply along_cons
  · intro conversationId author hmay
    rcases hmay with ⟨kind, hpost⟩ | hclose
    · cases (show MayPost _ _ _ conversationId author kind from hpost)
    · cases (show MayClose _ _ _ conversationId author from hclose)
  · apply along_cons
    · exact postsAsParticipant_speech (by decide)
    · apply along_cons
      · exact postsAsParticipant_speech (by decide)
      · exact along_nil _ _ _

/-- `mallory`, whom nobody invited, makes a claim, and takes part. -/
theorem intruder_takes_part :
    ¬ Throughout (systemStep plainApi) (fun t => ∀ operationId operation,
      t.store.getOperation operationId = some operation →
      operation.operationPolicy.joinPolicy = .inviteOnly → Vouched operation) emptyRoom
      [openedForInvited, .move (.submitSpeech 1 (speechOf "mallory" .claim) fun _ => 1)] := by
  intro hvouched
  let intruded := run (systemStep plainApi) emptyRoom
    [openedForInvited, .move (.submitSpeech 1 (speechOf "mallory" .claim) fun _ => 1)]
  have hfound : ∃ operation, intruded.store.getOperation 1 = some operation ∧
      operation.operationPolicy.joinPolicy = .inviteOnly ∧ ¬ Vouched operation := by
    refine ⟨_, rfl, rfl, ?_⟩
    decide
  rcases hfound with ⟨operation, hoperation, hpolicy, hnot⟩
  exact hnot (hvouched _ List.prefix_rfl 1 operation hoperation hpolicy)

end Chat

end OpsCure
