/-
Who has read what: the cursor each actor has on a conversation, and what it makes of the
messages that come while the bridge runs.
-/
import OpsCure.BulkClose
import OpsCure.PushPull

namespace OpsCure.Api

open Fallible Session Table Run Chat

/-! ## The operations -/

/-- What a row of `chat_conversation_reads` says. -/
structure ReadCursor where
  lastReadSpeechId : Option Id
  lastReadAt : Option Time

/-- The bridge, and the cursor of each actor on each conversation. -/
structure Readers where
  bridge : Bridge
  cursors : Id → String → Option ReadCursor

inductive ReadError where
  | chat (error : ChatError)
  | foreignSpeech (speechId : Id)

def ReadError.text (repr : Json → String) : ReadError → String
  | chat error => error.text repr
  | foreignSpeech speechId =>
      s!"speech_id {repr (.str (toString speechId))} does not belong to conversation"

structure ReadStatus where
  conversationId : Id
  actorName : String
  lastReadSpeechId : Option Id
  lastReadAt : Option Time
  unreadCount : Nat

/-- `_unread_count_inside_session`. -/
def unreadCount (messages : List Message) (conversationId : Id) (cursorAt : Option Time) : Nat :=
  messages.countP fun message =>
    message.conversationId = conversationId ∧ cursorAt.all (· < message.createdAt)

def latestSpeech (s : State) (conversationId : Id) : Option (Message × Id) :=
  firstBy (fun left right => right.createdAt ≤ left.createdAt)
    (selectWhere (·.conversationId = conversationId) s.messages)

/-- Where a cursor is moved: to the speech that is named, or else to the latest. -/
def readTarget (s : State) (conversationId : Id) : Option Id → Except ReadError ReadCursor
  | none =>
      let latest := latestSpeech s conversationId
      .ok ⟨latest.map (·.2), latest.map (·.1.createdAt)⟩
  | some speechId => do
      let message ← orRaise s.messages[speechId]? (.foreignSpeech speechId)
      require (message.conversationId = conversationId) (.foreignSpeech speechId)
      return ⟨some speechId, some message.createdAt⟩

/-- `mark_conversation_read`. -/
def markConversationRead (config : Config) (conversationId : Id) (actorName : String)
    (speechId : Option Id) : Program ReadError Readers ReadStatus := do
  query fun _ => (checkActor config actorName).mapError .chat
  transaction fun r => do
    let s := r.bridge.chat
    let _ ← (getConversation s conversationId).mapError .chat
    let cursor ← readTarget s conversationId speechId
    return (⟨conversationId, actorName, cursor.lastReadSpeechId, cursor.lastReadAt,
        unreadCount s.messages conversationId cursor.lastReadAt⟩,
      { r with cursors := fun id actor =>
          if id = conversationId ∧ actor = actorName then some cursor else r.cursors id actor })

/-- `get_conversation_read_status`. -/
def getConversationReadStatus (conversationId : Id) (actorName : String) :
    Program ReadError Readers ReadStatus :=
  query fun r => do
    let s := r.bridge.chat
    let _ ← (getConversation s conversationId).mapError .chat
    let cursor := (r.cursors conversationId actorName).getD ⟨none, none⟩
    return ⟨conversationId, actorName, cursor.lastReadSpeechId, cursor.lastReadAt,
      unreadCount s.messages conversationId cursor.lastReadAt⟩

/-- What happens to the bridge and its readers. -/
inductive ReadDeed where
  | deed (deed : Deed)
  | mark (conversationId : Id) (actorName : String) (speechId : Option Id)

def readStep (api : ApiConfig) (r : Readers) : ReadDeed → Readers
  | .deed deed => { r with bridge := bridgeStep api r.bridge deed }
  | .mark conversationId actorName speechId =>
      (exec (markConversationRead api.chat conversationId actorName speechId) r).2

/-- The deed moves this cursor. -/
def ReadDeed.Marks (conversationId : Id) (actorName : String) : ReadDeed → Prop
  | .deed _ => False
  | .mark id actor _ => id = conversationId ∧ actor = actorName

/-! ## What stays unread -/

variable {s : State} {r after : Readers} {conversationId : Id} {actorName : String}
  {cursor : ReadCursor} {status : ReadStatus}

theorem latestSpeech_none (hnone : latestSpeech s conversationId = none) :
    ∀ message ∈ s.messages, message.conversationId ≠ conversationId := by
  intro message hmem hthis
  rcases List.mem_iff_getElem?.mp hmem with ⟨id, hrow⟩
  have hkeep := not_keep_of_firstBy_none hnone hrow
  simp only [decide_eq_true_eq] at hkeep
  exact hkeep hthis

theorem latestSpeech_le {row : Message × Id} (hlatest : latestSpeech s conversationId = some row) :
    ∀ message ∈ s.messages, message.conversationId = conversationId →
      message.createdAt ≤ row.1.createdAt := by
  intro message hmem hthis
  rcases List.mem_iff_getElem?.mp hmem with ⟨id, hplace⟩
  let before := fun left right : Message => decide (right.createdAt ≤ left.createdAt)
  let rows := orderBy before (selectWhere (·.conversationId = conversationId) s.messages)
  have hlisted : (message, id) ∈ rows := by
    apply mem_orderBy.2
    exact mem_selectWhere.2 ⟨hplace, decide_eq_true hthis⟩
  have hsorted : rows.Pairwise fun left right => before left.1 right.1 = true := by
    have htotal : Std.Total fun left right : Message × Id => before left.1 right.1 = true :=
      ⟨fun left right => by simpa [before] using le_total right.1.createdAt left.1.createdAt⟩
    have htrans : IsTrans (Message × Id) fun left right => before left.1 right.1 = true :=
      ⟨fun first second third hfirst hsecond => by
        simp only [before, decide_eq_true_eq] at hfirst hsecond ⊢
        exact hsecond.trans hfirst⟩
    exact List.pairwise_insertionSort _ _
  have hhead : rows.head? = some row := hlatest
  rcases List.head?_eq_some_iff.mp hhead with ⟨others, hrows⟩
  rw [hrows] at hlisted hsorted
  rcases List.mem_cons.mp hlisted with rfl | hlater
  · exact le_rfl
  · have hbefore := (List.pairwise_cons.mp hsorted).1 _ hlater
    simpa [before] using hbefore

/-- Nothing is past the latest speech. -/
theorem unreadCount_target (hcursor : readTarget s conversationId none = .ok cursor) :
    unreadCount s.messages conversationId cursor.lastReadAt = 0 := by
  cases hcursor
  rw [unreadCount, List.countP_eq_zero]
  intro message hmem hunread
  simp only [decide_eq_true_eq] at hunread
  cases hlatest : latestSpeech s conversationId with
  | none => exact latestSpeech_none hlatest message hmem hunread.1
  | some row =>
      rw [hlatest] at hunread
      have hle := latestSpeech_le hlatest message hmem hunread.1
      have hlt : row.1.createdAt < message.createdAt := by simpa using hunread.2
      exact absurd hlt (not_lt.mpr hle)

theorem markConversationRead_eq_ok {config : Config} {speechId : Option Id}
    (hmarked : exec (markConversationRead config conversationId actorName speechId) r =
      (.ok status, after)) :
    ∃ cursor, readTarget r.bridge.chat conversationId speechId = .ok cursor ∧
      (r.bridge.chat.conversations[conversationId]?).isSome ∧
      status = ⟨conversationId, actorName, cursor.lastReadSpeechId, cursor.lastReadAt,
        unreadCount r.bridge.chat.messages conversationId cursor.lastReadAt⟩ ∧
      after.bridge = r.bridge ∧ after.cursors conversationId actorName = some cursor := by
  rw [markConversationRead, exec_bind_ok] at hmarked
  rcases hmarked with ⟨_, between, hchecked, hmarked⟩
  rw [exec_query, Prod.mk.injEq] at hchecked
  rcases hchecked with ⟨_, rfl⟩
  rw [exec_transaction_ok] at hmarked
  simp only [bind_eq_ok, mapError_eq_ok, getConversation, orRaise_eq_ok, pure_eq_ok,
    Prod.mk.injEq] at hmarked
  rcases hmarked with ⟨row, hrow, cursor, hcursor, rfl, rfl⟩
  exact ⟨cursor, hcursor, Option.isSome_iff_exists.mpr ⟨row, hrow⟩, rfl, rfl, by simp⟩

/-- The messages and the conversation are still there, and the cursor stands. -/
structure Stands (s : State) (conversationId : Id) (actorName : String) (cursor : ReadCursor)
    (r : Readers) : Prop where
  messages : s.messages <+: r.bridge.chat.messages
  conversation : conversationId < r.bridge.chat.conversations.length
  cursor : r.cursors conversationId actorName = some cursor

theorem readStep_stands (api : ApiConfig) (hstands : Stands s conversationId actorName cursor r)
    {deed : ReadDeed} (hother : ¬ deed.Marks conversationId actorName) :
    Stands s conversationId actorName cursor (readStep api r deed) := by
  cases deed with
  | deed deed =>
      let kept := fun t : State => s.messages <+: t.messages ∧
        conversationId < t.conversations.length
      have hkept : kept (bridgeStep api r.bridge deed).chat := by
        apply deed_keeps api (P := kept) _ ⟨hstands.messages, hstands.conversation⟩
        intro s may t hs hwrites
        apply hwrites.keeps hs
        rintro u v ⟨hmessages, hlt⟩ hwrite
        exact ⟨hmessages.trans hwrite.lengthens.2, hlt.trans_le hwrite.length_le⟩
      exact ⟨hkept.1, hkept.2, hstands.cursor⟩
  | mark id actor speechId =>
      have hkeeps : Keeps (Stands s conversationId actorName cursor)
          (markConversationRead api.chat id actor speechId) := by
        refine keeps_bind (keeps_query _ _) fun _ => keeps_transaction ?_
        intro t value after ht hok
        simp only [bind_eq_ok, pure_eq_ok, Prod.mk.injEq] at hok
        rcases hok with ⟨_, _, _, _, _, rfl⟩
        refine ⟨ht.messages, ht.conversation, ?_⟩
        have hne : ¬ (conversationId = id ∧ actorName = actor) :=
          fun hsame => hother ⟨hsame.1.symm, hsame.2.symm⟩
        simp only [if_neg hne]
        exact ht.cursor
      exact hkeeps r hstands

/-- An actor that catches up has nothing left to read, and from then on, whatever the bridge
does and whoever else reads, what it has not read are the later messages that have come. -/
theorem catch_up (api : ApiConfig)
    (hmarked : exec (markConversationRead api.chat conversationId actorName none) r =
      (.ok status, after))
    (deeds : List ReadDeed) (hothers : ∀ deed ∈ deeds, ¬ deed.Marks conversationId actorName) :
    let later := run (readStep api) after deeds
    let added := later.bridge.chat.messages.drop r.bridge.chat.messages.length
    status.unreadCount = 0 ∧
      exec (getConversationReadStatus conversationId actorName) later = (.ok { status with
        unreadCount := unreadCount added conversationId status.lastReadAt }, later) := by
  intro later added
  rcases markConversationRead_eq_ok hmarked with
    ⟨cursor, hcursor, hthere, rfl, hbridge, hset⟩
  have hnone := unreadCount_target hcursor
  have hstands : Stands r.bridge.chat conversationId actorName cursor later := by
    have hstart : Stands r.bridge.chat conversationId actorName cursor after := by
      refine ⟨?_, ?_, hset⟩
      · rw [hbridge]
      · rw [hbridge]
        simpa using hthere
    have hrun : Throughout (readStep api) (Stands r.bridge.chat conversationId actorName cursor)
        after deeds := by
      apply throughout_of_preserved hstart
      intro done deed hdone hhere
      exact readStep_stands api hhere (hothers deed (hdone.subset (by simp)))
    exact hrun deeds List.prefix_rfl
  refine ⟨hnone, ?_⟩
  have hmessages : later.bridge.chat.messages = r.bridge.chat.messages ++ added :=
    (List.prefix_iff_eq_append.mp hstands.messages).symm
  have hunread : unreadCount later.bridge.chat.messages conversationId cursor.lastReadAt =
      unreadCount added conversationId cursor.lastReadAt := by
    rw [unreadCount] at hnone ⊢
    rw [hmessages, List.countP_append, hnone, Nat.zero_add]
    rfl
  rw [getConversationReadStatus, exec_query, hstands.cursor]
  simp only [getConversation, List.getElem?_eq_getElem hstands.conversation, Option.getD_some,
    hunread]
  rfl

def unreadRoom : Readers := ⟨inquiryOpened, fun _ _ => none⟩

theorem alice_catches_up :
    let caughtUp := (exec (markConversationRead plainApi.chat 1 "alice" none) unreadRoom).2
    let later := run (readStep plainApi) caughtUp [.deed doneClaim, .mark 1 "bob" none]
    let added := later.bridge.chat.messages.drop inquiryOpened.chat.messages.length
    exec (getConversationReadStatus 1 "alice") later =
      (.ok ⟨1, "alice", some 0, some 0, unreadCount added 1 (some 0)⟩, later) := by
  intro caughtUp later added
  have hmarked : exec (markConversationRead plainApi.chat 1 "alice" none) unreadRoom =
      (.ok ⟨1, "alice", some 0, some 0, 0⟩, caughtUp) := Prod.ext rfl rfl
  have hothers : ∀ deed ∈ [ReadDeed.deed doneClaim, .mark 1 "bob" none],
      ¬ deed.Marks 1 "alice" := by
    intro deed hdeed
    rcases List.mem_pair.mp hdeed with rfl | rfl
    · exact not_false
    · exact fun hmarks => absurd hmarks.2 (by decide)
  exact (catch_up plainApi hmarked _ hothers).2

end OpsCure.Api
