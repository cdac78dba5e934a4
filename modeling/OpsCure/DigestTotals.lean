/-
Does the summary card of a close tell of the whole log (`_build_summary`)?  It counts over the
first thousand events, and takes for speech what `chat.speech.` opens, where the contract goes by
the category whatever the transport.
-/
import OpsCure.Digest
import OpsCure.Library.Windows

namespace OpsCure.Digest

open Contract V2 Chat Windows

/-- `is_speech_kind` on an event. -/
def speaks (event : Event) : Bool := isSpeechKind event.kind

def evidences (event : Event) : Bool := !speaks event && event.kind = "chat.task.evidence"

def marksLife (event : Event) : Bool :=
  !speaks event && !evidences event &&
    ("chat.conversation.".toList <+: event.kind.toList ∨
      "chat.task.".toList <+: event.kind.toList)

def lastAddressed (codec : Codec) (log : List Event) : Json :=
  let addressed := log.zipIdx.filter fun row =>
    speaks row.1 && row.1.addressedToActorIds ≠ []
  (addressed.getLast?.map fun row => Json.obj
    [("seq", .int (row.2 + 1)),
      ("kind", .str row.1.kind),
      ("actor_id", .str row.1.actorId),
      ("addressed_to_actor_ids", .arr (row.1.addressedToActorIds.map .str)),
      ("text_preview", .str (preview codec row.1))]).getD .null

structure TellsWhole (codec : Codec) (log : List Event) (summary : Json) : Prop where
  events : (summary.get "totals").get "events" = .int log.length
  speech : (summary.get "totals").get "speech" = .int (log.countP speaks)
  evidence : (summary.get "totals").get "evidence" = .int (log.countP evidences)
  lifecycle : (summary.get "totals").get "lifecycle" = .int (log.countP marksLife)
  whispers : (summary.get "totals").get "whispers" =
    .int (log.countP fun event => event.privateToActorIds.isSome)
  opening : summary.get "opening_question" = openingQuestion codec log
  addressed : summary.get "last_addressed_speech" = lastAddressed codec log

structure Tellable (log : List Event) : Prop where
  short : log.length ≤ 1000
  chat : ∀ event ∈ log, speaks event = true → isSpeech event = true

/-- What `chat.speech.` opens is of the category speech. -/
theorem speaks_of_isSpeech {event : Event} (hspeech : isSpeech event = true) :
    speaks event = true := by
  obtain ⟨action, haction⟩ := of_decide_eq_true hspeech
  have htokens : kindTokens event.kind =
      "chat".toList :: "speech".toList :: action.splitOn '.' := by
    have hkind : event.kind.toList =
        "chat".toList ++ '.' :: ("speech".toList ++ '.' :: action) := haction.symm
    have hwhole : ∀ token : List Char, '.' ∉ token → ∀ c ∈ token, (c == '.') = false := by
      intro token hnot c hmem
      apply beq_eq_false_iff_ne.mpr
      rintro rfl
      exact hnot hmem
    rw [kindTokens, hkind, List.splitOn,
      List.splitOnP_append_cons_of_forall_mem (hwhole _ (by decide)) '.' (by decide),
      List.splitOnP_append_cons_of_forall_mem (hwhole _ (by decide)) '.' (by decide)]
    rfl
  obtain ⟨token, tokens, hrest⟩ := List.exists_cons_of_ne_nil (List.splitOn_ne_nil '.' action)
  have hcategory : categoryOf event.kind = some .speech := by
    rw [categoryOf, htokens, hrest]
    rfl
  rw [speaks, isSpeechKind]
  exact decide_eq_true hcategory

theorem agree_of_chat {event : Event}
    (hchat : speaks event = true → isSpeech event = true) :
    isSpeech event = speaks event ∧ isEvidence event = evidences event ∧
      isLifecycle event = marksLife event := by
  have hspeech : isSpeech event = speaks event :=
    Bool.eq_iff_iff.mpr ⟨speaks_of_isSpeech, hchat⟩
  have hevidence : isEvidence event = evidences event := by
    rw [isEvidence, evidences, hspeech]
  refine ⟨hspeech, hevidence, ?_⟩
  rw [isLifecycle, marksLife, hspeech, hevidence]

theorem lastAddressed_of_chat {codec : Codec} {log : List Event}
    (hchat : ∀ event ∈ log, speaks event = true → isSpeech event = true) :
    lastAddressedSpeech codec log.zipIdx = lastAddressed codec log := by
  have hkept : (log.zipIdx.filter fun row =>
      isSpeech row.1 && row.1.addressedToActorIds ≠ []) =
        log.zipIdx.filter fun row => speaks row.1 && row.1.addressedToActorIds ≠ [] := by
    apply List.filter_congr
    intro row hrow
    have hmem : row.1 ∈ log := by
      obtain ⟨event, seq⟩ := row
      exact (List.mem_zipIdx hrow).2.2 ▸ List.getElem_mem _
    rw [(agree_of_chat (hchat row.1 hmem)).1]
  rw [lastAddressedSpeech, lastAddressed, hkept]

/-- The card of a close tells of the whole log exactly when the log has at most a thousand events
and no speech but the chat's. -/
theorem tellsWhole_iff {codec : Codec} {store : Store} {closeEventId : EventId}
    {artifact : Artifact} (hrecorded : recordClose codec store closeEventId = some artifact) :
    TellsWhole codec (store.log closeEventId.operation) artifact.metadata ↔
      Tellable (store.log closeEventId.operation) := by
  obtain ⟨operation, hoperation, hclosed, rfl⟩ : ∃ operation,
      store.getOperation closeEventId.operation = some operation ∧ operation.state = .closed ∧
        artifact = summaryArtifact codec closeEventId operation
          (buildSummary codec store closeEventId.operation operation) := by
    unfold recordClose at hrecorded
    cases hoperation : store.getOperation closeEventId.operation with
    | none =>
        rw [hoperation] at hrecorded
        cases hrecorded
    | some operation =>
        rw [hoperation] at hrecorded
        by_cases hclosed : operation.state = .closed
        · simp only [if_pos hclosed, Option.some.injEq] at hrecorded
          exact ⟨operation, rfl, hclosed, hrecorded.symm⟩
        · simp only [if_neg hclosed] at hrecorded
          cases hrecorded
  generalize hlog : store.log closeEventId.operation = log
  have hwindow : store.listEvents closeEventId.operation 0 1000 = log.take 1000 := by
    rw [Store.listEvents, hlog]
    rfl
  let summary := buildSummary codec store closeEventId.operation operation
  have htotals : summary.get "totals" = totals (log.take 1000)
      (store.listArtifactsForOperation closeEventId.operation).length := by
    rw [← hwindow]
    rfl
  change TellsWhole codec log summary ↔ Tellable log
  constructor
  · intro hwhole
    have hevents := hwhole.events
    have hspeech := hwhole.speech
    rw [htotals] at hevents hspeech
    have hlength : (log.take 1000).length = log.length :=
      Int.ofNat_inj.mp (Json.int.inj hevents)
    have hshort := length_take_eq_iff.mp hlength
    rw [List.take_of_length_le hshort] at hspeech
    have hcount : log.countP isSpeech = log.countP speaks :=
      Int.ofNat_inj.mp (Json.int.inj hspeech)
    refine ⟨hshort, ?_⟩
    exact (countP_eq_iff_of_imp fun _ _ => speaks_of_isSpeech).mp hcount
  · intro htellable
    have hall : log.take 1000 = log := List.take_of_length_le htellable.short
    have hagree := fun event hevent => agree_of_chat (htellable.chat event hevent)
    have hspeech : log.countP isSpeech = log.countP speaks :=
      List.countP_congr fun event hevent => by rw [(hagree event hevent).1]
    have hevidence : log.countP isEvidence = log.countP evidences :=
      List.countP_congr fun event hevent => by rw [(hagree event hevent).2.1]
    have hlifecycle : log.countP isLifecycle = log.countP marksLife :=
      List.countP_congr fun event hevent => by rw [(hagree event hevent).2.2]
    rw [hall] at htotals hwindow
    constructor
    · rw [htotals]
      rfl
    · rw [htotals, ← hspeech]
      rfl
    · rw [htotals, ← hevidence]
      rfl
    · rw [htotals, ← hlifecycle]
      rfl
    · rw [htotals]
      rfl
    · rw [← hwindow]
      rfl
    · rw [← lastAddressed_of_chat htellable.chat, ← hwindow]
      rfl

/-! ## Two closed inquiries -/

def plainCodec : Codec where
  dumpContent := fun _ => ""
  dumpSummary := fun _ => ""
  base64 := id
  sha256 := id
  isoformat := fun _ => ""
  moment := fun _ => 0

def uttered (kind : String) (addressed : List String) : Event where
  actorId := "@alice"
  kind := kind
  payload := ⟨.str "which port?", none, none, none⟩
  addressedToActorIds := addressed
  repliesToEventId := none
  privateToActorIds := none
  createdAt := 0

def answeredStore (events : List Event) : Store where
  actors := [⟨"@alice", "@alice", .human, []⟩]
  operations :=
    [{ spaceId := "space"
       kind := .inquiry
       state := .closed
       title := "which port?"
       intent := none
       v1ConversationId := 0
       isGeneral := false
       policy := none
       resolution := some "answered"
       resolutionSummary := none
       closedByActorId := some "@alice"
       createdAt := 0
       updatedAt := 0
       closedAt := some 0
       participants := []
       events := events
       artifacts := [] }]

/-- A question, an answer and the close are told of. -/
theorem short_inquiry_tells : ∃ artifact,
    recordClose plainCodec (answeredStore [uttered "chat.speech.question" ["@bob"],
      uttered "chat.speech.answer" [], uttered "chat.conversation.closed" []]) ⟨0, 2⟩ =
        some artifact ∧
      TellsWhole plainCodec [uttered "chat.speech.question" ["@bob"],
        uttered "chat.speech.answer" [], uttered "chat.conversation.closed" []]
        artifact.metadata := by
  refine ⟨_, rfl, ?_⟩
  refine (@tellsWhole_iff plainCodec (answeredStore _) ⟨0, 2⟩ _ rfl).mpr ⟨by decide, ?_⟩
  decide

/-- Of a thousand and one events the card counts a thousand. -/
theorem long_inquiry_untold :
    ¬ ∀ codec store closeEventId artifact, recordClose codec store closeEventId = some artifact →
      TellsWhole codec (store.log closeEventId.operation) artifact.metadata := by
  intro hall
  let log := List.replicate 1001 (uttered "chat.speech.claim" [])
  have hwhole := hall plainCodec (answeredStore log) ⟨0, 1000⟩ _ rfl
  have hevents : Json.int ((answeredStore log).listEvents 0 0 1000).length =
      .int ((answeredStore log).log 0).length := hwhole.events
  have hlog : (answeredStore log).log 0 = log := rfl
  have hlength := Int.ofNat_inj.mp (Json.int.inj hevents)
  rw [Store.listEvents, hlog, List.drop_zero] at hlength
  have hshort := length_take_eq_iff.mp hlength
  rw [List.length_replicate] at hshort
  exact absurd hshort (by decide)

end OpsCure.Digest
