/-
Is a whisper stored as one (`mirror_message`, `insert_event`)?  An empty name has no handle and
is dropped from the list, and a list of which nothing is left is stored as no list at all: then
everybody may read the event.
-/
import OpsCure.Deeds

namespace OpsCure.Chat

open Session V2 OperationMirror Api

/-- Whom a whisper is for: its speaker, and the actors on its list. -/
def IsFor (request : SpeechRequest) (reader : String) : Prop :=
  reader = handleOrSystem (some request.actorName) ∨
    ∃ actor ∈ request.privateToActors, normalizeHandle (some actor) = some reader

/-- An event of a private list that is not empty, and seen by nobody it is not for. -/
structure Whispered (request : SpeechRequest) (event : Event) : Prop where
  hidden : ∃ readers, event.privateToActorIds = some readers ∧ readers ≠ []
  named : ∀ viewer, visibleTo viewer event → ∃ reader, viewer = some reader ∧
    IsFor request reader

theorem normalizeHandle_eq_none_iff (actor : String) :
    normalizeHandle (some actor) = none ↔ actor = "" := by
  simp [normalizeHandle, Option.filter]

theorem privateHandles_eq_nil_iff (record : MessageRecord) :
    privateHandles record = [] ↔ ∀ actor ∈ record.privateToActors, actor = "" := by
  rw [privateHandles, List.filterMap_eq_nil_iff]
  constructor
  · intro hdropped actor hactor
    exact (normalizeHandle_eq_none_iff actor).mp (hdropped actor hactor)
  · intro hempty actor hactor
    exact (normalizeHandle_eq_none_iff actor).mpr (hempty actor hactor)

theorem eventOf_whispered_iff {record : MessageRecord} {request : SpeechRequest}
    (hspeaker : record.actorName = request.actorName)
    (hlist : record.privateToActors = request.privateToActors) (now : Time) :
    Whispered request (eventOf record now) ↔ privateHandles record ≠ [] := by
  constructor
  · intro hwhispered hnobody
    obtain ⟨readers, hreaders, _⟩ := hwhispered.hidden
    rw [eventOf, hnobody] at hreaders
    cases hreaders
  · intro hsomebody
    have hreaders : (eventOf record now).privateToActorIds = some (privateHandles record) :=
      if_neg hsomebody
    refine ⟨⟨_, hreaders, hsomebody⟩, ?_⟩
    intro viewer hvisible
    rw [visibleTo, hreaders, Option.all_some] at hvisible
    rcases viewer with _ | reader
    · cases hvisible
    refine ⟨reader, rfl, ?_⟩
    rcases of_decide_eq_true hvisible with hauthor | hlisted
    · left
      rw [hauthor, ← hspeaker]
      rfl
    · right
      obtain ⟨actor, hactor, hhandle⟩ := List.mem_filterMap.mp hlisted
      rw [← hlist]
      exact ⟨actor, hactor, hhandle⟩

/-- The event of an accepted speech is a whisper exactly when the list of the request names
somebody. -/
theorem whispered_iff {config : Config} {s after : State} {conversationId : Id}
    {request : SpeechRequest} {clock : Clock} {id : EventId}
    (haccepted : exec (submitSpeech config conversationId request clock) s =
      (.ok (some id), after)) :
    (∃ event, after.store.getEvent id = some event ∧ Whispered request event) ↔
      ∃ actor ∈ request.privateToActors, actor ≠ "" := by
  rcases submitSpeech_cases config conversationId request clock s with
    ⟨_, error, hexec⟩ | ⟨_, _, row, effective, gated, posted, hspoken, hexec⟩
  · rw [haccepted] at hexec
    cases hexec
  rw [haccepted] at hexec
  cases hexec
  obtain ⟨expected, hstored⟩ := (Api.Spoken.recorded hspoken).2 id rfl
  let record := speechRecord config s conversationId row request expected (clock 1)
  have hwhispered : Whispered request (eventOf record (clock 2)) ↔ privateHandles record ≠ [] :=
    eventOf_whispered_iff rfl rfl (clock 2)
  have hnames : privateHandles record ≠ [] ↔ ∃ actor ∈ request.privateToActors, actor ≠ "" := by
    rw [Ne, privateHandles_eq_nil_iff, not_forall₂]
    exact exists_congr fun actor => exists_prop
  rw [← hnames, ← hwhispered]
  constructor
  · rintro ⟨event, hevent, hits⟩
    rw [hstored] at hevent
    cases hevent
    exact hits
  · intro hits
    exact ⟨_, hstored, hits⟩

/-- A speech of `alice`'s for the actors of a list. -/
def whisperTo (actors : List String) : SpeechRequest :=
  { speechOf "alice" .claim with privateToActors := actors }

/-- The inquiry of `alice`'s. -/
def aliceInquiry : State :=
  roomWith .inquiry inquiry_ne_general none

def whisperedTo (actors : List String) : State :=
  (exec (submitSpeech plainConfig 1 (whisperTo actors) fun _ => 1) aliceInquiry).2

/-- An empty name beside `bob`'s does no harm. -/
theorem whispered_to_bob : ∃ event,
    (whisperedTo ["", "bob"]).store.getEvent ⟨1, 1⟩ = some event ∧
      Whispered (whisperTo ["", "bob"]) event := by
  have haccepted : exec (submitSpeech plainConfig 1 (whisperTo ["", "bob"]) fun _ => 1)
      aliceInquiry = (.ok (some ⟨1, 1⟩), whisperedTo ["", "bob"]) := by rfl
  apply (whispered_iff haccepted).mpr
  exact ⟨"bob", by decide, by decide⟩

/-- A whisper to the empty name is a public event. -/
theorem whisper_to_nobody_public :
    ¬ ∀ config s conversationId request clock id after,
      request.privateToActors ≠ [] →
      exec (submitSpeech config conversationId request clock) s = (.ok (some id), after) →
        ∃ event, after.store.getEvent id = some event ∧ Whispered request event := by
  intro hall
  obtain ⟨event, hstored, hwhispered⟩ := hall plainConfig aliceInquiry 1 (whisperTo [""])
    (fun _ => 1) ⟨1, 1⟩ (whisperedTo [""]) (by decide) rfl
  obtain ⟨readers, hreaders, _⟩ := hwhispered.hidden
  have hpublic : ((whisperedTo [""]).store.getEvent ⟨1, 1⟩).any fun event =>
      event.privateToActorIds.isNone := by
    decide
  rw [hstored, Option.any_some, hreaders] at hpublic
  cases hpublic

end OpsCure.Chat
