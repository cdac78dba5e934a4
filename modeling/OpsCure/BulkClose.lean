/-
The operator's bulk close: each conversation is closed by itself, and what one close raises
is noted and does not stop the others.
-/
import OpsCure.Deeds

namespace OpsCure.Api

open Fallible Session Table Chat

/-! ## The operation -/

/-- What became of one conversation, with the exception if there was one. -/
structure BulkResult where
  conversationId : Id
  ok : Bool
  resolution : Option String
  error : Option ChatError

structure BulkReport where
  requested : Nat
  succeeded : Nat
  failed : Nat
  results : List BulkResult

/-- `_check_actor`, the gate that only the legacy slot answers. -/
def checkActor (config : Config) (actorName : String) : Except ChatError PUnit :=
  match config.authorizer with
  | .actor allows => require (allows actorName) (.notAuthorizedAs actorName)
  | _ => .ok ⟨⟩

variable (config : Config) (closedBy resolution : String) (summary : Option String)
  (bypass : Bool)

/-- One round of the loop, in sessions of its own. -/
def closeOne (b : Bridge) (item : Id × Clock) : BulkResult × Bridge :=
  match exec (publishing (closeConversation config item.1 closedBy resolution summary bypass
      item.2)) b with
  | (.ok closed, after) => (⟨item.1, true, closed.2.resolution, none⟩, after)
  | (.error error, after) => (⟨item.1, false, none, some error⟩, after)

def closeEach (b : Bridge) : List (Id × Clock) → List BulkResult × Bridge
  | [] => ([], b)
  | item :: items =>
      let first := closeOne config closedBy resolution summary bypass b item
      let rest := closeEach first.2 items
      (first.1 :: rest.1, rest.2)

/-- `bulk_close_conversations`, with the readings of the clock for each close. -/
def bulkCloseConversations (items : List (Id × Clock)) : Program ChatError Bridge BulkReport := do
  query fun _ => if bypass then .ok ⟨⟩ else checkActor config closedBy
  ExceptT.mk fun b =>
    let closed := closeEach config closedBy resolution summary bypass b items
    let succeeded := closed.1.countP (·.ok)
    (.ok
      { requested := items.length
        succeeded := succeeded
        failed := items.length - succeeded
        results := closed.1 }, closed.2)

/-! ## What it reports -/

variable {config closedBy resolution summary bypass} {b c : Bridge} {items : List (Id × Clock)}

/-- The conversation is open. -/
def IsOpen (b : Bridge) (id : Id) : Prop :=
  ∃ row, b.chat.conversations[id]? = some row ∧ row.state ≠ .closed

def ClosedAs (resolution : String) (b : Bridge) (id : Id) : Prop :=
  ∃ row, b.chat.conversations[id]? = some row ∧ row.state = .closed ∧
    row.resolution = some resolution

/-- The conversations that a list of results reports as closed. -/
def closedIds (results : List BulkResult) : List Id :=
  (results.filter (·.ok)).map (·.conversationId)

/-- From `b` to `c` exactly what is reported is closed, each with a message of its own. -/
structure Reports (resolution : String) (b c : Bridge) (results : List BulkResult) : Prop where
  once : (closedIds results).Nodup
  closed : ∀ id ∈ closedIds results, IsOpen b id ∧ ClosedAs resolution c id
  others : ∀ id, id ∉ closedIds results →
    c.chat.conversations[id]? = b.chat.conversations[id]?
  messages : c.chat.messages.length = b.chat.messages.length + results.countP (·.ok)
  resolved : ∀ result ∈ results,
    result.resolution = (if result.ok then some resolution else none) ∧
      result.error.isSome = !result.ok

/-- A round fails and leaves every conversation as it was, or closes the one it is about. -/
theorem closeOne_cases (config : Config) (b : Bridge) (item : Id × Clock) :
    let round := closeOne config closedBy resolution summary bypass b item
    ((∃ error, round.1 = ⟨item.1, false, none, some error⟩) ∧
        round.2.chat.conversations = b.chat.conversations ∧
        round.2.chat.messages = b.chat.messages) ∨
      ∃ row closedAt message, round.1 = ⟨item.1, true, some resolution, none⟩ ∧
        b.chat.conversations[item.1]? = some row ∧ row.state ≠ .closed ∧
        round.2.chat.conversations = update b.chat.conversations item.1
          (closedRow row closedBy resolution summary closedAt) ∧
        round.2.chat.messages = b.chat.messages ++ [message] := by
  intro round
  have hround : round = closeOne config closedBy resolution summary bypass b item := rfl
  rcases hpublished : exec (publishing (closeConversation config item.1 closedBy resolution
    summary bypass item.2)) b with ⟨outcome, after⟩
  rw [closeOne, hpublished] at hround
  rcases exec_publishing (closeConversation config item.1 closedBy resolution summary bypass
    item.2) b with ⟨houtcome, hafter⟩
  rw [hpublished] at houtcome hafter
  rcases closeConversation_cases config item.1 closedBy resolution summary bypass item.2
    b.chat with
    ⟨⟨error, herror⟩, hregisters⟩ |
    ⟨row, gated, result, hpasses, hregisters, hclose, hok⟩
  · left
    rw [← hafter] at hregisters
    rw [herror] at houtcome
    simp only at houtcome
    rw [houtcome] at hround
    rw [hround]
    exact ⟨⟨error, rfl⟩, hregisters.conversations, hregisters.messages⟩
  · right
    rw [← hafter] at hclose
    rw [hok] at houtcome
    simp only at houtcome
    rw [houtcome] at hround
    rcases requireClosable_eq_ok.1 hpasses.closable with ⟨hfound, _, hopen⟩
    rcases closeSession_eq_ok hclose with ⟨hresult, hconversations, _⟩
    rcases closeSession_added hclose with
      ⟨shut, _, message, _, _, eventId, hshut, _, hadded, hdigested⟩
    have hsent := (addMessage_eventId hadded).1
    refine ⟨row, item.2 0, { message with v2EventId := eventId }, ?_, hfound, hopen, ?_, ?_⟩
    · rw [hround, hresult]
      rfl
    · rw [hround]
      exact hconversations.trans (by rw [hregisters.conversations])
    · rw [hround]
      change after.chat.messages = _
      rw [hdigested.messages, hsent, hshut.messages, hregisters.messages]

theorem Reports.failed {d : Bridge} {results : List BulkResult} {id : Id} {error : ChatError}
    (hconversations : c.chat.conversations = b.chat.conversations)
    (hmessages : c.chat.messages = b.chat.messages) (hrest : Reports resolution c d results) :
    Reports resolution b d (⟨id, false, none, some error⟩ :: results) where
  once := hrest.once
  closed := by
    intro other hother
    rcases hrest.closed other hother with ⟨⟨row, hrow, hopen⟩, hclosed⟩
    rw [hconversations] at hrow
    exact ⟨⟨row, hrow, hopen⟩, hclosed⟩
  others := by
    intro other hother
    rw [← hconversations]
    exact hrest.others other hother
  messages := by
    rw [← hmessages]
    exact hrest.messages
  resolved := List.forall_mem_cons.mpr ⟨⟨rfl, rfl⟩, hrest.resolved⟩

theorem Reports.closedNext {d : Bridge} {results : List BulkResult} {id : Id} {row : Conversation}
    {closedAt : Time} {message : Message} (hrow : b.chat.conversations[id]? = some row)
    (hopen : row.state ≠ .closed) (hconversations : c.chat.conversations =
      update b.chat.conversations id (closedRow row closedBy resolution summary closedAt))
    (hmessages : c.chat.messages = b.chat.messages ++ [message])
    (hrest : Reports resolution c d results) :
    Reports resolution b d (⟨id, true, some resolution, none⟩ :: results) := by
  have hhere : c.chat.conversations[id]? =
      some (closedRow row closedBy resolution summary closedAt) := by
    rw [hconversations, getElem?_update_self hrow]
  have hother : ∀ other, id ≠ other →
      c.chat.conversations[other]? = b.chat.conversations[other]? := by
    intro other hne
    rw [hconversations, getElem?_update_of_ne hne]
  -- a conversation is closed once, as a close asks for an open one
  have hnot : id ∉ closedIds results := by
    intro hmem
    rcases (hrest.closed id hmem).1 with ⟨found, hfound, hstill⟩
    rw [hhere] at hfound
    cases hfound
    exact hstill rfl
  have hids : closedIds (⟨id, true, some resolution, none⟩ :: results) =
      id :: closedIds results := rfl
  constructor
  · rw [hids]
    exact List.nodup_cons.mpr ⟨hnot, hrest.once⟩
  · rw [hids]
    intro other hmem
    rcases List.mem_cons.mp hmem with rfl | hlater
    · refine ⟨⟨row, hrow, hopen⟩, closedRow row closedBy resolution summary closedAt, ?_, rfl,
        rfl⟩
      rw [hrest.others other hnot, hhere]
    · rcases hrest.closed other hlater with ⟨⟨found, hfound, hstill⟩, hclosed⟩
      have hne : id ≠ other := fun hsame => hnot (hsame ▸ hlater)
      rw [hother other hne] at hfound
      exact ⟨⟨found, hfound, hstill⟩, hclosed⟩
  · rw [hids]
    intro other hmem
    rw [List.mem_cons, not_or] at hmem
    rw [hrest.others other hmem.2, hother other (Ne.symm hmem.1)]
  · rw [hrest.messages, hmessages, List.length_append, List.length_singleton]
    simp [Nat.add_assoc, Nat.add_comm 1]
  · exact List.forall_mem_cons.mpr ⟨⟨rfl, rfl⟩, hrest.resolved⟩

theorem closeEach_reports (config : Config) (closedBy resolution : String)
    (summary : Option String) (bypass : Bool) (items : List (Id × Clock)) (b : Bridge) :
    let each := closeEach config closedBy resolution summary bypass b items
    Reports resolution b each.2 each.1 ∧
      each.1.map (·.conversationId) = items.map (·.1) := by
  induction items generalizing b with
  | nil =>
      refine ⟨⟨List.nodup_nil, ?_, fun _ _ => rfl, rfl, ?_⟩, rfl⟩
      · intro id hid
        cases hid
      · intro result hresult
        cases hresult
  | cons item items ih =>
      rw [closeEach]
      rcases ih (closeOne config closedBy resolution summary bypass b item).2 with ⟨hrest, hids⟩
      rcases closeOne_cases config b item with
        ⟨⟨error, hresult⟩, hconversations, hmessages⟩ |
        ⟨row, closedAt, message, hresult, hrow, hopen, hconversations, hmessages⟩
      · rw [hresult]
        exact ⟨.failed hconversations hmessages hrest, congrArg (item.1 :: ·) hids⟩
      · rw [hresult]
        exact ⟨.closedNext hrow hopen hconversations hmessages hrest,
          congrArg (item.1 :: ·) hids⟩

/-- Unless the caller may not act for the closer, every conversation asked for is reported,
the conversations reported as closed are those that are, each of them was open and is
reported once, and nothing else changes. -/
theorem bulk_close (config : Config) (closedBy resolution : String) (summary : Option String)
    (bypass : Bool) (items : List (Id × Clock)) (b : Bridge) :
    let ended := exec (bulkCloseConversations config closedBy resolution summary bypass items) b
    (ended = (.error (.notAuthorizedAs closedBy), b) ∧ bypass = false) ∨
      ∃ report, ended.1 = .ok report ∧ report.requested = items.length ∧
        report.succeeded + report.failed = report.requested ∧
        report.succeeded = (closedIds report.results).length ∧
        report.results.map (·.conversationId) = items.map (·.1) ∧
        Reports resolution b ended.2 report.results := by
  intro ended
  have hended : ended =
      exec (bulkCloseConversations config closedBy resolution summary bypass items) b := rfl
  rw [bulkCloseConversations, exec_bind, exec_query] at hended
  cases hchecked : (if bypass then .ok ⟨⟩ else checkActor config closedBy :
      Except ChatError PUnit) with
  | error error =>
      left
      cases bypass with
      | true => cases hchecked
      | false =>
          rw [hchecked] at hended
          have herror : checkActor config closedBy = .error error := hchecked
          unfold checkActor at herror
          split at herror
          · rw [(require_eq_error.1 herror).2]
            exact ⟨hended, rfl⟩
          · cases herror
  | ok =>
      right
      rw [hchecked] at hended
      rcases closeEach_reports config closedBy resolution summary bypass items b with
        ⟨hreports, hids⟩
      have hlength := congrArg List.length hids
      rw [List.length_map, List.length_map] at hlength
      rw [hended]
      refine ⟨_, rfl, rfl, ?_, ?_, hids, hreports⟩
      · apply Nat.add_sub_cancel'
        rw [← hlength]
        exact List.countP_le_length
      · rw [closedIds, List.length_map, ← List.countP_eq_length_filter]

end OpsCure.Api
