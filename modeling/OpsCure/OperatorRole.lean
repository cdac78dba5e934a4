/-
Can `operator_ratifies` be met?  Its gate looks for a participant whose role is
`operator`; the opening and the messages give out four roles, and that is none of them.
-/
import OpsCure.Histories

namespace OpsCure.Chat

open Fallible Session Run V2 OperationMirror RemoteTask Api

def mirrorRoles : List String := ["opener", "owner", "addressed", "speaker"]

def RolesGiven (participants : List Participant) : Prop :=
  ∀ participant ∈ participants, participant.role ∈ mirrorRoles

theorem rolesGiven_founders (row : Conversation) (now : Time) :
    RolesGiven (founders row now) := by
  intro participant hparticipant
  simp only [founders, List.mem_map] at hparticipant
  rcases hparticipant with ⟨role, hrole, rfl⟩
  simp only [openingParticipants, List.mem_append, List.mem_singleton, Option.mem_toList,
    Option.map_eq_some_iff] at hrole
  rcases hrole with (rfl | ⟨handle, _, rfl⟩) | ⟨handle, _, rfl⟩
  · simp [mirrorRoles]
  · simp [mirrorRoles]
  · simp [mirrorRoles]

theorem RolesGiven.joinParticipants {participants : List Participant}
    (hgiven : RolesGiven participants) (record : MessageRecord) (now : Time) :
    RolesGiven (joinParticipants participants record now) := by
  intro participant hparticipant
  rcases mem_joinParticipants hparticipant with hold | ⟨_, hrole⟩ | ⟨_, hrole⟩
  · exact hgiven participant hold
  · rw [hrole]
    simp [mirrorRoles]
  · rw [hrole]
    simp [mirrorRoles]

theorem rolesGiven_wrote {s₀ s : State} {may : Gates} {id : Id} {row : Conversation}
    {after : V2.Operation}
    (hgiven : ∀ old before, Mirror s id old before → RolesGiven before.participants)
    (hwrote : Wrote s₀ may s id row after) : RolesGiven after.participants := by
  cases hwrote with
  | kept old before hbefore hsame hturn hremains =>
      rw [hremains.participants]
      exact hgiven old before hbefore
  | founded now hid hopened hunresolved hunowned hunaddressed hquiet hfounded =>
      rw [hfounded.participants]
      exact rolesGiven_founders row now
  | announced policy now before record sent hid hopened hunresolved hquiet hfounded hauthor
      hkind haddressed hafter =>
      rw [hafter]
      change RolesGiven (joinParticipants before.participants record sent)
      rw [hfounded.participants]
      exact (rolesGiven_founders row now).joinParticipants record sent
  | said before row₀ record now hbefore hknown hstate hmay hafter =>
      rw [hafter]
      exact (hgiven row before hbefore).joinParticipants record now
  | closed old before record now closedBy resolution summary closedAt operationClosedAt
      operationNow hbefore hopen hmay hkind hrow hremains =>
      rw [hremains.participants]
      exact (hgiven old before hbefore).joinParticipants record now

theorem run_rolesGiven (api : ApiConfig) {s : State} (hfresh : Fresh s) (acts : List Act) :
    Throughout (systemStep api) (fun t => Mirrored t ∧
      Lawful (fun _ _ operation => RolesGiven operation.participants) t) s acts := by
  apply throughout_lawful api hfresh (C := fun _ _ => True)
  · exact fun _ _ _ => trivial
  · intro t act _ _ u id row after _ hbefore hwrote
    exact rolesGiven_wrote hbefore hwrote

/-- Under `operator_ratifies` the engine refuses every close of an operation whose
participants have given roles, whoever has ratified. -/
theorem checkCloseAdmissible_operatorRatifies {store : Store} {operationId : Id}
    {operation : V2.Operation} (hgiven : RolesGiven operation.participants)
    (hpolicy : operation.operationPolicy.closePolicy = .operatorRatifies)
    (closer resolution : Option String) :
    PolicyEngine.checkCloseAdmissible store operationId operation closer resolution ≠
      .ok () := by
  intro hok
  simp only [PolicyEngine.checkCloseAdmissible, hpolicy, bind_eq_ok,
    PolicyEngine.requireRoleRatify, require_eq_ok] at hok
  rcases hok with ⟨_, _, _, hoperators, _⟩
  apply hoperators
  rw [List.map_eq_nil_iff, List.filter_eq_nil_iff]
  intro participant hparticipant hrole
  have hknown := hgiven participant hparticipant
  rw [of_decide_eq_true hrole] at hknown
  exact absurd hknown (by decide)

/-- In every state of every run, the policy gate refuses every close of an operation
under `operator_ratifies`, and so does `close_conversation` by hand. -/
theorem operator_ratifies_never_met (api : ApiConfig) {s : State} (hfresh : Fresh s)
    (acts : List Act) :
    Throughout (systemStep api) (fun t => ∀ conversationId row operationId operation,
      t.conversations[conversationId]? = some row → row.v2OperationId = some operationId →
      t.store.getOperation operationId = some operation →
      operation.operationPolicy.closePolicy = .operatorRatifies →
      ∀ closedBy resolution, ¬ PolicyLets t row closedBy resolution ∧
        ∀ summary clock, ∃ error, (exec (closeConversation api.chat conversationId closedBy
          resolution summary false clock) t).1 = .error error) s acts := by
  intro done hdone conversationId row operationId operation hrow hmirror hoperation hpolicy
    closedBy resolution
  rcases run_rolesGiven api hfresh acts done hdone with ⟨hmirrored, hall⟩
  have hid : conversationId = operationId :=
    Option.some.inj ((hmirrored.linked conversationId row hrow).symm.trans hmirror)
  have hgiven : RolesGiven operation.participants := by
    apply hall conversationId row operation ⟨hrow, ?_⟩
    rw [hid]
    exact hoperation
  have hrefused : ∀ u : State, u.store.getOperation operationId = some operation →
      ¬ PolicyLets u row closedBy resolution := by
    intro u hthere hlets
    exact checkCloseAdmissible_operatorRatifies hgiven hpolicy _ _
      (hlets operationId operation hmirror hthere)
  refine ⟨hrefused _ hoperation, ?_⟩
  intro summary clock
  rcases hclose : exec (closeConversation api.chat conversationId closedBy resolution summary
    false clock) (run (systemStep api) s done) with ⟨error | result, after⟩
  · exact ⟨error, rfl⟩
  · exfalso
    rcases closeConversation_eq_ok.mp hclose with ⟨found, hfound, _, _, _, hhand⟩
    rcases closeByHand_eq_ok.mp hhand with ⟨gated, hgate, _⟩
    have hsame : found = row :=
      Option.some.inj ((requireClosable_eq_ok.mp hfound).1.symm.trans hrow)
    subst hsame
    apply hrefused _ _ (checkClosePolicy_eq_ok hgate).2
    rw [(registers_provision api.chat _ closedBy).getOperation]
    exact hoperation

/-! ## An operator who ratifies -/

/-- `alice` opens an inquiry under `operator_ratifies` and moves to close it, addressing
the operator, who ratifies her motion. -/
def ratifiedByOperator : List Act :=
  [.move (.openConversation "room" (openingOf .inquiry inquiry_ne_general
      (some [("close_policy", .str "operator_ratifies")])) (fun _ => 0) fun _ => 0),
    .move (.submitSpeech 1
      { speechOf "alice" .moveClose with addressedTo := some "operator" } fun _ => 1),
    .move (.submitSpeech 1
      { speechOf "operator" .ratify with repliesToV2EventId := some ⟨1, 1⟩ } fun _ => 2)]

theorem operator_cannot_help :
    Throughout (systemStep plainApi) (fun t => ∀ conversationId row operationId operation,
      t.conversations[conversationId]? = some row → row.v2OperationId = some operationId →
      t.store.getOperation operationId = some operation →
      operation.operationPolicy.closePolicy = .operatorRatifies →
      ∀ closedBy resolution, ¬ PolicyLets t row closedBy resolution ∧
        ∀ summary clock, ∃ error, (exec (closeConversation plainApi.chat conversationId
          closedBy resolution summary false clock) t).1 = .error error)
      emptyRoom ratifiedByOperator :=
  operator_ratifies_never_met plainApi ⟨rfl, rfl⟩ ratifiedByOperator

def OperatorRatified (store : Store) (operationId : Id) (operation : V2.Operation) : Prop :=
  PolicyEngine.isParticipant operation.participants "@operator" ∧
    "@operator" ∈ (PolicyEngine.closeRatifies store operationId
      (store.log operationId).zipIdx).map (·.1.actorId)

instance (store : Store) (operationId : Id) (operation : V2.Operation) :
    Decidable (OperatorRatified store operationId operation) :=
  inferInstanceAs (Decidable (_ ∧ _))

def RatifyMeetsGate (t : State) : Prop :=
  ∀ (conversationId : Id) (row : Conversation) (operationId : Id) (operation : V2.Operation),
    t.conversations[conversationId]? = some row → row.v2OperationId = some operationId →
    t.store.getOperation operationId = some operation →
    operation.operationPolicy.closePolicy = .operatorRatifies →
    OperatorRatified t.store operationId operation →
    ∀ resolution, PolicyLets t row row.openerActor resolution

/-- The operator has ratified `alice`'s motion, and she is refused. -/
theorem ratified_close_is_refused :
    ¬ Throughout (systemStep plainApi) RatifyMeetsGate emptyRoom ratifiedByOperator := by
  intro hmet
  let ratified := run (systemStep plainApi) emptyRoom ratifiedByOperator
  have hfound : ∃ row operation, ratified.conversations[1]? = some row ∧
      row.v2OperationId = some 1 ∧ ratified.store.getOperation 1 = some operation ∧
      operation.operationPolicy.closePolicy = .operatorRatifies ∧
      OperatorRatified ratified.store 1 operation := by
    refine ⟨_, _, rfl, rfl, rfl, rfl, ?_⟩
    decide
  rcases hfound with ⟨row, operation, hrow, hmirror, hoperation, hpolicy, hratified⟩
  have hlets := hmet _ List.prefix_rfl 1 row 1 operation hrow hmirror hoperation hpolicy
    hratified "answered"
  have hgiven := (run_rolesGiven plainApi ⟨rfl, rfl⟩ ratifiedByOperator _
    List.prefix_rfl).2 1 row operation ⟨hrow, hoperation⟩
  exact checkCloseAdmissible_operatorRatifies hgiven hpolicy _ _
    (hlets 1 operation hmirror hoperation)

end OpsCure.Chat
