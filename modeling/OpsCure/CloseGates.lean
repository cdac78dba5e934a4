/-
Who closes an operation whose close policy is `any_participant`: the ownership gate of
the conversation and the policy gate of the operation, composed.
-/
import OpsCure.Closing

namespace OpsCure.Chat

open Fallible Session Contract V2 RemoteTask

def Closes (config : Config) (s : State) (conversationId operationId : Id)
    (closedBy resolution : String) (summary : Option String) (clock : Clock) : Prop :=
  ∃ result after,
    exec (closeConversation config conversationId closedBy resolution summary false clock) s =
        (.ok result, after) ∧
      (∃ row, after.conversations[conversationId]? = some row ∧ row.state = .closed) ∧
      ∃ operation, after.store.getOperation operationId = some operation ∧
        operation.state = .closed

def ArtifactReady (operation : V2.Operation) (resolution : String) : Prop :=
  operation.operationPolicy.requiresArtifact →
    resolution ∉ PolicyEngine.nonSuccessResolutions → operation.artifacts ≠ []

/-- Under `any_participant` the policy engine asks for a participant, and for the
artifact when one is required; the events of the store do not matter. -/
theorem checkCloseAdmissible_anyParticipant {store : Store} {operationId : Id}
    {operation : V2.Operation} {closer resolution : String}
    (hpolicy : operation.operationPolicy.closePolicy = .anyParticipant) :
    PolicyEngine.checkCloseAdmissible store operationId operation (some closer)
        (some resolution) = .ok () ↔
      ArtifactReady operation resolution ∧
        PolicyEngine.isParticipant operation.participants closer := by
  simp only [PolicyEngine.checkCloseAdmissible, hpolicy, bind_eq_ok,
    PolicyEngine.checkArtifactGate, PolicyEngine.checkAnyParticipant, require_eq_ok,
    Option.all_some, decide_eq_true_eq, ArtifactReady]
  constructor
  · rintro ⟨_, hartifact, hcloser⟩
    exact ⟨hartifact, hcloser⟩
  · rintro ⟨hartifact, hcloser⟩
    exact ⟨⟨⟩, hartifact, hcloser⟩

theorem closeConversation_isOk_iff {config : Config} {s : State} {conversationId : Id}
    {closedBy resolution : String} {summary : Option String} {clock : Clock}
    {row : Conversation} (hrow : requireClosable s conversationId = .ok row) :
    (∃ result after, exec (closeConversation config conversationId closedBy resolution summary
        false clock) s = (.ok result, after)) ↔
      isResolutionAllowed row.kind resolution ∧ isCloser row closedBy ∧
        permits config s closedBy .conversationCloseOpener ∧
        PolicyLets (provision config s closedBy) row closedBy resolution ∧
        TaskSettled config s row ∧
        ∀ operationId, row.v2OperationId = some operationId →
          Closable s.store operationId resolution false := by
  have hprovided := registers_provision config s closedBy
  constructor
  · rintro ⟨result, after, hok⟩
    rcases closeConversation_eq_ok.1 hok with
      ⟨found, hfound, hresolution, hcloser, hpermitted, hsession⟩
    rw [hrow] at hfound
    cases hfound
    rcases closeByHand_eq_ok.1 hsession with ⟨gated, hpolicy, hsettled, hclose⟩
    rcases checkClosePolicy_eq_ok hpolicy with ⟨hgated, hlets⟩
    have hregisters := hprovided.trans hgated
    refine ⟨hresolution, hcloser, hpermitted, hlets, hsettled.of_tasks hregisters.tasks.symm, ?_⟩
    intro operationId hmirror
    exact ((closeSession_eq_ok hclose).2.2.2.2.1 operationId hmirror).of_getOperation
      (hregisters.getOperation operationId).symm
  · rintro ⟨hresolution, hcloser, hpermitted, hlets, hsettled, hclosable⟩
    rcases checkClosePolicy_isOk hlets with ⟨gated, hpolicy⟩
    have hregisters := hprovided.trans (checkClosePolicy_eq_ok hpolicy).1
    have hclose : ∃ result after, closeSession config gated conversationId row closedBy
        resolution summary false clock = .ok (result, after) := by
      apply closeSession_isOk_iff.2
      intro operationId hmirror
      exact (hclosable operationId hmirror).of_getOperation (hregisters.getOperation operationId)
    rcases hclose with ⟨result, after, hclose⟩
    refine ⟨result, after, closeConversation_eq_ok.2
      ⟨row, hrow, hresolution, hcloser, hpermitted, closeByHand_eq_ok.2 ?_⟩⟩
    exact ⟨gated, hpolicy, hsettled.of_tasks hregisters.tasks, hclose⟩

structure OpenOperation (s : State) (conversationId operationId : Id) (row : Conversation)
    (operation : V2.Operation) : Prop where
  conversation_found : s.conversations[conversationId]? = some row
  not_general : row.isGeneral = false
  conversation_open : row.state ≠ .closed
  mirrored : row.v2OperationId = some operationId
  operation_found : s.store.getOperation operationId = some operation
  operation_open : operation.state ≠ .closed

namespace OpenOperation

variable {s : State} {conversationId operationId : Id} {row : Conversation}
  {operation : V2.Operation}

theorem found (hopen : OpenOperation s conversationId operationId row operation) :
    requireClosable s conversationId = .ok row :=
  requireClosable_eq_ok.2
    ⟨hopen.conversation_found, hopen.not_general, hopen.conversation_open⟩

theorem admits_iff (hopen : OpenOperation s conversationId operationId row operation)
    (resolution : String) :
    (∀ other, row.v2OperationId = some other → Closable s.store other resolution false) ↔
      resolution ∈ allowedResolutions operation.kind := by
  constructor
  · intro hclosable
    rcases hclosable operationId hopen.mirrored with ⟨found, hfound, _, _, hallowed⟩
    rw [hopen.operation_found] at hfound
    cases hfound
    simpa using hallowed
  · intro hallowed other hother
    rw [hopen.mirrored] at hother
    cases hother
    refine ⟨operation, hopen.operation_found, hopen.operation_open, ?_, Or.inr hallowed⟩
    intro hgeneral
    rw [hgeneral] at hallowed
    simp [allowedResolutions] at hallowed

/-- The policy engine's part, under `any_participant`. -/
theorem policyLets_iff (hopen : OpenOperation s conversationId operationId row operation)
    (hpolicy : operation.operationPolicy.closePolicy = .anyParticipant) {config : Config}
    {closedBy resolution : String} :
    PolicyLets (provision config s closedBy) row closedBy resolution ↔
      ArtifactReady operation resolution ∧
        PolicyEngine.isParticipant operation.participants (withAt closedBy) := by
  have hprovided : (provision config s closedBy).store.getOperation operationId =
      some operation :=
    ((registers_provision config s closedBy).getOperation operationId).trans hopen.operation_found
  constructor
  · intro hlets
    exact (checkCloseAdmissible_anyParticipant hpolicy).mp
      (hlets operationId operation hopen.mirrored hprovided)
  · intro hready other found hother hfound
    rw [hopen.mirrored] at hother
    cases hother
    rw [hprovided] at hfound
    cases hfound
    exact (checkCloseAdmissible_anyParticipant hpolicy).mpr hready

theorem closes_iff_isOk (hopen : OpenOperation s conversationId operationId row operation)
    {config : Config} {closedBy resolution : String} {summary : Option String}
    {clock : Clock} :
    Closes config s conversationId operationId closedBy resolution summary clock ↔
      ∃ result after, exec (closeConversation config conversationId closedBy resolution
        summary false clock) s = (.ok result, after) := by
  constructor
  · rintro ⟨result, after, hok, _⟩
    exact ⟨result, after, hok⟩
  · rintro ⟨result, after, hok⟩
    refine ⟨result, after, hok, ?_⟩
    rcases closeConversation_eq_ok.1 hok with ⟨found, hfound, _, _, _, hsession⟩
    rw [hopen.found] at hfound
    cases hfound
    rcases closeByHand_eq_ok.1 hsession with ⟨gated, hgate, _, hclose⟩
    have hregisters :=
      (registers_provision config s closedBy).trans (checkClosePolicy_eq_ok hgate).1
    rcases closeSession_eq_ok hclose with ⟨_, hconversations, _, _, _, hkinds⟩
    refine ⟨⟨closedRow row closedBy resolution summary (clock 0), ?_, rfl⟩, ?_⟩
    · have hat := hopen.conversation_found
      rw [hconversations, hregisters.conversations]
      exact Table.getElem?_update_self hat
    · have hkind := hkinds operationId
      rw [Store.kindState, Store.kindState, hregisters.getOperation, hopen.operation_found] at hkind
      rcases Option.map_eq_some_iff.mp hkind with ⟨closed, hclosed, hstate⟩
      refine ⟨closed, hclosed, ?_⟩
      have hsecond := congrArg Prod.snd hstate
      simpa [closedKindState, hopen.mirrored] using hsecond

end OpenOperation

/-- Who closes an open `any_participant` operation by hand: a participant, if it is also
the opener or the owner, holds the close capability, brings a resolution of the kind,
with the artifact there when one is required, and no bound task pending. -/
theorem any_participant_close_iff {config : Config} {s : State}
    {conversationId operationId : Id} {row : Conversation} {operation : V2.Operation}
    {closedBy resolution : String} {summary : Option String} {clock : Clock}
    (hopen : OpenOperation s conversationId operationId row operation)
    (hpolicy : operation.operationPolicy.closePolicy = .anyParticipant) :
    Closes config s conversationId operationId closedBy resolution summary clock ↔
      PolicyEngine.isParticipant operation.participants (withAt closedBy) ∧
        isCloser row closedBy ∧
        permits config s closedBy .conversationCloseOpener ∧
        isResolutionAllowed row.kind resolution ∧
        resolution ∈ allowedResolutions operation.kind ∧
        ArtifactReady operation resolution ∧
        TaskSettled config s row := by
  rw [hopen.closes_iff_isOk, closeConversation_isOk_iff hopen.found,
    hopen.policyLets_iff hpolicy, hopen.admits_iff]
  constructor
  · rintro ⟨hresolution, hcloser, hpermitted, ⟨hartifact, hparticipant⟩, hsettled, hallowed⟩
    exact ⟨hparticipant, hcloser, hpermitted, hresolution, hallowed, hartifact, hsettled⟩
  · rintro ⟨hparticipant, hcloser, hpermitted, hresolution, hallowed, hartifact, hsettled⟩
    exact ⟨hresolution, hcloser, hpermitted, ⟨hartifact, hparticipant⟩, hsettled, hallowed⟩

/-! ## A participant who may not close -/

/-- The service of production, which asks the capability service. -/
def guardedConfig : Config := { plainConfig with authorizer := .capability }

/-- An inquiry of `alice`'s that any participant may close, after `bob` spoke in it. -/
def spokenRoom : State :=
  (exec (submitSpeech guardedConfig 1 (speechOf "bob" .claim) (fun _ => 0))
    (roomWith .inquiry inquiry_ne_general (some [("close_policy", .str "any_participant")]))).2

/-- `alice`, its opener, closes that inquiry. -/
theorem opener_closes_spokenRoom :
    Closes guardedConfig spokenRoom 1 1 "alice" "answered" none (fun _ => 0) := by
  have hopen : ∃ row operation, OpenOperation spokenRoom 1 1 row operation ∧
      operation.operationPolicy.closePolicy = .anyParticipant ∧
      PolicyEngine.isParticipant operation.participants (withAt "alice") ∧
      isCloser row "alice" ∧
      permits guardedConfig spokenRoom "alice" .conversationCloseOpener ∧
      isResolutionAllowed row.kind "answered" ∧
      "answered" ∈ allowedResolutions operation.kind ∧
      ArtifactReady operation "answered" ∧
      TaskSettled guardedConfig spokenRoom row := by
    refine ⟨_, _, ⟨rfl, rfl, by decide, rfl, rfl, by decide⟩, rfl, rfl, Or.inl rfl, rfl, rfl,
      by decide, ?_, ?_⟩
    · intro hrequired
      cases hrequired
    · intro taskId hbound
      cases hbound
  rcases hopen with ⟨row, operation, hopen, hpolicy, hgates⟩
  exact (any_participant_close_iff hopen hpolicy).mpr hgates

/-- `bob` takes part in it, holds the capability, brings a resolution of the kind, and is
turned away for being neither opener nor owner. -/
theorem participant_cannot_close : ∃ row operation,
    OpenOperation spokenRoom 1 1 row operation ∧
      operation.operationPolicy.closePolicy = .anyParticipant ∧
      PolicyEngine.isParticipant operation.participants (withAt "bob") ∧
      permits guardedConfig spokenRoom "bob" .conversationCloseOpener ∧
      isResolutionAllowed row.kind "answered" ∧
      "answered" ∈ allowedResolutions operation.kind ∧
      row.boundTaskId = none ∧
      (exec (closeConversation guardedConfig 1 "bob" "answered" none false (fun _ => 0))
        spokenRoom).1 = .error (.closerNotAuthorized "bob" "alice" (some "alice")) ∧
      ¬ Closes guardedConfig spokenRoom 1 1 "bob" "answered" none (fun _ => 0) := by
  refine ⟨_, _, ⟨rfl, rfl, by decide, rfl, rfl, by decide⟩, rfl, rfl, rfl, rfl, by decide, rfl,
    rfl, ?_⟩
  rintro ⟨result, after, hok, _⟩
  have habsurd := congrArg Prod.fst hok
  cases habsurd

end OpsCure.Chat
