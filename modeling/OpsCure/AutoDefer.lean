/-
The policy sweeper over runs.  It plans from the first thousand events of each log, and
posts in the name of a handle without its `@`s; where both see what its own output leaves,
it defers once for an addressee and its second tick has nothing to do.
-/
import OpsCure.SpeechFrame

namespace OpsCure.PolicySweeper

open Session Table Run Contract V2 OperationMirror Chat Api

/-! ## What a sweep plans -/

/-- The addressee of a plan, and the event it owes a reply. -/
def DeferPlan.key (plan : DeferPlan) : String × EventId :=
  (plan.handle, plan.trigger)

def seen (s : State) (operationId : Id) : List Event :=
  s.store.listEvents operationId 0 1000

def dueIn (s : State) (operationId : Id) : List (String × EventId) :=
  (seen s operationId).zipIdx.flatMap
    (overdue (s.store.listParticipants operationId) operationId (seen s operationId).length)

local instance : LawfulBEq (String × EventId) := inferInstance

def pending (s : State) (operationId : Id) : List DeferPlan :=
  (((dueIn s operationId).filter (· ∉ answered (seen s operationId))).eraseDups).map
    fun key => { conversationId := operationId, handle := key.1, trigger := key.2 }

variable {key : String × EventId} {s t : State} {operationId id : Id} {plan : DeferPlan}
  {config : Config} {clock : Clock} {api : ApiConfig}

theorem mem_overdue {participants : List Participant} {operationId maxSeq : Nat}
    {event : Event × Nat} :
    key ∈ overdue participants operationId maxSeq event ↔
      ∃ expected, event.1.payload.expectedResponse = some expected ∧
        expected.byRoundSeq.any (· ≤ maxSeq) ∧ key.1 ∈ expected.fromActorHandles ∧
        PolicyEngine.isParticipant participants key.1 ∧
        key.2 = { operation := operationId, index := event.2 } := by
  rcases key with ⟨handle, trigger⟩
  unfold overdue
  cases event.1.payload.expectedResponse with
  | none => simp
  | some expected =>
      by_cases hround : expected.byRoundSeq.any (· ≤ maxSeq)
      · simp only [hround, if_true, List.mem_map, List.mem_filter, Prod.mk.injEq,
          Option.some.injEq, exists_eq_left', true_and]
        constructor
        · rintro ⟨_, ⟨hasked, hjoined⟩, rfl, rfl⟩
          exact ⟨hasked, hjoined, rfl⟩
        · rintro ⟨hasked, hjoined, rfl⟩
          exact ⟨handle, ⟨hasked, hjoined⟩, rfl, rfl⟩
      · simp [hround]

theorem operation_of_mem_dueIn (hkey : key ∈ dueIn s operationId) :
    key.2.operation = operationId := by
  rcases List.mem_flatMap.mp hkey with ⟨event, _, hdue⟩
  rcases mem_overdue.1 hdue with ⟨_, _, _, _, _, htrigger⟩
  rw [htrigger]

theorem mem_pending :
    plan ∈ pending s operationId ↔ plan.conversationId = operationId ∧
      plan.key ∈ dueIn s operationId ∧ plan.key ∉ answered (seen s operationId) := by
  simp only [pending, List.mem_map, List.mem_eraseDups, List.mem_filter, decide_eq_true_eq]
  constructor
  · rintro ⟨key, ⟨hdue, hnew⟩, rfl⟩
    exact ⟨rfl, hdue, hnew⟩
  · rintro ⟨rfl, hdue, hnew⟩
    exact ⟨plan.key, ⟨hdue, hnew⟩, rfl⟩

theorem nodup_pending (s : State) (operationId : Id) :
    ((pending s operationId).map DeferPlan.key).Nodup := by
  rw [pending, List.map_map]
  have hkeys : DeferPlan.key ∘ (fun key : String × EventId =>
      ({ conversationId := operationId, handle := key.1, trigger := key.2 } : DeferPlan)) =
      id := rfl
  rw [hkeys, List.map_id]
  exact nodup_eraseDups _

theorem planDefersForOp_eq (hmirrored : Mirrored s) (hlt : operationId < s.conversations.length) :
    planDefersForOp s operationId = some (pending s operationId) := by
  have hrow := List.getElem?_eq_getElem hlt
  have hselected : selectWhere (fun row => row.v2OperationId = some operationId)
      s.conversations = [(s.conversations[operationId], operationId)] := by
    apply selectWhere_unique hrow
    · exact decide_eq_true (hmirrored.linked operationId _ hrow)
    · intro other found hfound hkeep
      have hlinked := hmirrored.linked other found hfound
      rw [of_decide_eq_true hkeep] at hlinked
      exact (Option.some.inj hlinked).symm
  rw [planDefersForOp, hselected]
  rfl

def sweptOperations (s : State) : List (V2.Operation × Nat) :=
  selectWhere (fun row => row.state ≠ .closed) s.store.operations

theorem planDefers_eq (hmirrored : Mirrored s) :
    planDefers s = some ((sweptOperations s).flatMap fun row => pending s row.2) := by
  have hplans : (sweptOperations s).mapM (fun row => planDefersForOp s row.2) =
      some ((sweptOperations s).map fun row => pending s row.2) := by
    have hall : ∀ rows : List (V2.Operation × Nat),
        (∀ row ∈ rows, row.2 < s.conversations.length) →
        rows.mapM (fun row => planDefersForOp s row.2) =
          some (rows.map fun row => pending s row.2) := by
      intro rows
      induction rows with
      | nil => exact fun _ => rfl
      | cons row rows ih =>
          intro hrows
          rw [List.mapM_cons, planDefersForOp_eq hmirrored (hrows row List.mem_cons_self),
            ih fun other hother => hrows other (List.mem_cons_of_mem row hother)]
          rfl
    apply hall
    intro row hrow
    rw [hmirrored.lengths]
    exact (List.getElem?_eq_some_iff.mp (mem_selectWhere.1 hrow).1).1
  rw [planDefers]
  change ((sweptOperations s).mapM (fun row => planDefersForOp s row.2)).bind
    (fun plans => some plans.flatten) = _
  rw [hplans, Option.bind_some, List.flatMap]

theorem mem_planDefers (hmirrored : Mirrored s) :
    plan ∈ (planDefers s).getD [] ↔ ∃ operation,
      s.store.getOperation plan.conversationId = some operation ∧ operation.state ≠ .closed ∧
      plan.key ∈ dueIn s plan.conversationId ∧
      plan.key ∉ answered (seen s plan.conversationId) := by
  rw [planDefers_eq hmirrored, Option.getD_some, List.mem_flatMap]
  constructor
  · rintro ⟨⟨operation, id⟩, hrow, hplan⟩
    rcases mem_selectWhere.1 hrow with ⟨hoperation, hopen⟩
    rcases mem_pending.1 hplan with ⟨rfl, hdue, hnew⟩
    exact ⟨operation, hoperation, of_decide_eq_true hopen, hdue, hnew⟩
  · rintro ⟨operation, hoperation, hopen, hdue, hnew⟩
    refine ⟨(operation, plan.conversationId), ?_, mem_pending.2 ⟨rfl, hdue, hnew⟩⟩
    exact mem_selectWhere.2 ⟨hoperation, decide_eq_true hopen⟩

theorem nodup_planDefers (hmirrored : Mirrored s) :
    (((planDefers s).getD []).map DeferPlan.key).Nodup := by
  rw [planDefers_eq hmirrored, Option.getD_some, List.map_flatMap]
  apply List.nodup_flatMap.mpr
  constructor
  · intro row _
    exact nodup_pending s row.2
  · apply (pairwise_selectWhere _ _).imp
    intro left right hne key hleft hright
    rcases List.mem_map.mp hleft with ⟨plan, hplan, rfl⟩
    rcases List.mem_map.mp hright with ⟨other, hother, hsame⟩
    have hthis := operation_of_mem_dueIn (mem_pending.1 hplan).2.1
    have hthat := operation_of_mem_dueIn (mem_pending.1 hother).2.1
    rw [hsame] at hthat
    exact hne (hthis.symm.trans hthat)

/-! ## What a defer leaves -/

structure DeferOf (plan : DeferPlan) (event : Event) : Prop where
  author : event.actorId = handleOrSystem (some (deferRequest plan).actorName)
  kind : event.kind = speechEventKind .defer
  parent : event.repliesToEventId = some plan.trigger

theorem deferred_log {after : State} {eventId : Option EventId} {row : Conversation}
    {effective : Option String} {gated posted : State}
    (hspoken : Spoken config s plan.conversationId (deferRequest plan) clock eventId after row
      effective gated posted) (id : Id) :
    ∃ defers warnings, after.store.log id = s.store.log id ++ (defers ++ warnings) ∧
      (defers ≠ [] ↔ row.v2OperationId = some id) ∧
      (∀ event ∈ defers, DeferOf plan event) ∧
      ∀ event ∈ warnings, event.kind = eventConversationOverSpeech := by
  rcases hspoken.log with ⟨expected, hlogs⟩
  rcases hlogs id with ⟨warnings, hlog, hwarnings⟩
  refine ⟨_, warnings, hlog, ?_, ?_, hwarnings⟩
  · by_cases hmirror : row.v2OperationId = some id
    · simp [hmirror]
    · simp [hmirror]
  · intro event hevent
    split_ifs at hevent
    · rw [List.mem_singleton.mp hevent]
      exact ⟨rfl, rfl, rfl⟩
    · cases hevent

/-! ## Answers -/

theorem mem_answered {events : List Event} :
    key ∈ answered events ↔ ∃ event ∈ events, event.actorId = key.1 ∧
      event.repliesToEventId = some key.2 ∧ (speechAction event.kind).isSome := by
  rcases key with ⟨handle, trigger⟩
  simp only [answered, List.mem_filterMap, Option.bind_eq_bind, Option.bind_eq_some_iff,
    Option.isSome_iff_exists]
  constructor
  · rintro ⟨event, hevent, parent, hparent, action, haction, hkey⟩
    cases hkey
    exact ⟨event, hevent, rfl, hparent, action, haction⟩
  · rintro ⟨event, hevent, rfl, hparent, action, haction⟩
    exact ⟨event, hevent, trigger, hparent, action, haction, rfl⟩

theorem answered_append (events more : List Event) :
    answered (events ++ more) = answered events ++ answered more :=
  List.filterMap_append

theorem answered_of_grown {before after : V2.Operation} (hgrown : Grown before after)
    (hkey : key ∈ answered before.events) : key ∈ answered after.events := by
  rcases mem_answered.1 hkey with ⟨event, hevent, hactor, hparent, hspeech⟩
  rcases List.getElem?_of_mem hevent with ⟨index, hindex⟩
  have hreply : replyAt after.events index = some key.2 := by
    apply hgrown.replies
    rw [replyAt, hindex]
    exact hparent
  rw [replyAt, Option.bind_eq_some_iff] at hreply
  rcases hreply with ⟨later, hlater, hparent'⟩
  have hsaid : later.said = event.said := by
    rcases hgrown.said with ⟨more, hmore⟩
    have hplace := congrArg (fun said => said[index]?) hmore
    have hlt : index < (before.events.map Event.said).length := by
      rw [List.length_map]
      exact (List.getElem?_eq_some_iff.mp hindex).1
    simp only [List.getElem?_append_left hlt, List.getElem?_map, hindex, hlater,
      Option.map_some, Option.some.injEq] at hplace
    exact hplace.symm
  have hsameActor : later.actorId = event.actorId := congrArg Prod.fst hsaid
  have hsameKind : later.kind = event.kind := congrArg (fun said => said.2.1) hsaid
  refine mem_answered.2 ⟨later, List.mem_of_getElem? hlater, ?_, hparent', ?_⟩
  · rw [hsameActor, hactor]
  · rw [hsameKind]
    exact hspeech

theorem answered_of_descends (hmirrored : Mirrored s) (hdescends : Descends s t)
    (hkey : key ∈ answered (s.store.log id)) : key ∈ answered (t.store.log id) := by
  cases hoperation : s.store.getOperation id with
  | none =>
      rw [Store.log, hoperation] at hkey
      cases hkey
  | some operation =>
      rcases hdescends.operation hmirrored hoperation with ⟨after, hafter, hgrown⟩
      rw [Store.log_eq_of_getOperation hoperation] at hkey
      rw [Store.log_eq_of_getOperation hafter]
      exact answered_of_grown hgrown hkey

theorem answered_of_emits (hemits : Emits s t) (hkey : key ∈ answered (s.store.log id)) :
    key ∈ answered (t.store.log id) := by
  rcases hemits.extends_store.logs id with ⟨more, hmore⟩
  rw [← hmore, answered_append]
  exact List.mem_append_left _ hkey

theorem speechAction_overSpeech : speechAction eventConversationOverSpeech = none := by
  decide

theorem mem_answered_deferred {defers warnings : List Event}
    (hdefers : ∀ event ∈ defers, DeferOf plan event)
    (hwarnings : ∀ event ∈ warnings, event.kind = eventConversationOverSpeech) :
    key ∈ answered (defers ++ warnings) ↔ defers ≠ [] ∧
      key = (handleOrSystem (some (deferRequest plan).actorName), plan.trigger) := by
  have hquiet : answered warnings = [] := by
    apply List.eq_nil_iff_forall_not_mem.mpr
    intro other hother
    rcases mem_answered.1 hother with ⟨event, hevent, _, _, hspeech⟩
    rw [hwarnings event hevent, speechAction_overSpeech] at hspeech
    cases hspeech
  rw [answered_append, hquiet, List.append_nil, mem_answered]
  constructor
  · rintro ⟨event, hevent, hactor, hparent, _⟩
    have hdefer := hdefers event hevent
    refine ⟨List.ne_nil_of_mem hevent, Prod.ext ?_ ?_⟩
    · exact hactor.symm.trans hdefer.author
    · exact Option.some.inj (hparent.symm.trans hdefer.parent)
  · rintro ⟨hsome, rfl⟩
    rcases List.exists_mem_of_ne_nil defers hsome with ⟨event, hevent⟩
    have hdefer := hdefers event hevent
    refine ⟨event, hevent, hdefer.author, hdefer.parent, ?_⟩
    rw [hdefer.kind, speechAction_speechEventKind]
    rfl

/-! ## Which defers are recorded -/

/-- The name a defer on behalf of a handle is posted under: the handle without its `@`s. -/
def posterOf (handle : String) : String :=
  String.ofList (handle.toList.dropWhile (· = '@'))

def Passes (config : Config) (s : State) (plan : DeferPlan) : Prop :=
  posterOf plan.handle ≠ "" ∧ ∃ row effective,
    SpeechPasses config s plan.conversationId (deferRequest plan) row effective

/-- Whether `_emit_defer` lands its defer. -/
def lands (config : Config) (s : State) (plan : DeferPlan) (clock : Clock) : Bool :=
  posterOf plan.handle ≠ "" ∧ (exec (submitSpeech config plan.conversationId
    (deferRequest plan) clock) s).1.isOk

theorem emitDefer_cases (config : Config) (plan : DeferPlan) (clock : Clock) (s : State) :
    (¬ Passes config s plan ∧ lands config s plan clock = false ∧
      Registers s (exec (emitDefer config plan clock) s).2) ∨
    Passes config s plan ∧ lands config s plan clock = true ∧
      ∃ eventId row effective gated posted,
        Spoken config s plan.conversationId (deferRequest plan) clock eventId
          (exec (emitDefer config plan clock) s).2 row effective gated posted := by
  by_cases hname : posterOf plan.handle = ""
  · left
    have hrequest : (deferRequest plan).actorName = "" := hname
    rw [emitDefer, if_pos hrequest]
    refine ⟨fun hpasses => hpasses.1 hname, ?_, .refl s⟩
    apply decide_eq_false
    exact fun hlands => hlands.1 hname
  · have hrequest : (deferRequest plan).actorName ≠ "" := hname
    rw [emitDefer, if_neg hrequest, exec_attempt]
    rcases submitSpeech_cases config plan.conversationId (deferRequest plan) clock s with
      ⟨hrefused, error, hexec⟩ | ⟨eventId, after, row, effective, gated, posted, hspoken, hexec⟩
    · left
      rw [hexec, lands, hexec]
      refine ⟨fun hpasses => hrefused hpasses.2, ?_, registers_provision config s _⟩
      apply decide_eq_false
      rintro ⟨_, hok⟩
      cases hok
    · right
      rw [hexec, lands, hexec]
      refine ⟨⟨hname, row, effective, hspoken.passes⟩, ?_, eventId, row, effective, gated,
        posted, hspoken⟩
      exact decide_eq_true ⟨hname, rfl⟩

theorem lands_iff : lands config s plan clock ↔ Passes config s plan := by
  rcases emitDefer_cases config plan clock s with ⟨hrefused, hlost, _⟩ | ⟨hpasses, hlands, _⟩
  · rw [hlost]
    exact iff_of_false Bool.false_ne_true hrefused
  · exact iff_of_true hlands hpasses

theorem emitDefer_emits (config : Config) (plan : DeferPlan) (clock : Clock) (s : State) :
    Emits s (exec (emitDefer config plan clock) s).2 := by
  rcases emitDefer_cases config plan clock s with
    ⟨_, _, hregisters⟩ | ⟨_, _, eventId, row, effective, gated, posted, hspoken⟩
  · exact .of_registers hregisters
  · exact hspoken.emits

theorem handleOrSystem_of_ne {name : String} (hname : name ≠ "") :
    handleOrSystem (some name) = withAt name := by
  have hkept : (some name).filter (· ≠ "") = some name := by
    rw [Option.filter_some, if_pos (decide_eq_true hname)]
  rw [handleOrSystem, normalizeHandle, hkept]
  rfl

theorem answered_emitDefer (hmirrored : Mirrored s) :
    key ∈ answered ((exec (emitDefer config plan clock) s).2.store.log id) ↔
      key ∈ answered (s.store.log id) ∨ Passes config s plan ∧ plan.conversationId = id ∧
        key = (withAt (posterOf plan.handle), plan.trigger) := by
  rcases emitDefer_cases config plan clock s with
    ⟨hrefused, _, hregisters⟩ | ⟨hpasses, _, eventId, row, effective, gated, posted, hspoken⟩
  · rw [Store.log_congr hregisters.operations]
    constructor
    · exact Or.inl
    · exact fun hkey => hkey.resolve_right fun hthis => hrefused hthis.1
  · rcases deferred_log hspoken id with
      ⟨defers, warnings, hlog, hsome, hdefers, hwarnings⟩
    have hmirror : row.v2OperationId = some id ↔ plan.conversationId = id := by
      rw [hmirrored.linked _ _ hspoken.passes.found, Option.some.injEq]
    have hposter : handleOrSystem (some (deferRequest plan).actorName) =
        withAt (posterOf plan.handle) := handleOrSystem_of_ne hpasses.1
    rw [hlog, answered_append, List.mem_append, mem_answered_deferred hdefers hwarnings, hsome,
      hmirror, hposter]
    simp only [hpasses, true_and]

/-! ## Refusals last -/

theorem permits_of_emits (hemits : Emits s t) {name : String}
    (hpermits : permits config t name .speechSubmit) : permits config s name .speechSubmit := by
  unfold permits at hpermits ⊢
  cases hauthorizer : config.authorizer with
  | unwired => rfl
  | actor =>
      rw [hauthorizer] at hpermits
      exact hpermits
  | capability =>
      rw [hauthorizer] at hpermits
      simp only [provision, hauthorizer, actorCan] at hpermits ⊢
      cases hknown : s.store.getActorByHandle (withAt name) with
      | some =>
          have hlater := Store.getActorByHandle_of_prefix hemits.extends_store.actors hknown
          rw [Store.ensureActorByHandle, hlater] at hpermits
          rw [Store.ensureActorByHandle, hknown]
          simpa only [hlater, hknown] using hpermits
      | none =>
          -- a new actor has the defaults of its kind, and may speak
          have hnew : (s.store.ensureActorByHandle (withAt name) .ai).getActorByHandle
              (withAt name) = some
                { handle := withAt name, displayName := withAt name, kind := .ai,
                  capabilities := [] } := by
            have habsent : s.store.actors.find? (·.handle = withAt name) = none := hknown
            rw [Store.ensureActorByHandle, hknown]
            simp [Store.getActorByHandle, List.find?_append, habsent]
          rw [hnew]
          change decide (Capability.speechSubmit ∈ defaultCapabilitiesAi) = true
          decide

theorem checkMaxRounds_of_prefix {before after : Store} {policy : OperationPolicy}
    (hlog : before.log operationId <+: after.log operationId)
    (hok : PolicyEngine.checkMaxRounds after operationId policy = .ok ()) :
    PolicyEngine.checkMaxRounds before operationId policy = .ok () := by
  rw [PolicyEngine.checkMaxRounds_eq_ok_iff] at hok ⊢
  intro maxRounds hmaxRounds
  refine lt_of_le_of_lt ?_ (hok maxRounds hmaxRounds)
  exact hlog.sublist.countP_le

theorem checkSpeechPolicy_defer {row : Conversation} {request : SpeechRequest}
    (hdefer : request.kind = .defer) :
    (∃ gated, checkSpeechPolicy s row request = .ok gated) ↔
      ∀ operationId operation, row.v2OperationId = some operationId →
        s.store.getOperation operationId = some operation →
        PolicyEngine.checkMaxRounds s.store operationId operation.operationPolicy = .ok () := by
  constructor
  · rintro ⟨gated, hok⟩ operationId operation hmirror hoperation
    have hspeech := (checkSpeechPolicy_eq_ok hok).2 operationId operation hmirror hoperation
    exact (PolicyEngine.checkSpeechAdmissible_eq_ok_iff.1 hspeech).1
  · intro hrounds
    have hkind : PolicyEngine.checkReplyKind s.store request.kind request.repliesToV2EventId =
        .ok () := by
      rw [PolicyEngine.checkReplyKind, hdefer]
      rfl
    unfold checkSpeechPolicy
    cases hmirror : row.v2OperationId with
    | none => exact ⟨s, rfl⟩
    | some operationId =>
        cases hoperation : s.store.getOperation operationId with
        | none => exact ⟨s, by simp only [hoperation]⟩
        | some operation =>
            have hthis := hrounds operationId operation hmirror hoperation
            have hspeech : PolicyEngine.checkSpeechAdmissible s.store operationId operation
                request.kind request.repliesToV2EventId = .ok () :=
              PolicyEngine.checkSpeechAdmissible_eq_ok_iff.2 ⟨hthis, hkind⟩
            rw [hdefer] at hspeech
            refine ⟨s, ?_⟩
            simp only [hoperation, hdefer, hspeech, checkMembership]
            rfl

theorem passes_of_emits (hemits : Emits s t) (hmirrored : Mirrored s)
    (htrigger : (s.store.getEvent plan.trigger).isSome) (hpasses : Passes config t plan) :
    Passes config s plan := by
  rcases hpasses with ⟨hname, row, effective, hpasses⟩
  rcases hemits.charters.row hpasses.found with ⟨old, hold, hsame⟩
  have hstate : row.state = old.state := congrArg Prod.fst hsame
  have hmirror : row.v2OperationId = old.v2OperationId :=
    congrArg (fun charter => charter.2.2.1) hsame
  have hlinked := hmirrored.linked _ _ hold
  have hlt := (List.getElem?_eq_some_iff.mp hold).1
  rcases hmirrored.mirror hlt with ⟨found, operation, hfound⟩
  refine ⟨hname, old, effective, ?_⟩
  constructor
  · exact permits_of_emits hemits hpasses.permitted
  · exact hold
  · rw [← hstate]
    exact hpasses.opened
  · exact hpasses.addressed
  · rfl
  · exact hpasses.expected
  · rw [checkSpeechPolicy_defer rfl]
    intro operationId before hid hbefore
    rw [(registers_provision _ _ _).getOperation] at hbefore
    rcases hemits.grows.getOperation hbefore with ⟨joined, more, hafter⟩
    have hrounds := (checkSpeechPolicy_defer rfl).mp hpasses.policy operationId
      (before.extend joined more) (hmirror.trans hid)
    rw [(registers_provision _ _ _).getOperation] at hrounds
    apply checkMaxRounds_of_prefix _ (hrounds hafter)
    rw [Store.log_congr (registers_provision _ _ _).operations,
      Store.log_congr (registers_provision _ _ _).operations]
    exact hemits.extends_store.logs operationId
  · intro operationId hid
    rw [hlinked] at hid
    cases hid
    refine ⟨?_, ?_⟩
    · rw [hfound.operation]
      rfl
    · exact htrigger

/-! ## The sweeper among other acts -/

/-- The chat service and its sweeper: the defers the tick under way has still to post, and
those it has recorded so far. -/
structure Sweeper where
  chat : State
  queue : List DeferPlan
  recorded : List DeferPlan

def Sweeper.of (s : State) : Sweeper := ⟨s, [], []⟩

/-- What happens next: an act of somebody else, the reading a tick starts with, or the
post of the next defer it has planned. -/
inductive SweeperAct where
  | other (act : Act)
  | tick
  | emit (clock : Clock)

def recordedBy (config : Config) (sw : Sweeper) : SweeperAct → List DeferPlan
  | .emit clock => (sw.queue.take 1).filter fun plan => lands config sw.chat plan clock
  | _ => []

def sweeperStep (api : ApiConfig) (sw : Sweeper) (next : SweeperAct) : Sweeper :=
  match next with
  | .other act => { sw with chat := systemStep api sw.chat act }
  | .tick => { sw with queue := (planDefers sw.chat).getD [] }
  | .emit clock =>
      match sw.queue with
      | [] => sw
      | plan :: rest =>
          { chat := (exec (emitDefer api.chat plan clock) sw.chat).2
            queue := rest
            recorded := sw.recorded ++ recordedBy api.chat sw next }

def tickOf (clocks : List Clock) : List SweeperAct :=
  .tick :: clocks.map .emit

/-! ## What a tick has to see -/

/-- An addressee is due in an open operation: a round an event set for its reply has
passed. -/
def OpenDue (s : State) (key : String × EventId) : Prop :=
  ∃ operation, s.store.getOperation key.2.operation = some operation ∧
    operation.state ≠ .closed ∧ key ∈ dueIn s key.2.operation

/-- Whether an addressee has replied to an event, by the whole log. -/
def Answered (s : State) (key : String × EventId) : Prop :=
  key ∈ answered (s.store.log key.2.operation)

/-- A tick sees what it needs: of those who are due, everyone who has replied has a reply
among the events it looks at, and everyone else has a handle a defer can be posted under. -/
structure Sees (s : State) : Prop where
  shown : ∀ key, OpenDue s key → Answered s key → key ∈ answered (seen s key.2.operation)
  named : ∀ key, OpenDue s key → ¬ Answered s key → posterOf key.1 ≠ "" →
    withAt (posterOf key.1) = key.1

theorem sees_of_dueIn (hdue : ∀ id < s.store.operations.length, ∀ key ∈ dueIn s id,
      (key ∈ answered (s.store.log id) → key ∈ answered (seen s id)) ∧
        (posterOf key.1 ≠ "" → withAt (posterOf key.1) = key.1)) : Sees s where
  shown := by
    rintro key ⟨operation, hoperation, _, hkey⟩
    exact (hdue _ (List.getElem?_eq_some_iff.mp hoperation).1 key hkey).1
  named := by
    rintro key ⟨operation, hoperation, _, hkey⟩ _
    exact (hdue _ (List.getElem?_eq_some_iff.mp hoperation).1 key hkey).2

/-- Nobody falls due from `s` to `t` without replying. -/
def NoneFallsDue (s t : State) : Prop :=
  ∀ key, OpenDue t key → ¬ Answered t key → OpenDue s key

/-- What keeps a tick from deferring for somebody who has replied: it sees what it needs,
and until it is through nobody it defers for replies. -/
def Undisturbed (api : ApiConfig) (sw : Sweeper) : SweeperAct → Prop
  | .other act => ∀ plan ∈ sw.queue, ¬ Answered (systemStep api sw.chat act) plan.key
  | .tick => Sees sw.chat
  | .emit _ => True

theorem trigger_of_mem_dueIn (hkey : key ∈ dueIn s operationId) :
    (s.store.getEvent key.2).isSome := by
  rcases List.mem_flatMap.mp hkey with ⟨⟨event, index⟩, hevent, hdue⟩
  rcases mem_overdue.1 hdue with ⟨_, _, _, _, _, htrigger⟩
  have hlt : index < (seen s operationId).length := by
    have hindex := (List.mem_zipIdx hevent).2.1
    rwa [Nat.zero_add] at hindex
  have hshort : (seen s operationId).length ≤ (s.store.log operationId).length := by
    rw [seen, Store.listEvents, List.drop_zero]
    exact List.length_take_le' _ _
  rw [htrigger, Store.getEvent, List.getElem?_eq_getElem (hlt.trans_le hshort)]
  rfl

theorem answered_seen (hkey : key ∈ answered (seen s key.2.operation)) : Answered s key := by
  rcases mem_answered.1 hkey with ⟨event, hevent, hthis⟩
  rw [seen, Store.listEvents, List.drop_zero] at hevent
  exact mem_answered.2 ⟨event, List.mem_of_mem_take hevent, hthis⟩

/-- A plan as a sweep makes it: of an event that is there, in that event's operation. -/
structure WellMade (s : State) (plan : DeferPlan) : Prop where
  home : plan.conversationId = plan.trigger.operation
  trigger : (s.store.getEvent plan.trigger).isSome

theorem WellMade.of_emits (hmade : WellMade s plan) (hemits : Emits s t) : WellMade t plan where
  home := hmade.home
  trigger := by
    rcases Option.isSome_iff_exists.mp hmade.trigger with ⟨event, hevent⟩
    rw [hemits.extends_store.getEvent hevent]
    rfl

theorem mem_planDefers_of_sees (hmirrored : Mirrored s) (hsees : Sees s) :
    plan ∈ (planDefers s).getD [] ↔
      WellMade s plan ∧ OpenDue s plan.key ∧ ¬ Answered s plan.key := by
  rw [mem_planDefers hmirrored]
  constructor
  · rintro ⟨operation, hoperation, hopen, hdue, hnew⟩
    have hhome := operation_of_mem_dueIn hdue
    have hopenDue : OpenDue s plan.key := by
      rw [OpenDue, hhome]
      exact ⟨operation, hoperation, hopen, hdue⟩
    refine ⟨⟨hhome.symm, trigger_of_mem_dueIn hdue⟩, hopenDue, ?_⟩
    intro hanswered
    apply hnew
    rw [← hhome]
    exact hsees.shown plan.key hopenDue hanswered
  · rintro ⟨hmade, ⟨operation, hoperation, hopen, hdue⟩, hnew⟩
    rw [hmade.home]
    exact ⟨operation, hoperation, hopen, hdue, fun hseen => hnew (answered_seen hseen)⟩

/-! ## What an emission does to a key -/

theorem answered_emit (hmirrored : Mirrored s) (hmade : WellMade s plan)
    (hnamed : posterOf plan.handle ≠ "" → withAt (posterOf plan.handle) = plan.handle) :
    Answered (exec (emitDefer config plan clock) s).2 key ↔
      Answered s key ∨ Passes config s plan ∧ key = plan.key := by
  rw [Answered, answered_emitDefer hmirrored, Answered]
  apply or_congr_right
  apply and_congr_right
  intro hpasses
  rw [hnamed hpasses.1]
  constructor
  · exact fun hkey => hkey.2
  · rintro rfl
    exact ⟨hmade.home, rfl⟩

/-- What holds of a sweeper in an undisturbed run. -/
structure Sound (sw : Sweeper) : Prop where
  mirrored : Mirrored sw.chat
  made : ∀ plan ∈ sw.queue, WellMade sw.chat plan
  named : ∀ plan ∈ sw.queue, posterOf plan.handle ≠ "" →
    withAt (posterOf plan.handle) = plan.handle
  fresh : ∀ plan ∈ sw.queue, ¬ Answered sw.chat plan.key
  once : (sw.queue.map DeferPlan.key).Nodup
  recorded_once : (sw.recorded.map DeferPlan.key).Nodup
  recorded_answered : ∀ plan ∈ sw.recorded, Answered sw.chat plan.key

theorem Sound.of_fresh (hfresh : Fresh s) : Sound (Sweeper.of s) where
  mirrored := .of_fresh hfresh
  made := by
    intro plan hplan
    cases hplan
  named := by
    intro plan hplan
    cases hplan
  fresh := by
    intro plan hplan
    cases hplan
  once := List.nodup_nil
  recorded_once := List.nodup_nil
  recorded_answered := by
    intro plan hplan
    cases hplan

theorem systemStep_mirrored (api : ApiConfig) (hmirrored : Mirrored s) (act : Act) :
    Mirrored (systemStep api s act) ∧ Descends s (systemStep api s act) := by
  have hkept : Mirrored (systemStep api s act) ∧ Descends s (systemStep api s act) := by
    apply (systemStep_writes api s act).keeps (P := fun t => Mirrored t ∧ Descends s t)
      ⟨hmirrored, .refl s⟩
    rintro t u ⟨ht, hdescends⟩ hwrite
    exact ⟨hwrite.mirrored ht, hdescends.trans (hwrite.descends ht)⟩
  exact hkept

variable {sw : Sweeper}

theorem Sound.other (hsound : Sound sw) {act : Act} (hquiet : Undisturbed api sw (.other act)) :
    Sound (sweeperStep api sw (.other act)) := by
  rcases systemStep_mirrored api hsound.mirrored act with ⟨hmirrored, hdescends⟩
  constructor
  · exact hmirrored
  · intro plan hplan
    have hmade := hsound.made plan hplan
    refine ⟨hmade.home, getEvent_of_grown ?_ hmade.trigger⟩
    exact fun _ _ hrow => hdescends.operation hsound.mirrored hrow
  · exact hsound.named
  · exact hquiet
  · exact hsound.once
  · exact hsound.recorded_once
  · intro plan hplan
    exact answered_of_descends hsound.mirrored hdescends (hsound.recorded_answered plan hplan)

theorem Sound.tick (hsound : Sound sw) (hsees : Sees sw.chat) :
    Sound (sweeperStep api sw .tick) := by
  have hplanned : ∀ plan, plan ∈ (planDefers sw.chat).getD [] ↔
      WellMade sw.chat plan ∧ OpenDue sw.chat plan.key ∧ ¬ Answered sw.chat plan.key :=
    fun _ => mem_planDefers_of_sees hsound.mirrored hsees
  constructor
  · exact hsound.mirrored
  · intro plan hplan
    exact ((hplanned plan).mp hplan).1
  · intro plan hplan
    rcases (hplanned plan).mp hplan with ⟨_, hdue, hnew⟩
    exact hsees.named plan.key hdue hnew
  · intro plan hplan
    exact ((hplanned plan).mp hplan).2.2
  · exact nodup_planDefers hsound.mirrored
  · exact hsound.recorded_once
  · exact hsound.recorded_answered

theorem recordedBy_emit (config : Config) (s : State) (plan : DeferPlan)
    (rest recorded : List DeferPlan) (clock : Clock) :
    (Passes config s plan ∧
      recordedBy config ⟨s, plan :: rest, recorded⟩ (.emit clock) = [plan]) ∨
    ¬ Passes config s plan ∧
      recordedBy config ⟨s, plan :: rest, recorded⟩ (.emit clock) = [] := by
  have hfirst : recordedBy config ⟨s, plan :: rest, recorded⟩ (.emit clock) =
      [plan].filter fun plan => lands config s plan clock := rfl
  have hlands : lands config s plan clock ↔ Passes config s plan := lands_iff
  rw [hfirst, List.filter_singleton, ← hlands]
  cases lands config s plan clock <;> simp

theorem Sound.emit (hsound : Sound sw) (api : ApiConfig) (clock : Clock) :
    Sound (sweeperStep api sw (.emit clock)) := by
  rcases sw with ⟨s, queue, recorded⟩
  cases queue with
  | nil => exact hsound
  | cons plan rest =>
      have hmade := hsound.made plan List.mem_cons_self
      have hnamed := hsound.named plan List.mem_cons_self
      have hnew := hsound.fresh plan List.mem_cons_self
      have hemits := emitDefer_emits api.chat plan clock s
      have honce := List.nodup_cons.mp hsound.once
      have hanswers : ∀ key, Answered (exec (emitDefer api.chat plan clock) s).2 key ↔
          Answered s key ∨ Passes api.chat s plan ∧ key = plan.key :=
        fun key => answered_emit hsound.mirrored hmade hnamed
      have hrecorded := recordedBy_emit api.chat s plan rest recorded clock
      constructor
      · exact hemits.mirrored hsound.mirrored
      · intro other hother
        exact (hsound.made other (List.mem_cons_of_mem plan hother)).of_emits hemits
      · intro other hother
        exact hsound.named other (List.mem_cons_of_mem plan hother)
      · intro other hother hanswered
        rcases (hanswers other.key).mp hanswered with hold | ⟨_, hsame⟩
        · exact hsound.fresh other (List.mem_cons_of_mem plan hother) hold
        · apply honce.1
          rw [← hsame]
          exact List.mem_map_of_mem hother
      · exact honce.2
      · rw [sweeperStep]
        rcases hrecorded with ⟨_, hthis⟩ | ⟨_, hthis⟩
        · rw [hthis, List.map_append]
          apply hsound.recorded_once.append (List.nodup_singleton _)
          intro key hold hkey
          rw [List.mem_singleton.mp hkey] at hold
          rcases List.mem_map.mp hold with ⟨other, hother, hsame⟩
          apply hnew
          rw [← hsame]
          exact hsound.recorded_answered other hother
        · rw [hthis, List.append_nil]
          exact hsound.recorded_once
      · intro other hother
        rw [sweeperStep, hanswers]
        rcases List.mem_append.mp hother with hold | hlanded
        · left
          exact hsound.recorded_answered other hold
        · rcases hrecorded with ⟨hpasses, hthis⟩ | ⟨_, hthis⟩
          · rw [hthis, List.mem_singleton] at hlanded
            right
            exact ⟨hpasses, by rw [hlanded]⟩
          · rw [hthis] at hlanded
            cases hlanded

/-! ## Two ticks in a row -/

theorem refused_emit {other : DeferPlan} (hmirrored : Mirrored s) (hmade : WellMade s other)
    (hrefused : ¬ Passes api.chat s other) :
    ¬ Passes api.chat (exec (emitDefer api.chat plan clock) s).2 other := by
  intro hpasses
  exact hrefused (passes_of_emits (emitDefer_emits api.chat plan clock s) hmirrored
    hmade.trigger hpasses)

theorem run_emits_emits (api : ApiConfig) (clocks : List Clock) (sw : Sweeper) :
    Emits sw.chat (run (sweeperStep api) sw (clocks.map .emit)).chat := by
  induction clocks generalizing sw with
  | nil => exact .refl sw.chat
  | cons clock clocks ih =>
      rw [List.map_cons, run_cons]
      rcases sw with ⟨s, queue, recorded⟩
      cases queue with
      | nil => exact ih ⟨s, [], recorded⟩
      | cons plan rest =>
          have hlater := ih (sweeperStep api ⟨s, plan :: rest, recorded⟩ (.emit clock))
          exact (emitDefer_emits api.chat plan clock s).trans hlater

theorem run_emits_settles (api : ApiConfig) (clocks : List Clock) (hsound : Sound sw)
    (hmade : WellMade sw.chat plan)
    (hnamed : posterOf plan.handle ≠ "" → withAt (posterOf plan.handle) = plan.handle)
    (hplan : plan ∈ sw.queue ∨ Answered sw.chat plan.key ∨ ¬ Passes api.chat sw.chat plan) :
    let after := run (sweeperStep api) sw (clocks.map .emit)
    plan ∈ after.queue ∨ Answered after.chat plan.key ∨ ¬ Passes api.chat after.chat plan := by
  induction clocks generalizing sw with
  | nil => exact hplan
  | cons clock clocks ih =>
      rw [List.map_cons, run_cons]
      have hnext := hsound.emit api clock
      rcases sw with ⟨s, queue, recorded⟩
      cases queue with
      | nil => exact ih hsound hmade hplan
      | cons first =>
          have hemits := emitDefer_emits api.chat first clock s
          apply ih hnext (hmade.of_emits hemits)
          rcases hplan with hqueued | hanswered | hrefused
          · rcases List.mem_cons.mp hqueued with rfl | hlater
            · right
              by_cases hpasses : Passes api.chat s plan
              · left
                exact (answered_emit hsound.mirrored hmade hnamed).mpr (Or.inr ⟨hpasses, rfl⟩)
              · right
                exact refused_emit hsound.mirrored hmade hpasses
            · exact Or.inl hlater
          · exact Or.inr (Or.inl (answered_of_emits hemits hanswered))
          · exact Or.inr (Or.inr (refused_emit hsound.mirrored hmade hrefused))

theorem run_emits_refused (clocks : List Clock) (hsound : Sound sw)
    (hrefused : ∀ plan ∈ sw.queue, ¬ Passes api.chat sw.chat plan) :
    (run (sweeperStep api) sw (clocks.map .emit)).recorded = sw.recorded := by
  induction clocks generalizing sw with
  | nil => rfl
  | cons clock clocks ih =>
      rw [List.map_cons, run_cons]
      have hnext := hsound.emit api clock
      rcases sw with ⟨s, queue, recorded⟩
      cases queue with
      | nil => exact ih hsound hrefused
      | cons plan rest =>
          have hsame : (sweeperStep api ⟨s, plan :: rest, recorded⟩ (.emit clock)).recorded =
              recorded := by
            rcases recordedBy_emit api.chat s plan rest recorded clock with
              ⟨hpasses, _⟩ | ⟨_, hthis⟩
            · exact absurd hpasses (hrefused plan List.mem_cons_self)
            · rw [sweeperStep, hthis, List.append_nil]
          rw [ih hnext, hsame]
          intro other hother
          have hlater := List.mem_cons_of_mem plan hother
          exact refused_emit hsound.mirrored (hsound.made other hlater) (hrefused other hlater)

theorem idle_tick {before between : Sweeper} {clocks : List Clock} (hbefore : Sound before)
    (hsees : Sees before.chat) (hrun : between = run (sweeperStep api) before (tickOf clocks))
    (hbetween : Sound between) (hseesNow : Sees between.chat) (hthrough : between.queue = [])
    (hnone : NoneFallsDue before.chat between.chat) (clocks' : List Clock) :
    (run (sweeperStep api) between (tickOf clocks')).recorded = between.recorded := by
  rw [tickOf, run_cons] at hrun
  rw [tickOf, run_cons]
  have hticked : Sound (sweeperStep api before .tick) := hbefore.tick hsees
  have hemits : Emits before.chat between.chat := by
    rw [hrun]
    exact run_emits_emits api clocks (sweeperStep api before .tick)
  apply run_emits_refused clocks' (hbetween.tick hseesNow)
  intro plan hplan
  rcases (mem_planDefers_of_sees hbetween.mirrored hseesNow).mp hplan with ⟨hmade, hdue, hnew⟩
  have hdueBefore := hnone plan.key hdue hnew
  have hnewBefore : ¬ Answered before.chat plan.key :=
    fun hanswered => hnew (answered_of_emits hemits hanswered)
  have hmadeBefore : WellMade before.chat plan := by
    rcases hdueBefore with ⟨_, _, _, hkey⟩
    exact ⟨hmade.home, trigger_of_mem_dueIn hkey⟩
  have hplanned : plan ∈ (sweeperStep api before .tick).queue :=
    (mem_planDefers_of_sees hbefore.mirrored hsees).mpr ⟨hmadeBefore, hdueBefore, hnewBefore⟩
  have hfate := run_emits_settles api clocks hticked hmadeBefore
    (hsees.named plan.key hdueBefore hnewBefore) (Or.inl hplanned)
  rw [← hrun] at hfate
  rcases hfate with hqueued | hanswered | hrefused
  · rw [hthrough] at hqueued
    cases hqueued
  · exact absurd hanswered hnew
  · exact hrefused

/-! ## The theorem -/

theorem sound_throughout (api : ApiConfig) (hfresh : Fresh s) {steps : List SweeperAct}
    (halong : Along (sweeperStep api) (Undisturbed api) (Sweeper.of s) steps) :
    Throughout (sweeperStep api) Sound (Sweeper.of s) steps := by
  apply throughout_of_preserved
  · exact .of_fresh hfresh
  · intro done next hnext hsound
    have hquiet := halong done next hnext
    cases next with
    | other => exact hsound.other hquiet
    | tick => exact hsound.tick hquiet
    | emit clock => exact hsound.emit api clock

/-- In a run whose ticks see what they need and are not overtaken by replies, the sweeper
defers at most once for an addressee of an event, never for one who has replied, and after
a tick during which nobody falls due the next one has nothing to record. -/
theorem defers_once (api : ApiConfig) {s : State} (hfresh : Fresh s)
    {steps : List SweeperAct}
    (halong : Along (sweeperStep api) (Undisturbed api) (Sweeper.of s) steps) :
    Throughout (sweeperStep api) (fun sw => (sw.recorded.map DeferPlan.key).Nodup)
        (Sweeper.of s) steps ∧
      Along (sweeperStep api) (fun sw next =>
        ∀ plan ∈ recordedBy api.chat sw next, ¬ Answered sw.chat plan.key)
        (Sweeper.of s) steps ∧
      ∀ done clocks clocks', done ++ (tickOf clocks ++ tickOf clocks') <+: steps →
        let before := run (sweeperStep api) (Sweeper.of s) done
        let between := run (sweeperStep api) before (tickOf clocks)
        between.queue = [] → NoneFallsDue before.chat between.chat →
          (run (sweeperStep api) between (tickOf clocks')).recorded = between.recorded := by
  have hsound := sound_throughout api hfresh halong
  refine ⟨fun done hdone => (hsound done hdone).recorded_once, ?_, ?_⟩
  · intro done next hnext plan hplan
    have hhere := hsound done ((List.prefix_append done [next]).trans hnext)
    cases next with
    | other act => cases hplan
    | tick => cases hplan
    | emit clock =>
        have htaken := List.mem_of_mem_filter hplan
        exact hhere.fresh plan (List.mem_of_mem_take htaken)
  · intro done clocks clocks' hdone before between hthrough hnone
    have hsplit : done ++ (tickOf clocks ++ tickOf clocks') =
        (done ++ tickOf clocks ++ [.tick]) ++ clocks'.map .emit := by
      simp [tickOf]
    have hsecond : done ++ tickOf clocks ++ [.tick] <+: steps := by
      rw [hsplit] at hdone
      exact (List.prefix_append _ _).trans hdone
    have hbetween : done ++ tickOf clocks <+: steps := (List.prefix_append _ _).trans hsecond
    have hfirst : done ++ [.tick] <+: steps := by
      refine List.IsPrefix.trans ?_ hbetween
      rw [tickOf]
      exact ⟨clocks.map .emit, by simp⟩
    have hrun : run (sweeperStep api) (Sweeper.of s) (done ++ tickOf clocks) = between :=
      run_append _ _ _ _
    have hsoundBefore : Sound before := hsound done ((List.prefix_append _ _).trans hfirst)
    have hseesBefore : Sees before.chat := halong done .tick hfirst
    have hsoundBetween := hsound _ hbetween
    have hseesBetween := halong _ .tick hsecond
    rw [hrun] at hsoundBetween hseesBetween
    exact idle_tick hsoundBefore hseesBefore rfl hsoundBetween hseesBetween hthrough hnone
      clocks'

/-! ## Ticks after a question -/

/-- `alice` asks for an answer of `handle` by the second event. -/
def asksFor (handle : String) : List SweeperAct :=
  [.other (.move (.openConversation "room" (openingOf .inquiry inquiry_ne_general none) (fun _ => 0)
      fun _ => 0)),
    .other (.move (.submitSpeech 1
      { speechOf "alice" .question with
        addressedTo := some handle
        expectedResponse := some [("from_actor_handles", .arr [.str handle]),
          ("by_round_seq", .int 2)] } fun _ => 1))]

def twoTicks : List SweeperAct :=
  tickOf [fun _ => 2] ++ tickOf [fun _ => 3]

/-- The expectation of an ordinary handle is deferred once, and the second tick is idle. -/
theorem bob_deferred_once :
    let once := run (sweeperStep plainApi) (Sweeper.of emptyRoom)
      (asksFor "@bob" ++ tickOf [fun _ => 2])
    once.recorded.length = 1 ∧
      (run (sweeperStep plainApi) once (tickOf [fun _ => 3])).recorded = once.recorded := by
  have halong : Along (sweeperStep plainApi) (Undisturbed plainApi) (Sweeper.of emptyRoom)
      (asksFor "@bob" ++ twoTicks) := by
    refine along_cons ?_ (along_cons ?_ (along_cons ?_ (along_cons trivial (along_cons ?_
      (along_cons trivial (along_nil _ _ _))))))
    · intro plan hplan
      cases hplan
    · intro plan hplan
      cases hplan
    · exact sees_of_dueIn (by decide)
    · exact sees_of_dueIn (by decide)
  have hidle := (defers_once plainApi ⟨rfl, rfl⟩ halong).2.2 (asksFor "@bob") [fun _ => 2]
    [fun _ => 3] List.prefix_rfl (by decide)
  refine ⟨by decide, ?_⟩
  rw [run_append]
  apply hidle
  rintro key ⟨operation, hoperation, _, hkey⟩ hnew
  have hanswered : ∀ id < (run (sweeperStep plainApi) (Sweeper.of emptyRoom)
      (asksFor "@bob" ++ tickOf [fun _ => 2])).chat.store.operations.length,
      ∀ key ∈ dueIn (run (sweeperStep plainApi) (Sweeper.of emptyRoom)
        (asksFor "@bob" ++ tickOf [fun _ => 2])).chat id,
        key ∈ answered ((run (sweeperStep plainApi) (Sweeper.of emptyRoom)
          (asksFor "@bob" ++ tickOf [fun _ => 2])).chat.store.log id) := by
    decide
  exact absurd (hanswered _ (List.getElem?_eq_some_iff.mp hoperation).1 key hkey) hnew

/-- A handle of two `@`s is deferred for under another handle, and then again. -/
theorem twice_deferred :
    ¬ Throughout (sweeperStep plainApi) (fun sw => (sw.recorded.map DeferPlan.key).Nodup)
      (Sweeper.of emptyRoom) (asksFor "@@bob" ++ twoTicks) := by
  intro honce
  exact absurd (honce _ List.prefix_rfl) (by decide)

end OpsCure.PolicySweeper
