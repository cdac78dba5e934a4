/-
Does the progression sweeper come to rest?  Its nudges do not move the trigger it
chases, and after enough of them it escalates; but the escalation is speech, and is the
next trigger.  Short of that, it posts a bounded number of events about an operation.
-/
import OpsCure.Library.Run
import OpsCure.Posting
import OpsCure.ProgressionSweeper

namespace OpsCure.Progression

open Session Table Run Contract V2 OperationMirror Chat

/-- The clock readings of one tick: for the decisions, and for each post. -/
structure Tick where
  now : Time
  clock : Nat → Clock

def tick (settings : Settings) (s : State) (moment : Tick) : State :=
  (exec (tickOnce settings moment.now moment.clock) s).2

/-! ## What one tick posts -/

structure Posts (action : SweepAction) (event : Event) : Prop where
  author : event.actorId = "@system"
  kind : event.kind = emittedKind action.action
  parent : event.repliesToEventId = some action.repliesToEventId

theorem eventOf_systemMessage (s : State) (row : Conversation) (conversationId : Id)
    (kind : String) (addressedToHandle : Option String) (payload : List (String × Json))
    (sentAt now : Time) (parent : Option EventId) :
    let event := eventOf (mirrorRecord s (systemMessage row conversationId kind
      addressedToHandle payload sentAt) { repliesToV2EventId := parent }) now
    event.actorId = "@system" ∧ event.kind = kind ∧ event.repliesToEventId = parent := by
  simp only [eventOf, mirrorRecord, systemMessage, lifecycleMessage, parentEvent,
    Option.bind_none, Option.none_or, and_self, and_true]
  rfl

variable {s : State} {operationId : Id} {settings : Settings} {now : Time} {store other : Store}
  {event : Event} {id : EventId} {start sent : List Event}

theorem emitSystemEvent_log {row : Conversation} {conversationId : Id}
    (hrow : s.conversations[conversationId]? = some row)
    (hmirror : row.v2OperationId = some operationId) (kind : String)
    (addressedToHandle : Option String) (parent : Option EventId) (payload : List (String × Json))
    (clock : Clock) :
    let after := (exec (emitSystemEvent conversationId kind addressedToHandle parent payload
      clock) s).2
    after.conversations = s.conversations ∧ ∀ other,
      after.store.log other = s.store.log other ∨
        other = operationId ∧ ∃ event, event.actorId = "@system" ∧ event.kind = kind ∧
          event.repliesToEventId = parent ∧
          after.store.log other = s.store.log other ++ [event] := by
  rw [emitSystemEvent_state]
  rcases hsession : emitSession s conversationId kind addressedToHandle parent payload clock
    with error | ⟨eventId, left⟩
  · exact ⟨rfl, fun _ => Or.inl rfl⟩
  · change left.conversations = s.conversations ∧ ∀ other, left.store.log other = _ ∨ _
    rcases emitSession_eq_ok.1 hsession with ⟨found, hfound, hadded⟩
    have hsame : found = row := Option.some.inj (hfound.symm.trans hrow)
    subst hsame
    refine ⟨(addMessage_frame hadded).2.1, ?_⟩
    intro other
    have hlog := addMessage_log hadded other
    by_cases hother : other = operationId
    · rw [hmirror, if_pos (by rw [hother])] at hlog
      rcases eventOf_systemMessage s found conversationId kind addressedToHandle payload
        (clock 0) (clock 1) parent with ⟨hauthor, hkind, hparent⟩
      exact Or.inr ⟨hother, _, hauthor, hkind, hparent, hlog⟩
    · have hne : ¬ some operationId = some other := fun hsame =>
        hother (Option.some.inj hsame).symm
      rw [hmirror, if_neg hne, List.append_nil] at hlog
      exact Or.inl hlog

def Resolves (s : State) (plan : SweepAction × Id) : Prop :=
  ∃ row, s.conversations[plan.2]? = some row ∧
    row.v2OperationId = some plan.1.operationId

def post (clock : Nat → Clock) (s : State) (plan : (SweepAction × Id) × Nat) : State :=
  (exec (emitSystemEvent plan.1.2 (emittedKind plan.1.1.action) (some plan.1.1.targetHandle)
    (some plan.1.1.repliesToEventId)
    [("reason", .str plan.1.1.reason),
      ("target_handle", .str plan.1.1.targetHandle),
      ("trigger_event_id", .arr [.int plan.1.1.repliesToEventId.operation,
        .int plan.1.1.repliesToEventId.index]),
      ("decision", .str plan.1.1.action.text)]
    (clock plan.2)) s).2

theorem tick_eq (settings : Settings) (s : State) (moment : Tick) :
    tick settings s moment =
      (plans settings s moment.now).zipIdx.foldl (post moment.clock) s := by
  rw [tick, tickOnce, exec_bind, exec_query]
  exact congrArg Prod.snd (exec_forM_attempt _ _ s)

theorem post_log {plan : (SweepAction × Id) × Nat} (clock : Nat → Clock)
    (hresolves : Resolves s plan.1) :
    (post clock s plan).conversations = s.conversations ∧ ∀ other,
      (post clock s plan).store.log other = s.store.log other ∨
        other = plan.1.1.operationId ∧ ∃ event, Posts plan.1.1 event ∧
          (post clock s plan).store.log other = s.store.log other ++ [event] := by
  rcases hresolves with ⟨row, hrow, hmirror⟩
  rcases emitSystemEvent_log hrow hmirror (emittedKind plan.1.1.action)
    (some plan.1.1.targetHandle) (some plan.1.1.repliesToEventId) _ (clock plan.2) with
    ⟨hconversations, hlogs⟩
  refine ⟨hconversations, ?_⟩
  intro other
  rcases hlogs other with hsame | ⟨hother, event, hauthor, hkind, hparent, hlog⟩
  · exact Or.inl hsame
  · exact Or.inr ⟨hother, event, ⟨hauthor, hkind, hparent⟩, hlog⟩

theorem foldl_post_untouched (clock : Nat → Clock) (operationId : Id)
    (planned : List ((SweepAction × Id) × Nat)) (hresolves : ∀ plan ∈ planned, Resolves s plan.1)
    (hother : ∀ plan ∈ planned, plan.1.1.operationId ≠ operationId) :
    (planned.foldl (post clock) s).store.log operationId = s.store.log operationId := by
  induction planned generalizing s with
  | nil => rfl
  | cons plan planned ih =>
      rcases post_log clock (hresolves plan List.mem_cons_self) with ⟨hconversations, hlogs⟩
      have hhere : (post clock s plan).store.log operationId = s.store.log operationId := by
        rcases hlogs operationId with hsame | ⟨hsame, _⟩
        · exact hsame
        · exact absurd hsame.symm (hother plan List.mem_cons_self)
      rw [List.foldl_cons, ih ?_ fun other hmem => hother other (List.mem_cons_of_mem plan hmem),
        hhere]
      intro other hmem
      rcases hresolves other (List.mem_cons_of_mem plan hmem) with ⟨row, hrow, hmirror⟩
      exact ⟨row, by rw [hconversations]; exact hrow, hmirror⟩

theorem foldl_post_log (clock : Nat → Clock) (operationId : Id)
    (planned : List ((SweepAction × Id) × Nat)) (hresolves : ∀ plan ∈ planned, Resolves s plan.1)
    (hapart : planned.Pairwise fun left right =>
      left.1.1.operationId ≠ right.1.1.operationId) :
    (planned.foldl (post clock) s).store.log operationId = s.store.log operationId ∨
      ∃ plan ∈ planned, plan.1.1.operationId = operationId ∧ ∃ event, Posts plan.1.1 event ∧
        (planned.foldl (post clock) s).store.log operationId =
          s.store.log operationId ++ [event] := by
  induction planned generalizing s with
  | nil => exact Or.inl rfl
  | cons plan planned ih =>
      rcases List.pairwise_cons.mp hapart with ⟨hfirst, hrest⟩
      rcases post_log clock (hresolves plan List.mem_cons_self) with ⟨hconversations, hlogs⟩
      have hlater : ∀ other ∈ planned, Resolves (post clock s plan) other.1 := by
        intro other hmem
        rcases hresolves other (List.mem_cons_of_mem plan hmem) with ⟨row, hrow, hmirror⟩
        exact ⟨row, by rw [hconversations]; exact hrow, hmirror⟩
      rw [List.foldl_cons]
      rcases hlogs operationId with hsame | ⟨hmine, event, hposts, hlog⟩
      · rcases ih hlater hrest with hquiet | ⟨other, hmem, hother, event, hposts, hlog⟩
        · exact Or.inl (hquiet.trans hsame)
        · rw [hsame] at hlog
          exact Or.inr ⟨other, List.mem_cons_of_mem plan hmem, hother, event, hposts, hlog⟩
      · -- the rest of the plans are about other operations
        have hquiet := foldl_post_untouched clock operationId planned hlater fun other hmem =>
          hmine ▸ (hfirst other hmem).symm
        exact Or.inr ⟨plan, List.mem_cons_self, hmine.symm, event, hposts, hquiet.trans hlog⟩

theorem mem_plans {plan : SweepAction × Id} :
    plan ∈ plans settings s now ↔ ∃ row operationId, (row, operationId) ∈ s.store.recentActiveOps ∧
      classifyOp settings s.store operationId now = some plan.1 ∧
      resolveV1ConvId s operationId = some plan.2 := by
  simp only [plans, List.mem_filterMap, Option.bind_eq_bind, Option.bind_eq_some_iff,
    Option.pure_def, Option.some.injEq, Prod.exists]
  constructor
  · rintro ⟨row, operationId, hrow, action, hclassify, conversationId, hresolve, rfl⟩
    exact ⟨row, operationId, hrow, hclassify, hresolve⟩
  · rintro ⟨row, operationId, hrow, hclassify, hresolve⟩
    exact ⟨row, operationId, hrow, plan.1, hclassify, plan.2, hresolve, rfl⟩

/-! ## What makes a tick post -/

/-- The latest speech of the operation is idle and waits for a known actor, not its own
author, who has been silent since. -/
structure Awaits (settings : Settings) (store : Store) (operationId : Id) (now : Time)
    (event : Event) (id : EventId) (target : Actor) : Prop where
  latest : trigger store operationId = some (event, id)
  idle : event.createdAt ≤ now - settings.idle
  awaited : ∃ channel, responder store event = some (target, channel)
  named : target.handle ≠ ""
  other : target.handle ≠ event.actorId
  silent : (laterEvents store id).all (·.actorId ≠ target.handle)

theorem classifyOp_eq_some {action : SweepAction}
    (hclassify : classifyOp settings store operationId now = some action) :
    ∃ event id target, Awaits settings store operationId now event id target ∧
      action.operationId = operationId ∧ action.repliesToEventId = id ∧
      action.action =
        if settings.maxRetries ≤ priorNudges id (laterEvents store id) then .defer
        else .nudge := by
  simp only [classifyOp, Option.bind_eq_bind, Option.bind_eq_some_iff, Option.pure_def,
    Option.some.injEq, Option.guard_eq_some', Prod.exists, exists_const] at hclassify
  rcases hclassify with ⟨event, id, hlatest, hidle, target, channel, hawaited, hnamed, hother,
    hsilent, rfl⟩
  exact ⟨event, id, target, ⟨hlatest, hidle, ⟨channel, hawaited⟩, hnamed, hother, hsilent⟩,
    rfl, rfl, rfl⟩

def Swept (s : State) (operationId : Id) : Prop :=
  (∃ row, (row, operationId) ∈ s.store.recentActiveOps) ∧
    (resolveV1ConvId s operationId).isSome

theorem resolves_of_resolveV1ConvId {conversationId : Id}
    (hresolve : resolveV1ConvId s operationId = some conversationId) :
    ∃ row, s.conversations[conversationId]? = some row ∧
      row.v2OperationId = some operationId := by
  rcases List.findIdx?_eq_some_iff_getElem.mp hresolve with ⟨hlt, hmirror, _⟩
  exact ⟨_, List.getElem?_eq_getElem hlt, of_decide_eq_true hmirror⟩

theorem operationId_of_planned {row : V2.Operation × Id} {plan : SweepAction × Id} (hplanned : (do
      let action ← classifyOp settings s.store row.2 now
      let conversationId ← resolveV1ConvId s row.2
      return (action, conversationId)) = some plan) : plan.1.operationId = row.2 := by
  simp only [Option.bind_eq_bind, Option.bind_eq_some_iff, Option.pure_def,
    Option.some.injEq] at hplanned
  rcases hplanned with ⟨action, hclassify, conversationId, _, rfl⟩
  rcases classifyOp_eq_some hclassify with ⟨_, _, _, _, hoperation, _⟩
  exact hoperation

theorem tick_log (settings : Settings) (s : State) (moment : Tick) (operationId : Id) :
    (tick settings s moment).store.log operationId = s.store.log operationId ∨
      ∃ action event, classifyOp settings s.store operationId moment.now = some action ∧
        Swept s operationId ∧ Posts action event ∧
        (tick settings s moment).store.log operationId =
          s.store.log operationId ++ [event] := by
  have hresolves : ∀ plan ∈ (plans settings s moment.now).zipIdx, Resolves s plan.1 := by
    intro plan hplan
    rcases mem_plans.1 (List.fst_mem_of_mem_zipIdx hplan) with
      ⟨row, found, _, hclassify, hresolve⟩
    rcases classifyOp_eq_some hclassify with ⟨_, _, _, _, hoperation, _⟩
    rw [Resolves, hoperation]
    exact resolves_of_resolveV1ConvId hresolve
  have hapart : (plans settings s moment.now).zipIdx.Pairwise fun left right =>
      left.1.1.operationId ≠ right.1.1.operationId := by
    have hplans : (plans settings s moment.now).Pairwise fun left right =>
        left.1.operationId ≠ right.1.operationId := by
      apply List.Pairwise.filterMap _ _ (s.store.pairwise_recentActiveOps)
      intro left right hne first hfirst second hsecond
      rw [operationId_of_planned hfirst, operationId_of_planned hsecond]
      exact hne
    rw [← List.zipIdx_map_fst 0 (plans settings s moment.now)] at hplans
    have hrows := List.pairwise_map.mp hplans
    exact hrows
  rw [tick_eq]
  rcases foldl_post_log moment.clock operationId _ hresolves hapart with
    hsame | ⟨plan, hplan, hmine, event, hposts, hlog⟩
  · exact Or.inl hsame
  · rcases mem_plans.1 (List.fst_mem_of_mem_zipIdx hplan) with
      ⟨row, found, hrow, hclassify, hresolve⟩
    rcases classifyOp_eq_some hclassify with ⟨_, _, _, _, hoperation, _⟩
    have hfound : found = operationId := hoperation.symm.trans hmine
    subst hfound
    exact Or.inr ⟨plan.1.1, event, hclassify, ⟨⟨row, hrow⟩, by simp [hresolve]⟩, hposts, hlog⟩

/-! ## From tick to tick -/

/-- The events of a log that a human or an agent wrote. -/
def written (log : List Event) : Nat :=
  log.countP fun event => event.actorId ≠ "@system"

def emitted (s t : State) (operationId : Id) : List Event :=
  (t.store.log operationId).drop (s.store.log operationId).length

/-- The sweeper is about to start over: what it would chase is the system's own speech,
or so much has followed the trigger that a query of the later events is full before it
has shown enough nudges. -/
def StartsOver (settings : Settings) (s : State) (operationId : Id) (now : Time) : Prop :=
  ∃ event id target, Awaits settings s.store operationId now event id target ∧
    Swept s operationId ∧
    (event.actorId = "@system" ∨
      500 ≤ (laterEvents s.store id).length ∧
        priorNudges id (laterEvents s.store id) < settings.maxRetries)

theorem trigger_congr (hlog : other.log operationId = store.log operationId) :
    trigger other operationId = trigger store operationId := by
  rw [trigger, trigger, Store.lastSpeechEventForOp, Store.lastSpeechEventForOp, hlog]

theorem trigger_eq_some (hlatest : trigger store operationId = some (event, id)) :
    id.operation = operationId ∧ (store.log operationId)[id.index]? = some event := by
  rw [trigger, Option.map_eq_some_iff] at hlatest
  rcases hlatest with ⟨⟨found, index⟩, hlast, hsame⟩
  cases hsame
  have hmem := List.mem_of_getLast? hlast
  exact ⟨rfl, (mem_selectWhere.1 hmem).1⟩

theorem trigger_of_quiet (hlog : other.log operationId = store.log operationId ++ [event])
    (hquiet : likeSpeech event.kind = false) :
    trigger other operationId = trigger store operationId := by
  rw [trigger, trigger, Store.lastSpeechEventForOp, Store.lastSpeechEventForOp, hlog,
    selectWhere_concat, hquiet]
  simp

theorem trigger_of_speech (hlog : other.log operationId = store.log operationId ++ [event])
    (hspeech : likeSpeech event.kind = true) :
    ∃ id, trigger other operationId = some (event, id) := by
  refine ⟨⟨operationId, (store.log operationId).length⟩, ?_⟩
  rw [trigger, Store.lastSpeechEventForOp, hlog, selectWhere_concat, hspeech]
  simp

/-- Nudges posted since are counted, as long as the query shows all later events. -/
theorem length_le_priorNudges (hlog : store.log id.operation = start ++ sent)
    (hbefore : id.index < start.length) (hroom : (laterEvents store id).length < 500)
    (hnudges : ∀ event ∈ sent,
      event.kind = eventSystemNudge ∧ event.repliesToEventId = some id) :
    sent.length ≤ priorNudges id (laterEvents store id) := by
  have hlater : laterEvents store id = start.drop id.seq ++ sent := by
    have hwindow : laterEvents store id = (start.drop id.seq ++ sent).take 500 := by
      rw [laterEvents, Store.listEvents, hlog, List.drop_append_of_le_length]
      · rfl
      · exact hbefore
    rw [hwindow, List.length_take] at hroom
    rw [hwindow]
    apply List.take_of_length_le
    omega
  have hall : sent.countP (fun event =>
      event.kind = eventSystemNudge ∧ event.repliesToEventId = some id) = sent.length := by
    apply List.countP_eq_length.mpr
    intro event hevent
    exact decide_eq_true (hnudges event hevent)
  rw [priorNudges, hlater, List.countP_append, hall]
  exact Nat.le_add_left _ _

/-- Where a run stands that has added `sent` to the log it `start`ed from. -/
inductive Stage (settings : Settings) (operationId : Id) (start sent : List Event)
    (store : Store) : Prop
  /-- Nothing has been posted. -/
  | resting (hnone : sent = [])
  /-- A trigger that someone wrote is being chased, with nudges only. -/
  | chasing (event : Event) (id : EventId)
      (hlatest : trigger store operationId = some (event, id))
      (hbefore : id.index < start.length)
      (hwritten : 0 < written start)
      (hfew : sent.length ≤ settings.maxRetries)
      (hnudges : ∀ nudge ∈ sent,
        nudge.kind = eventSystemNudge ∧ nudge.repliesToEventId = some id)
  /-- The trigger has been escalated. -/
  | escalated (event : Event) (id : EventId)
      (hlatest : trigger store operationId = some (event, id))
      (hauthor : event.actorId = "@system")
      (hwritten : 0 < written start)
      (hfew : sent.length ≤ settings.maxRetries + 1)

theorem Stage.of_log (hstage : Stage settings operationId start sent store)
    (hlog : other.log operationId = store.log operationId) :
    Stage settings operationId start sent other := by
  have hsame := trigger_congr hlog
  cases hstage with
  | resting hnone => exact .resting hnone
  | chasing event id hlatest hbefore hwritten hfew hnudges =>
      exact .chasing event id (hsame.trans hlatest) hbefore hwritten hfew hnudges
  | escalated event id hlatest hauthor hwritten hfew =>
      exact .escalated event id (hsame.trans hlatest) hauthor hwritten hfew

theorem Stage.chased {target : Actor} (hretries : 0 ≤ settings.maxRetries)
    (hstage : Stage settings operationId start sent s.store)
    (hlog : s.store.log operationId = start ++ sent)
    (hawaits : Awaits settings s.store operationId now event id target)
    (hauthor : event.actorId ≠ "@system") :
    id.index < start.length ∧ 0 < written start ∧ sent.length ≤ settings.maxRetries ∧
      ∀ nudge ∈ sent, nudge.kind = eventSystemNudge ∧ nudge.repliesToEventId = some id := by
  cases hstage with
  | resting hnone =>
      subst hnone
      rw [List.append_nil] at hlog
      have hevent := (trigger_eq_some hawaits.latest).2
      rw [hlog] at hevent
      refine ⟨(List.getElem?_eq_some_iff.mp hevent).1, ?_, hretries, by simp⟩
      apply List.countP_pos_iff.mpr
      exact ⟨event, List.mem_of_getElem? hevent, decide_eq_true hauthor⟩
  | chasing other otherId hlatest hbefore hwritten hfew hnudges =>
      have hsame := hlatest.symm.trans hawaits.latest
      cases hsame
      exact ⟨hbefore, hwritten, hfew, hnudges⟩
  | escalated other otherId hlatest hsystem =>
      have hsame := hlatest.symm.trans hawaits.latest
      cases hsame
      exact absurd hsystem hauthor

/-- One tick moves a run from stage to stage. -/
theorem stage_tick {moment : Tick} (hretries : 0 ≤ settings.maxRetries)
    (hlog : s.store.log operationId = start ++ sent)
    (hstage : Stage settings operationId start sent s.store)
    (hkept : ¬ StartsOver settings s operationId moment.now) :
    ∃ sent', (tick settings s moment).store.log operationId = start ++ sent' ∧
      Stage settings operationId start sent' (tick settings s moment).store := by
  rcases tick_log settings s moment operationId with
    hsame | ⟨action, posted, hclassify, hswept, hposts, hadded⟩
  · exact ⟨sent, hsame.trans hlog, hstage.of_log hsame⟩
  · rcases classifyOp_eq_some hclassify with
      ⟨event, id, target, hawaits, _, hparent, haction⟩
    have hauthor : event.actorId ≠ "@system" := fun hsystem =>
      hkept ⟨event, id, target, hawaits, hswept, Or.inl hsystem⟩
    rcases hstage.chased hretries hlog hawaits hauthor with
      ⟨hbefore, hwritten, hfew, hnudges⟩
    refine ⟨sent ++ [posted], by rw [hadded, hlog, List.append_assoc], ?_⟩
    have hlength : ((sent ++ [posted]).length : Int) = sent.length + 1 := by simp
    by_cases hcounted : settings.maxRetries ≤ priorNudges id (laterEvents s.store id)
    · -- the nudges are used up: the defer is speech, and the new trigger
      rw [if_pos hcounted] at haction
      have hspeech : likeSpeech posted.kind = true := by
        rw [hposts.kind, haction]
        decide
      rcases trigger_of_speech hadded hspeech with ⟨next, hlatest⟩
      exact .escalated posted next hlatest hposts.author hwritten (by omega)
    · rw [if_neg hcounted] at haction
      have hkind : posted.kind = eventSystemNudge := by
        rw [hposts.kind, haction]
        rfl
      have hquiet : likeSpeech posted.kind = false := by
        rw [hkind]
        decide
      have hlatest := (trigger_of_quiet hadded hquiet).trans hawaits.latest
      have hroom : (laterEvents s.store id).length < 500 := by
        by_contra hfull
        exact hkept ⟨event, id, target, hawaits, hswept, Or.inr ⟨by omega, by omega⟩⟩
      have hoperation := (trigger_eq_some hawaits.latest).1
      have hseen : sent.length ≤ priorNudges id (laterEvents s.store id) := by
        apply length_le_priorNudges _ hbefore hroom hnudges
        rw [hoperation]
        exact hlog
      refine .chasing event id hlatest hbefore hwritten (by omega) ?_
      intro nudge hnudge
      rcases List.mem_append.mp hnudge with hold | hnew
      · exact hnudges nudge hold
      · rw [List.mem_singleton.mp hnew]
        exact ⟨hkind, hposts.parent.trans (by rw [hparent])⟩

theorem Stage.length_le (hretries : 0 ≤ settings.maxRetries)
    (hstage : Stage settings operationId start sent store) :
    (sent.length : Int) ≤ (settings.maxRetries + 1) * written start := by
  have hmany : 0 < written start →
      settings.maxRetries + 1 ≤ (settings.maxRetries + 1) * written start := by
    intro hwritten
    have hone : (1 : Int) ≤ written start := by omega
    calc settings.maxRetries + 1 = (settings.maxRetries + 1) * 1 := (Int.mul_one _).symm
      _ ≤ (settings.maxRetries + 1) * written start :=
        Int.mul_le_mul_of_nonneg_left hone (by omega)
  cases hstage with
  | resting hnone =>
      subst hnone
      have hnonneg : (0 : Int) ≤ written start := by omega
      exact Int.mul_nonneg (by omega) hnonneg
  | chasing event id hlatest hbefore hwritten hfew hnudges =>
      have hbound := hmany hwritten
      omega
  | escalated event id hlatest hauthor hwritten hfew =>
      have hbound := hmany hwritten
      omega

theorem tick_quiet {moment : Tick} (hlatest : trigger s.store operationId = some (event, id))
    (hauthor : event.actorId = "@system") (hkept : ¬ StartsOver settings s operationId moment.now) :
    (tick settings s moment).store.log operationId = s.store.log operationId := by
  rcases tick_log settings s moment operationId with
    hsame | ⟨action, posted, hclassify, hswept, _, _⟩
  · exact hsame
  · exfalso
    rcases classifyOp_eq_some hclassify with ⟨found, foundId, target, hawaits, _⟩
    have hsame := hlatest.symm.trans hawaits.latest
    cases hsame
    exact hkept ⟨event, id, target, hawaits, hswept, Or.inl hauthor⟩

def Escalated (s t : State) (operationId : Id) : Prop :=
  ∃ event ∈ emitted s t operationId, event.kind = emittedKind .defer

theorem Stage.of_escalated (hstage : Stage settings operationId start sent store)
    (hdefer : ∃ event ∈ sent, event.kind = emittedKind .defer) :
    ∃ event id, trigger store operationId = some (event, id) ∧ event.actorId = "@system" := by
  rcases hdefer with ⟨posted, hposted, hkind⟩
  cases hstage with
  | resting hnone =>
      rw [hnone] at hposted
      cases hposted
  | chasing event id hlatest hbefore hwritten hfew hnudges =>
      have habsurd := (hnudges posted hposted).1.symm.trans hkind
      exact absurd habsurd (by decide)
  | escalated event id hlatest hauthor => exact ⟨event, id, hlatest, hauthor⟩

/-- In every run of ticks that never start over on an operation, what is posted about it
stays within one more than the retries for each event someone wrote before the run; and
once a trigger has been escalated, nothing more is posted. -/
theorem progression_terminates (settings : Settings) (s : State) (operationId : Id)
    (ticks : List Tick) (hretries : 0 ≤ settings.maxRetries)
    (hticks : Along (tick settings)
      (fun t moment => ¬ StartsOver settings t operationId moment.now) s ticks) :
    Throughout (tick settings) (fun t => ((emitted s t operationId).length : Int) ≤
        (settings.maxRetries + 1) * written (s.store.log operationId)) s ticks ∧
      ∀ done more, done ++ more <+: ticks →
        Escalated s (run (tick settings) s done) operationId →
        (run (tick settings) s (done ++ more)).store.log operationId =
          (run (tick settings) s done).store.log operationId := by
  let start := s.store.log operationId
  have hstages : Throughout (tick settings) (fun t => ∃ sent,
      t.store.log operationId = start ++ sent ∧
        Stage settings operationId start sent t.store) s ticks := by
    apply throughout_of_preserved
    · exact ⟨[], (List.append_nil _).symm, .resting rfl⟩
    · intro done moment hmoment ⟨sent, hlog, hstage⟩
      exact stage_tick hretries hlog hstage (hticks done moment hmoment)
  have hemitted : ∀ {t : State} {sent : List Event},
      t.store.log operationId = start ++ sent → emitted s t operationId = sent := by
    intro t sent hlog
    rw [emitted, hlog]
    exact List.drop_left
  constructor
  · intro done hdone
    rcases hstages done hdone with ⟨sent, hlog, hstage⟩
    rw [hemitted hlog]
    exact hstage.length_le hretries
  · intro done more hmore hescalated
    have hdone : done <+: ticks := (List.prefix_append done more).trans hmore
    rcases hstages done hdone with ⟨sent, hlog, hstage⟩
    rw [Escalated, hemitted hlog] at hescalated
    rcases hstage.of_escalated hescalated with ⟨event, id, hlatest, hauthor⟩
    -- from here on the trigger is the system's, tick after tick
    induction more using List.reverseRecOn with
    | nil => rw [List.append_nil]
    | append_singleton more moment ih =>
        rw [← List.append_assoc] at hmore ⊢
        have hearlier := ih ((List.prefix_append (done ++ more) [moment]).trans hmore)
        rw [run_concat, tick_quiet ((trigger_congr hearlier).trans hlatest) hauthor
          (hticks (done ++ more) moment hmore), hearlier]

/-! ## An unanswered question -/

/-- An inquiry in which `alice` asked `bob` her question. -/
def askedRoom : State :=
  (exec (submitSpeech plainConfig 1
    { speechOf "alice" .question with addressedTo := some "bob" } fun _ => 0)
    (roomWith .inquiry inquiry_ne_general none)).2

def tickAt (reading : Int) : Tick where
  now := seconds reading
  clock := fun _ _ => seconds reading

theorem not_startsOver (hcalm : (trigger s.store operationId).all fun row =>
      now - settings.idle < row.1.createdAt ∨
        row.1.actorId ≠ "@system" ∧ (laterEvents s.store row.2).length < 500) :
    ¬ StartsOver settings s operationId now := by
  rintro ⟨event, id, target, hawaits, _, hagain⟩
  rw [hawaits.latest] at hcalm
  rcases of_decide_eq_true hcalm with hfresh | ⟨hauthor, hroom⟩
  · exact absurd hawaits.idle (Int.not_le.mpr hfresh)
  · rcases hagain with hsystem | ⟨hfull, _⟩
    · exact hauthor hsystem
    · exact absurd hroom (Nat.not_lt.mpr hfull)

/-- Two nudges, the defer, and a tick before the defer is idle. -/
theorem question_is_escalated :
    Throughout (tick .usual) (fun t => ((emitted askedRoom t 1).length : Int) ≤
        (Settings.usual.maxRetries + 1) * written (askedRoom.store.log 1)) askedRoom
        [tickAt 30, tickAt 60, tickAt 90, tickAt 100] ∧
      ∀ done more, done ++ more <+: [tickAt 30, tickAt 60, tickAt 90, tickAt 100] →
        Escalated askedRoom (run (tick .usual) askedRoom done) 1 →
        (run (tick .usual) askedRoom (done ++ more)).store.log 1 =
          (run (tick .usual) askedRoom done).store.log 1 := by
  apply progression_terminates .usual askedRoom 1 _ (by decide)
  refine along_cons ?_ (along_cons ?_ (along_cons ?_ (along_cons ?_ (along_nil _ _ _))))
  all_goals
    apply not_startsOver
    decide +kernel

/-- Half a minute after the defer the sweeper chases the defer, and so on: seven events
in a log of two, where six are allowed. -/
theorem escalation_is_chased :
    ¬ Throughout (tick .usual) (fun t => ((emitted askedRoom t 1).length : Int) ≤
        (Settings.usual.maxRetries + 1) * written (askedRoom.store.log 1)) askedRoom
        ([30, 60, 90, 120, 150, 180, 210].map tickAt) := by
  intro hall
  have hbound := hall _ List.prefix_rfl
  have hmany : ¬ ((emitted askedRoom (run (tick .usual) askedRoom
      ([30, 60, 90, 120, 150, 180, 210].map tickAt)) 1).length : Int) ≤
        (Settings.usual.maxRetries + 1) * written (askedRoom.store.log 1) := by
    decide +kernel
  exact hmany hbound

end OpsCure.Progression
