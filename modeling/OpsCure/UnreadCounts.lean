/-
Is the unread count exact (`get_unread_count`)?  It goes through the first hundred pairs of an
operation and a role of the actor's, counts up to five hundred events of each past the marker, and
leaves the actor's own whispers out.
-/
import OpsCure.ActorRoutes
import OpsCure.Library.Windows
import OpsCure.Whispers

namespace OpsCure.Api

open Session Table Contract V2 Chat Windows

/-! ## What is to be counted -/

def participatesIn (store : Store) (actorId : String) : List Id :=
  (selectWhere (fun operation => operation.participants.any (·.actorId = actorId))
    store.operations).map Prod.snd

def World.unseen (w : World) (actorId : String) (operationId : Id) : List Event :=
  (w.store.log operationId).drop (w.lastSeen operationId actorId)

/-- Those it may see: all but the whispers between others. -/
def World.visibleUnseen (w : World) (actorId : String) (operationId : Id) : Nat :=
  (w.unseen actorId operationId).countP (visibleTo (some actorId))

def World.exactUnread (w : World) (actorId : String) : Nat :=
  ((participatesIn w.store actorId).map (w.visibleUnseen actorId)).sum

/-! ## What the count takes twice, and what it leaves out -/

/-- How many roles of an actor's on an operation are among its first hundred pairs. -/
def shownRoles (store : Store) (actorId : String) (operationId : Id) : Nat :=
  (operationsForActor store actorId [] none 100).countP fun row => row.2 = operationId

/-- The events an operation is counted with: of the first five hundred, those that are public or
whispered to the actor. -/
def World.counted (w : World) (actorId : String) (operationId : Id) : Nat :=
  ((w.unseen actorId operationId).take 500).countP fun event =>
    event.privateToActorIds.all (actorId ∈ ·)

def ownWhisper (actorId : String) (event : Event) : Bool :=
  event.actorId = actorId && !event.privateToActorIds.all (actorId ∈ ·)

/-- What an operation is counted with once more for each further role. -/
def World.countedAgain (w : World) (actorId : String) (operationId : Id) : Nat :=
  (shownRoles w.store actorId operationId - 1) * w.counted actorId operationId

/-- What is left out of an operation: all of it behind the hundredth pair, and else the actor's own
whispers and what lies behind the five hundredth event. -/
def World.leftOut (w : World) (actorId : String) (operationId : Id) : Nat :=
  if shownRoles w.store actorId operationId = 0 then w.visibleUnseen actorId operationId
  else ((w.unseen actorId operationId).take 500).countP (ownWhisper actorId) +
    ((w.unseen actorId operationId).drop 500).countP (visibleTo (some actorId))

/-- What repeated roles count again makes up for what is left out; without either there is
nothing to make up for. -/
def Balanced (w : World) (actorId : String) : Prop :=
  ((participatesIn w.store actorId).map (w.countedAgain actorId)).sum =
    ((participatesIn w.store actorId).map (w.leftOut actorId)).sum

/-! ## One operation -/

theorem countP_visibleTo (actorId : String) (events : List Event) :
    events.countP (visibleTo (some actorId)) =
      (events.countP fun event => event.privateToActorIds.all (actorId ∈ ·)) +
        events.countP (ownWhisper actorId) := by
  induction events with
  | nil => rfl
  | cons event events ih =>
      have hhere : (if visibleTo (some actorId) event then 1 else 0) =
          (if event.privateToActorIds.all (actorId ∈ ·) then 1 else 0) +
            if ownWhisper actorId event then 1 else 0 := by
        unfold visibleTo ownWhisper
        cases event.privateToActorIds with
        | none => simp
        | some readers =>
            by_cases hlisted : actorId ∈ readers
            · simp [hlisted]
            · by_cases hown : actorId = event.actorId
              · rw [hown] at hlisted
                simp [hown, hlisted]
              · simp [hlisted, hown, Ne.symm hown]
      rw [List.countP_cons, List.countP_cons, List.countP_cons, ih, hhere]
      omega

section Operation

variable (w : World) (actorId : String) (operationId : Id)

theorem visibleUnseen_eq : w.visibleUnseen actorId operationId =
    w.counted actorId operationId +
      ((w.unseen actorId operationId).take 500).countP (ownWhisper actorId) +
      ((w.unseen actorId operationId).drop 500).countP (visibleTo (some actorId)) := by
  have hsplit : w.visibleUnseen actorId operationId =
      ((w.unseen actorId operationId).take 500 ++
        (w.unseen actorId operationId).drop 500).countP (visibleTo (some actorId)) := by
    rw [List.take_append_drop]
    rfl
  rw [hsplit, List.countP_append, countP_visibleTo]
  rfl

theorem counted_balance : shownRoles w.store actorId operationId * w.counted actorId operationId +
      w.leftOut actorId operationId =
    w.visibleUnseen actorId operationId + w.countedAgain actorId operationId := by
  rw [World.leftOut, World.countedAgain]
  rcases hroles : shownRoles w.store actorId operationId with _ | more
  · simp
  · rw [visibleUnseen_eq, if_neg (Nat.succ_ne_zero more), Nat.succ_mul]
    simp only [Nat.add_sub_cancel]
    omega

theorem length_unreadEvents : (unreadEvents w actorId operationId).length =
    w.counted actorId operationId := by
  rw [unreadEvents, World.counted, List.countP_eq_length_filter]
  rfl

end Operation

/-! ## The whole count -/

section Count

variable {w : World} {actorId : String}

theorem mem_participatesIn {row : (V2.Operation × String) × Id}
    (hrow : row ∈ operationsForActor w.store actorId [] none 100) :
    row.2 ∈ participatesIn w.store actorId := by
  have hkept := List.mem_of_mem_take hrow
  rw [mem_orderBy] at hkept
  have hjoined := (List.mem_filter.mp hkept).1
  obtain ⟨⟨operation, id⟩, hoperation, hroles⟩ := List.mem_flatMap.mp hjoined
  obtain ⟨participant, hparticipant, rfl⟩ := List.mem_map.mp hroles
  obtain ⟨hmem, hactor⟩ := List.mem_filter.mp hparticipant
  have hselected : (operation, id) ∈ selectWhere
      (fun operation => operation.participants.any (·.actorId = actorId))
      w.store.operations := by
    rw [mem_selectWhere]
    exact ⟨List.mem_zipIdx_iff_getElem?.mp hoperation,
      List.any_eq_true.mpr ⟨participant, hmem, hactor⟩⟩
  exact List.mem_map.mpr ⟨_, hselected, rfl⟩

theorem nodup_participatesIn : (participatesIn w.store actorId).Nodup :=
  List.pairwise_map.mpr (pairwise_selectWhere _ _)

theorem sum_counted : ((operationsForActor w.store actorId [] none 100).map fun row =>
      (unreadEvents w actorId row.2).length).sum =
    ((participatesIn w.store actorId).map fun id =>
      shownRoles w.store actorId id * w.counted actorId id).sum := by
  simp only [length_unreadEvents]
  exact sum_map_key (w.counted actorId) Prod.snd nodup_participatesIn _
    fun row hrow => mem_participatesIn hrow

/-- The count is exact exactly when what it counts again makes up for what it leaves out. -/
theorem unreadCount_exact_iff {actorHandle : String} {actor : Actor}
    (hactor : w.store.getActorByHandle (withAt actorHandle) = some actor) :
    exec (getUnreadCount actorHandle) w =
        (.ok (.unread (withAt actorHandle) (w.exactUnread actor.handle)), w) ↔
      Balanced w actor.handle := by
  have hbalance : ((participatesIn w.store actor.handle).map fun id =>
        shownRoles w.store actor.handle id * w.counted actor.handle id).sum +
      ((participatesIn w.store actor.handle).map (w.leftOut actor.handle)).sum =
        w.exactUnread actor.handle +
          ((participatesIn w.store actor.handle).map (w.countedAgain actor.handle)).sum := by
    rw [World.exactUnread, ← List.sum_map_add, ← List.sum_map_add]
    exact congrArg List.sum (List.map_congr_left fun id _ => counted_balance w actor.handle id)
  have hcount : exec (getUnreadCount actorHandle) w = (.ok (.unread (withAt actorHandle)
      ((participatesIn w.store actor.handle).map fun id =>
        shownRoles w.store actor.handle id * w.counted actor.handle id).sum), w) := by
    rw [getUnreadCount, exec_query, hactor]
    simp only [sum_counted]
  rw [hcount, Balanced]
  simp only [Prod.mk.injEq, and_true, Except.ok.injEq, Response.unread.injEq, true_and]
  omega

end Count

/-! ## A whisper of one's own -/

/-- A room where nobody has marked anything as seen. -/
def unmarked (s : State) : World where
  bridge := Bridge.of s
  tokens := []
  presence := fun _ => ⟨.offline, none⟩
  lastSeenSeq := fun _ _ => none
  subscriptions := []

/-- In her inquiry `alice` has one event to read. -/
theorem opened_count_exact : exec (getUnreadCount "alice") (unmarked aliceInquiry) =
    (.ok (.unread "@alice" 1), unmarked aliceInquiry) := by
  have hactor : ∃ actor,
      (unmarked aliceInquiry).store.getActorByHandle (withAt "alice") = some actor ∧
        actor.handle = "@alice" := by
    refine ⟨_, rfl, ?_⟩
    decide
  obtain ⟨actor, hactor, hhandle⟩ := hactor
  have hexact := (unreadCount_exact_iff hactor).mpr (by
    rw [hhandle]
    unfold Balanced
    decide)
  have htotal : (unmarked aliceInquiry).exactUnread "@alice" = 1 := by decide
  rw [hhandle, htotal] at hexact
  exact hexact

/-- Her whisper to `bob` she may see, and it is not counted. -/
theorem own_whisper_uncounted :
    ¬ ∀ w actorHandle actor, w.store.getActorByHandle (withAt actorHandle) = some actor →
      exec (getUnreadCount actorHandle) w =
        (.ok (.unread (withAt actorHandle) (w.exactUnread actor.handle)), w) := by
  intro hall
  obtain ⟨actor, hactor, hhandle⟩ : ∃ actor,
      (unmarked (whisperedTo ["bob"])).store.getActorByHandle (withAt "alice") = some actor ∧
        actor.handle = "@alice" := by
    refine ⟨_, rfl, ?_⟩
    decide
  have hexact := congrArg Prod.fst (hall _ "alice" actor hactor)
  have htotal : (unmarked (whisperedTo ["bob"])).exactUnread "@alice" = 2 := by decide
  rw [hhandle, htotal, getUnreadCount, exec_query, hactor] at hexact
  have hcounts : ((operationsForActor (unmarked (whisperedTo ["bob"])).store "@alice" [] none
      100).map fun row => (unreadEvents (unmarked (whisperedTo ["bob"])) "@alice"
        row.2).length).sum = 1 := by
    decide
  simp only [hhandle, hcounts, Except.ok.injEq, Response.unread.injEq, true_and] at hexact
  cases hexact

end OpsCure.Api
