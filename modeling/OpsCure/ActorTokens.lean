/-
The tokens of actors over their whole life (`api/v2_actor_tokens.py`): how they are issued
and revoked while the `/v2` routes are served, and whose they are in between.
-/
import OpsCure.IdentityBinding
import OpsCure.PushPull

namespace OpsCure.Api

open Fallible Session Table Run Contract V2 Chat RemoteTask

/-! ## The routes -/

/-- `ALL_TOKEN_SCOPES`, by their texts. -/
def tokenScope : String → Option Scope
  | "admin" => some .admin
  | "speak" => some .speak
  | "read-only" => some .readOnly
  | _ => none

inductive TokenError where
  | unknownScope (scope : String)
  | actorNotFound (handle : String)
  | tokenNotFound
  /-- The unique index on the hash. -/
  | integrity

/-- The status and the detail of an error, `repr` being Python's. -/
def TokenError.detail (repr : Json → String) : TokenError → Nat × String
  | unknownScope scope => (400,
      s!"unknown scope {repr (.str scope)}; valid: ['admin', 'read-only', 'speak']")
  | actorNotFound handle => (404, s!"actor {handle} not found")
  | tokenNotFound => (404, "token not found for actor")
  | integrity => (500, "Internal Server Error")

/-- `IssueTokenResponse`; the label and the time of issue are left out. -/
structure IssuedToken where
  id : Id
  actorHandle : String
  token : String
  scope : Scope
deriving DecidableEq, Repr

/-- `issue_actor_token`, with the plaintext it draws. -/
def issueActorToken (d : Deployment) (handle scope plaintext : String) (now : Time) :
    Program TokenError World IssuedToken :=
  transaction fun w => do
    let scope ← orRaise (tokenScope scope) (.unknownScope scope)
    let ensured := w.ensureActorByHandle (withAt handle) now
    let tokenHash := d.hashActorToken plaintext
    require (∀ row ∈ w.tokens, row.tokenHash ≠ tokenHash) .integrity
    let row : TokenRow :=
      { actorId := withAt handle, tokenHash := tokenHash, scope := scope, revokedAt := none }
    return (⟨w.tokens.length, withAt handle, plaintext, scope⟩,
      { ensured with tokens := w.tokens ++ [row] })

/-- `revoke_actor_token`: a token that is revoked already stays so since then. -/
def revokeActorToken (handle : String) (tokenId : Id) (now : Time) :
    Program TokenError World (Option Time) :=
  transaction fun w => do
    let actor ← orRaise (w.store.getActorByHandle (withAt handle))
      (.actorNotFound (withAt handle))
    let row ← orRaise w.tokens[tokenId]? .tokenNotFound
    require (row.actorId = actor.handle) .tokenNotFound
    let revoked := { row with revokedAt := row.revokedAt.or (some now) }
    return (revoked.revokedAt, { w with tokens := update w.tokens tokenId revoked })

/-- What is asked of the bridge, the administration of the tokens included. -/
inductive TokenDeed where
  | issue (handle scope plaintext : String) (now : Time)
  | revoke (handle : String) (tokenId : Id) (now : Time)
  | serve (request : RouteRequest)

/-- The world a deed leaves, whether it goes through or raises. -/
def tokenStep (d : Deployment) (w : World) : TokenDeed → World
  | .issue handle scope plaintext now => (exec (issueActorToken d handle scope plaintext now) w).2
  | .revoke handle tokenId now => (exec (revokeActorToken handle tokenId now) w).2
  | .serve request => (exec (serve d request) w).2

/-- The deed asks to revoke this token of the actor. -/
def TokenDeed.revokes (handle : String) (tokenId : Id) : TokenDeed → Bool
  | .revoke named revoked _ => withAt named = handle ∧ revoked = tokenId
  | .issue _ _ _ _ => false
  | .serve _ => false

/-! ## What the routes leave of the tokens -/

variable {d : Deployment} {w after : World} {handle : String}

/-- The tokens are these, and the actors are still there. -/
def Credentials (w : World) (t : World) : Prop :=
  t.tokens = w.tokens ∧ w.store.actors <+: t.store.actors

theorem deed_actors (api : ApiConfig) (b : Bridge) (deed : Deed) :
    b.chat.store.actors <+: (bridgeStep api b deed).chat.store.actors := by
  apply deed_keeps api (P := fun t => b.chat.store.actors <+: t.store.actors) _ List.prefix_rfl
  intro s may t hs hwrites
  apply hwrites.keeps (P := fun t => b.chat.store.actors <+: t.store.actors) hs
  exact fun u v hu hwrite => hu.trans hwrite.lengthens.1

theorem keeps_onBridge {α : Type} {program : Program ApiError Bridge α}
    (hactors : ∀ b, b.chat.store.actors <+: (exec program b).2.chat.store.actors) :
    Keeps (Credentials w) (onBridge program) :=
  fun t ht => ⟨ht.1, ht.2.trans (hactors t.bridge)⟩

theorem credentials_postInThread {t : World} (ht : Credentials w t) (conversationId : Id)
    (post : String) : Credentials w (postInThread t conversationId post) := by
  unfold postInThread
  split <;> exact ht

theorem credentials_ensureActor {t : World} (ht : Credentials w t) (handle : String)
    (now : Time) : Credentials w (t.ensureActorByHandle handle now) := by
  unfold World.ensureActorByHandle
  split
  · exact ht
  · exact ⟨ht.1, ht.2.trans (t.store.actors_prefix_ensureActorByHandle handle .ai)⟩

theorem isSome_ensureActorByHandle (w : World) (handle : String) (now : Time) :
    ((w.ensureActorByHandle handle now).store.getActorByHandle handle).isSome := by
  unfold World.ensureActorByHandle
  split
  · rename_i hknown
    exact Option.isSome_iff_exists.mpr ⟨_, hknown⟩
  · exact w.store.isSome_getActorByHandle_ensure handle .ai

theorem keeps_coordCall (operationId : Id) (asked : Except RouteError TaskRequest)
    (clocks : Clocks) : Keeps (Credentials w) (coordCall d operationId asked clocks) := by
  refine keeps_bind (keeps_query _ _) fun conversationId => keeps_bind (keeps_query _ _) ?_
  intro request
  refine keeps_bind (keeps_onBridge ?_) fun _ => keeps_query _ _
  intro b
  exact deed_actors ⟨d.chat, fun _ => none, false, 0, false, false⟩ b
    (.coordinate conversationId request clocks)

/-- No route touches a token, and none unregisters an actor. -/
theorem keeps_serve (d : Deployment) (request : RouteRequest) :
    Keeps (Credentials w) (serve d request) := by
  unfold serve
  cases request.call with
  | openOperation body now clock taskClock =>
      refine keeps_bind (keeps_query _ _) fun _ => keeps_bind (keeps_query _ _) fun _ =>
        keeps_bind (keeps_query _ _) fun _ => keeps_bind (keeps_transaction ?_) fun _ =>
          keeps_bind (keeps_query _ _) fun asked => keeps_bind (keeps_onBridge ?_) fun _ =>
            keeps_transaction ?_
      · intro t value after ht hok
        simp only [bind_eq_ok, orRaise_eq_ok, pure_eq_ok, Prod.mk.injEq] at hok
        rcases hok with ⟨threadId, _, _, rfl⟩
        refine ⟨ht.1, ht.2.trans ?_⟩
        change t.bridge.chat.store.actors <+:
          (ensureGeneral t.bridge.chat threadId now).store.actors
        unfold ensureGeneral
        split
        · exact List.prefix_rfl
        · exact (Recorded.of_opened _ _ _).extends_store.actors
      · exact fun b => deed_actors (d.api w) b
          (.openConversation body.spaceId asked clock taskClock)
      · intro t value after ht hok
        simp only [finishOpen, bind_eq_ok, pure_eq_ok, Prod.mk.injEq] at hok
        rcases hok with ⟨_, _, _, _, _, rfl⟩
        exact credentials_postInThread ht _ _
  | appendEvent operationId body clock finishClock =>
      intro t ht
      have hkeeps : Keeps (Credentials w) (onBridge (appendEvent (d.api t) operationId
          { body with actorToken := request.token } clock finishClock)) :=
        keeps_onBridge fun b => deed_actors (d.api t) b
          (.appendEvent operationId { body with actorToken := request.token } clock finishClock)
      have hanswered : Keeps (Credentials w) (onBridge (appendEvent (d.api t) operationId
          { body with actorToken := request.token } clock finishClock) >>=
            fun body => pure (Response.event body)) := keeps_bind hkeeps fun _ s hs => hs
      change Credentials w
        (exec (appendEventRoute d operationId body request.token clock finishClock) t).2
      rw [appendEventRoute, exec_bind, exec_query]
      exact hanswered t ht
  | closeOperation operationId body clock =>
      refine keeps_bind (keeps_query _ _) fun _ => keeps_bind (keeps_query _ _) fun _ =>
        keeps_bind (keeps_query _ _) fun conversationId => keeps_bind (keeps_onBridge ?_) fun _ =>
          keeps_transaction ?_
      · exact fun b => deed_actors (d.api w) b (.closeConversation conversationId
          (stripAt body.actorHandle) body.resolution body.summary false clock)
      · intro t value after ht hok
        simp only [finishClose, bind_eq_ok, pure_eq_ok, Prod.mk.injEq] at hok
        rcases hok with ⟨_, _, _, rfl⟩
        exact credentials_postInThread ht _ _
  | claimOperation operationId body drawn clocks => exact keeps_coordCall operationId _ clocks
  | submitEvidence operationId body clocks =>
      exact keeps_bind (keeps_query _ _) fun _ => keeps_coordCall operationId _ clocks
  | requestApproval operationId body clocks => exact keeps_coordCall operationId _ clocks
  | resolveApproval operationId body clocks => exact keeps_coordCall operationId _ clocks
  | completeOperation operationId body clocks => exact keeps_coordCall operationId _ clocks
  | failOperation operationId body clocks => exact keeps_coordCall operationId _ clocks
  | listEvents => exact keeps_query _ _
  | markSeen =>
      apply keeps_transaction
      intro t value after ht hok
      simp only [bind_eq_ok, require_eq_ok, pure_eq_ok, Prod.mk.injEq] at hok
      rcases hok with ⟨_, _, _, _, _, _, _, rfl⟩
      exact ht
  | getInbox => exact keeps_query _ _
  | listDiscoverable => exact keeps_query _ _
  | streamInbox =>
      refine keeps_bind (keeps_query _ _) fun _ => keeps_transaction ?_
      intro t value after ht hok
      cases hok
      exact credentials_ensureActor ht _ _
  | getUnreadCount => exact keeps_query _ _
  | actorHeartbeat =>
      refine keeps_bind (keeps_query _ _) fun _ => keeps_transaction ?_
      intro t value after ht hok
      cases hok
      exact credentials_ensureActor ht _ _

/-! ## The life of a token -/

/-- The token of this place is the actor's and no other has its hash. -/
structure Holds (d : Deployment) (tokenId : Id) (handle plaintext : String) (scope : Scope)
    (revoked : Bool) (w : World) : Prop where
  row : ∃ revokedAt, w.tokens[tokenId]? =
    some ⟨handle, d.hashActorToken plaintext, scope, revokedAt⟩ ∧ revokedAt.isSome = revoked
  only : ∀ place row, w.tokens[place]? = some row →
    row.tokenHash = d.hashActorToken plaintext → place = tokenId
  known : (w.store.getActorByHandle handle).isSome

variable {tokenId : Id} {plaintext : String} {scope : Scope} {revoked : Bool}

theorem Holds.of_credentials (hholds : Holds d tokenId handle plaintext scope revoked w)
    (hkept : Credentials w after) : Holds d tokenId handle plaintext scope revoked after where
  row := by
    rw [hkept.1]
    exact hholds.row
  only := by
    rw [hkept.1]
    exact hholds.only
  known := by
    rcases Option.isSome_iff_exists.mp hholds.known with ⟨actor, hactor⟩
    rw [Store.getActorByHandle_of_prefix hkept.2 hactor]
    rfl

theorem handle_of_getActorByHandle {store : Store} {actor : Actor}
    (hactor : store.getActorByHandle handle = some actor) : actor.handle = handle := by
  simpa using List.find?_some hactor

theorem Holds.resolve (hholds : Holds d tokenId handle plaintext scope revoked w) :
    resolveActorToken d w plaintext = if revoked then none else some (handle, scope) := by
  rcases hholds.row with ⟨revokedAt, hrow, hrevoked⟩
  have hfound : ∀ row, w.getActorTokenByHash (d.hashActorToken plaintext) = some row →
      w.tokens[tokenId]? = some row ∧ row.revokedAt = none := by
    intro row hrow
    have hmem := List.mem_of_find?_eq_some hrow
    have hactive := List.find?_some hrow
    rw [decide_eq_true_iff] at hactive
    rcases List.mem_iff_getElem?.mp hmem with ⟨place, hplace⟩
    rw [← hholds.only place row hplace hactive.1]
    exact ⟨hplace, hactive.2⟩
  rw [resolveActorToken]
  cases hactive : w.getActorTokenByHash (d.hashActorToken plaintext) with
  | some row =>
      rcases hfound row hactive with ⟨hthis, hnone⟩
      rw [hrow] at hthis
      cases hthis
      simp only at hnone
      rw [hnone] at hrevoked
      rcases Option.isSome_iff_exists.mp hholds.known with ⟨actor, hactor⟩
      have hhandle := handle_of_getActorByHandle hactor
      rw [← hrevoked, Option.bind_some, hactor, Option.map_some, hhandle]
      rfl
  | none =>
      cases hrevoked' : revoked with
      | true => rfl
      | false =>
          have hnone := List.find?_eq_none.mp hactive _ (List.mem_of_getElem? hrow)
          rw [hrevoked', Option.isSome_eq_false_iff, Option.isNone_iff_eq_none] at hrevoked
          simp [hrevoked] at hnone

/-- A token that is issued has a hash of its own. -/
theorem keeps_issue (named asked drawn : String) (now : Time) :
    Keeps (Holds d tokenId handle plaintext scope revoked)
      (issueActorToken d named asked drawn now) := by
  apply keeps_transaction
  intro w value after hholds hok
  simp only [bind_eq_ok, orRaise_eq_ok, require_eq_ok, pure_eq_ok, Prod.mk.injEq] at hok
  rcases hok with ⟨issued, _, _, hfresh, _, rfl⟩
  rcases hholds.row with ⟨revokedAt, hrow, hrevoked⟩
  have hlt := (List.getElem?_eq_some_iff.mp hrow).1
  refine ⟨⟨revokedAt, ?_, hrevoked⟩, ?_, ?_⟩
  · rw [List.getElem?_append_left hlt, hrow]
  · intro place row hplace hhash
    rcases getElem?_concat_eq_some hplace with hold | ⟨_, rfl⟩
    · exact hholds.only place row hold hhash
    · exact absurd hhash.symm (hfresh _ (List.mem_of_getElem? hrow))
  · exact (hholds.of_credentials
      (credentials_ensureActor ⟨rfl, List.prefix_rfl⟩ (withAt named) now)).known

/-- A request revokes this token, if it names it and its actor, and no other. -/
theorem revoke_holds (hholds : Holds d tokenId handle plaintext scope revoked w) (named : String)
    (other : Id) (now : Time) : Holds d tokenId handle plaintext scope
      (revoked || TokenDeed.revokes handle tokenId (.revoke named other now))
      (exec (revokeActorToken named other now) w).2 := by
  by_cases hasked : withAt named = handle ∧ other = tokenId
  · rcases hasked with ⟨rfl, rfl⟩
    rcases hholds.row with ⟨revokedAt, hrow, _⟩
    rcases Option.isSome_iff_exists.mp hholds.known with ⟨actor, hactor⟩
    have hhandle := handle_of_getActorByHandle hactor
    have hrevokes : TokenDeed.revokes (withAt named) other (.revoke named other now) = true :=
      decide_eq_true ⟨rfl, rfl⟩
    rw [hrevokes, Bool.or_true, revokeActorToken, exec_transaction, hactor, hrow]
    simp only [orRaise, require, hhandle, if_true, bind, Except.bind, pure, Except.pure]
    refine ⟨⟨revokedAt.or (some now), getElem?_update_self hrow, by simp⟩, ?_, hholds.known⟩
    intro place row hplace hhash
    rcases getElem?_update_eq_some hplace with ⟨hthis, _⟩ | hold
    · exact hthis.symm
    · exact hholds.only place row hold hhash
  · have hrevokes : TokenDeed.revokes handle tokenId (.revoke named other now) = false :=
      decide_eq_false hasked
    rw [hrevokes, Bool.or_false]
    refine keeps_transaction ?_ w hholds
    intro t value after ht hok
    simp only [bind_eq_ok, orRaise_eq_ok, require_eq_ok, pure_eq_ok, Prod.mk.injEq] at hok
    rcases hok with ⟨actor, hactor, found, hfound, _, howner, _, rfl⟩
    rcases ht.row with ⟨revokedAt, hrow, hrevoked⟩
    have hne : other ≠ tokenId := by
      rintro rfl
      rw [hrow] at hfound
      cases hfound
      exact hasked ⟨(howner.trans (handle_of_getActorByHandle hactor)).symm, rfl⟩
    refine ⟨⟨revokedAt, (getElem?_update_of_ne hne).trans hrow, hrevoked⟩, ?_, ht.known⟩
    intro place row hplace hhash
    rcases getElem?_update_eq_some hplace with ⟨rfl, rfl⟩ | hold
    · exact ht.only other found hfound hhash
    · exact ht.only place row hold hhash

theorem tokenStep_holds (hholds : Holds d tokenId handle plaintext scope revoked w)
    (deed : TokenDeed) : Holds d tokenId handle plaintext scope
      (revoked || deed.revokes handle tokenId) (tokenStep d w deed) := by
  cases deed with
  | issue named asked drawn now =>
      rw [TokenDeed.revokes, Bool.or_false]
      exact keeps_issue named asked drawn now w hholds
  | revoke named other now => exact revoke_holds hholds named other now
  | serve request =>
      rw [TokenDeed.revokes, Bool.or_false]
      exact hholds.of_credentials (keeps_serve d request w ⟨rfl, List.prefix_rfl⟩)

theorem run_holds (hholds : Holds d tokenId handle plaintext scope revoked w)
    (deeds : List TokenDeed) : Holds d tokenId handle plaintext scope
      (revoked || deeds.any (·.revokes handle tokenId)) (run (tokenStep d) w deeds) := by
  induction deeds generalizing w revoked with
  | nil =>
      rw [List.any_nil, Bool.or_false]
      exact hholds
  | cons deed deeds ih =>
      rw [List.any_cons, ← Bool.or_assoc]
      exact ih (tokenStep_holds hholds deed)

/-- From its issue on a token is its actor's, with the scope it was issued with, until a
request revokes it, whatever else is served, issued or revoked; from then on it is
nobody's. -/
theorem token_lifetime (d : Deployment) {w after : World} {named asked plaintext : String}
    {now : Time} {issued : IssuedToken}
    (hissued : exec (issueActorToken d named asked plaintext now) w = (.ok issued, after))
    (deeds : List TokenDeed) :
    resolveActorToken d (run (tokenStep d) after deeds) plaintext =
      if deeds.any (·.revokes (withAt named) issued.id) then none
      else some (withAt named, issued.scope) := by
  have hstart : Holds d issued.id (withAt named) plaintext issued.scope false after := by
    rw [issueActorToken, exec_transaction_ok] at hissued
    simp only [bind_eq_ok, orRaise_eq_ok, require_eq_ok, pure_eq_ok, Prod.mk.injEq] at hissued
    rcases hissued with ⟨scope, _, _, hfresh, rfl, rfl⟩
    refine ⟨⟨none, List.getElem?_concat_length, rfl⟩, ?_, ?_⟩
    · intro place row hplace hhash
      rcases getElem?_concat_eq_some hplace with hold | ⟨hlast, _⟩
      · exact absurd hhash (hfresh row (List.mem_of_getElem? hold))
      · exact hlast
    · exact isSome_ensureActorByHandle w (withAt named) now
  have hend := (run_holds hstart deeds).resolve
  rw [Bool.false_or] at hend
  exact hend

/-- A room in which `carol` has got a token. -/
def carolsRoom : World :=
  (exec (issueActorToken strictDeployment "carol" "speak" "c" 0) staffedRoom).2

theorem carols_token : resolveActorToken strictDeployment (run (tokenStep strictDeployment)
      carolsRoom [.serve aliceOpens, .revoke "@carol" 2 1, .issue "carol" "admin" "d" 2]) "c" =
    none := by
  have hissued : exec (issueActorToken strictDeployment "carol" "speak" "c" 0) staffedRoom =
      (.ok ⟨2, "@carol", "c", .speak⟩, carolsRoom) := by
    apply Prod.ext
    · rfl
    · rfl
  rw [token_lifetime strictDeployment hissued]
  rfl

end OpsCure.Api
