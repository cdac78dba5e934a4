/-
Is an actor handle bound to the token that names it?  The routes that open, append to and
close an operation and the inbox stream ask the token first.  The routes of a task, the
event log and the read cursor never do, and the heartbeat does not ask for its scope.
-/
import OpsCure.ActorRoutes
import OpsCure.Deeds

namespace OpsCure.Chat

open Fallible Session Table Contract V2 RemoteTask

/-! ## What an operation on a task leaves -/

def TaskRequest.served (request : TaskRequest) (config : Config) (s : State) (taskId : Id)
    (clocks : Clocks) : State :=
  { asking config s request.capability with
    tasks := step s.tasks ⟨(request.plan config taskId).operation, clocks.remote⟩ }

variable {config : Config} {s : State} {request : TaskRequest} {conversationId : Id}
  {clocks : Clocks}

end OpsCure.Chat

namespace OpsCure.Api

open Fallible Session Table Contract V2 Chat RemoteTask

/-! ## The property -/

def Scope.rank : Scope → Nat
  | readOnly => 1
  | speak => 2
  | admin => 3

variable {d : Deployment} {w : World} {token : Option String} {handle actorHandle actorId : String}
  {request : RouteRequest} {operationId : Id} {body : EventRequest} {clock : Clock} {now : Time}
  {clocks : Clocks} {asked : Except RouteError TaskRequest} {call : RouteCall} {seq : Nat}

def strictDeployment : Deployment where
  chat := plainConfig
  hashActorToken := id
  requireActorToken := true
  maxJsonDepth := 16
  boundsLogOnly := false
  requireKnownHandles := false

def staffedRoom : World where
  bridge := Bridge.of { emptyRoom with
    store := { emptyRoom.store with
      actors := ["@alice", "@bob", "@eve"].map fun handle =>
        { handle := handle, displayName := handle, kind := .ai, capabilities := [] } } }
  tokens :=
    [{ actorId := "@alice", tokenHash := "a", scope := .speak, revokedAt := none },
      { actorId := "@eve", tokenHash := "e", scope := .readOnly, revokedAt := none }]
  presence := fun _ => ⟨.offline, none⟩
  lastSeenSeq := fun _ _ => none
  subscriptions := []

/-- `alice` opens a task that binds a remote one. -/
def aliceOpens : RouteRequest where
  call := .openOperation
    { spaceId := "room"
      kind := "task"
      title := "build"
      intent := none
      addressedTo := none
      openerActorHandle := "@alice"
      objective := some "build it"
      successCriteria := none
      policy := some [("bind_remote_task", .bool true)] }
    0 (fun _ => 0) fun _ => 0
  token := some "a"

end OpsCure.Api
