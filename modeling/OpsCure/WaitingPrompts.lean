/-
Does a sync show the prompts that wait?  A client with the method that `perform_sync` calls would have
it show those among the commands it lists.  The client of the agent has no such method, and the handler
around the call makes an empty list of that.
-/
import OpsCure.AgentSync
import OpsCure.Library.Words

namespace OpsCure.AgentSync

open Rollout RemoteCommand
open RemoteCodex (compactText)

theorem getThreadById_congr {machine other : Machine} (harchived : other.archived = machine.archived)
    (hstored : other.stored = machine.stored) (hruntime : other.runtime = machine.runtime) :
    getThreadById other = getThreadById machine := by
  funext id
  rw [getThreadById, getThreadById, harchived, hstored, hruntime]

/-! ## The client of the agent -/

structure Waiting (setup : Setup) (visits : List Visit) (site : Site) (threadId : String)
    (commandId : Id) : Prop where
  listed : threadId ≠ "" ∧ ∃ visit ∈ visits, visit.threadId = threadId
  waits : ∃ row, site.store.commands.get commandId = some row ∧
    RemoteCodex.isOfThread setup.machineId threadId row ∧ row.type = RemoteCodex.turnStart ∧
    RemoteCodex.active row ∧ compactText (row.prompt.getD "") "" ≠ ""
  rollout : ∃ record, getThreadById site.machine threadId = some record ∧
    compactText record.rolloutPath "" ≠ ""
  noDesktop : canSubmitPromptViaDesktopUi setup threadId = false

def AllMaterialized (setup : Setup) (visits : List Visit) (before after : Site) : Prop :=
  ∀ threadId commandId, Waiting setup visits before threadId commandId →
    (threadId, compactText (toString commandId) "") ∈ after.materialized

section Client

variable {setup : Setup} {versions : List (String × String)} {force : Bool}

theorem showWaiting_client (visit : Visit) (site : Site) :
    showWaiting bridgeRemoteExecutorClient setup visit site = (site, .ok false) := by
  have hmissing : Method.getRemoteCodexThreadCommands ∉ bridgeRemoteExecutorClient.methods := by
    decide
  rw [showWaiting, askThreadCommands, if_neg hmissing]
  rfl

theorem materialized_visitThread (includePendingCommands : Bool) (visit : Visit) (site : Site) :
    (visitThread bridgeRemoteExecutorClient setup versions force includePendingCommands visit
      site).1.materialized = site.materialized := by
  rw [visitThread, showWaiting_client, ite_self]
  split
  · rfl
  · rfl

theorem materialized_visitThreads (includePendingCommands : Bool) (visits : List Visit)
    (site : Site) :
    (visitThreads bridgeRemoteExecutorClient setup versions force includePendingCommands visits
      site).1.materialized = site.materialized := by
  induction visits generalizing site with
  | nil => rfl
  | cons visit visits ih =>
      have hhere := @materialized_visitThread setup versions force includePendingCommands visit site
      rw [visitThreads]
      dsimp only
      split
      · exact hhere
      · exact (ih _).trans hhere

theorem materialized_performSync (includePendingCommands : Bool) (visits : List Visit)
    (fate : Lossy.Fate) (world : World) :
    (performSync bridgeRemoteExecutorClient setup force includePendingCommands visits fate
      world).1.site.materialized = world.site.materialized := by
  have hvisited := @materialized_visitThreads setup world.threadVersions force
    includePendingCommands visits world.site
  rw [performSync]
  split
  · exact hvisited
  · split
    · exact hvisited
    · exact hvisited
    · exact hvisited

end Client

/-- After a sync through the client of the agent, every prompt that waits has been materialised
exactly where every one had been before. -/
theorem all_materialized_iff (setup : Setup) (force : Bool) (visits : List Visit)
    (fate : Lossy.Fate) (world : World) :
    AllMaterialized setup visits world.site
        (performSync bridgeRemoteExecutorClient setup force true visits fate world).1.site ↔
      AllMaterialized setup visits world.site world.site := by
  rw [AllMaterialized, AllMaterialized, materialized_performSync]

/-! ## A prompt that waits -/

theorem nothing_visible (_ : ℚ) : ∀ c ∈ ([] : List Char), 0x20 < c.toNat ∧ c.toNat < 0x7F :=
  nofun

/-- An agent without an app server; what it reads is no JSON. -/
def quietSetup : Setup where
  python := { render := fun _ => "", loads := fun _ => none, fromisoformat := fun _ => .invalid }
  floats := { write := fun _ => [], visible := nothing_visible }
  windows := false
  expanduser := id
  machineId := "m"
  appServer := false
  desktopThreadId := none
  messageLimit := 200
  pendingCommandSyncLimit := 8

def threadT : ThreadRecord where
  title := "T"
  rolloutPath := "t.jsonl"
  updatedAtMs := 1
  cliVersion := none
  status := .null

def emptyRollout : Machine where
  archived := fun _ => false
  stored := fun id => if id = "t" then some threadT else none
  runtime := fun _ => none
  turns := fun _ => none
  files := fun path => if path = "t.jsonl" then some (.file [] 1) else none
  pending := fun _ => []

def turnRequest : EnqueueRequest RemoteCodex.Address where
  commandType := RemoteCodex.turnStart
  machineId := "m"
  address := { threadId := "t", taskId := none, turnId := none }
  prompt := some "Go"
  requestedBy := .null

def queuedWorld : World where
  site := {
    machine := emptyRollout
    store := {
      commands := RemoteCodex.CommandTable.empty.enqueueCommand (fun _ => "") turnRequest fun _ => 0
      tasks := .empty
      machines := ["m"]
      threads := fun id => if id = "t" then some [] else none }
    materialized := [] }
  threadVersions := []
  hasBootstrapped := true

def visitT : Visit where
  id := "t"
  record := threadT
  asked := 0
  shown := fun _ => ⟨0, "2026-01-01T00:00:00Z", 0, 2⟩
  reading := ⟨0, "2026-01-01T00:00:00Z", 0, 3⟩

def completeClient : Client where
  className := "BridgeRemoteExecutorClient"
  methods := .getRemoteCodexThreadCommands :: bridgeRemoteExecutorClient.methods

/-- A sync runs through and leaves a prompt that waits as it was.  A client with the method would have
it shown. -/
theorem queued_prompt_not_shown :
    (performSync bridgeRemoteExecutorClient quietSetup true true [visitT] .delivered
        queuedWorld).2 = .ok true ∧
      (showWaiting completeClient quietSetup visitT queuedWorld.site).1.materialized =
        [("t", "0")] ∧
      ¬ AllMaterialized quietSetup [visitT] queuedWorld.site
        (performSync bridgeRemoteExecutorClient quietSetup true true [visitT] .delivered
          queuedWorld).1.site := by
  refine ⟨by decide +kernel, by decide +kernel, ?_⟩
  intro hall
  have hwaiting : Waiting quietSetup [visitT] queuedWorld.site "t" 0 := by
    refine ⟨⟨by decide, visitT, List.mem_singleton.mpr rfl, by rfl⟩, ?_, ?_, rfl⟩
    · exact ⟨RemoteCodex.queuedRow turnRequest fun _ => 0, rfl, by decide, rfl, rfl, by decide⟩
    · exact ⟨threadT, rfl, by decide⟩
  have hshown := hall "t" 0 hwaiting
  rw [materialized_performSync] at hshown
  exact absurd hshown List.not_mem_nil

end OpsCure.AgentSync
