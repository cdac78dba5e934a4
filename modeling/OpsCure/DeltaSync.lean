/-
Delta sync and full sync over whole runs (`remote_executor/device_agent.py`, `perform_sync`): what the
agent noted with the versions of its threads, and which delta syncs leave the bridge what a full sync
at the same moment would leave there.
-/
import OpsCure.RolloutRewrite
import OpsCure.SyncLockstep

namespace OpsCure.AgentSync

open Rollout Run
open RemoteCodex (compactText)

/-! ## Runs -/

/-- What a thread was like when its version was noted: its record, whether the agent found it, and what
stood at its rollout and in its turns.  It is adrift when the bridge does not store what is read of
that: the reading rewrote the rollout, or a sync whose reply was lost has since left the thread out or
sent it anew. -/
structure Noted where
  record : ThreadRecord
  found : Bool
  node : Option Node
  turns : Option Json
  adrift : Bool

def Noted.drift (noted : Noted) : Noted := { noted with adrift := true }

def noted (setup : Setup) (turn : Visit × Machine) : Noted where
  record := currentThread turn.2 turn.1
  found := (getThreadById turn.2 turn.1.threadId).isSome
  node := turn.2.files (rolloutPathOf setup (currentThread turn.2 turn.1))
  turns := turn.2.turns turn.1.threadId
  adrift := disturbs setup turn.2 turn.1.threadId turn.1.reading.now

/-- The agent, its machine and the bridge, with what the agent noted. -/
structure Tracked where
  world : World
  notes : String → Option Noted

def turnOf (turns : List (Visit × Machine)) (threadId : String) : Option (Visit × Machine) :=
  turns.find? fun turn => turn.1.threadId = threadId

def noteSync (setup : Setup) (versions : List (String × String)) (force : Bool)
    (turns : List (Visit × Machine)) (fate : Lossy.Fate) (notes : String → Option Noted)
    (threadId : String) : Option Noted :=
  match fate, turnOf turns threadId with
  | .lostBefore, _ => notes threadId
  | .delivered, none => notes threadId
  | .delivered, some turn =>
      if Skips setup versions force turn then notes threadId else some (noted setup turn)
  | .lostAfter, none => (notes threadId).map Noted.drift
  | .lostAfter, some turn =>
      if Skips setup versions force turn then notes threadId else (notes threadId).map Noted.drift

/-- Anything on the machine changes, a thread is marked dirty, or the agent syncs. -/
inductive Op where
  | changes (machine : Machine)
  | marks (threadId : String)
  | syncs (force includePendingCommands : Bool) (visits : List Visit) (fate : Lossy.Fate)

def Tracked.turns (setup : Setup) (tracked : Tracked) (force : Bool) (visits : List Visit) :
    List (Visit × Machine) :=
  turnsOf setup tracked.world.threadVersions force (listed visits) tracked.world.site.machine

def step (setup : Setup) (tracked : Tracked) : Op → Tracked
  | .changes machine =>
      { tracked with world := { tracked.world with
          site := { tracked.world.site with machine := machine } } }
  | .marks threadId => { tracked with world := markThreadDirty tracked.world threadId }
  | .syncs force includePendingCommands visits fate => {
      world := (performSync bridgeRemoteExecutorClient setup force includePendingCommands visits fate
        tracked.world).1
      notes := match (readVisits setup tracked.world.threadVersions force (listed visits)
          tracked.world.site.machine).2 with
        | .error _ => tracked.notes
        | .ok _ => noteSync setup tracked.world.threadVersions force
            (tracked.turns setup force visits) fate tracked.notes }

def Tracked.start (site : Site) : Tracked where
  world := ⟨site, [], false⟩
  notes := fun _ => none

/-! ## The law -/

/-- After a delta sync that succeeds, the bridge stores of every listed thread what a full sync at the
same moment would leave there. -/
def Agrees (setup : Setup) (tracked : Tracked) : Op → Prop
  | .syncs false includePendingCommands visits .delivered =>
      ∀ done, (performSync bridgeRemoteExecutorClient setup false includePendingCommands visits
          .delivered tracked.world).2 = .ok done →
        ∀ visit ∈ visits, visit.threadId ≠ "" →
          (performSync bridgeRemoteExecutorClient setup false includePendingCommands visits .delivered
              tracked.world).1.site.store.threads visit.threadId =
            (performSync bridgeRemoteExecutorClient setup true includePendingCommands visits .delivered
              tracked.world).1.site.store.threads visit.threadId
  | _ => True

structure Kept (setup : Setup) (noted : Noted) (turn : Visit × Machine) (record : ThreadRecord) :
    Prop where
  /-- The other fields in its version text are the same, so that the text shows its stamps. -/
  fields : record.status = noted.record.status ∧ record.rolloutPath = noted.record.rolloutPath ∧
    record.cliVersion = noted.record.cliVersion ∧ record.title = noted.record.title
  /-- A rollout that has changed has another time or size. -/
  stamped : statText (turn.2.files (rolloutPathOf setup record)) = statText noted.node →
    turn.2.files (rolloutPathOf setup record) = noted.node
  /-- Turns that have changed come with another time of the thread. -/
  turned : record.updatedAtMs = noted.record.updatedAtMs →
    turn.2.turns turn.1.threadId = noted.turns
  /-- The agent found the thread then, too. -/
  found : noted.found = true
  /-- The bridge stores what was read then. -/
  inStep : noted.adrift = false
  /-- Reading it now would withdraw no prompt. -/
  quiet : disturbs setup turn.2 turn.1.threadId turn.1.reading.now = false

structure SteadySync (setup : Setup) (tracked : Tracked) (force : Bool) (visits : List Visit)
    (fate : Lossy.Fate) : Prop where
  once : ((listed visits).map Visit.threadId).Nodup
  kept : fate = .delivered → ∀ turn ∈ tracked.turns setup force visits,
    Skips setup tracked.world.threadVersions force turn →
    ∀ record, getThreadById turn.2 turn.1.threadId = some record →
    ∀ noted, tracked.notes turn.1.threadId = some noted → Kept setup noted turn record

def Steady (setup : Setup) (tracked : Tracked) : Op → Prop
  | .syncs force _ visits fate => SteadySync setup tracked force visits fate
  | _ => True

/-! ## The version map and the bridge -/

/-- A version is that of the state it was noted with, and unless the thread is adrift the bridge stores
what is read of that state. -/
structure Backed (setup : Setup) (threads : String → Option (List Message)) (threadId version : String)
    (noted : Noted) : Prop where
  version : version = buildThreadVersion setup (fun _ => noted.node) noted.record
  stored : noted.adrift = false → noted.found = true →
    ∃ messages, plainMessages setup.python noted.turns noted.node = .ok messages ∧
      threads threadId = some (storedOf setup messages)

def InStep (setup : Setup) (tracked : Tracked) : Prop :=
  ∀ threadId version, tracked.world.threadVersions.lookup threadId = some version →
    ∃ noted, tracked.notes threadId = some noted ∧
      Backed setup tracked.world.site.store.threads threadId version noted

/-- The threads that the bridge keeps in a sync, before the snapshots. -/
def keptThreads (visits : List Visit) (threads : String → Option (List Message)) :
    String → Option (List Message) := fun threadId =>
  if threadId ∈ ((visits.map (·.id)).map fun id => compactText id "").filter (· ≠ "") then
    some ((threads threadId).getD [])
  else none

section Sync

variable {setup : Setup} {force includePendingCommands : Bool} {visits : List Visit}
  {visit : Visit} {fate : Lossy.Fate} {world : World} {tracked : Tracked} {seen : List Seen}
  {threadId version : String} {threads : String → Option (List Message)}
  {turn : Visit × Machine} {machine : Machine}

theorem keptThreads_listed (hvisit : visit ∈ listed visits) {messages : List Message}
    (hstored : threads visit.threadId = some messages) :
    keptThreads visits threads visit.threadId = some messages := by
  have hmem : visit.threadId ∈
      ((visits.map (·.id)).map fun id => compactText id "").filter (· ≠ "") := by
    obtain ⟨hlisted, hid⟩ := List.mem_filter.mp hvisit
    rw [List.mem_filter]
    exact ⟨List.mem_map_of_mem (List.mem_map_of_mem hlisted), hid⟩
  rw [keptThreads, if_pos hmem, hstored]
  rfl

theorem performSync_client :
    performSync bridgeRemoteExecutorClient setup force includePendingCommands visits fate world =
      match readVisits setup world.threadVersions force (listed visits) world.site.machine with
      | (machine, .error raised) =>
          ({ world with site := { world.site with machine := machine } }, .error raised)
      | (machine, .ok seen) =>
          match fate with
          | .lostBefore =>
              ({ world with site := { world.site with machine := machine } }, .error "lost")
          | .lostAfter =>
              ({ world with
                  site := { world.site with machine := machine }.applySync visits seen },
                .error "lost")
          | .delivered =>
              ({ site := { world.site with machine := machine }.applySync visits seen
                 threadVersions := nextVersions seen
                 hasBootstrapped := true },
                .ok (snapshotsOf seen ≠ [] ∨ visits ≠ [])) := by
  rw [performSync, visitThreads_client]
  dsimp only
  cases hread : readVisits setup world.threadVersions force (listed visits) world.site.machine with
  | mk machine result =>
      cases result with
      | error => rfl
      | ok => rfl

theorem threads_applySync (site : Site) :
    (site.applySync visits seen).store.threads =
      withSnapshots (keptThreads visits site.store.threads) seen := rfl

theorem performSync_delivered
    (hseen : (readVisits setup world.threadVersions force (listed visits) world.site.machine).2 =
      .ok seen) :
    (performSync bridgeRemoteExecutorClient setup force includePendingCommands visits .delivered
        world).1.site.store.threads =
        withSnapshots (keptThreads visits world.site.store.threads) seen ∧
      (performSync bridgeRemoteExecutorClient setup force includePendingCommands visits .delivered
        world).1.threadVersions = nextVersions seen := by
  rw [performSync_client]
  cases hread : readVisits setup world.threadVersions force (listed visits) world.site.machine with
  | mk =>
      rw [hread] at hseen
      dsimp only at hseen ⊢
      rw [hseen]
      exact ⟨rfl, rfl⟩

theorem nextVersions_single (one : Seen) :
    (nextVersions [one]).lookup one.threadId = some one.version := by
  have hone : nextVersions [one] = [(one.threadId, one.version)] := rfl
  rw [hone]
  exact List.lookup_cons_self

theorem exists_seen {done : Bool}
    (hdone : (performSync bridgeRemoteExecutorClient setup force includePendingCommands visits fate
      world).2 = .ok done) :
    ∃ seen, (readVisits setup world.threadVersions force (listed visits) world.site.machine).2 =
      .ok seen := by
  rw [performSync_client] at hdone
  cases hread : readVisits setup world.threadVersions force (listed visits) world.site.machine with
  | mk machine result =>
      rw [hread] at hdone
      cases result with
      | error => cases hdone
      | ok seen => exact ⟨seen, rfl⟩

theorem exists_done
    (hseen : (readVisits setup world.threadVersions force (listed visits) world.site.machine).2 =
      .ok seen) :
    ∃ done, (performSync bridgeRemoteExecutorClient setup force includePendingCommands visits
      .delivered world).2 = .ok done := by
  rw [performSync_client]
  cases hread : readVisits setup world.threadVersions force (listed visits) world.site.machine with
  | mk =>
      rw [hread] at hseen
      dsimp only at hseen ⊢
      rw [hseen]
      exact ⟨_, rfl⟩

theorem mem_listed_of_turn (hturn : turn ∈ tracked.turns setup force visits) :
    turn.1 ∈ listed visits := by
  have hmem := List.mem_map_of_mem (f := Prod.fst) hturn
  rwa [Tracked.turns, map_turnsOf] at hmem

theorem map_turns (tracked : Tracked) :
    (tracked.turns setup force visits).map (·.1.threadId) =
      (listed visits).map Visit.threadId := by
  rw [Tracked.turns, ← @map_turnsOf setup tracked.world.threadVersions force (listed visits)
    tracked.world.site.machine, List.map_map, map_turnsOf]
  rfl

theorem turnOf_self {turns : List (Visit × Machine)}
    (hnodup : (turns.map (·.1.threadId)).Nodup) (hturn : turn ∈ turns) :
    turnOf turns turn.1.threadId = some turn := by
  induction turns with
  | nil => cases hturn
  | cons first rest ih =>
      rw [List.map_cons, List.nodup_cons] at hnodup
      rw [turnOf]
      rcases List.mem_cons.mp hturn with hfirst | hrest
      · rw [hfirst, List.find?_cons_of_pos (by simp)]
      · have hne : ¬ first.1.threadId = turn.1.threadId := by
          intro hsame
          rw [hsame] at hnodup
          exact hnodup.1 (List.mem_map_of_mem hrest)
        rw [List.find?_cons_of_neg (by simpa using hne)]
        exact ih hnodup.2 hrest

theorem settled_of_kept (hinv : InStep setup tracked)
    (hskips : Skips setup tracked.world.threadVersions force turn) {record : ThreadRecord}
    (hrecord : getThreadById turn.2 turn.1.threadId = some record)
    (hkept : ∀ noted, tracked.notes turn.1.threadId = some noted → Kept setup noted turn record) :
    Settled setup tracked.world.site.store.threads turn.1 turn.2 record := by
  obtain ⟨noted, hnoted, hversion, hstored⟩ := hinv _ _ hskips.2
  obtain ⟨⟨hstatus, hpath, hcli, htitle⟩, hstamped, hturned, hfound, hinStep, hquiet⟩ :=
    hkept noted hnoted
  obtain ⟨messages, hmessages, hthreads⟩ := hstored hinStep hfound
  have hcurrent : currentThread turn.2 turn.1 = record := by
    rw [currentThread, hrecord]
    rfl
  rw [versionAt, hcurrent] at hversion
  obtain ⟨hupdated, hstat⟩ := stamps_of_version hstatus hpath hcli htitle hversion
  refine ⟨hquiet, messages, ?_, hthreads⟩
  rw [hturned hupdated, hstamped hstat]
  exact hmessages

theorem agrees_of_steady {op : Op} (hinv : InStep setup tracked)
    (hsteady : Steady setup tracked op) : Agrees setup tracked op := by
  unfold Agrees
  split
  · next includePendingCommands visits =>
      intro done hdone visit hvisit hid
      obtain ⟨seen, hseen⟩ := exists_seen hdone
      have hsettled : ∀ turn ∈ tracked.turns setup false visits,
          Skips setup tracked.world.threadVersions false turn →
          ∀ record, getThreadById turn.2 turn.1.threadId = some record →
            Settled setup tracked.world.site.store.threads turn.1 turn.2 record :=
        fun turn hturn hskips record hrecord =>
          settled_of_kept hinv hskips hrecord (hsteady.kept rfl turn hturn hskips record hrecord)
      obtain ⟨full, hfull, hsame⟩ := readVisits_lockstep
        (Alike.refl _ tracked.world.site.machine) hsteady.once hsettled hseen
      have hids := map_seen hseen
      have hlisted : visit ∈ listed visits :=
        List.mem_filter.mpr ⟨hvisit, decide_eq_true hid⟩
      have hmem : visit.threadId ∈ seen.map (·.threadId) := by
        rw [hids]
        exact List.mem_map_of_mem hlisted
      obtain ⟨one, hone, hname⟩ := List.mem_map.mp hmem
      rw [(performSync_delivered hseen).1, (performSync_delivered hfull).1, ← hname]
      refine withSnapshots_lockstep hsame (hids ▸ hsteady.once) ?_ one hone
      intro other hother messages hstored
      have hname : other.threadId ∈ (listed visits).map Visit.threadId := by
        rw [← hids]
        exact List.mem_map_of_mem hother
      obtain ⟨listedVisit, hmemListed, hsameId⟩ := List.mem_map.mp hname
      rw [← hsameId] at hstored ⊢
      exact keptThreads_listed hmemListed hstored
  · trivial

theorem Backed.keep {noted : Noted} {seen : List Seen}
    (hbacked : Backed setup threads visit.threadId version noted) (hlisted : visit ∈ listed visits)
    (hnodup : (seen.map (·.threadId)).Nodup) {shown : String}
    (hone : ⟨visit.threadId, shown, none⟩ ∈ seen) :
    Backed setup (withSnapshots (keptThreads visits threads) seen) visit.threadId version noted := by
  refine ⟨hbacked.version, ?_⟩
  intro hinStep hfound
  obtain ⟨messages, hmessages, hstored⟩ := hbacked.stored hinStep hfound
  refine ⟨messages, hmessages, ?_⟩
  have hself := @withSnapshots_self (keptThreads visits threads) seen hnodup _ hone
  rw [hself]
  exact keptThreads_listed hlisted hstored

theorem backed_noted {kept : String → Option (List Message)} {seen : List Seen}
    (hreads : ¬ Skips setup world.threadVersions force turn) {one : Seen}
    (hone : (readVisit setup world.threadVersions force turn.1 turn.2).2 = .ok one)
    (hnodup : (seen.map (·.threadId)).Nodup) (hmem : one ∈ seen) :
    Backed setup (withSnapshots kept seen) one.threadId one.version (noted setup turn) := by
  obtain ⟨visit, machine⟩ := turn
  obtain ⟨hid, hversion⟩ := readVisit_ok hone
  refine ⟨hversion, ?_⟩
  intro hinStep hfound
  obtain ⟨record, hrecord⟩ := Option.isSome_iff_exists.mp hfound
  have hcurrent : currentThread machine visit = record := by
    rw [currentThread, hrecord]
    rfl
  obtain ⟨-, hread⟩ := readThreadMessages_of_quiet hrecord hinStep
  rw [readVisit_of_not_skips hreads] at hone
  dsimp only at hone
  rw [hread] at hone
  obtain ⟨sent, hsent, hsame⟩ := Fallible.map_eq_ok.1 hone
  obtain ⟨messages, hmessages, hlast⟩ := Fallible.map_eq_ok.1 hsent
  refine ⟨messages, ?_, ?_⟩
  · have hnode : (noted setup (visit, machine)).node =
        machine.files (rolloutPathOf setup record) := by
      rw [← hcurrent]
      rfl
    rw [hnode]
    exact hmessages
  · rw [withSnapshots_self hnodup hmem, ← hsame, ← hlast]
    rfl

theorem inStep_delivered (hinv : InStep setup tracked)
    (hnodup : ((listed visits).map Visit.threadId).Nodup)
    (hseen : (readVisits setup tracked.world.threadVersions force (listed visits)
      tracked.world.site.machine).2 = .ok seen) (hversion : (nextVersions seen).lookup threadId =
        some version) :
    ∃ note, noteSync setup tracked.world.threadVersions force (tracked.turns setup force visits)
        .delivered tracked.notes threadId = some note ∧
      Backed setup (withSnapshots (keptThreads visits tracked.world.site.store.threads) seen) threadId
        version note := by
  rcases Dict.lookup_setAll_cases hversion with hnone | hadded
  · cases hnone
  · obtain ⟨one, hone, hpair⟩ := List.mem_map.mp hadded
    rw [Prod.mk.injEq] at hpair
    obtain ⟨turn, hturn, hread⟩ := exists_of_forall₂ (forall₂_of_readVisits hseen).flip hone
    have hids := map_seen hseen
    have hturns : ((tracked.turns setup force visits).map (·.1.threadId)).Nodup := by
      rw [map_turns]
      exact hnodup
    have hname := (readVisit_ok hread).1
    have hfound := turnOf_self hturns hturn
    rw [← hname, hpair.1] at hfound
    simp only [noteSync, hfound]
    by_cases hskips : Skips setup tracked.world.threadVersions force turn
    · rw [if_pos hskips]
      rw [readVisit_of_skips hskips] at hread
      have hpassed := Except.ok.inj hread
      rw [← hpassed] at hone hpair
      obtain ⟨noted, hnoted, hbacked⟩ := hinv _ _ hskips.2
      rw [← hpair.1, ← hpair.2]
      exact ⟨noted, hnoted, hbacked.keep (mem_listed_of_turn hturn) (hids ▸ hnodup) hone⟩
    · rw [if_neg hskips]
      refine ⟨_, rfl, ?_⟩
      rw [← hpair.1, ← hpair.2]
      exact backed_noted hskips hread (hids ▸ hnodup) hone

theorem inStep_lostAfter (hinv : InStep setup tracked)
    (hnodup : ((listed visits).map Visit.threadId).Nodup)
    (hseen : (readVisits setup tracked.world.threadVersions force (listed visits)
      tracked.world.site.machine).2 = .ok seen)
    (hversion : tracked.world.threadVersions.lookup threadId = some version) :
    ∃ note, noteSync setup tracked.world.threadVersions force (tracked.turns setup force visits)
        .lostAfter tracked.notes threadId = some note ∧
      Backed setup (withSnapshots (keptThreads visits tracked.world.site.store.threads) seen) threadId
        version note := by
  obtain ⟨noted, hnoted, hbacked⟩ := hinv _ _ hversion
  have hadrift : noted.drift.adrift = true := rfl
  have hdrifted : Backed setup
      (withSnapshots (keptThreads visits tracked.world.site.store.threads) seen) threadId version
      noted.drift :=
    ⟨hbacked.version, fun hinStep => absurd (hadrift.symm.trans hinStep) (by decide)⟩
  cases hturn : turnOf (tracked.turns setup force visits) threadId with
  | none =>
      simp only [noteSync, hturn, hnoted]
      exact ⟨noted.drift, rfl, hdrifted⟩
  | some turn =>
      simp only [noteSync, hturn, hnoted]
      by_cases hskips : Skips setup tracked.world.threadVersions force turn
      · rw [if_pos hskips]
        have hmem := List.mem_of_find?_eq_some hturn
        have hid : turn.1.threadId = threadId := by
          have hfound := List.find?_some hturn
          exact of_decide_eq_true hfound
        obtain ⟨one, hone, hread⟩ := exists_of_forall₂ (forall₂_of_readVisits hseen) hmem
        rw [readVisit_of_skips hskips] at hread
        rw [← Except.ok.inj hread] at hone
        rw [← hid] at hbacked ⊢
        exact ⟨noted, rfl, hbacked.keep (mem_listed_of_turn hmem) (map_seen hseen ▸ hnodup) hone⟩
      · rw [if_neg hskips]
        exact ⟨noted.drift, rfl, hdrifted⟩

theorem inStep_step {op : Op} (hinv : InStep setup tracked) (hsteady : Steady setup tracked op) :
    InStep setup (step setup tracked op) := by
  cases op with
  | changes => exact hinv
  | marks threadId =>
      intro other version hversion
      have hpopped : (Dict.pop tracked.world.threadVersions threadId).lookup other = some version :=
        hversion
      rw [Dict.lookup_pop] at hpopped
      split at hpopped
      · cases hpopped
      · exact hinv other version hpopped
  | syncs force includePendingCommands visits fate =>
      intro threadId version hversion
      rw [step, performSync_client] at hversion ⊢
      cases hread : readVisits setup tracked.world.threadVersions force (listed visits)
          tracked.world.site.machine with
      | mk machine result =>
          rw [hread] at hversion
          cases result with
          | error => exact hinv threadId version hversion
          | ok seen =>
              have hseen : (readVisits setup tracked.world.threadVersions force (listed visits)
                  tracked.world.site.machine).2 = .ok seen := by rw [hread]
              cases fate with
              | lostBefore => exact hinv threadId version hversion
              | lostAfter => exact inStep_lostAfter hinv hsteady.once hseen hversion
              | delivered => exact inStep_delivered hinv hsteady.once hseen hversion

end Sync

/-- In every run whose steps are steady, from an agent that has just been started, each delta sync that
succeeds leaves the bridge what a full sync at the same moment would leave there. -/
theorem run_agrees (setup : Setup) (site : Site) (ops : List Op)
    (hsteady : Along (step setup) (Steady setup) (Tracked.start site) ops) :
    Along (step setup) (Agrees setup) (Tracked.start site) ops := by
  have hinv : Throughout (step setup) (InStep setup) (Tracked.start site) ops := by
    refine throughout_of_preserved ?_ fun done op hop hinv => inStep_step hinv (hsteady done op hop)
    intro threadId version hversion
    cases hversion
  intro done op hop
  exact agrees_of_steady (hinv done ((List.prefix_append done [op]).trans hop)) (hsteady done op hop)

/-! ## One thread -/

section Single

variable {setup : Setup} {site : Site} {visit : Visit} {machine : Machine} {tracked : Tracked}
  {messages stored : List Message}

theorem listed_single (hid : visit.threadId ≠ "") : listed [visit] = [visit] := by
  rw [listed, List.filter_cons_of_pos (by simpa using hid), List.filter_nil]

theorem synced_once (hid : visit.threadId ≠ "")
    (hread : readThreadMessages setup site.machine visit.threadId visit.reading =
      (machine, .ok (some messages))) :
    (step setup (Tracked.start site) (.syncs false false [visit] .delivered)).world.site.machine =
        machine ∧
      (step setup (Tracked.start site)
          (.syncs false false [visit] .delivered)).world.threadVersions.lookup visit.threadId =
        some (versionAt setup visit site.machine) ∧
      (step setup (Tracked.start site)
          (.syncs false false [visit] .delivered)).world.site.store.threads visit.threadId =
        some ((lastOf storedMessageWindow (lastOf setup.messageLimit messages)).map
          storedMessage) := by
  have hreads : ¬ Skips setup [] false (visit, site.machine) := fun hskips => by cases hskips.2
  have hvisits : readVisits setup [] false (listed [visit]) site.machine =
      (machine, .ok [⟨visit.threadId, versionAt setup visit site.machine,
        some (lastOf setup.messageLimit messages)⟩]) := by
    rw [listed_single hid, readVisits_single, readVisit_of_not_skips hreads, hread]
    rfl
  rw [step, Tracked.start]
  dsimp only
  rw [performSync_client, hvisits]
  dsimp only
  refine ⟨rfl, nextVersions_single ⟨visit.threadId, _, _⟩, ?_⟩
  rw [threads_applySync, withSnapshots_single]
  exact withSeen_self _

theorem disagrees_of_reading (hid : visit.threadId ≠ "")
    (hskips : Skips setup tracked.world.threadVersions false
      (visit, tracked.world.site.machine))
    (hread : (readThreadMessages setup tracked.world.site.machine visit.threadId
      visit.reading).2 = .ok (some messages))
    (hstored : tracked.world.site.store.threads visit.threadId = some stored)
    (hother : stored ≠
      (lastOf storedMessageWindow (lastOf setup.messageLimit messages)).map storedMessage) :
    ¬ Agrees setup tracked (.syncs false false [visit] .delivered) := by
  intro hagrees
  have hdelta : (readVisits setup tracked.world.threadVersions false (listed [visit])
      tracked.world.site.machine).2 =
        .ok [⟨visit.threadId, versionAt setup visit tracked.world.site.machine, none⟩] := by
    rw [listed_single hid, readVisits_single, readVisit_of_skips hskips]
    rfl
  have hfull : (readVisits setup tracked.world.threadVersions true (listed [visit])
      tracked.world.site.machine).2 =
        .ok [⟨visit.threadId, versionAt setup visit tracked.world.site.machine,
          some (lastOf setup.messageLimit messages)⟩] := by
    rw [listed_single hid, readVisits_single, readVisit_of_not_skips (not_skips_of_force _), hread]
    rfl
  obtain ⟨done, hdone⟩ := @exists_done setup false false _ _ _ hdelta
  have hsame := hagrees done hdone visit List.mem_cons_self hid
  rw [(performSync_delivered hdelta).1, (performSync_delivered hfull).1, withSnapshots_single,
    withSnapshots_single] at hsame
  have hpassed := @withSeen_self (keptThreads [visit] tracked.world.site.store.threads)
    ⟨visit.threadId, versionAt setup visit tracked.world.site.machine, none⟩
  have hsent := @withSeen_self (keptThreads [visit] tracked.world.site.store.threads)
    ⟨visit.threadId, versionAt setup visit tracked.world.site.machine,
      some (lastOf setup.messageLimit messages)⟩
  have hlisted : visit ∈ listed [visit] := by
    rw [listed_single hid]
    exact List.mem_cons_self
  dsimp only at hpassed hsent
  rw [hpassed, hsent, keptThreads_listed hlisted hstored] at hsame
  exact hother (Option.some.inj hsame)

end Single

/-! ## A thread of the app server -/

def liveSetup : Setup := { quietSetup with appServer := true }

/-- The thread has a message, and no rollout yet. -/
def liveMachine : Machine where
  archived := fun _ => false
  stored := fun _ => none
  runtime := fun id => if id = "t" then some threadT else none
  turns := fun id => if id = "t" then some (.obj [("thread", .obj [("turns", .arr [
    .obj [("items", .arr [.obj [("type", .str "userMessage"), ("text", .str "Go")]])]])])])
    else none
  files := fun _ => none
  pending := fun _ => []

def liveSite : Site where
  machine := liveMachine
  store := {
    commands := RemoteCodex.CommandTable.empty
    tasks := .empty
    machines := ["m"]
    threads := fun _ => none }
  materialized := []

def syncedOnce : Tracked :=
  step liveSetup (Tracked.start liveSite) (.syncs false false [visitT] .delivered)

theorem syncedOnce_notes :
    syncedOnce.notes visitT.threadId = some (noted liveSetup (visitT, liveMachine)) := rfl

theorem syncedOnce_turns :
    syncedOnce.turns liveSetup false [visitT] = [(visitT, liveMachine)] := rfl

theorem kept_unchanged :
    Kept liveSetup (noted liveSetup (visitT, liveMachine)) (visitT, liveMachine) threadT where
  fields := ⟨rfl, rfl, rfl, rfl⟩
  stamped := fun _ => rfl
  turned := fun _ => rfl
  found := rfl
  inStep := rfl
  quiet := rfl

/-- A thread that stays as it is. -/
theorem unchanged_agrees :
    Along (step liveSetup) (Agrees liveSetup) (Tracked.start liveSite)
      [.syncs false false [visitT] .delivered, .syncs false false [visitT] .delivered] := by
  apply run_agrees
  refine along_cons ⟨by decide, ?_⟩ (along_cons ⟨by decide, ?_⟩ (along_nil _ _ _))
  · intro _ turn _ hskips
    cases hskips.2
  · intro _ turn hturn _ record hrecord other hnoted
    have hsame : turn = (visitT, liveMachine) :=
      List.mem_singleton.mp (syncedOnce_turns ▸ hturn)
    rw [hsame] at hrecord hnoted ⊢
    have hthread : threadT = record := Option.some.inj hrecord
    have hother : other = noted liveSetup (visitT, liveMachine) :=
      Option.some.inj (hnoted.symm.trans syncedOnce_notes)
    rw [hother, ← hthread]
    exact kept_unchanged

/-- A sync that lists no thread, whose reply is lost. -/
def leftOut : Tracked := step liveSetup syncedOnce (.syncs false false [] .lostAfter)

/-! ## A prompt that expires -/

/-- The rollout holds a prompt of the registry, and nothing else. -/
def promptMachine : Machine where
  archived := fun _ => false
  stored := fun id => if id = "t" then some threadT else none
  runtime := fun _ => none
  turns := fun _ => none
  files := fun path =>
    if path = "t.jsonl" then some (.file (appendedBytes noFloats (promptEntries sampleTime "Go" [])) 1)
    else none
  pending := fun id => if id = "t" then [prompt] else []

def promptSetup : Setup := { quietSetup with python := samplePython }

def promptSite : Site := { liveSite with machine := promptMachine }

/-- The thread as it is read when the prompt has expired. -/
def visitLate : Visit :=
  { visitT with reading := ⟨pendingPromptTtl, "2026-01-02T00:00:00Z", 0, 3⟩ }

theorem promptMachine_lines :
    readLines (appendedBytes noFloats (promptEntries sampleTime "Go" [])) =
      [responseLine, eventLine] := by decide +kernel

theorem reconcile_prompt :
    reconcilePendingRolloutEntries samplePython [prompt] 0 [responseLine, eventLine] =
        .ok ⟨[prompt], false, [responseLine, eventLine], false⟩ ∧
      reconcilePendingRolloutEntries samplePython [prompt] pendingPromptTtl
        [responseLine, eventLine] = .ok ⟨[], true, [], true⟩ := by
  rw [reconcilePendingRolloutEntries, reconcilePendingRolloutEntries]
  simp only [List.mapM_cons, List.mapM_nil, responseLine_key, eventLine_key]
  exact ⟨by decide +kernel, by decide +kernel⟩

theorem prompt_messages :
    ∃ messages, rolloutMessages samplePython [responseLine, eventLine] = .ok messages ∧
      (storedOf promptSetup messages).length = 1 := by
  have hlength : (fun messages => (storedOf promptSetup messages).length) <$>
      rolloutMessages samplePython [responseLine, eventLine] = .ok 1 := by
    simp only [rolloutMessages, List.zipIdx_cons, List.zipIdx_nil, List.foldlM_cons,
      List.foldlM_nil, responseLine_message, eventLine_message]
    decide +kernel
  exact Fallible.map_eq_ok.1 hlength

theorem prompt_reads {messages : List Message}
    (hmessages : rolloutMessages samplePython [responseLine, eventLine] = .ok messages) :
    readThreadMessages promptSetup promptMachine visitT.threadId visitT.reading =
        (promptMachine, .ok (some (lastOf 200 messages))) ∧
      (readThreadMessages promptSetup promptMachine visitT.threadId visitLate.reading).2 =
        .ok (some []) := by
  have hthread : getThreadById promptMachine visitT.threadId = some threadT := rfl
  have hfile : promptMachine.files (rolloutPathOf promptSetup threadT) =
      some (.file (appendedBytes noFloats (promptEntries sampleTime "Go" [])) 1) := rfl
  constructor
  · have hbefore : reconcilePendingRolloutEntries promptSetup.python
        (promptMachine.pending visitT.threadId) visitT.reading.now
        (readLines (appendedBytes noFloats (promptEntries sampleTime "Go" []))) =
          .ok ⟨[prompt], false, [responseLine, eventLine], false⟩ := by
      rw [promptMachine_lines]
      exact reconcile_prompt.1
    have hall : rolloutMessages promptSetup.python [responseLine, eventLine] = .ok messages :=
      hmessages
    rw [readThreadMessages_of_file hthread hfile hbefore]
    dsimp only
    rw [hall]
    rfl
  · have hafter : reconcilePendingRolloutEntries promptSetup.python
        (promptMachine.pending visitT.threadId) visitLate.reading.now
        (readLines (appendedBytes noFloats (promptEntries sampleTime "Go" []))) =
          .ok ⟨[], true, [], true⟩ := by
      rw [promptMachine_lines]
      exact reconcile_prompt.2
    rw [readThreadMessages_of_file hthread hfile hafter]
    rfl

def promptSynced : Tracked :=
  step promptSetup (Tracked.start promptSite) (.syncs false false [visitT] .delivered)

theorem prompt_disagrees :
    ¬ Agrees promptSetup promptSynced (.syncs false false [visitLate] .delivered) := by
  obtain ⟨messages, hmessages, hlength⟩ := prompt_messages
  obtain ⟨hmachine, hversion, hstored⟩ := @synced_once promptSetup promptSite visitT promptMachine _
    (by decide) (prompt_reads hmessages).1
  have hskips : Skips promptSetup promptSynced.world.threadVersions false
      (visitLate, promptSynced.world.site.machine) := by
    rw [Skips]
    refine ⟨rfl, ?_⟩
    rw [promptSynced, hmachine]
    exact hversion
  have hafter : (readThreadMessages promptSetup promptSynced.world.site.machine
      visitLate.threadId visitLate.reading).2 = .ok (some []) := by
    rw [promptSynced, hmachine]
    exact (prompt_reads hmessages).2
  have hthread : visitLate.threadId = visitT.threadId := rfl
  have hstill : promptSynced.world.site.store.threads visitLate.threadId =
      some (storedOf promptSetup messages) := by
    rw [promptSynced, hthread, hstored]
    rfl
  apply disagrees_of_reading (by decide) hskips hafter hstill
  intro hsame
  rw [hsame] at hlength
  exact absurd hlength (by decide)

/-- A sync that lists no thread, and whose reply is lost, has the bridge drop a thread without the
agent knowing; when the thread is back, unchanged, the bridge has none of its messages.  And a prompt
that expires stays with the bridge until the rollout changes. -/
theorem delta_sync_disagrees :
    ¬ Along (step liveSetup) (Agrees liveSetup) (Tracked.start liveSite)
        [.syncs false false [visitT] .delivered, .syncs false false [] .lostAfter,
          .syncs false false [visitT] .delivered] ∧
      ¬ Along (step promptSetup) (Agrees promptSetup) (Tracked.start promptSite)
        [.syncs false false [visitT] .delivered, .syncs false false [visitLate] .delivered] := by
  constructor
  · intro hall
    have hagrees : Agrees liveSetup leftOut (.syncs false false [visitT] .delivered) :=
      hall [.syncs false false [visitT] .delivered, .syncs false false [] .lostAfter] _ ⟨[], rfl⟩
    have hdelta : (performSync bridgeRemoteExecutorClient liveSetup false false [visitT] .delivered
        leftOut.world).1.site.store.threads visitT.threadId = some [] := rfl
    have hsame := hagrees true rfl visitT List.mem_cons_self (by decide)
    have hfull : ((performSync bridgeRemoteExecutorClient liveSetup true false [visitT] .delivered
        leftOut.world).1.site.store.threads visitT.threadId).map List.length = some 1 := by
      decide +kernel
    rw [← hsame, hdelta] at hfull
    exact absurd hfull (by decide)
  · intro hall
    exact prompt_disagrees (hall [.syncs false false [visitT] .delivered] _ ⟨[], rfl⟩)

end OpsCure.AgentSync
