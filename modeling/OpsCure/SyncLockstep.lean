/-
A delta sync beside a full one (`remote_executor/device_agent.py`, `perform_sync`): the loops over the
threads run through alike, and the bridge is left the same, when every thread that the delta sync
passes over is settled.
-/
import OpsCure.SyncReading

namespace OpsCure.AgentSync

open Rollout

/-! ## The loop through the client of the agent -/

def listed (visits : List Visit) : List Visit := visits.filter fun visit => visit.threadId ≠ ""

def versionAt (setup : Setup) (visit : Visit) (machine : Machine) : String :=
  buildThreadVersion setup machine.files (currentThread machine visit)

/-- A delta sync passes a thread over. -/
def Skips (setup : Setup) (versions : List (String × String)) (force : Bool)
    (turn : Visit × Machine) : Prop :=
  force = false ∧ versions.lookup turn.1.threadId = some (versionAt setup turn.1 turn.2)

instance (setup : Setup) (versions : List (String × String)) (force : Bool)
    (turn : Visit × Machine) : Decidable (Skips setup versions force turn) :=
  inferInstanceAs (Decidable (_ ∧ _))

/-- The loop over threads that have an id, on the machine alone. -/
def readVisits (setup : Setup) (versions : List (String × String)) (force : Bool) :
    List Visit → Machine → Machine × Except String (List Seen)
  | [], machine => (machine, .ok [])
  | visit :: visits, machine =>
      let here := readVisit setup versions force visit machine
      match here.2 with
      | .error raised => (here.1, .error raised)
      | .ok seen =>
          let later := readVisits setup versions force visits here.1
          (later.1, later.2.map (seen :: ·))

def turnsOf (setup : Setup) (versions : List (String × String)) (force : Bool) :
    List Visit → Machine → List (Visit × Machine)
  | [], _ => []
  | visit :: visits, machine =>
      (visit, machine) ::
        turnsOf setup versions force visits (readVisit setup versions force visit machine).1

section Loop

variable {setup : Setup} {versions : List (String × String)} {force : Bool} {visits : List Visit}
  {visit : Visit} {machine left right : Machine}

theorem readVisit_of_skips (hskips : Skips setup versions force (visit, machine)) :
    readVisit setup versions force visit machine =
      (machine, .ok ⟨visit.threadId, versionAt setup visit machine, none⟩) := by
  have hpassed : ¬ force = true ∧ versions.lookup visit.threadId =
      some (buildThreadVersion setup machine.files (currentThread machine visit)) :=
    ⟨Bool.eq_false_iff.mp hskips.1, hskips.2⟩
  rw [readVisit]
  exact if_pos hpassed

theorem readVisit_of_not_skips (hreads : ¬ Skips setup versions force (visit, machine)) :
    readVisit setup versions force visit machine =
      ((readThreadMessages setup machine visit.threadId visit.reading).1,
        (readThreadMessages setup machine visit.threadId visit.reading).2.map fun messages =>
          ⟨visit.threadId, versionAt setup visit machine,
            messages.map (lastOf setup.messageLimit)⟩) := by
  have hpassed : ¬ (¬ force = true ∧ versions.lookup visit.threadId =
      some (buildThreadVersion setup machine.files (currentThread machine visit))) := by
    intro hboth
    exact hreads ⟨Bool.eq_false_iff.mpr hboth.1, hboth.2⟩
  rw [readVisit]
  exact if_neg hpassed

theorem readVisits_single (visit : Visit) (machine : Machine) :
    readVisits setup versions force [visit] machine =
      ((readVisit setup versions force visit machine).1,
        (readVisit setup versions force visit machine).2.map fun one => [one]) := by
  rw [readVisits]
  cases hread : readVisit setup versions force visit machine with
  | mk after result =>
      cases result with
      | error => rfl
      | ok => rfl

theorem visitThreads_client (includePendingCommands : Bool) (visits : List Visit) (site : Site) :
    visitThreads bridgeRemoteExecutorClient setup versions force includePendingCommands visits
        site =
      ({ site with machine := (readVisits setup versions force (listed visits) site.machine).1 },
        (readVisits setup versions force (listed visits) site.machine).2) := by
  induction visits generalizing site with
  | nil => rfl
  | cons visit visits ih =>
      rw [visitThreads, visitThread, showWaiting_client, ite_self]
      by_cases hblank : visit.threadId = ""
      · have hlisted : listed (visit :: visits) = listed visits := by
          rw [listed, List.filter_cons_of_neg (by simpa using hblank)]
          rfl
        rw [if_pos hblank, hlisted]
        dsimp only
        rw [ih]
        cases (readVisits setup versions force (listed visits) site.machine).2 with
        | error => rfl
        | ok => rfl
      · have hlisted : listed (visit :: visits) = visit :: listed visits := by
          rw [listed, List.filter_cons_of_pos (by simpa using hblank)]
          rfl
        rw [if_neg hblank, hlisted, readVisits]
        dsimp only
        rw [Bool.or_false]
        cases (readVisit setup versions force visit site.machine).2 with
        | error => rfl
        | ok seen =>
            dsimp only [Except.map]
            rw [ih]
            cases (readVisits setup versions force (listed visits)
              (readVisit setup versions force visit site.machine).1).2 with
            | error => rfl
            | ok => rfl

theorem map_turnsOf (visits : List Visit) (machine : Machine) :
    (turnsOf setup versions force visits machine).map (·.1) = visits := by
  induction visits generalizing machine with
  | nil => rfl
  | cons visit visits ih => exact congrArg (visit :: ·) (ih _)

theorem forall₂_of_readVisits {seen : List Seen}
    (hseen : (readVisits setup versions force visits machine).2 = .ok seen) :
    List.Forall₂ (fun turn one => (readVisit setup versions force turn.1 turn.2).2 = .ok one)
      (turnsOf setup versions force visits machine) seen := by
  induction visits generalizing machine seen with
  | nil =>
      cases hseen
      exact .nil
  | cons visit visits ih =>
      rw [readVisits] at hseen
      dsimp only at hseen
      split at hseen
      · cases hseen
      · next one hone =>
          obtain ⟨later, hlater, hcons⟩ := Fallible.map_eq_ok.1 hseen
          rw [← hcons]
          exact .cons hone (ih hlater)

theorem readVisit_ok {one : Seen}
    (hone : (readVisit setup versions force visit machine).2 = .ok one) :
    one.threadId = visit.threadId ∧ one.version = versionAt setup visit machine := by
  by_cases hskips : Skips setup versions force (visit, machine)
  · rw [readVisit_of_skips hskips] at hone
    rw [← Except.ok.inj hone]
    exact ⟨rfl, rfl⟩
  · rw [readVisit_of_not_skips hskips] at hone
    obtain ⟨messages, _, hsame⟩ := Fallible.map_eq_ok.1 hone
    rw [← hsame]
    exact ⟨rfl, rfl⟩

theorem map_seen {seen : List Seen}
    (hseen : (readVisits setup versions force visits machine).2 = .ok seen) :
    seen.map (·.threadId) = visits.map Visit.threadId := by
  have hall := forall₂_of_readVisits hseen
  have hids : List.Forall₂ (fun (one other : String) => one = other)
      (seen.map (·.threadId))
      ((turnsOf setup versions force visits machine).map fun turn => turn.1.threadId) := by
    rw [List.forall₂_map_left_iff, List.forall₂_map_right_iff]
    exact hall.flip.imp fun one turn hone => (readVisit_ok hone).1
  rw [List.forall₂_eq_eq_eq] at hids
  have hvisits := congrArg (List.map Visit.threadId)
    (@map_turnsOf setup versions force visits machine)
  rw [List.map_map] at hvisits
  exact hids.trans hvisits

end Loop

/-! ## What the bridge stores -/

def storedOf (setup : Setup) (messages : List Message) : List Message :=
  (lastOf storedMessageWindow (lastOf setup.messageLimit
    (lastOf setup.messageLimit messages))).map storedMessage

def withSnapshots (kept : String → Option (List Message)) (seen : List Seen) :
    String → Option (List Message) :=
  (snapshotsOf seen).foldl (fun threads snapshot =>
    Function.update threads snapshot.threadId
      (some ((lastOf storedMessageWindow snapshot.messages).map storedMessage))) kept

/-- The snapshot of one thread, where it was read. -/
def withSeen (kept : String → Option (List Message)) (one : Seen) :
    String → Option (List Message) :=
  match one.messages with
  | none => kept
  | some messages => Function.update kept one.threadId
      (some ((lastOf storedMessageWindow messages).map storedMessage))

section Stored

variable {kept : String → Option (List Message)} {seen : List Seen} {threadId : String}

theorem withSeen_other {one : Seen} (hother : threadId ≠ one.threadId) :
    withSeen kept one threadId = kept threadId := by
  rw [withSeen]
  cases one.messages with
  | none => rfl
  | some => exact Function.update_of_ne hother _ _

theorem withSeen_self (one : Seen) :
    withSeen kept one one.threadId = match one.messages with
      | none => kept one.threadId
      | some messages => some ((lastOf storedMessageWindow messages).map storedMessage) := by
  rw [withSeen]
  cases one.messages with
  | none => rfl
  | some => exact Function.update_self _ _ _

theorem withSnapshots_cons (one : Seen) (rest : List Seen) :
    withSnapshots kept (one :: rest) = withSnapshots (withSeen kept one) rest := by
  obtain ⟨id, version, messages⟩ := one
  cases messages with
  | none => rfl
  | some => rfl

theorem withSnapshots_single (one : Seen) : withSnapshots kept [one] = withSeen kept one :=
  withSnapshots_cons one []

theorem withSnapshots_other (hother : threadId ∉ seen.map (·.threadId)) :
    withSnapshots kept seen threadId = kept threadId := by
  induction seen generalizing kept with
  | nil => rfl
  | cons one rest ih =>
      rw [List.map_cons, List.mem_cons, not_or] at hother
      rw [withSnapshots_cons, ih hother.2, withSeen_other hother.1]

theorem withSnapshots_self (hnodup : (seen.map (·.threadId)).Nodup) {one : Seen}
    (hone : one ∈ seen) :
    withSnapshots kept seen one.threadId = match one.messages with
      | none => kept one.threadId
      | some messages => some ((lastOf storedMessageWindow messages).map storedMessage) := by
  induction seen generalizing kept with
  | nil => cases hone
  | cons first rest ih =>
      rw [List.map_cons, List.nodup_cons] at hnodup
      rw [withSnapshots_cons]
      rcases List.mem_cons.mp hone with hfirst | hrest
      · rw [hfirst, withSnapshots_other hnodup.1, withSeen_self]
      · have hne : one.threadId ≠ first.threadId := by
          intro hsame
          rw [← hsame] at hnodup
          exact hnodup.1 (List.mem_map_of_mem hrest)
        rw [ih hnodup.2 hrest, withSeen_other hne]

end Stored

/-! ## A delta sync beside a full one -/

/-- What a full sync would read of a thread that is passed over is what is stored of it. -/
structure Settled (setup : Setup) (threads : String → Option (List Message)) (visit : Visit)
    (machine : Machine) (record : ThreadRecord) : Prop where
  quiet : disturbs setup machine visit.threadId visit.reading.now = false
  stored : ∃ messages, plainMessages setup.python (machine.turns visit.threadId)
      (machine.files (rolloutPathOf setup record)) = .ok messages ∧
    threads visit.threadId = some (storedOf setup messages)

/-- One thread in the two syncs: both read it alike, or only the full one reads it, and gets what is
stored of it. -/
structure SameStored (threads : String → Option (List Message)) (delta full : Seen) : Prop where
  threadId : full.threadId = delta.threadId
  messages : full.messages = delta.messages ∨
    delta.messages = none ∧ ∀ messages, full.messages = some messages →
      threads delta.threadId =
        some ((lastOf storedMessageWindow messages).map storedMessage)

theorem exists_of_forall₂ {α β : Type} {related : α → β → Prop} {values : List α}
    {others : List β} (hall : List.Forall₂ related values others) {value : α}
    (hvalue : value ∈ values) : ∃ other ∈ others, related value other := by
  induction hall with
  | nil => cases hvalue
  | cons hfirst _ ih =>
      rcases List.mem_cons.mp hvalue with hhead | htail
      · rw [hhead]
        exact ⟨_, List.mem_cons_self, hfirst⟩
      · obtain ⟨other, hother, hrelated⟩ := ih htail
        exact ⟨other, List.mem_cons_of_mem _ hother, hrelated⟩

section Lockstep

variable {setup : Setup} {versions : List (String × String)} {visits : List Visit} {visit : Visit}
  {left right machine : Machine} {threads : String → Option (List Message)} {threadIds : List String}

theorem Alike.mono {fewer : List String} (halike : Alike threadIds left right)
    (hfewer : fewer ⊆ threadIds) : Alike fewer left right :=
  ⟨halike.others, fun threadId hid => halike.pending threadId (hfewer hid)⟩

theorem not_skips_of_force (turn : Visit × Machine) : ¬ Skips setup versions true turn :=
  fun hskips => absurd hskips.1 (by decide)

theorem readVisit_passed_over (halike : Alike (visit.threadId :: threadIds) left right)
    (hfresh : visit.threadId ∉ threadIds)
    (hsettled : ∀ record, getThreadById left visit.threadId = some record →
      Settled setup threads visit left record) :
    ∃ full, (readVisit setup versions true visit right).2 = .ok full ∧
      Alike threadIds left (readVisit setup versions true visit right).1 ∧
      SameStored threads ⟨visit.threadId, versionAt setup visit left, none⟩ full := by
  rw [readVisit_of_not_skips (not_skips_of_force _)]
  cases hrecord : getThreadById left visit.threadId with
  | none =>
      have hright : getThreadById right visit.threadId = none := by
        rw [halike.getThreadById, hrecord]
      have hread : readThreadMessages setup right visit.threadId visit.reading =
          (right, .ok none) := by
        rw [readThreadMessages, hright]
      rw [hread]
      exact ⟨_, rfl, halike.mono (List.subset_cons_self _ _), rfl, Or.inl rfl⟩
  | some record =>
      obtain ⟨hquiet, messages, hmessages, hstored⟩ := hsettled record hrecord
      have hright : getThreadById right visit.threadId = some record := by
        rw [halike.getThreadById, hrecord]
      rw [← halike.disturbs List.mem_cons_self] at hquiet
      obtain ⟨⟨pending, hmachine, hothers⟩, hread⟩ := readThreadMessages_of_quiet hright hquiet
      rw [halike.turns, halike.files, hmessages] at hread
      rw [hread, hmachine]
      refine ⟨_, rfl, ⟨?_, ?_⟩, rfl, Or.inr ⟨rfl, ?_⟩⟩
      · rw [halike.others]
      · intro other hother
        have hne : other ≠ visit.threadId := fun hsame => hfresh (hsame ▸ hother)
        exact (hothers other hne).trans (halike.pending other (List.mem_cons_of_mem _ hother))
      · intro sent hsent
        rw [← Option.some.inj hsent]
        exact hstored

theorem readVisit_read (halike : Alike (visit.threadId :: threadIds) left right)
    (hreads : ¬ Skips setup versions false (visit, left)) {one : Seen}
    (hone : (readVisit setup versions false visit left).2 = .ok one) :
    ∃ full, (readVisit setup versions true visit right).2 = .ok full ∧
      Alike threadIds (readVisit setup versions false visit left).1
        (readVisit setup versions true visit right).1 ∧
      SameStored threads one full := by
  rw [readVisit_of_not_skips hreads] at hone ⊢
  rw [readVisit_of_not_skips (not_skips_of_force _)]
  have hread := @readThreadMessages_alike setup left right visit.threadId visit.reading _ halike
    List.mem_cons_self
  dsimp only at hone ⊢
  obtain ⟨messages, hmessages, hsame⟩ := Fallible.map_eq_ok.1 hone
  rw [hread.1, hmessages]
  refine ⟨_, rfl, hread.2.mono (List.subset_cons_self _ _), ?_⟩
  rw [← hsame]
  exact ⟨rfl, Or.inl rfl⟩

theorem readVisits_lockstep (halike : Alike (visits.map Visit.threadId) left right)
    (hnodup : (visits.map Visit.threadId).Nodup)
    (hsettled : ∀ turn ∈ turnsOf setup versions false visits left,
      Skips setup versions false turn →
      ∀ record, getThreadById turn.2 turn.1.threadId = some record →
        Settled setup threads turn.1 turn.2 record)
    {seen : List Seen} (hseen : (readVisits setup versions false visits left).2 = .ok seen) :
    ∃ full, (readVisits setup versions true visits right).2 = .ok full ∧
      List.Forall₂ (SameStored threads) seen full := by
  induction visits generalizing left right seen with
  | nil =>
      cases hseen
      exact ⟨[], rfl, .nil⟩
  | cons visit visits ih =>
      rw [List.map_cons, List.nodup_cons] at hnodup
      have hhere := hsettled (visit, left) List.mem_cons_self
      rw [readVisits] at hseen
      dsimp only at hseen
      split at hseen
      · cases hseen
      · next one hone =>
          obtain ⟨later, hlater, hcons⟩ := Fallible.map_eq_ok.1 hseen
          have hfirst : ∃ full, (readVisit setup versions true visit right).2 = .ok full ∧
              Alike (visits.map Visit.threadId) (readVisit setup versions false visit left).1
                (readVisit setup versions true visit right).1 ∧
              SameStored threads one full := by
            by_cases hskips : Skips setup versions false (visit, left)
            · rw [readVisit_of_skips hskips] at hone ⊢
              rw [← Except.ok.inj hone]
              exact readVisit_passed_over halike hnodup.1 (hhere hskips)
            · exact readVisit_read halike hskips hone
          obtain ⟨fullOne, hfullOne, hstill, hsame⟩ := hfirst
          obtain ⟨fullLater, hfullLater, hrest⟩ := ih hstill hnodup.2
            (fun turn hturn => hsettled turn (List.mem_cons_of_mem _ hturn)) hlater
          refine ⟨fullOne :: fullLater, ?_, ?_⟩
          · rw [readVisits]
            dsimp only
            rw [hfullOne]
            dsimp only
            rw [hfullLater]
            rfl
          · rw [← hcons]
            exact .cons hsame hrest

theorem map_full {seen full : List Seen} (hsame : List.Forall₂ (SameStored threads) seen full) :
    full.map (·.threadId) = seen.map (·.threadId) := by
  induction hsame with
  | nil => rfl
  | cons hfirst _ ih => rw [List.map_cons, List.map_cons, hfirst.threadId, ih]

theorem withSnapshots_lockstep {kept : String → Option (List Message)} {seen full : List Seen}
    (hsame : List.Forall₂ (SameStored threads) seen full)
    (hnodup : (seen.map (·.threadId)).Nodup)
    (hkept : ∀ one ∈ seen, ∀ messages, threads one.threadId = some messages →
      kept one.threadId = some messages) :
    ∀ one ∈ seen, withSnapshots kept seen one.threadId = withSnapshots kept full one.threadId := by
  intro one hone
  obtain ⟨other, hother, hid, hmessages⟩ := exists_of_forall₂ hsame hone
  have hfullNodup : (full.map (·.threadId)).Nodup := by
    rw [map_full hsame]
    exact hnodup
  have hfull := @withSnapshots_self kept full hfullNodup other hother
  rw [hid] at hfull
  rw [withSnapshots_self hnodup hone, hfull]
  rcases hmessages with hread | ⟨hpassed, hstored⟩
  · rw [hread]
  · rw [hpassed]
    cases hsent : other.messages with
    | none => rfl
    | some messages => exact hkept one hone _ (hstored messages hsent)

end Lockstep

end OpsCure.AgentSync
