/-
What reading a thread of the device agent depends on (`remote_executor/device_agent.py`): its version
text, which shows the time and the size of its rollout, the rollout or the turns themselves, and the
registry of the prompts that are to be withdrawn.
-/
import OpsCure.Library.Numerals
import OpsCure.WaitingPrompts

namespace OpsCure.AgentSync

open Rollout

/-! ## What a version text shows -/

theorem stamps_of_version {setup : Setup} {files others : String → Option Node}
    {one other : ThreadRecord} (hstatus : one.status = other.status)
    (hpath : one.rolloutPath = other.rolloutPath) (hcli : one.cliVersion = other.cliVersion)
    (htitle : one.title = other.title)
    (hsame : buildThreadVersion setup files one = buildThreadVersion setup others other) :
    one.updatedAtMs = other.updatedAtMs ∧
      statText (files (rolloutPathOf setup one)) = statText (others (rolloutPathOf setup other)) := by
  have hlists := congrArg String.toList hsame
  rw [buildThreadVersion, buildThreadVersion, String.toList_intercalate, String.toList_intercalate,
    hstatus, hpath, hcli, htitle] at hlists
  have hsep : ":".toList = [':'] := rfl
  simp only [hsep, List.map_cons, List.map_nil, List.intercalate_cons_cons,
    List.intercalate_singleton, List.append_assoc, List.singleton_append] at hlists
  obtain ⟨hupdated, hlater⟩ := Numerals.toString_append_inj (by decide) hlists
  have hafterStatus := (List.cons.inj (List.append_cancel_left hlater)).2
  have hafterPath := (List.cons.inj (List.append_cancel_left hafterStatus)).2
  exact ⟨hupdated, String.toList_injective (List.append_cancel_right hafterPath)⟩

/-! ## Reading a thread that is left alone -/

def plainMessages (python : Python) (turns : Option Json) :
    Option Node → Except String (List Message)
  | none => buildRecentTurnMessages python turns
  | some (.directory _ _) => .error "Is a directory"
  | some (.file content _) => rolloutMessages python (readLines content)

/-- Reading a thread now would withdraw a prompt from its rollout, or trip over its registry. -/
def disturbs (setup : Setup) (machine : Machine) (threadId : String) (now : Time) : Bool :=
  match (getThreadById machine threadId).bind fun record =>
      machine.files (rolloutPathOf setup record) with
  | some (.file content _) =>
      match reconcilePendingRolloutEntries setup.python (machine.pending threadId) now
          (readLines content) with
      | .ok reconciled => reconciled.changed
      | .error _ => true
  | _ => false

/-- Two machines that differ in the registry only, and there not for these threads. -/
structure Alike (threadIds : List String) (left right : Machine) : Prop where
  others : right = { left with pending := right.pending }
  pending : ∀ threadId ∈ threadIds, right.pending threadId = left.pending threadId

theorem Alike.refl (threadIds : List String) (machine : Machine) :
    Alike threadIds machine machine :=
  ⟨rfl, fun _ _ => rfl⟩

section Reading

variable {setup : Setup} {machine left right : Machine} {threadId : String} {record : ThreadRecord}
  {moment : Moment} {threadIds : List String}

theorem lines_of_not_changed {python : Python} {entries : List PendingEntry} {now : Time}
    {lines : List (List Char)} {reconciled : Reconciled}
    (hreconciled : reconcilePendingRolloutEntries python entries now lines = .ok reconciled)
    (hkept : reconciled.changed = false) : reconciled.lines = lines := by
  rw [reconcilePendingRolloutEntries] at hreconciled
  split at hreconciled
  · rw [← Except.ok.inj hreconciled]
  · obtain ⟨keys, _, hrest⟩ := Fallible.bind_eq_ok.1 hreconciled
    split at hrest
    · cases hrest
    · have hsame := Except.ok.inj hrest
      rw [← hsame] at hkept ⊢
      dsimp only at hkept ⊢
      have hnone := of_decide_eq_false hkept
      rw [not_not] at hnone
      simp [hnone]

theorem Machine.savePending_others (machine : Machine) (threadId : String)
    (entries : List PendingEntry) :
    ∃ pending, machine.savePending threadId entries = { machine with pending := pending } ∧
      ∀ other ≠ threadId, pending other = machine.pending other := by
  refine ⟨_, rfl, ?_⟩
  intro other hother
  exact Function.update_of_ne hother _ _

theorem readThreadMessages_of_file {content : Utf8.Bytes} {mtimeNs : Int} {reconciled : Reconciled}
    (hrecord : getThreadById machine threadId = some record)
    (hfile : machine.files (rolloutPathOf setup record) = some (.file content mtimeNs))
    (hreconciled : reconcilePendingRolloutEntries setup.python (machine.pending threadId) moment.now
      (readLines content) = .ok reconciled) :
    readThreadMessages setup machine threadId moment =
      (machine.withdraw setup threadId (rolloutPathOf setup record) reconciled moment.mtimeNs,
        (rolloutMessages setup.python reconciled.lines).map fun messages =>
          some (lastOf setup.messageLimit messages)) := by
  rw [readThreadMessages, hrecord]
  dsimp only
  rw [hfile]
  dsimp only
  rw [hreconciled]

theorem readThreadMessages_of_quiet (hrecord : getThreadById machine threadId = some record)
    (hquiet : disturbs setup machine threadId moment.now = false) :
    (∃ pending, (readThreadMessages setup machine threadId moment).1 =
        { machine with pending := pending } ∧
        ∀ other ≠ threadId, pending other = machine.pending other) ∧
      (readThreadMessages setup machine threadId moment).2 =
        (plainMessages setup.python (machine.turns threadId)
          (machine.files (rolloutPathOf setup record))).map fun messages =>
            some (lastOf setup.messageLimit messages) := by
  rw [disturbs, hrecord, Option.bind_some] at hquiet
  cases hnode : machine.files (rolloutPathOf setup record) with
  | none =>
      rw [readThreadMessages, hrecord]
      dsimp only
      rw [hnode]
      exact ⟨⟨_, rfl, fun _ _ => rfl⟩, rfl⟩
  | some node =>
      cases node with
      | directory =>
          rw [readThreadMessages, hrecord]
          dsimp only
          rw [hnode]
          exact ⟨⟨_, rfl, fun _ _ => rfl⟩, rfl⟩
      | file content mtimeNs =>
          rw [hnode] at hquiet
          dsimp only at hquiet
          split at hquiet
          · next reconciled hreconciled =>
              rw [readThreadMessages_of_file hrecord hnode hreconciled, Machine.withdraw, hquiet,
                lines_of_not_changed hreconciled hquiet]
              refine ⟨?_, rfl⟩
              simp only [Bool.false_eq_true, if_false]
              split
              · exact Machine.savePending_others machine threadId _
              · exact ⟨_, rfl, fun _ _ => rfl⟩
          · cases hquiet

theorem Alike.getThreadById (halike : Alike threadIds left right) :
    getThreadById right = getThreadById left := by
  rw [halike.others]
  exact getThreadById_congr rfl rfl rfl

theorem Alike.files (halike : Alike threadIds left right) : right.files = left.files := by
  rw [halike.others]

theorem Alike.turns (halike : Alike threadIds left right) : right.turns = left.turns := by
  rw [halike.others]

theorem Alike.disturbs (halike : Alike threadIds left right) (hid : threadId ∈ threadIds)
    (now : Time) : disturbs setup right threadId now = disturbs setup left threadId now := by
  rw [AgentSync.disturbs, AgentSync.disturbs, halike.getThreadById, halike.files,
    halike.pending threadId hid]

theorem Alike.savePending (halike : Alike threadIds left right) (threadId : String)
    (entries : List PendingEntry) :
    Alike threadIds (left.savePending threadId entries) (right.savePending threadId entries) := by
  constructor
  · rw [Machine.savePending, Machine.savePending, halike.others]
  · intro other hother
    have hsaved : ∀ machine : Machine, (machine.savePending threadId entries).pending =
        Function.update machine.pending threadId (normalizePendingThreadEntries entries) :=
      fun _ => rfl
    rw [hsaved, hsaved]
    by_cases hsame : other = threadId
    · rw [hsame, Function.update_self, Function.update_self]
    · rw [Function.update_of_ne hsame, Function.update_of_ne hsame]
      exact halike.pending other hother

theorem Alike.write (halike : Alike threadIds left right) (path : String) (content : Utf8.Bytes)
    (mtimeNs : Int) :
    Alike threadIds (left.write path content mtimeNs) (right.write path content mtimeNs) := by
  constructor
  · rw [Machine.write, Machine.write, halike.files]
    rw [halike.others]
  · exact halike.pending

theorem readThreadMessages_alike (halike : Alike threadIds left right) (hid : threadId ∈ threadIds) :
    (readThreadMessages setup right threadId moment).2 =
        (readThreadMessages setup left threadId moment).2 ∧
      Alike threadIds (readThreadMessages setup left threadId moment).1
        (readThreadMessages setup right threadId moment).1 := by
  rw [readThreadMessages, readThreadMessages, halike.getThreadById]
  split
  · exact ⟨rfl, halike⟩
  · next record _ =>
      dsimp only
      rw [halike.files, halike.turns, halike.pending threadId hid]
      split
      · exact ⟨rfl, halike⟩
      · exact ⟨rfl, halike⟩
      · split
        · exact ⟨rfl, halike⟩
        · next reconciled _ =>
            refine ⟨rfl, ?_⟩
            dsimp only
            rw [Machine.withdraw, Machine.withdraw]
            have hsaved : Alike threadIds
                (if reconciled.registryChanged then left.savePending threadId reconciled.entries
                  else left)
                (if reconciled.registryChanged then right.savePending threadId reconciled.entries
                  else right) := by
              split
              · exact halike.savePending threadId _
              · exact halike
            cases reconciled.changed with
            | true => exact hsaved.write _ _ _
            | false => exact hsaved

end Reading

end OpsCure.AgentSync
