/-
The status card of a session (`services/announcement_service.py`, `sync_session_status`).  A call
builds a snapshot, decides, sends and records, with an await between each two, and any other call may
run in between.
-/
import Mathlib.Data.List.Basic
import OpsCure.Library.Run

namespace OpsCure.StatusCard

open Run

variable {Snapshot Hash : Type}

/-! ## Calls -/

structure SessionRow (Hash : Type) where
  statusMessageId : Option Nat
  lastAnnouncedStateHash : Option Hash
deriving DecidableEq, Repr

/-- A status message in the session's thread. -/
structure Message (Snapshot : Type) where
  id : Nat
  shown : Snapshot
deriving DecidableEq, Repr

/-- How far a call of `sync_session_status` has come. -/
inductive Phase (Snapshot : Type) where
  /-- It awaits the summary. -/
  | asking (force : Bool)
  | editing (messageId : Nat) (snapshot : Snapshot)
  | posting (snapshot : Snapshot)
  /-- What was sent is in the thread, and the row is still to be told. -/
  | recording (messageId : Nat) (snapshot : Snapshot)
  | returned
deriving DecidableEq, Repr

structure State (Snapshot Hash : Type) where
  row : Option (SessionRow Hash)
  thread : List (Message Snapshot)
  calls : List (Phase Snapshot)
  nextId : Nat
deriving DecidableEq, Repr

/-- What happens between two awaits.  The snapshot a call decides on is whatever the session, the
jobs and the clock have come to. -/
inductive Step (Snapshot : Type) where
  | call (force : Bool)
  | decide (place : Nat) (snapshot : Snapshot)
  | edit (place : Nat)
  | post (place : Nat)
  | record (place : Nat)
  /-- Somebody removes a message from the thread. -/
  | remove (messageId : Nat)
  | deleteSession
deriving DecidableEq, Repr

section Steps

variable [DecidableEq Hash] (stateHash : Snapshot → Hash)

/-- The decision of a call: nothing to do for a session that is gone or a card that is up to date,
else an edit of the recorded message or a first post. -/
def decision (row : Option (SessionRow Hash)) (force : Bool) (snapshot : Snapshot) :
    Phase Snapshot :=
  match row with
  | none => .returned
  | some row =>
      match row.statusMessageId with
      | none => .posting snapshot
      | some messageId =>
          if ¬ force ∧ row.lastAnnouncedStateHash = some (stateHash snapshot) then .returned
          else .editing messageId snapshot

def State.setCall (s : State Snapshot Hash) (place : Nat) (phase : Phase Snapshot) :
    State Snapshot Hash :=
  { s with calls := s.calls.set place phase }

def step (s : State Snapshot Hash) : Step Snapshot → State Snapshot Hash
  | .call force => { s with calls := s.calls ++ [.asking force] }
  | .decide place snapshot =>
      match s.calls[place]? with
      | some (.asking force) => s.setCall place (decision stateHash s.row force snapshot)
      | _ => s
  | .edit place =>
      match s.calls[place]? with
      | some (.editing messageId snapshot) =>
          if ∃ message ∈ s.thread, message.id = messageId then
            { s.setCall place (.recording messageId snapshot) with
              thread := s.thread.map fun message =>
                if message.id = messageId then { message with shown := snapshot } else message }
          else s.setCall place (.posting snapshot)
      | _ => s
  | .post place =>
      match s.calls[place]? with
      | some (.posting snapshot) =>
          { s.setCall place (.recording s.nextId snapshot) with
            thread := s.thread ++ [⟨s.nextId, snapshot⟩]
            nextId := s.nextId + 1 }
      | _ => s
  | .record place =>
      match s.calls[place]? with
      | some (.recording messageId snapshot) =>
          { s.setCall place .returned with
            row := s.row.map fun _ => ⟨some messageId, some (stateHash snapshot)⟩ }
      | _ => s
  | .remove messageId =>
      { s with thread := s.thread.filter fun message => message.id ≠ messageId }
  | .deleteSession => { s with row := none }

/-- A session without a card. -/
def start : State Snapshot Hash where
  row := some ⟨none, none⟩
  thread := []
  calls := []
  nextId := 0

/-! ## A truthful card -/

def Idle (s : State Snapshot Hash) : Prop :=
  ∀ phase ∈ s.calls, phase = .returned

def Announced (row : SessionRow Hash) (message : Message Snapshot) : Prop :=
  row = ⟨some message.id, some (stateHash message.shown)⟩

structure Truthful (s : State Snapshot Hash) : Prop where
  single : s.thread.length ≤ 1
  hashed : Idle s → ∀ row ∈ s.row, ∀ message ∈ s.thread,
    row.lastAnnouncedStateHash = some (stateHash message.shown)

/-- A call that will record a message as it is shown. -/
def Owes (message : Message Snapshot) : Phase Snapshot → Prop
  | .recording messageId snapshot =>
      messageId = message.id ∧ stateHash snapshot = stateHash message.shown
  | _ => False

instance (message : Message Snapshot) : (phase : Phase Snapshot) →
    Decidable (Owes stateHash message phase)
  | .recording messageId snapshot =>
      inferInstanceAs (Decidable (messageId = message.id ∧
        stateHash snapshot = stateHash message.shown))
  | .asking _ | .editing _ _ | .posting _ | .returned => .isFalse id

/-- A call posts into a thread without a card, and records what the card shows, unless another call
is still to record that. -/
def Orderly (s : State Snapshot Hash) : Step Snapshot → Prop
  | .post place => ∀ phase ∈ s.calls[place]?, phase matches .posting _ → s.thread = []
  | .record place => ∀ phase ∈ s.calls[place]?, phase matches .recording _ _ →
      ∀ message ∈ s.thread, Owes stateHash message phase ∨
        ∃ other ∈ s.calls.eraseIdx place, Owes stateHash message other
  | _ => True

instance (s : State Snapshot Hash) : (op : Step Snapshot) → Decidable (Orderly stateHash s op)
  | .post place => inferInstanceAs (Decidable (∀ phase ∈ s.calls[place]?,
      phase matches .posting _ → s.thread = []))
  | .record place => inferInstanceAs (Decidable (∀ phase ∈ s.calls[place]?,
      phase matches .recording _ _ → ∀ message ∈ s.thread, Owes stateHash message phase ∨
        ∃ other ∈ s.calls.eraseIdx place, Owes stateHash message other))
  | .call _ | .decide _ _ | .edit _ | .remove _ | .deleteSession => .isTrue trivial

/-! ## What a step keeps -/

/-- The card is in the books, or a call is about to put it there. -/
structure Kept (s : State Snapshot Hash) : Prop where
  single : s.thread.length ≤ 1
  accounted : ∀ row ∈ s.row, ∀ message ∈ s.thread,
    Announced stateHash row message ∨ ∃ phase ∈ s.calls, Owes stateHash message phase

omit [DecidableEq Hash] in
theorem Kept.truthful {s : State Snapshot Hash} (hkept : Kept stateHash s) :
    Truthful stateHash s := by
  refine ⟨hkept.single, ?_⟩
  intro hidle row hrow message hmessage
  rcases hkept.accounted row hrow message hmessage with hannounced | ⟨phase, hphase, howes⟩
  · rw [hannounced]
  · rw [hidle phase hphase] at howes
    cases howes

end Steps

section Keeping

variable {stateHash : Snapshot → Hash} {s : State Snapshot Hash} {place : Nat}
  {phase : Phase Snapshot} {message : Message Snapshot}

variable {calls : List (Phase Snapshot)} {old new : Phase Snapshot}

theorem mem_set_of_owes (hold : calls[place]? = some old) (hquiet : ¬ Owes stateHash message old)
    (hphase : phase ∈ calls) (howes : Owes stateHash message phase) :
    phase ∈ calls.set place new := by
  obtain ⟨other, hother⟩ := List.mem_iff_getElem?.mp hphase
  have hne : place ≠ other := by
    intro hsame
    rw [hsame, hother, Option.some.injEq] at hold
    rw [hold] at howes
    exact hquiet howes
  apply List.mem_iff_getElem?.mpr
  exact ⟨other, by rw [List.getElem?_set_ne hne, hother]⟩

theorem Kept.setCall (hkept : Kept stateHash s) (hold : s.calls[place]? = some old)
    (hquiet : ∀ message, ¬ Owes stateHash message old) (new : Phase Snapshot) :
    Kept stateHash (s.setCall place new) := by
  refine ⟨hkept.single, ?_⟩
  intro row hrow message hmessage
  rcases hkept.accounted row hrow message hmessage with hannounced | ⟨phase, hphase, howes⟩
  · exact Or.inl hannounced
  · exact Or.inr ⟨phase, mem_set_of_owes hold (hquiet message) hphase howes, howes⟩

theorem mem_set_self (hold : calls[place]? = some old) : new ∈ calls.set place new := by
  obtain ⟨hplace, -⟩ := List.getElem?_eq_some_iff.mp hold
  exact List.mem_iff_getElem?.mpr ⟨place, List.getElem?_set_self hplace⟩

theorem mem_set_of_mem_eraseIdx (hold : calls[place]? = some old)
    (hphase : phase ∈ calls.eraseIdx place) : phase ∈ calls.set place new := by
  obtain ⟨hplace, -⟩ := List.getElem?_eq_some_iff.mp hold
  rw [List.eraseIdx_eq_take_drop_succ, List.mem_append] at hphase
  rw [List.set_eq_take_append_cons_drop, if_pos hplace, List.mem_append, List.mem_cons]
  rcases hphase with hbefore | hafter
  · exact Or.inl hbefore
  · exact Or.inr (Or.inr hafter)

theorem Kept.start : Kept stateHash (start : State Snapshot Hash) :=
  ⟨Nat.zero_le 1, fun _ _ _ hmessage => absurd hmessage List.not_mem_nil⟩

variable [DecidableEq Hash]

theorem Kept.edit (hkept : Kept stateHash s) : Kept stateHash (step stateHash s (.edit place)) := by
  rw [step]
  split
  · next messageId snapshot hphase =>
      split
      · next hthere =>
          refine ⟨by simpa using hkept.single, ?_⟩
          intro row hrow message hmessage
          right
          -- A thread of one message is the one that was edited.
          obtain ⟨edited, hedited, hid⟩ := hthere
          obtain ⟨old, hold, hnew⟩ := List.mem_map.mp hmessage
          have hsame : old = edited := by
            obtain ⟨first, hfirst⟩ : ∃ first, s.thread = [first] := by
              apply List.length_eq_one_iff.mp
              have hpos := List.length_pos_of_mem hedited
              have hone := hkept.single
              omega
            rw [hfirst, List.mem_singleton] at hold hedited
            rw [hold, hedited]
          rw [hsame, if_pos hid] at hnew
          refine ⟨.recording messageId snapshot, mem_set_self hphase, ?_⟩
          rw [← hnew]
          exact ⟨hid.symm, rfl⟩
      · exact hkept.setCall hphase (fun _ howes => howes) _
  · exact hkept

theorem Kept.post (hkept : Kept stateHash s) (horderly : Orderly stateHash s (.post place)) :
    Kept stateHash (step stateHash s (.post place)) := by
  rw [step]
  split
  · next snapshot hphase =>
      have hempty : s.thread = [] := horderly _ hphase rfl
      refine ⟨by simp [hempty], ?_⟩
      intro row hrow message hmessage
      right
      have hnew : message = ⟨s.nextId, snapshot⟩ := by simpa [hempty] using hmessage
      refine ⟨.recording s.nextId snapshot, mem_set_self hphase, ?_⟩
      rw [hnew]
      exact ⟨rfl, rfl⟩
  · exact hkept

theorem Kept.record (hkept : Kept stateHash s) (horderly : Orderly stateHash s (.record place)) :
    Kept stateHash (step stateHash s (.record place)) := by
  rw [step]
  split
  · next messageId snapshot hphase =>
      refine ⟨hkept.single, ?_⟩
      intro row hrow message hmessage
      rcases horderly _ hphase rfl message hmessage with howes | ⟨other, hother, howes⟩
      · left
        obtain ⟨stood, -, hwritten⟩ := Option.map_eq_some_iff.mp hrow
        rw [Announced, ← hwritten, howes.1, howes.2]
      · exact Or.inr ⟨other, mem_set_of_mem_eraseIdx hphase hother, howes⟩
  · exact hkept

theorem Kept.step (hkept : Kept stateHash s) (op : Step Snapshot) (horderly : Orderly stateHash s op) :
    Kept stateHash (step stateHash s op) := by
  cases op with
  | call =>
      refine ⟨hkept.single, ?_⟩
      intro row hrow message hmessage
      rcases hkept.accounted row hrow message hmessage with hannounced | ⟨phase, hphase, howes⟩
      · exact Or.inl hannounced
      · exact Or.inr ⟨phase, List.mem_append_left _ hphase, howes⟩
  | decide place snapshot =>
      rw [StatusCard.step]
      split
      · next hphase => exact hkept.setCall hphase (fun _ howes => howes) _
      · exact hkept
  | edit => exact hkept.edit
  | post => exact hkept.post horderly
  | record => exact hkept.record horderly
  | remove =>
      refine ⟨(List.length_filter_le _ _).trans hkept.single, ?_⟩
      intro row hrow message hmessage
      exact hkept.accounted row hrow message (List.mem_of_mem_filter hmessage)
  | deleteSession =>
      refine ⟨hkept.single, ?_⟩
      intro row hrow
      cases hrow

end Keeping

/-! ## Runs -/

/-- In a run whose calls post and record in an orderly way, the card is truthful throughout. -/
theorem truthful_of_orderly [DecidableEq Hash] (stateHash : Snapshot → Hash)
    (ops : List (Step Snapshot)) (horderly : Along (step stateHash) (Orderly stateHash) start ops) :
    Throughout (step stateHash) (Truthful stateHash) start ops := by
  have hkept : Throughout (step stateHash) (Kept stateHash) start ops := by
    apply throughout_of_preserved Kept.start
    intro done op hop hhere
    exact hhere.step op (horderly done op hop)
  intro done hdone
  exact (hkept done hdone).truthful

/-- A first call, and two more that overlap but edit and record in one order. -/
def twoInTurn : List (Step Nat) :=
  [.call false, .decide 0 1, .post 0, .record 0, .call false, .call true, .decide 1 2, .decide 2 3,
    .edit 1, .edit 2, .record 1, .record 2]

theorem two_in_turn_truthful : Throughout (step id) (Truthful id) start twoInTurn :=
  truthful_of_orderly id twoInTurn (by decide)

/-! ## Cards that are not truthful -/

def twoPosts : List (Step Nat) :=
  [.call false, .call false, .decide 0 1, .decide 1 1, .post 0, .post 1]

/-- Two calls edit the card, the later reader first. -/
def swappedEdits : List (Step Nat) :=
  [.call false, .decide 0 0, .post 0, .record 0, .call false, .call false, .decide 1 1, .decide 2 2,
    .edit 2, .edit 1, .record 1, .record 2]

/-- Two calls leave two cards; or one that shows what the one read, under the hash of the other. -/
theorem overlapping_calls_mislead :
    ¬ Throughout (step id) (Truthful id) start twoPosts ∧
      ¬ Throughout (step id) (Truthful id) start swappedEdits := by
  constructor
  · intro hall
    have hsingle := (hall twoPosts (List.prefix_refl _)).single
    exact absurd hsingle (by decide)
  · intro hall
    have hidle : Idle (run (step id) start swappedEdits) := by
      unfold Idle
      decide
    have hhashed := (hall swappedEdits (List.prefix_refl _)).hashed hidle
      ⟨some 0, some 2⟩ rfl ⟨0, 1⟩ (by decide)
    cases hhashed

end OpsCure.StatusCard
