/-
Walks over the transcript: entries are appended while an agent polls the thread delta with
the cursor of its last answer.  A walk loses nothing when no entry is appended behind the
cursor and no page is filled with entries that the cursor has passed.
-/
import OpsCure.ThreadDelta

namespace OpsCure.ThreadDelta

open Fallible Keyset Run

/-- A transcript and a reader of it: `late` are the entries appended after its first call. -/
structure Walk where
  entries : List TranscriptEntry
  cursor : Option ThreadCursor
  polled : Bool
  late : List TranscriptEntry
  received : List ThreadDeltaEntry
deriving DecidableEq

/-- An empty transcript, and no call yet. -/
def Walk.start : Walk := ⟨[], none, false, [], []⟩

inductive Deed where
  | append (entry : TranscriptEntry)
  | poll (request : ThreadDeltaRequest)
deriving DecidableEq

/-- A reader that is refused keeps its cursor. -/
def step (table : CharTable) (agents : List String) (s : Walk) : Deed → Walk
  | .append entry =>
      { s with
        entries := s.entries ++ [entry]
        late := if s.polled then s.late ++ [entry] else s.late }
  | .poll request =>
      match getThreadDelta table agents s.entries request s.cursor with
      | .ok response =>
          { s with
            cursor := response.nextCursor
            polled := true
            received := s.received ++ response.events }
      | .error _ => s

/-- An entry that can come next: no earlier than the others, with an id of its own. -/
def InOrder (entries : List TranscriptEntry) (entry : TranscriptEntry) : Prop :=
  (∀ earlier ∈ entries, earlier.createdAt ≤ entry.createdAt) ∧ entry.id ∉ entries.map (·.id)

instance (entries : List TranscriptEntry) (entry : TranscriptEntry) :
    Decidable (InOrder entries entry) :=
  inferInstanceAs (Decidable (_ ∧ _))

/-! ## One page of a walk -/

/-- A first page leaves out the entry: it is not one of the last ones. -/
def LeavesOut (entries : List TranscriptEntry) (cursor : Option ThreadCursor)
    (entry : TranscriptEntry) : Prop :=
  cursor = none ∧ entry ∉ transcriptRows entries none

instance (entries : List TranscriptEntry) (cursor : Option ThreadCursor)
    (entry : TranscriptEntry) : Decidable (LeavesOut entries cursor entry) :=
  inferInstanceAs (Decidable (_ ∧ _))

structure Page (table : CharTable) (request : ThreadDeltaRequest) (entries : List TranscriptEntry)
    (cursor : Option ThreadCursor) (response : ThreadDeltaResponse) : Prop where
  covers : ∀ entry ∈ entries, isAfter encodeThreadCursor cursor entry →
    LeavesOut entries cursor entry ∨ entry ∈ request.passes table entries cursor ∨
      isAfter encodeThreadCursor response.nextCursor entry
  reads : ∀ entry ∈ request.passes table entries cursor,
    entry ∈ entries ∧ isAfter encodeThreadCursor cursor entry ∧
      ∃ place ∈ response.nextCursor, encodeThreadCursor entry ≤ place
  ordered : (request.passes table entries cursor).Pairwise fun left right =>
    encodeThreadCursor left < encodeThreadCursor right
  answers : response.events =
    ((request.passes table entries cursor).filter (request.accepts table)).map (·.toEvent table)
  advances : ∀ place ∈ cursor, ∃ later ∈ response.nextCursor, place ≤ later
  leaves : ∀ entry ∈ entries, LeavesOut entries cursor entry →
    ¬ isAfter encodeThreadCursor response.nextCursor entry
  progresses : Reaches entries cursor →
    ahead encodeThreadCursor entries response.nextCursor = [] ∨
      (ahead encodeThreadCursor entries response.nextCursor).length <
        (ahead encodeThreadCursor entries cursor).length

variable {entries : List TranscriptEntry} {entry : TranscriptEntry} {s : Walk}

theorem passes_subset (table : CharTable) (request : ThreadDeltaRequest)
    {cursor : Option ThreadCursor} (hentry : entry ∈ request.passes table entries cursor) :
    entry ∈ transcriptRows entries cursor := by
  have hfresh := (scanned_isPrefix table request 0 (freshRows entries cursor)).subset hentry
  exact (List.mem_filter.mp hfresh).1

theorem leftOut_lt {row : TranscriptEntry} (hnodup : (entries.map encodeThreadCursor).Nodup)
    (hentry : entry ∈ entries) (houtside : entry ∉ transcriptRows entries none)
    (hrow : row ∈ transcriptRows entries none) :
    encodeThreadCursor entry < encodeThreadCursor row := by
  have hrows : transcriptRows entries none =
      (ascending encodeThreadCursor entries).drop (entries.length - threadDeltaFetchLimit) :=
    reverse_take_descending hnodup threadDeltaFetchLimit
  have hpairwise := pairwise_ascending hnodup
  rw [← List.take_append_drop (entries.length - threadDeltaFetchLimit)
    (ascending encodeThreadCursor entries), ← hrows, List.pairwise_append] at hpairwise
  have hmem : entry ∈ ascending encodeThreadCursor entries := mem_ascending.2 hentry
  rw [← List.take_append_drop (entries.length - threadDeltaFetchLimit)
    (ascending encodeThreadCursor entries), ← hrows, List.mem_append] at hmem
  rcases hmem with hbefore | hinside
  · exact hpairwise.2.2 entry hbefore row hrow
  · exact absurd hinside houtside

variable {response : ThreadDeltaResponse} {deed : Deed}

theorem getThreadDelta_page {table : CharTable} {agents : List String}
    {request : ThreadDeltaRequest} {cursor : Option ThreadCursor}
    (hnodup : (entries.map encodeThreadCursor).Nodup)
    (hdone : getThreadDelta table agents entries request cursor = .ok response) :
    Page table request entries cursor response := by
  obtain ⟨skipped, back, hahead, hskips, hreaches, hnext, hevents⟩ :=
    getThreadDelta_spec hnodup hdone
  have hpairwise := pairwise_ahead hnodup cursor
  have hmem : ∀ entry, entry ∈ skipped ++ request.passes table entries cursor ++ back ↔
      entry ∈ entries ∧ isAfter encodeThreadCursor cursor entry := by
    intro entry
    rw [← hahead, mem_ahead]
  rcases List.eq_nil_or_concat (request.passes table entries cursor) with
    hempty | ⟨init, last, hpasses⟩
  · rw [hempty] at hnext
    have hsame : response.nextCursor = cursor := hnext
    constructor
    · intro entry hentry hafter
      rw [hsame]
      exact Or.inr (Or.inr hafter)
    · rw [hempty]
      nofun
    · rw [hempty]
      exact List.Pairwise.nil
    · exact hevents
    · intro place hplace
      rw [hsame]
      exact ⟨place, hplace, le_refl place⟩
    · intro entry hentry hleft
      have hnone : ahead encodeThreadCursor entries cursor = [] := by
        apply hreaches _ hempty
        rw [hleft.1]
        nofun
      have hahead : entry ∈ ahead encodeThreadCursor entries cursor := by
        rw [hleft.1]
        exact mem_ahead.2 ⟨hentry, rfl⟩
      rw [hnone] at hahead
      cases hahead
    · intro hroom
      rw [hsame]
      exact Or.inl (hreaches hroom hempty)
  · rw [List.concat_eq_append] at hpasses
    have hlast : response.nextCursor = some (encodeThreadCursor last) := by
      rw [hnext, hpasses, List.getLast?_concat]
      rfl
    have hsplit : ahead encodeThreadCursor entries cursor = (skipped ++ init) ++ last :: back := by
      rw [hahead, hpasses]
      simp
    have hrest : ahead encodeThreadCursor entries response.nextCursor = back := by
      rw [hlast]
      exact ahead_of_split hnodup hsplit
    rw [hahead, List.pairwise_append, List.pairwise_append] at hpairwise
    obtain ⟨⟨_, hordered, _⟩, _, _⟩ := hpairwise
    constructor
    · intro entry hentry hafter
      have hsomewhere := (hmem entry).mpr ⟨hentry, hafter⟩
      rw [List.mem_append, List.mem_append] at hsomewhere
      rcases hsomewhere with (hskipped | hread) | hback
      · exact Or.inl (hskips entry hskipped)
      · exact Or.inr (Or.inl hread)
      · rw [← hrest] at hback
        exact Or.inr (Or.inr (mem_ahead.1 hback).2)
    · intro entry hentry
      have hinside := (hmem entry).mp
        (List.mem_append_left back (List.mem_append_right skipped hentry))
      refine ⟨hinside.1, hinside.2, encodeThreadCursor last, hlast, ?_⟩
      rw [hpasses, List.pairwise_append] at hordered
      rw [hpasses, List.mem_append, List.mem_singleton] at hentry
      rcases hentry with hearlier | hsame
      · exact le_of_lt (hordered.2.2 entry hearlier last (List.mem_singleton_self last))
      · rw [hsame]
    · exact hordered
    · exact hevents
    · intro place hplace
      have hmemlast : last ∈ skipped ++ request.passes table entries cursor ++ back := by
        rw [hpasses]
        simp
      have hafter := ((hmem last).mp hmemlast).2
      rw [Option.mem_def.mp hplace] at hafter
      exact ⟨encodeThreadCursor last, hlast, le_of_lt (of_decide_eq_true hafter)⟩
    · intro entry hentry hleft hafter
      have hrow : last ∈ transcriptRows entries none := by
        rw [← hleft.1]
        apply passes_subset table request
        rw [hpasses]
        simp
      rw [hlast] at hafter
      exact lt_asymm (of_decide_eq_true hafter) (leftOut_lt hnodup hentry hleft.2 hrow)
    · intro _
      right
      rw [hrest, hsplit, List.length_append, List.length_cons]
      omega

/-! ## The invariant of a walk -/

/-- What every walk keeps, whatever its calls ask for. -/
structure Walking (table : CharTable) (s : Walk) : Prop where
  nodup : (s.entries.map encodeThreadCursor).Nodup
  late : ∀ entry ∈ s.late, entry ∈ s.entries
  unpolled : s.polled = false → s.cursor = none ∧ s.late = []
  ordered : s.received.Pairwise fun left right => left.cursor < right.cursor
  behind : ∀ event ∈ s.received, ∃ place ∈ s.cursor, event.cursor ≤ place
  read : ∀ event ∈ s.received, ∃ entry ∈ s.entries, event = entry.toEvent table

theorem InOrder.nodup (horder : InOrder entries entry)
    (hnodup : (entries.map encodeThreadCursor).Nodup) :
    ((entries ++ [entry]).map encodeThreadCursor).Nodup := by
  rw [List.map_append, List.map_singleton, List.nodup_append]
  refine ⟨hnodup, List.nodup_singleton _, ?_⟩
  intro place hplace other hother hsame
  rw [List.mem_singleton] at hother
  obtain ⟨earlier, hearlier, hencoded⟩ := List.mem_map.mp hplace
  apply horder.2
  have hids : earlier.id = entry.id := by
    have hpair : encodeThreadCursor earlier = encodeThreadCursor entry := by
      rw [hencoded, hsame, hother]
    exact congrArg (fun cursor => (ofLex cursor).2) hpair
  exact List.mem_map.mpr ⟨earlier, hearlier, hids⟩

theorem Walking.start (table : CharTable) : Walking table Walk.start :=
  ⟨List.nodup_nil, nofun, fun _ => ⟨rfl, rfl⟩, List.Pairwise.nil, nofun, nofun⟩

theorem Walking.append {table : CharTable} (agents : List String) (hwalking : Walking table s)
    (horder : InOrder s.entries entry) : Walking table (step table agents s (.append entry)) := by
  refine ⟨horder.nodup hwalking.nodup, ?_, ?_, hwalking.ordered, hwalking.behind, ?_⟩
  · intro other hother
    change other ∈ (if s.polled then s.late ++ [entry] else s.late) at hother
    change other ∈ s.entries ++ [entry]
    split at hother
    · rcases List.mem_append.mp hother with hstood | hnew
      · exact List.mem_append_left [entry] (hwalking.late other hstood)
      · exact List.mem_append_right s.entries hnew
    · exact List.mem_append_left [entry] (hwalking.late other hother)
  · intro hpolled
    have hbefore : s.polled = false := hpolled
    change s.cursor = none ∧ (if s.polled then s.late ++ [entry] else s.late) = []
    rw [hbefore]
    exact hwalking.unpolled hbefore
  · intro event hevent
    obtain ⟨found, hfound, hsame⟩ := hwalking.read event hevent
    exact ⟨found, List.mem_append_left [entry] hfound, hsame⟩

theorem Walking.page {table : CharTable} {request : ThreadDeltaRequest}
    (hwalking : Walking table s) (hpage : Page table request s.entries s.cursor response) :
    Walking table { s with
      cursor := response.nextCursor
      polled := true
      received := s.received ++ response.events } := by
  have hevents : ∀ event ∈ response.events,
      ∃ entry ∈ request.passes table s.entries s.cursor, event = entry.toEvent table := by
    intro event hevent
    rw [hpage.answers] at hevent
    obtain ⟨entry, hentry, hsame⟩ := List.mem_map.mp hevent
    exact ⟨entry, (List.mem_filter.mp hentry).1, hsame.symm⟩
  refine ⟨hwalking.nodup, hwalking.late, nofun, ?_, ?_, ?_⟩
  · change (s.received ++ response.events).Pairwise _
    rw [List.pairwise_append]
    refine ⟨hwalking.ordered, ?_, ?_⟩
    · rw [hpage.answers, List.pairwise_map]
      exact hpage.ordered.filter _
    · intro event hevent other hother
      obtain ⟨place, hplace, hbehind⟩ := hwalking.behind event hevent
      obtain ⟨entry, hentry, hsame⟩ := hevents other hother
      have hafter := (hpage.reads entry hentry).2.1
      rw [Option.mem_def.mp hplace] at hafter
      rw [hsame]
      exact lt_of_le_of_lt hbehind (of_decide_eq_true hafter)
  · intro event hevent
    rcases List.mem_append.mp hevent with hstood | hnew
    · obtain ⟨place, hplace, hbehind⟩ := hwalking.behind event hstood
      obtain ⟨later, hlater, hle⟩ := hpage.advances place hplace
      exact ⟨later, hlater, le_trans hbehind hle⟩
    · obtain ⟨entry, hentry, hsame⟩ := hevents event hnew
      rw [hsame]
      exact (hpage.reads entry hentry).2.2
  · intro event hevent
    rcases List.mem_append.mp hevent with hstood | hnew
    · exact hwalking.read event hstood
    · obtain ⟨entry, hentry, hsame⟩ := hevents event hnew
      exact ⟨entry, (hpage.reads entry hentry).1, hsame⟩

/-! ## Walks with one filter -/

variable {table : CharTable} {agents : List String} {filter : ThreadDeltaRequest}

/-- Entries come in order, and an agent of the session always asks for the same kinds and task,
with any limit. -/
def Legal (agents : List String) (filter : ThreadDeltaRequest) (s : Walk) : Deed → Prop
  | .append entry => InOrder s.entries entry
  | .poll request => filter.agentName ∈ agents ∧ request = { filter with limit := request.limit }

/-- No matching entry is appended behind the cursor, or left out by a later call that still has
no cursor; and no page is filled with entries the cursor has passed. -/
def Smooth (table : CharTable) (filter : ThreadDeltaRequest) (s : Walk) : Deed → Prop
  | .append entry => filter.accepts table entry → isAfter encodeThreadCursor s.cursor entry
  | .poll _ => Reaches s.entries s.cursor ∧ (s.polled → s.cursor = none →
      ∀ entry ∈ s.entries, filter.accepts table entry → entry ∈ transcriptRows s.entries none)

instance (agents : List String) (filter : ThreadDeltaRequest) (s : Walk) (deed : Deed) :
    Decidable (Legal agents filter s deed) :=
  match deed with
  | .append _ => inferInstanceAs (Decidable (InOrder _ _))
  | .poll _ => inferInstanceAs (Decidable (_ ∧ _))

instance (entries : List TranscriptEntry) (cursor : Option ThreadCursor) :
    Decidable (Reaches entries cursor) :=
  inferInstanceAs (Decidable (∀ place ∈ cursor, _ ∨ _))

instance (table : CharTable) (filter : ThreadDeltaRequest) (s : Walk) (deed : Deed) :
    Decidable (Smooth table filter s deed) :=
  match deed with
  | .append _ => inferInstanceAs (Decidable (_ → _))
  | .poll _ => inferInstanceAs (Decidable (_ ∧ _))

def Deed.isPoll : Deed → Bool
  | .append _ => false
  | .poll _ => true

/-- Nothing of the transcript is lost: what is returned matches and comes in the order of the
transcript, each entry once; and once the transcript stops growing, as many calls as it has
entries reach its end and have returned each matching entry appended after the first call. -/
structure LosesNothing (table : CharTable) (agents : List String) (filter : ThreadDeltaRequest)
    (s : Walk) (deeds : List Deed) : Prop where
  ordered : Throughout (step table agents)
    (fun t => t.received.Pairwise fun left right => left.cursor < right.cursor) s deeds
  genuine : Throughout (step table agents)
    (fun t => ∀ event ∈ t.received, ∃ entry ∈ t.entries,
      filter.accepts table entry ∧ event = entry.toEvent table) s deeds
  complete : ∀ done polls, done ++ polls <+: deeds → polls.all Deed.isPoll →
    (run (step table agents) s done).entries.length ≤ polls.length →
      ahead encodeThreadCursor (run (step table agents) s (done ++ polls)).entries
          (run (step table agents) s (done ++ polls)).cursor = [] ∧
        ∀ entry ∈ (run (step table agents) s (done ++ polls)).late, filter.accepts table entry →
          entry.toEvent table ∈ (run (step table agents) s (done ++ polls)).received

/-- What a walk with one filter keeps: what it returned matches, and no matching entry appended
after its first call is behind the cursor without having been returned. -/
structure Keeping (table : CharTable) (filter : ThreadDeltaRequest) (s : Walk) : Prop extends
    Walking table s where
  genuine : ∀ event ∈ s.received, ∃ entry ∈ s.entries,
    filter.accepts table entry ∧ event = entry.toEvent table
  kept : ∀ entry ∈ s.late, filter.accepts table entry →
    entry.toEvent table ∈ s.received ∨ isAfter encodeThreadCursor s.cursor entry

theorem Keeping.append (hkeeping : Keeping table filter s) (horder : InOrder s.entries entry)
    (hsmooth : filter.accepts table entry → isAfter encodeThreadCursor s.cursor entry) :
    Keeping table filter (step table agents s (.append entry)) := by
  refine ⟨hkeeping.toWalking.append agents horder, ?_, ?_⟩
  · intro event hevent
    obtain ⟨found, hfound, hboth⟩ := hkeeping.genuine event hevent
    exact ⟨found, List.mem_append_left [entry] hfound, hboth⟩
  · intro other hother haccepts
    change other ∈ (if s.polled then s.late ++ [entry] else s.late) at hother
    change other.toEvent table ∈ s.received ∨ isAfter encodeThreadCursor s.cursor other
    split at hother
    · rcases List.mem_append.mp hother with hstood | hnew
      · exact hkeeping.kept other hstood haccepts
      · rw [List.mem_singleton] at hnew
        rw [hnew] at haccepts ⊢
        exact Or.inr (hsmooth haccepts)
    · exact hkeeping.kept other hother haccepts

theorem Keeping.poll {limit : Nat} (hkeeping : Keeping table filter s)
    (hsmooth : s.polled → s.cursor = none → ∀ entry ∈ s.entries, filter.accepts table entry →
      entry ∈ transcriptRows s.entries none) :
    Keeping table filter (step table agents s (.poll { filter with limit := limit })) := by
  cases hdone : getThreadDelta table agents s.entries { filter with limit := limit } s.cursor with
  | error =>
      rw [step, hdone]
      exact hkeeping
  | ok response =>
      have hpage := getThreadDelta_page hkeeping.nodup hdone
      rw [step, hdone]
      refine ⟨hkeeping.toWalking.page hpage, ?_, ?_⟩
      · intro event hevent
        rcases List.mem_append.mp hevent with hstood | hnew
        · exact hkeeping.genuine event hstood
        · rw [hpage.answers] at hnew
          obtain ⟨entry, hentry, hsame⟩ := List.mem_map.mp hnew
          obtain ⟨hfront, haccepts⟩ := List.mem_filter.mp hentry
          exact ⟨entry, (hpage.reads entry hfront).1, haccepts, hsame.symm⟩
      · intro entry hlate haccepts
        change entry.toEvent table ∈ s.received ++ response.events ∨
          isAfter encodeThreadCursor response.nextCursor entry
        have hentry := hkeeping.late entry hlate
        rcases hkeeping.kept entry hlate haccepts with hreceived | hafter
        · exact Or.inl (List.mem_append_left _ hreceived)
        · rcases hpage.covers entry hentry hafter with hskipped | hread | hahead
          · obtain ⟨hnone, houtside⟩ := hskipped
            have hpolled : s.polled = true := by
              rw [← Bool.not_eq_false]
              intro hunpolled
              rw [(hkeeping.unpolled hunpolled).2] at hlate
              cases hlate
            exact absurd (hsmooth hpolled hnone entry hentry haccepts) houtside
          · left
            apply List.mem_append_right
            rw [hpage.answers]
            exact List.mem_map.mpr ⟨entry, List.mem_filter.mpr ⟨hread, haccepts⟩, rfl⟩
          · exact Or.inr hahead

theorem Keeping.step (hkeeping : Keeping table filter s) (hlegal : Legal agents filter s deed)
    (hsmooth : Smooth table filter s deed) : Keeping table filter (step table agents s deed) := by
  cases deed with
  | append => exact hkeeping.append hlegal hsmooth
  | poll =>
      rw [hlegal.2]
      exact hkeeping.poll hsmooth.2

theorem poll_progresses (hwalking : Walking table s) (hlegal : Legal agents filter s deed)
    (hsmooth : Smooth table filter s deed) (hpoll : deed.isPoll) :
    (step table agents s deed).entries = s.entries ∧
      (ahead encodeThreadCursor s.entries (step table agents s deed).cursor = [] ∨
        (ahead encodeThreadCursor s.entries (step table agents s deed).cursor).length <
          (ahead encodeThreadCursor s.entries s.cursor).length) := by
  cases deed with
  | append => cases hpoll
  | poll request =>
      have hagent : request.agentName ∈ agents := by
        rw [hlegal.2]
        exact hlegal.1
      have hdone : getThreadDelta table agents s.entries request s.cursor =
          .ok (scanRows table request s.cursor (transcriptRows s.entries s.cursor)
            ⟨s.cursor, []⟩) := by
        unfold getThreadDelta require
        rw [if_pos hagent]
        rfl
      have hpage := getThreadDelta_page hwalking.nodup hdone
      rw [step, hdone]
      exact ⟨rfl, hpage.progresses hsmooth.1⟩

theorem polls_reach_end {polls : List Deed} (hkeeping : Keeping table filter s)
    (hlegal : Along (step table agents) (Legal agents filter) s polls)
    (hsmooth : Along (step table agents) (Smooth table filter) s polls)
    (hpolls : polls.all Deed.isPoll)
    (hlength : (ahead encodeThreadCursor s.entries s.cursor).length ≤ polls.length) :
    ahead encodeThreadCursor (run (step table agents) s polls).entries
      (run (step table agents) s polls).cursor = [] := by
  induction polls generalizing s with
  | nil => exact List.length_eq_zero_iff.mp (Nat.le_zero.mp hlength)
  | cons deed polls ih =>
      rw [along_cons_iff] at hlegal hsmooth
      rw [List.all_cons, Bool.and_eq_true] at hpolls
      obtain ⟨hentries, hprogress⟩ :=
        poll_progresses hkeeping.toWalking hlegal.1 hsmooth.1 hpolls.1
      rw [run_cons]
      apply ih (hkeeping.step hlegal.1 hsmooth.1) hlegal.2 hsmooth.2 hpolls.2
      rw [hentries]
      rcases hprogress with hend | hless
      · rw [hend]
        exact Nat.zero_le _
      · rw [List.length_cons] at hlength
        omega

theorem length_ahead_le (entries : List TranscriptEntry) (cursor : Option ThreadCursor) :
    (ahead encodeThreadCursor entries cursor).length ≤ entries.length := by
  calc (ahead encodeThreadCursor entries cursor).length
      ≤ (ascending encodeThreadCursor entries).length := List.length_filter_le _ _
    _ = entries.length := length_ascending entries

/-- A walk over a transcript loses nothing, when no matching entry is appended behind its
cursor or left out by a call without one, and no page is full of entries it has passed. -/
theorem thread_delta_loses_nothing (table : CharTable) (agents : List String)
    (filter : ThreadDeltaRequest) (deeds : List Deed)
    (hlegal : Along (step table agents) (Legal agents filter) Walk.start deeds)
    (hsmooth : Along (step table agents) (Smooth table filter) Walk.start deeds) :
    LosesNothing table agents filter Walk.start deeds := by
  have hkeeping : Throughout (step table agents) (Keeping table filter) Walk.start deeds := by
    have hstart : Keeping table filter Walk.start := ⟨Walking.start table, nofun, nofun⟩
    refine throughout_of_preserved hstart ?_
    intro done deed hdeed hhere
    exact hhere.step (hlegal done deed hdeed) (hsmooth done deed hdeed)
  constructor
  · intro done hdone
    exact (hkeeping done hdone).ordered
  · intro done hdone
    exact (hkeeping done hdone).genuine
  · intro done polls hdone hpolls hlength
    have hend : ahead encodeThreadCursor (run (step table agents) Walk.start (done ++ polls)).entries
        (run (step table agents) Walk.start (done ++ polls)).cursor = [] := by
      rw [run_append]
      apply polls_reach_end (hkeeping done ((List.prefix_append done polls).trans hdone))
        (hlegal.drop hdone) (hsmooth.drop hdone) hpolls
      exact le_trans (length_ahead_le _ _) hlength
    refine ⟨hend, ?_⟩
    intro entry hlate haccepts
    have hhere := hkeeping (done ++ polls) hdone
    rcases hhere.kept entry hlate haccepts with hreceived | hafter
    · exact hreceived
    · have hmem : entry ∈ ahead encodeThreadCursor
          (run (step table agents) Walk.start (done ++ polls)).entries
            (run (step table agents) Walk.start (done ++ polls)).cursor :=
        mem_ahead.mpr ⟨hhere.late entry hlate, hafter⟩
      rw [hend] at hmem
      cases hmem

def said (id : String) (hid : id ≠ "") (content : String) (now : Time) : TranscriptEntry :=
  ⟨⟨id, hid⟩, "inbound", "user", content, now⟩

def everything : ThreadDeltaRequest := ⟨"planner", [], none, 12⟩

theorem thread_delta_walk :
    LosesNothing CharTable.ascii ["planner"] everything Walk.start
      [.append (said "b" (by decide) "first" 1), .poll everything,
        .append (said "a" (by decide) "second" 2), .poll everything, .poll everything] :=
  thread_delta_loses_nothing CharTable.ascii ["planner"] everything _ (by decide)
    (by decide)

/-- Two entries have one time, and the later one the smaller id: it is never returned. -/
theorem tied_entry_lost :
    Along (step CharTable.ascii ["planner"]) (Legal ["planner"] everything) Walk.start
        [.append (said "b" (by decide) "first" 1), .poll everything,
          .append (said "a" (by decide) "second" 1), .poll everything, .poll everything] ∧
      ¬ LosesNothing CharTable.ascii ["planner"] everything Walk.start
        [.append (said "b" (by decide) "first" 1), .poll everything,
          .append (said "a" (by decide) "second" 1), .poll everything, .poll everything] := by
  refine ⟨by decide, ?_⟩
  intro hloses
  obtain ⟨_, hall⟩ := hloses.complete
    [.append (said "b" (by decide) "first" 1), .poll everything,
      .append (said "a" (by decide) "second" 1)]
    [.poll everything, .poll everything] (List.prefix_refl _) rfl (by decide)
  have hreceived := hall (said "a" (by decide) "second" 1) (by decide) (by decide)
  revert hreceived
  decide

end OpsCure.ThreadDelta
