/-
Does the stream send every event once?  Replay and live queue are joined by comparing
cursors, which is sound while events are committed and published in the order of their
cursors: what comes late is taken for seen.
-/
import OpsCure.EventStream
import OpsCure.Library.Run

namespace OpsCure.EventStream

open Run

/-! ## Once, and in order -/

def Frame.event? : Frame → Option EventEnvelope
  | .event item => some item
  | _ => none

def State.sent (s : State) : List EventEnvelope := s.frames.filterMap Frame.event?

/-- The subscriber is to see the event: it is committed, past the cursor, and of a kind asked
for. -/
structure Wanted (request : StreamRequest) (after : String) (rows : List EventSummary)
    (item : EventEnvelope) : Prop where
  committed : ∃ row ∈ rows, item = makeEnvelope row
  unseen : after < item.cursor
  asked : ofKinds request.kinds item

/-- All that was committed was published, and the stream has taken all of it in. -/
structure Settled (s : State) : Prop where
  live : ∃ cursor, s.phase = .live cursor
  arrived : s.inFlight = []
  drained : s.queue = []
  announced : ∀ row ∈ s.rows, makeEnvelope row ∈ s.published

structure ExactlyOnce (request : StreamRequest) (after : String) (s : State) : Prop where
  in_order : s.sent.Pairwise (·.cursor < ·.cursor)
  wanted : ∀ item ∈ s.sent, Wanted request after s.rows item
  complete : Settled s → ∀ item, Wanted request after s.rows item → item ∈ s.sent

def Delivers (request : StreamRequest) (after : String) (s : State) : Prop :=
  (∃ reason, .reset reason ∈ s.frames) ∨ ExactlyOnce request after s

/-- The writers keep to the order of the cursors: a row is committed after the rows of lower
cursors, its envelope is published after it is committed and after the envelopes of lower
cursors, and envelopes reach the queue as they were published. -/
def InOrder (s : State) : Step → Prop
  | .commit event => ∀ row ∈ s.rows, (makeEnvelope row).cursor < (makeEnvelope event).cursor
  | .publish item => (∃ row ∈ s.rows, item = makeEnvelope row) ∧
      ∀ earlier ∈ s.published, earlier.cursor < item.cursor
  | .deliver item => s.inFlight.head? = some item
  | .subscribe | .readLatest _ | .replay _ | .nextEvent => True

instance (s : State) (t : Step) : Decidable (InOrder s t) :=
  match t with
  | .commit event => inferInstanceAs
      (Decidable (∀ row ∈ s.rows, (makeEnvelope row).cursor < (makeEnvelope event).cursor))
  | .publish item => inferInstanceAs
      (Decidable ((∃ row ∈ s.rows, item = makeEnvelope row) ∧
        ∀ earlier ∈ s.published, earlier.cursor < item.cursor))
  | .deliver item => inferInstanceAs (Decidable (s.inFlight.head? = some item))
  | .subscribe | .readLatest _ | .replay _ | .nextEvent => inferInstanceAs (Decidable True)

/-! ## The order of the cursors -/

theorem cursor_lt_iff {left right : EventSummary} :
    (makeEnvelope left).cursor < (makeEnvelope right).cursor ↔
      left.createdAt < right.createdAt ∨ left.createdAt = right.createdAt ∧ left.id < right.id := by
  have hcolon : ":" ++ left.id < ":" ++ right.id ↔ left.id < right.id := by
    rw [String.lt_iff_toList_lt, String.lt_iff_toList_lt, String.toList_append,
      String.toList_append]
    simp
  simp only [makeEnvelope, encodeEventCursor]
  rw [Padded.key_lt_key_iff left.in_time right.in_time, hcolon]

theorem insertionSort_of_ordered {rows : List EventSummary}
    (hrows : rows.Pairwise fun left right =>
      (makeEnvelope left).cursor < (makeEnvelope right).cursor) :
    rows.insertionSort createdBefore = rows := by
  apply List.Pairwise.insertionSort_eq
  refine hrows.imp ?_
  intro left right hless
  rcases cursor_lt_iff.1 hless with hearlier | ⟨hsame, hid⟩
  · exact Or.inl hearlier
  · exact Or.inr ⟨hsame, le_of_lt hid⟩

/-! ## What a replay sends -/

variable {items : List EventEnvelope}

theorem filter_take_of_past {keep : EventEnvelope → Bool} {limit : Nat}
    (hordered : items.Pairwise (·.cursor < ·.cursor))
    (hclosed : ∀ left right : EventEnvelope, left.cursor < right.cursor → keep right → keep left)
    (hpast : ∃ item ∈ items.take limit, ¬ keep item) :
    (items.take limit).filter keep = items.filter keep := by
  obtain ⟨past, hmem, hdropped⟩ := hpast
  have hsplit := List.take_append_drop limit items
  have hrest : (items.drop limit).filter keep = [] := by
    rw [List.filter_eq_nil_iff]
    intro item hitem hkept
    rw [← hsplit] at hordered
    have hlater := (List.pairwise_append.mp hordered).2.2 past hmem item hitem
    exact hdropped (hclosed past item hlater hkept)
  conv_rhs => rw [← hsplit, List.filter_append, hrest, List.append_nil]

/-- What a replay sends when it sends: nothing, when the boundary is not past the cursor, or
all the wanted rows up to the boundary, in order. -/
theorem loadStreamReplayItems_eq_ok {rows : List EventSummary} {found : Bool} {after : String}
    {boundary : Option String} {limit : Nat} {kinds : List String}
    (hrows : rows.Pairwise fun left right =>
      (makeEnvelope left).cursor < (makeEnvelope right).cursor)
    (hok : loadStreamReplayItems rows found after boundary limit kinds = .ok items) :
    (boundary.any (· ≤ after) ∧ items = []) ∨
      (items.Pairwise (·.cursor < ·.cursor) ∧ ∀ item, item ∈ items ↔
        (∃ row ∈ rows, item = makeEnvelope row) ∧ ofKinds kinds item ∧ after < item.cursor ∧
          boundary.all (item.cursor ≤ ·)) := by
  unfold loadStreamReplayItems at hok
  by_cases hseen : boundary.any (· ≤ after)
  · rw [if_pos hseen] at hok
    cases hok
    exact Or.inl ⟨hseen, rfl⟩
  · rw [if_neg hseen] at hok
    cases found with
    | false => cases hok
    | true =>
        right
        let envelopes := rows.map makeEnvelope
        let unread := (envelopes.filter (ofKinds kinds)).filter (after < ·.cursor)
        let within (item : EventEnvelope) : Bool := boundary.all (item.cursor ≤ ·)
        have hordered : unread.Pairwise (·.cursor < ·.cursor) := by
          apply List.Pairwise.filter
          apply List.Pairwise.filter
          exact List.pairwise_map.mpr hrows
        have hpage : ¬ limit < ((unread.take (limit + 1)).filter within).length ∧
            (unread.take (limit + 1)).filter within = items := by
          simp only [if_true, getEventsForSpace, insertionSort_of_ordered hrows,
            paginateEventEnvelopes] at hok
          split at hok
          · cases hok
          · rename_i hfits
            split at hok
            · cases hok
            · cases hok
              exact ⟨hfits, rfl⟩
        have hall : items = unread.filter within := by
          rw [← hpage.2]
          by_cases hshort : unread.length ≤ limit + 1
          · rw [List.take_of_length_le hshort]
          · apply filter_take_of_past hordered
            · intro left right hless hkept
              cases boundary with
              | none => rfl
              | some bound =>
                  have hbound : right.cursor ≤ bound := of_decide_eq_true hkept
                  exact decide_eq_true (hless.le.trans hbound)
            · by_contra hnone
              have hwhole : (unread.take (limit + 1)).filter within = unread.take (limit + 1) := by
                apply List.filter_eq_self.mpr
                intro item hitem
                by_contra hdropped
                exact hnone ⟨item, hitem, hdropped⟩
              have hlength : (unread.take (limit + 1)).length = limit + 1 := by
                rw [List.length_take]
                omega
              rw [hwhole, hlength] at hpage
              exact hpage.1 (Nat.lt_succ_self limit)
        constructor
        · rw [hall]
          exact hordered.filter _
        · intro item
          rw [hall]
          simp only [unread, within, envelopes, List.mem_filter, List.mem_map, decide_eq_true_eq]
          constructor
          · rintro ⟨⟨⟨⟨row, hrow, hsame⟩, hkind⟩, hunseen⟩, hwithin⟩
            exact ⟨⟨row, hrow, hsame.symm⟩, hkind, hunseen, hwithin⟩
          · rintro ⟨⟨row, hrow, hsame⟩, hkind, hunseen, hwithin⟩
            exact ⟨⟨⟨⟨row, hrow, hsame.symm⟩, hkind⟩, hunseen⟩, hwithin⟩

/-! ## What holds along an orderly run -/

structure Ordered (s : State) : Prop where
  rows : s.rows.Pairwise fun left right => (makeEnvelope left).cursor < (makeEnvelope right).cursor
  published : s.published.Pairwise (·.cursor < ·.cursor)
  committed : ∀ item ∈ s.published, ∃ row ∈ s.rows, item = makeEnvelope row

/-- The subscription took its place in the row of what is published: what came later and is
of its kinds is on its way to it. -/
structure Listening (request : StreamRequest) (s : State) (before later : List EventEnvelope) :
    Prop where
  place : s.published = before ++ later
  coming : s.queue ++ s.inFlight = later.filter (ofKinds request.kinds)
  silent : s.sent = []

/-- The stream has come to a cursor: what it sent is wanted and in order up to there, and what
is wanted and unsent lies past it, and is on its way once it is published.  The cursor is the
one the replay ended with, or a published one. -/
structure Live (request : StreamRequest) (after : String) (s : State) (cursor : String) : Prop where
  in_order : s.sent.Pairwise (·.cursor < ·.cursor)
  wanted : ∀ item ∈ s.sent, Wanted request after s.rows item
  reached : ∀ item ∈ s.sent, item.cursor ≤ cursor
  coming : (s.queue ++ s.inFlight).Pairwise (·.cursor < ·.cursor)
  announced : ∀ item ∈ s.queue ++ s.inFlight, item ∈ s.published ∧ ofKinds request.kinds item
  past : after ≤ cursor
  unsent : ∃ base, (base = after ∨ ∃ row ∈ s.rows, (makeEnvelope row).cursor = base) ∧
    (cursor = base ∨ ∃ item ∈ s.published, item.cursor = cursor) ∧
    ∀ item, Wanted request after s.rows item → item ∉ s.sent → base < item.cursor ∧
      (item ∈ s.published → item ∈ s.queue ++ s.inFlight ∧ cursor < item.cursor)

def Stands (request : StreamRequest) (after : String) (s : State) : Prop :=
  match s.phase with
  | .waiting => s.queue ++ s.inFlight = [] ∧ s.sent = []
  | .subscribed latestCursor => ∃ before later, Listening request s before later ∧
      latestCursor = before.getLast?.map (·.cursor)
  | .opened boundary => ∃ before later, Listening request s before later ∧
      ∀ item ∈ before, boundary.any (item.cursor ≤ ·)
  | .live cursor => ∃ reached, cursor = some reached ∧ Live request after s reached
  | .ended => ∃ reason, .reset reason ∈ s.frames

theorem le_getLast {last item : EventEnvelope} (hordered : items.Pairwise (·.cursor < ·.cursor))
    (hlast : items.getLast? = some last) (hitem : item ∈ items) : item.cursor ≤ last.cursor := by
  obtain ⟨front, rfl⟩ := List.getLast?_eq_some_iff.mp hlast
  rcases List.mem_append.mp hitem with hearlier | hsame
  · exact ((List.pairwise_append.mp hordered).2.2 item hearlier last List.mem_cons_self).le
  · rw [List.mem_singleton.mp hsame]

theorem Ordered.start : Ordered State.start where
  rows := List.Pairwise.nil
  published := List.Pairwise.nil
  committed := by
    intro item hitem
    cases hitem

/-- The writers' steps keep the order. -/
theorem Ordered.step {isDigit : Char → Bool} {request : StreamRequest} {s : State} {t : Step}
    (hordered : Ordered s) (hin : InOrder s t) : Ordered (step isDigit request s t) := by
  have hkept : ∀ {after : State}, after.rows = s.rows → after.published = s.published →
      Ordered after := by
    intro after hrows hpublished
    constructor
    · rw [hrows]
      exact hordered.rows
    · rw [hpublished]
      exact hordered.published
    · rw [hrows, hpublished]
      exact hordered.committed
  cases t with
  | commit =>
      refine ⟨?_, hordered.published, ?_⟩
      · refine List.pairwise_append.mpr ⟨hordered.rows, List.pairwise_singleton _ _, ?_⟩
        intro row hrow last hlast
        rw [List.mem_singleton.mp hlast]
        exact hin row hrow
      · intro item hitem
        obtain ⟨row, hrow, hsame⟩ := hordered.committed item hitem
        exact ⟨row, List.mem_append_left _ hrow, hsame⟩
  | publish =>
      refine ⟨hordered.rows, ?_, ?_⟩
      · refine List.pairwise_append.mpr ⟨hordered.published, List.pairwise_singleton _ _, ?_⟩
        intro earlier hearlier last hlast
        rw [List.mem_singleton.mp hlast]
        exact hin.2 earlier hearlier
      · intro other hother
        rcases List.mem_append.mp hother with hearlier | hsame
        · exact hordered.committed other hearlier
        · rw [List.mem_singleton.mp hsame]
          exact hin.1
  | deliver =>
      simp only [EventStream.step, deliver]
      split
      · exact hkept rfl rfl
      · exact hordered
  | subscribe =>
      simp only [EventStream.step, subscribe]
      split
      · split
        · exact hkept rfl rfl
        · exact hkept rfl rfl
      · exact hordered
  | readLatest =>
      simp only [EventStream.step, readLatest]
      split
      · exact hkept rfl rfl
      · exact hordered
  | replay =>
      simp only [EventStream.step, replay]
      split
      · split
        · exact hkept rfl rfl
        · split
          · exact hkept rfl rfl
          · exact hkept rfl rfl
      · exact hordered
  | nextEvent =>
      simp only [EventStream.step, nextEvent]
      split
      · split
        · exact hkept rfl rfl
        · split
          · exact hkept rfl rfl
          · exact hkept rfl rfl
      · exact hordered

section Steps

variable {isDigit : Char → Bool} {request : StreamRequest} {after : String} {s : State}

variable {item : EventEnvelope} {before later : List EventEnvelope} {cursor : String}

theorem deliver_eq (hfirst : s.inFlight.head? = some item) :
    ∃ rest, s.inFlight = item :: rest ∧
      deliver item s = { s with inFlight := rest, queue := s.queue ++ [item] } := by
  cases hflight : s.inFlight with
  | nil =>
      rw [hflight] at hfirst
      cases hfirst
  | cons first rest =>
      rw [hflight, List.head?_cons] at hfirst
      have hsame : first = item := Option.some.inj hfirst
      subst hsame
      refine ⟨rest, rfl, ?_⟩
      rw [deliver, hflight, if_pos List.mem_cons_self, List.erase_cons_head]

theorem publish_coming (item : EventEnvelope) (hlistens : s.phase.listens) :
    (publish request item s).queue ++ (publish request item s).inFlight =
      (s.queue ++ s.inFlight) ++ [item].filter (ofKinds request.kinds) := by
  by_cases hkind : ofKinds request.kinds item
  · simp only [publish, if_pos (And.intro hlistens hkind), List.append_assoc]
    simp [hkind]
  · have hskipped : ¬(s.phase.listens ∧ ofKinds request.kinds item) := fun hboth => hkind hboth.2
    simp only [publish, if_neg hskipped]
    simp [hkind]

theorem Listening.publish (item : EventEnvelope) (hlistening : Listening request s before later)
    (hlistens : s.phase.listens) :
    Listening request (publish request item s) before (later ++ [item]) where
  place := by
    rw [EventStream.publish, hlistening.place, List.append_assoc]
  coming := by
    rw [publish_coming item hlistens, hlistening.coming, List.filter_append]
  silent := hlistening.silent

theorem Listening.deliver (hlistening : Listening request s before later)
    (hfirst : s.inFlight.head? = some item) : Listening request (deliver item s) before later := by
  obtain ⟨rest, hflight, hdeliver⟩ := deliver_eq hfirst
  rw [hdeliver]
  refine ⟨hlistening.place, ?_, hlistening.silent⟩
  have hcoming := hlistening.coming
  rw [hflight] at hcoming
  rw [← hcoming, List.append_assoc]
  rfl

theorem Wanted.commit {event : EventSummary} (hwanted : Wanted request after s.rows item) :
    Wanted request after (s.rows ++ [event]) item := by
  obtain ⟨⟨row, hrow, hsame⟩, hunseen, hasked⟩ := hwanted
  exact ⟨⟨row, List.mem_append_left _ hrow, hsame⟩, hunseen, hasked⟩

theorem Live.commit {event : EventSummary} (hordered : Ordered s)
    (hlive : Live request after s cursor)
    (hin : ∀ row ∈ s.rows, (makeEnvelope row).cursor < (makeEnvelope event).cursor) :
    Live request after { s with rows := s.rows ++ [event] } cursor where
  in_order := hlive.in_order
  wanted := fun item hitem => (hlive.wanted item hitem).commit
  reached := hlive.reached
  coming := hlive.coming
  announced := hlive.announced
  past := hlive.past
  unsent := by
    obtain ⟨base, hbase, hcursor, hunsent⟩ := hlive.unsent
    refine ⟨base, ?_, hcursor, ?_⟩
    · rcases hbase with hafter | ⟨row, hrow, hsame⟩
      · exact Or.inl hafter
      · exact Or.inr ⟨row, List.mem_append_left _ hrow, hsame⟩
    · rintro item ⟨⟨row, hrow, hsame⟩, hunseen, hasked⟩ hnot
      rcases List.mem_append.mp hrow with hearlier | hnew
      · exact hunsent item ⟨⟨row, hearlier, hsame⟩, hunseen, hasked⟩ hnot
      · -- The new row is past all rows, and so not published yet.
        have hevent : row = event := List.mem_singleton.mp hnew
        subst hevent hsame
        constructor
        · rcases hbase with rfl | ⟨earlier, hearlier, rfl⟩
          · exact hunseen
          · exact hin earlier hearlier
        · intro hpublished
          obtain ⟨earlier, hearlier, hsame⟩ := hordered.committed _ hpublished
          have hless := hin earlier hearlier
          rw [hsame] at hless
          exact absurd hless (lt_irrefl _)

theorem Live.publish (hlive : Live request after s cursor) (hlistens : s.phase.listens)
    (hin : ∀ earlier ∈ s.published, earlier.cursor < item.cursor) :
    Live request after (publish request item s) cursor := by
  have hcoming : (EventStream.publish request item s).queue ++
      (EventStream.publish request item s).inFlight = _ := publish_coming item hlistens
  refine ⟨hlive.in_order, ?_, hlive.reached, ?_, ?_, hlive.past, ?_⟩
  · intro other hother
    exact hlive.wanted other hother
  · rw [hcoming]
    refine List.pairwise_append.mpr ⟨hlive.coming, (List.pairwise_singleton _ _).filter _, ?_⟩
    intro earlier hearlier other hother
    rw [List.mem_singleton.mp (List.mem_of_mem_filter hother)]
    exact hin earlier (hlive.announced earlier hearlier).1
  · intro other hother
    rw [hcoming] at hother
    rcases List.mem_append.mp hother with hearlier | hnew
    · exact ⟨List.mem_append_left _ (hlive.announced other hearlier).1,
        (hlive.announced other hearlier).2⟩
    · obtain ⟨hsame, hkind⟩ := List.mem_filter.mp hnew
      exact ⟨List.mem_append_right _ hsame, hkind⟩
  · obtain ⟨base, hbase, hcursor, hunsent⟩ := hlive.unsent
    refine ⟨base, hbase, ?_, ?_⟩
    · rcases hcursor with hsame | ⟨earlier, hearlier, hsame⟩
      · exact Or.inl hsame
      · exact Or.inr ⟨earlier, List.mem_append_left _ hearlier, hsame⟩
    · intro other hwanted hnot
      obtain ⟨hpast, hway⟩ := hunsent other hwanted hnot
      refine ⟨hpast, ?_⟩
      intro hpublished
      rw [hcoming]
      rcases List.mem_append.mp hpublished with hearlier | hnew
      · obtain ⟨hmem, hless⟩ := hway hearlier
        exact ⟨List.mem_append_left _ hmem, hless⟩
      · have hsame := List.mem_singleton.mp hnew
        subst hsame
        constructor
        · exact List.mem_append_right _ (List.mem_filter.mpr ⟨hnew, hwanted.asked⟩)
        · rcases hcursor with rfl | ⟨earlier, hearlier, rfl⟩
          · exact hpast
          · exact hin earlier hearlier

theorem Live.congr {t : State} (hlive : Live request after s cursor) (hrows : t.rows = s.rows)
    (hpublished : t.published = s.published)
    (hcoming : t.queue ++ t.inFlight = s.queue ++ s.inFlight) (hsent : t.sent = s.sent) :
    Live request after t cursor := by
  constructor
  · rw [hsent]
    exact hlive.in_order
  · rw [hsent, hrows]
    exact hlive.wanted
  · rw [hsent]
    exact hlive.reached
  · rw [hcoming]
    exact hlive.coming
  · rw [hcoming, hpublished]
    exact hlive.announced
  · exact hlive.past
  · rw [hsent, hrows, hcoming, hpublished]
    exact hlive.unsent

theorem Live.deliver (hlive : Live request after s cursor) (hfirst : s.inFlight.head? = some item) :
    Live request after (EventStream.deliver item s) cursor := by
  obtain ⟨rest, hflight, hdeliver⟩ := deliver_eq hfirst
  rw [hdeliver]
  apply hlive.congr
  · rfl
  · rfl
  · rw [hflight, List.append_assoc]
    rfl
  · rfl

/-- The loop takes the next item: it sends it, or has sent past it. -/
theorem Live.next {queue : List EventEnvelope} (hordered : Ordered s)
    (hlive : Live request after s cursor) (hqueue : s.queue = item :: queue) :
    ∃ reached, Live request after (if item.cursor ≤ cursor then { s with queue := queue }
      else { s with
        queue := queue
        phase := .live (some item.cursor)
        frames := s.frames ++ [.event item] }) reached ∧
      (reached = if item.cursor ≤ cursor then cursor else item.cursor) := by
  have hitem : item ∈ s.queue ++ s.inFlight := by
    rw [hqueue]
    exact List.mem_cons_self
  have hmine := hlive.announced item hitem
  have hcoming := hlive.coming
  rw [hqueue, List.cons_append, List.pairwise_cons] at hcoming
  have hrest : ∀ other ∈ queue ++ s.inFlight, other ∈ s.queue ++ s.inFlight := by
    intro other hother
    rw [hqueue, List.cons_append]
    exact List.mem_cons_of_mem _ hother
  obtain ⟨base, hbase, hcursor, hunsent⟩ := hlive.unsent
  by_cases hseen : item.cursor ≤ cursor
  · rw [if_pos hseen, if_pos hseen]
    refine ⟨cursor, ⟨hlive.in_order, ?_, hlive.reached, hcoming.2, ?_, hlive.past, base, hbase,
      hcursor, ?_⟩, rfl⟩
    · intro other hother
      exact hlive.wanted other hother
    · exact fun other hother => hlive.announced other (hrest other hother)
    · intro other hwanted hnot
      obtain ⟨hpast, hway⟩ := hunsent other hwanted hnot
      refine ⟨hpast, ?_⟩
      intro hpublished
      obtain ⟨hmem, hless⟩ := hway hpublished
      rw [hqueue, List.cons_append, List.mem_cons] at hmem
      rcases hmem with rfl | hlater
      · exact absurd hless (not_lt.mpr hseen)
      · exact ⟨hlater, hless⟩
  · rw [if_neg hseen, if_neg hseen]
    have hmore : cursor < item.cursor := not_le.mp hseen
    have hsent : ({ s with
        queue := queue
        phase := .live (some item.cursor)
        frames := s.frames ++ [.event item] } : State).sent = s.sent ++ [item] := by
      simp [State.sent, Frame.event?]
    refine ⟨item.cursor, ⟨?_, ?_, ?_, hcoming.2, ?_, hlive.past.trans hmore.le, base, hbase,
      Or.inr ⟨item, hmine.1, rfl⟩, ?_⟩, rfl⟩
    · rw [hsent]
      refine List.pairwise_append.mpr ⟨hlive.in_order, List.pairwise_singleton _ _, ?_⟩
      intro earlier hearlier last hlast
      rw [List.mem_singleton.mp hlast]
      exact lt_of_le_of_lt (hlive.reached earlier hearlier) hmore
    · intro other hother
      rw [hsent] at hother
      rcases List.mem_append.mp hother with hearlier | hsame
      · exact hlive.wanted other hearlier
      · rw [List.mem_singleton.mp hsame]
        exact ⟨hordered.committed item hmine.1, lt_of_le_of_lt hlive.past hmore, hmine.2⟩
    · intro other hother
      rw [hsent] at hother
      rcases List.mem_append.mp hother with hearlier | hsame
      · exact (hlive.reached other hearlier).trans hmore.le
      · rw [List.mem_singleton.mp hsame]
    · exact fun other hother => hlive.announced other (hrest other hother)
    · intro other hwanted hnot
      rw [hsent, List.mem_append, not_or] at hnot
      obtain ⟨hpast, hway⟩ := hunsent other hwanted hnot.1
      refine ⟨hpast, ?_⟩
      intro hpublished
      obtain ⟨hmem, _⟩ := hway hpublished
      rw [hqueue, List.cons_append, List.mem_cons] at hmem
      rcases hmem with rfl | hlater
      · exact absurd List.mem_cons_self hnot.2
      · exact ⟨hlater, hcoming.1 other hlater⟩

theorem getLast?_backlog (s : State) : s.backlog.getLast? = s.published.getLast? := by
  rw [State.backlog, List.getLast?_drop]
  split
  · rename_i hshort
    have hempty : s.published = [] := by
      apply List.eq_nil_of_length_eq_zero
      unfold backlogLimit at hshort
      omega
    rw [hempty]
    rfl
  · rfl

theorem stands_subscribe (hstands : Stands request after s) :
    Stands request after (subscribe isDigit request s) := by
  unfold subscribe
  cases hphase : s.phase with
  | waiting =>
      simp only [Stands, hphase, List.append_eq_nil_iff] at hstands
      by_cases hvalid : request.afterCursor.all (isValidEventCursor isDigit)
      · simp only [if_pos hvalid, Stands]
        refine ⟨s.published, [], ⟨?_, ?_, hstands.2⟩, ?_⟩
        · rw [List.append_nil]
        · simp [hstands.1.1, hstands.1.2]
        · rw [getLast?_backlog]
      · simp only [if_neg hvalid, Stands]
        exact ⟨.invalidCursor, List.mem_concat_self⟩
  | subscribed _ | opened _ | live _ | ended => exact hstands

theorem stands_readLatest (found : Bool) (hordered : Ordered s)
    (hstands : Stands request after s) : Stands request after (readLatest request found s) := by
  unfold readLatest
  cases hphase : s.phase with
  | subscribed =>
      simp only [Stands, hphase] at hstands ⊢
      obtain ⟨before, later, hlistening, hlatest⟩ := hstands
      refine ⟨before, later, ⟨hlistening.place, hlistening.coming, ?_⟩, ?_⟩
      · have hsilent := hlistening.silent
        unfold State.sent at hsilent ⊢
        rw [List.filterMap_append, hsilent]
        rfl
      · intro item hitem
        have hpublished := hordered.published
        rw [hlistening.place] at hpublished
        have hearlier := (List.pairwise_append.mp hpublished).1
        obtain ⟨last, hlast⟩ : ∃ last, before.getLast? = some last := by
          cases hnone : before.getLast? with
          | none =>
              rw [List.getLast?_eq_none_iff.mp hnone] at hitem
              cases hitem
          | some last => exact ⟨last, rfl⟩
        rw [hlatest, hlast]
        exact decide_eq_true (le_getLast hearlier hlast hitem)
  | waiting | opened _ | live _ | ended => exact hstands

/-- A replay that sends leaves what it did not send past its end. -/
theorem Live.replayed {items : List EventEnvelope} {boundary : Option String} {found : Bool}
    (hordered : Ordered s) (hlistening : Listening request s before later)
    (hbefore : ∀ item ∈ before, boundary.any (item.cursor ≤ ·))
    (hload : loadStreamReplayItems s.rows found after boundary request.limit request.kinds =
      .ok items) (phase : Phase) :
    Live request after { s with phase := phase, frames := s.frames ++ items.map .event }
      ((items.getLast?.map (·.cursor)).getD after) := by
  have hsent : State.sent { s with phase := phase, frames := s.frames ++ items.map .event } =
      items := by
    have hcarried : (items.map Frame.event).filterMap Frame.event? = items := by
      rw [List.filterMap_map]
      exact List.filterMap_some
    have hsilent := hlistening.silent
    unfold State.sent at hsilent ⊢
    rw [List.filterMap_append, hsilent, List.nil_append, hcarried]
  have hplace := hlistening.place
  have hspec := loadStreamReplayItems_eq_ok hordered.rows hload
  have hitems : items.Pairwise (·.cursor < ·.cursor) := by
    rcases hspec with ⟨_, rfl⟩ | ⟨hpairwise, _⟩
    · exact List.Pairwise.nil
    · exact hpairwise
  have hwanted : ∀ item ∈ items, Wanted request after s.rows item := by
    intro item hitem
    rcases hspec with ⟨_, rfl⟩ | ⟨_, hmem⟩
    · cases hitem
    · obtain ⟨hcommitted, hkind, hunseen, _⟩ := (hmem item).mp hitem
      exact ⟨hcommitted, hunseen, hkind⟩
  -- What is wanted and not replayed lies past the boundary, and the boundary past the replay.
  have hrest : ∀ item, Wanted request after s.rows item → item ∉ items →
      ¬ boundary.any (item.cursor ≤ ·) ∧ ∀ sent ∈ items, sent.cursor < item.cursor := by
    intro item hitem hnot
    rcases hspec with ⟨hseen, rfl⟩ | ⟨_, hmem⟩
    · constructor
      · intro hwithin
        cases boundary with
        | none => cases hseen
        | some bound =>
            have hbound : bound ≤ after := of_decide_eq_true hseen
            have hitems : item.cursor ≤ bound := of_decide_eq_true hwithin
            exact absurd hitem.unseen (not_lt.mpr (hitems.trans hbound))
      · intro sent hsent
        cases hsent
    · rw [hmem] at hnot
      cases boundary with
      | none => exact absurd ⟨hitem.committed, hitem.asked, hitem.unseen, rfl⟩ hnot
      | some bound =>
          have hpast : bound < item.cursor := by
            by_contra hwithin
            exact hnot ⟨hitem.committed, hitem.asked, hitem.unseen,
              decide_eq_true (not_lt.mp hwithin)⟩
          constructor
          · intro hwithin
            exact absurd hpast (not_lt.mpr (of_decide_eq_true hwithin))
          · intro sent hsent
            have hbound : sent.cursor ≤ bound := of_decide_eq_true ((hmem sent).mp hsent).2.2.2
            exact lt_of_le_of_lt hbound hpast
  have hcoming : ∀ item, Wanted request after s.rows item → item ∉ items → item ∈ s.published →
      item ∈ s.queue ++ s.inFlight := by
    intro item hitem hnot hpublished
    rw [hplace] at hpublished
    rw [hlistening.coming]
    rcases List.mem_append.mp hpublished with hearlier | hlater
    · exact absurd (hbefore item hearlier) (hrest item hitem hnot).1
    · exact List.mem_filter.mpr ⟨hlater, hitem.asked⟩
  have hend : (items.getLast?.map (·.cursor)).getD after = after ∨
      ∃ item ∈ items, (items.getLast?.map (·.cursor)).getD after = item.cursor := by
    cases hlast : items.getLast? with
    | none => exact Or.inl rfl
    | some last => exact Or.inr ⟨last, List.mem_of_getLast? hlast, rfl⟩
  refine ⟨?_, ?_, ?_, ?_, ?_, ?_, (items.getLast?.map (·.cursor)).getD after, ?_, Or.inl rfl, ?_⟩
  · rw [hsent]
    exact hitems
  · rw [hsent]
    exact hwanted
  · rw [hsent]
    intro item hitem
    obtain ⟨last, hlast⟩ : ∃ last, items.getLast? = some last := by
      cases hnone : items.getLast? with
      | none =>
          rw [List.getLast?_eq_none_iff.mp hnone] at hitem
          cases hitem
      | some last => exact ⟨last, rfl⟩
    rw [hlast]
    exact le_getLast hitems hlast hitem
  · have hpublished := hordered.published
    rw [hplace] at hpublished
    change (s.queue ++ s.inFlight).Pairwise _
    rw [hlistening.coming]
    exact (List.pairwise_append.mp hpublished).2.1.filter _
  · intro item hitem
    change item ∈ s.queue ++ s.inFlight at hitem
    rw [hlistening.coming] at hitem
    obtain ⟨hlater, hkind⟩ := List.mem_filter.mp hitem
    refine ⟨?_, hkind⟩
    rw [hplace]
    exact List.mem_append_right _ hlater
  · rcases hend with hsame | ⟨item, hitem, hsame⟩
    · rw [hsame]
    · rw [hsame]
      exact (hwanted item hitem).unseen.le
  · rcases hend with hsame | ⟨item, hitem, hsame⟩
    · exact Or.inl hsame
    · right
      obtain ⟨row, hrow, hrows⟩ := (hwanted item hitem).committed
      refine ⟨row, hrow, ?_⟩
      rw [hsame, hrows]
  · intro item hitem hnot
    rw [hsent] at hnot
    have hpast : (items.getLast?.map (·.cursor)).getD after < item.cursor := by
      rcases hend with hsame | ⟨last, hlast, hsame⟩
      · rw [hsame]
        exact hitem.unseen
      · rw [hsame]
        exact (hrest item hitem hnot).2 last hlast
    exact ⟨hpast, fun hpublished => ⟨hcoming item hitem hnot hpublished, hpast⟩⟩

theorem stands_replay (found : Bool) (hafter : request.afterCursor = some after)
    (hordered : Ordered s) (hstands : Stands request after s) :
    Stands request after (replay request found s) := by
  unfold replay
  cases hphase : s.phase with
  | opened boundary =>
      simp only [Stands, hphase] at hstands
      obtain ⟨before, later, hlistening, hbefore⟩ := hstands
      rw [hafter]
      cases hload : loadStreamReplayItems s.rows found after boundary request.limit
          request.kinds with
      | error reason =>
          simp only [Stands, hload]
          exact ⟨reason, List.mem_concat_self⟩
      | ok =>
          simp only [Stands, hload, Option.or_some]
          exact ⟨_, rfl, Live.replayed hordered hlistening hbefore hload _⟩
  | waiting | subscribed _ | live _ | ended => exact hstands

theorem stands_nextEvent (hordered : Ordered s) (hstands : Stands request after s) :
    Stands request after (nextEvent s) := by
  unfold nextEvent
  cases hphase : s.phase with
  | live cursor =>
      simp only [Stands, hphase] at hstands
      obtain ⟨reached, rfl, hlive⟩ := hstands
      cases hqueue : s.queue with
      | nil =>
          simp only [Stands]
          refine ⟨reached, rfl, hlive.congr rfl rfl ?_ ?_⟩
          · rw [hqueue]
          · unfold State.sent
            rw [List.filterMap_append]
            exact List.append_nil _
      | cons item queue =>
          obtain ⟨next, hnext, hreached⟩ := hlive.next hordered hqueue
          simp only [Option.any_some, decide_eq_true_eq]
          by_cases hseen : item.cursor ≤ reached
          · simp only [if_pos hseen] at hnext hreached ⊢
            simp only [Stands]
            rw [hreached] at hnext
            exact ⟨reached, rfl, hnext.congr rfl rfl rfl rfl⟩
          · simp only [if_neg hseen] at hnext hreached ⊢
            simp only [Stands]
            rw [hreached] at hnext
            exact ⟨item.cursor, rfl, hnext⟩
  | waiting | subscribed _ | opened _ | ended => exact hstands

/-- A step in order keeps the stream's standing. -/
theorem stands_step {t : Step} (hafter : request.afterCursor = some after) (hordered : Ordered s)
    (hstands : Stands request after s) (hin : InOrder s t) :
    Stands request after (step isDigit request s t) := by
  cases t with
  | commit =>
      simp only [step]
      cases hphase : s.phase with
      | waiting | ended =>
          simp only [Stands, hphase] at hstands ⊢
          exact hstands
      | subscribed =>
          simp only [Stands, hphase] at hstands ⊢
          obtain ⟨before, later, hlistening, hlatest⟩ := hstands
          exact ⟨before, later, ⟨hlistening.place, hlistening.coming, hlistening.silent⟩, hlatest⟩
      | opened =>
          simp only [Stands, hphase] at hstands ⊢
          obtain ⟨before, later, hlistening, hbefore⟩ := hstands
          exact ⟨before, later, ⟨hlistening.place, hlistening.coming, hlistening.silent⟩, hbefore⟩
      | live =>
          simp only [Stands, hphase] at hstands ⊢
          obtain ⟨reached, hcursor, hlive⟩ := hstands
          exact ⟨reached, hcursor, (hlive.commit hordered hin).congr rfl rfl rfl rfl⟩
  | publish item =>
      have hphase : (publish request item s).phase = s.phase := rfl
      simp only [step, Stands, hphase]
      unfold Stands at hstands
      cases hstate : s.phase with
      | waiting =>
          have hskipped : ¬(s.phase.listens ∧ ofKinds request.kinds item) := by
            rw [hstate]
            exact fun hboth => absurd hboth.1 (by decide)
          simp only [hstate] at hstands ⊢
          simp only [publish, if_neg hskipped]
          exact hstands
      | ended =>
          simp only [hstate] at hstands ⊢
          exact hstands
      | subscribed =>
          simp only [hstate] at hstands ⊢
          obtain ⟨before, later, hlistening, hlatest⟩ := hstands
          have hlistens : s.phase.listens := by rw [hstate]; rfl
          exact ⟨before, later ++ [item], hlistening.publish item hlistens, hlatest⟩
      | opened =>
          simp only [hstate] at hstands ⊢
          obtain ⟨before, later, hlistening, hbefore⟩ := hstands
          have hlistens : s.phase.listens := by rw [hstate]; rfl
          exact ⟨before, later ++ [item], hlistening.publish item hlistens, hbefore⟩
      | live =>
          simp only [hstate] at hstands ⊢
          obtain ⟨reached, hcursor, hlive⟩ := hstands
          have hlistens : s.phase.listens := by rw [hstate]; rfl
          exact ⟨reached, hcursor, hlive.publish hlistens hin.2⟩
  | deliver item =>
      obtain ⟨rest, hflight, hdeliver⟩ := deliver_eq hin
      have hphase : (deliver item s).phase = s.phase := by rw [hdeliver]
      simp only [step, Stands, hphase]
      unfold Stands at hstands
      cases hstate : s.phase with
      | waiting =>
          simp only [hstate, hflight, List.append_eq_nil_iff] at hstands
          cases hstands.1.2
      | subscribed =>
          simp only [hstate] at hstands ⊢
          obtain ⟨before, later, hlistening, hlatest⟩ := hstands
          exact ⟨before, later, hlistening.deliver hin, hlatest⟩
      | opened =>
          simp only [hstate] at hstands ⊢
          obtain ⟨before, later, hlistening, hbefore⟩ := hstands
          exact ⟨before, later, hlistening.deliver hin, hbefore⟩
      | live =>
          simp only [hstate] at hstands ⊢
          obtain ⟨reached, hcursor, hlive⟩ := hstands
          exact ⟨reached, hcursor, hlive.deliver hin⟩
      | ended =>
          simp only [hstate] at hstands ⊢
          rw [hdeliver]
          exact hstands
  | subscribe => exact stands_subscribe hstands
  | readLatest found => exact stands_readLatest found hordered hstands
  | replay found => exact stands_replay found hafter hordered hstands
  | nextEvent => exact stands_nextEvent hordered hstands

theorem Stands.delivers (hstands : Stands request after s) : Delivers request after s := by
  have hsilent : s.sent = [] → (¬ ∃ cursor, s.phase = .live cursor) →
      ExactlyOnce request after s := by
    intro hsent hphase
    refine ⟨?_, ?_, fun hsettled => absurd hsettled.live hphase⟩
    · rw [hsent]
      exact List.Pairwise.nil
    · intro item hitem
      rw [hsent] at hitem
      cases hitem
  unfold Stands at hstands
  cases hphase : s.phase with
  | waiting =>
      simp only [hphase] at hstands
      exact Or.inr (hsilent hstands.2 (by simp [hphase]))
  | subscribed =>
      simp only [hphase] at hstands
      obtain ⟨before, later, hlistening, _⟩ := hstands
      exact Or.inr (hsilent hlistening.silent (by simp [hphase]))
  | opened =>
      simp only [hphase] at hstands
      obtain ⟨before, later, hlistening, _⟩ := hstands
      exact Or.inr (hsilent hlistening.silent (by simp [hphase]))
  | live =>
      simp only [hphase] at hstands
      obtain ⟨reached, _, hlive⟩ := hstands
      refine Or.inr ⟨hlive.in_order, hlive.wanted, ?_⟩
      intro hsettled item hwanted
      by_contra hnot
      obtain ⟨base, _, _, hunsent⟩ := hlive.unsent
      obtain ⟨row, hrow, hsame⟩ := hwanted.committed
      have hpublished : item ∈ s.published := by
        rw [hsame]
        exact hsettled.announced row hrow
      have hcoming := ((hunsent item hwanted hnot).2 hpublished).1
      rw [hsettled.drained, hsettled.arrived] at hcoming
      cases hcoming
  | ended =>
      simp only [hphase] at hstands
      exact Or.inl hstands

end Steps

/-! ## The theorem -/

/-- With one subscriber, opened with a cursor at any point among the steps of any writers:
while the writers commit and publish in the order of the cursors, the subscriber gets every
event past its cursor exactly once and in order, or a reset. -/
theorem streams_exactly_once (isDigit : Char → Bool) (request : StreamRequest) (after : String)
    (steps : List Step) (hafter : request.afterCursor = some after)
    (hin : Along (step isDigit request) InOrder State.start steps) :
    Throughout (step isDigit request) (Delivers request after) State.start steps := by
  have hrun : Throughout (step isDigit request)
      (fun s => Ordered s ∧ Stands request after s) State.start steps := by
    refine throughout_of_preserved ?_ ?_
    · exact ⟨Ordered.start, rfl, rfl⟩
    · intro done t ht hhere
      exact ⟨hhere.1.step (hin done t ht), stands_step hafter hhere.1 hhere.2 (hin done t ht)⟩
  intro done hdone
  exact (hrun done hdone).2.delivers

def firstEvent : EventSummary := ⟨"a", "message", "alice", "first", 1, by decide⟩
def secondEvent : EventSummary := ⟨"b", "message", "bob", "second", 2, by decide⟩

def fromTheStart : StreamRequest where
  afterCursor := some (encodeEventCursor 0 "start")
  limit := 100
  kinds := []

/-- The subscriber comes between two events. -/
def orderlyRun : List Step :=
  [.commit firstEvent, .publish (makeEnvelope firstEvent), .subscribe, .readLatest true,
    .replay true, .commit secondEvent, .publish (makeEnvelope secondEvent),
    .deliver (makeEnvelope secondEvent), .nextEvent]

theorem orderly_run_delivers : Throughout (step Char.isDigit fromTheStart)
    (Delivers fromTheStart (encodeEventCursor 0 "start")) State.start orderlyRun := by
  refine streams_exactly_once Char.isDigit fromTheStart _ orderlyRun rfl ?_
  unfold orderlyRun
  repeat' apply along_cons
  all_goals first | exact along_nil _ _ _ | decide

/-- Two writers commit in turn, and publish the other way round. -/
def overtakenRun : List Step :=
  [.subscribe, .readLatest true, .replay true, .commit firstEvent, .commit secondEvent,
    .publish (makeEnvelope secondEvent), .deliver (makeEnvelope secondEvent),
    .publish (makeEnvelope firstEvent), .deliver (makeEnvelope firstEvent), .nextEvent, .nextEvent]

theorem overtaken_event_is_lost : ¬ Throughout (step Char.isDigit fromTheStart)
    (Delivers fromTheStart (encodeEventCursor 0 "start")) State.start overtakenRun := by
  intro hall
  have hlast := hall overtakenRun List.prefix_rfl
  have hframes : (run (step Char.isDigit fromTheStart) State.start overtakenRun).frames =
      [.opened fromTheStart.afterCursor none, .event (makeEnvelope secondEvent)] := by
    decide
  have hphase : (run (step Char.isDigit fromTheStart) State.start overtakenRun).phase =
      .live (some (makeEnvelope secondEvent).cursor) := by
    decide
  have hrows : (run (step Char.isDigit fromTheStart) State.start overtakenRun).rows =
      [firstEvent, secondEvent] := by
    decide
  have hpublished : (run (step Char.isDigit fromTheStart) State.start overtakenRun).published =
      [makeEnvelope secondEvent, makeEnvelope firstEvent] := by
    decide
  have harrived : (run (step Char.isDigit fromTheStart) State.start overtakenRun).inFlight = [] := by
    decide
  have hdrained : (run (step Char.isDigit fromTheStart) State.start overtakenRun).queue = [] := by
    decide
  rcases hlast with ⟨reason, hreset⟩ | honce
  · rw [hframes] at hreset
    simp at hreset
  · have hsettled : Settled (run (step Char.isDigit fromTheStart) State.start overtakenRun) := by
      refine ⟨⟨_, hphase⟩, harrived, hdrained, ?_⟩
      rw [hrows, hpublished]
      decide
    have hmem := honce.complete hsettled (makeEnvelope firstEvent) (by
      rw [hrows]
      exact ⟨⟨firstEvent, List.mem_cons_self, rfl⟩, by decide, rfl⟩)
    rw [State.sent, hframes] at hmem
    revert hmem
    decide

end OpsCure.EventStream
