/-
Does a participant of a room miss a message?  Its read marker is moved by its polls and by its own
submissions, and a poll without a marker reads the end of the thread only.
-/
import OpsCure.ChatRoom

namespace OpsCure.ChatRoom

open Keyset Run

/-! ## A room and one of its participants -/

/-- The room, whether the participant has polled, what others have written since its first poll, and
what its polls returned. -/
structure Watch where
  room : Room
  polled : Bool
  late : List Message
  received : List Message

def Watch.start : Watch := ⟨.empty, false, [], []⟩

/-- A poll that marks what it returns as read. -/
structure Poll where
  limit : Nat
  now : Time
  limit_pos : 1 ≤ limit

def Poll.query (poll : Poll) : DeltaQuery := ⟨none, poll.limit, true, poll.limit_pos⟩

inductive Deed where
  | submit (submission : Submission) (clock : Clock)
  | poll (poll : Poll)

/-- The key a submission drew is free. -/
def Submission.Written (submission : Submission) (room : Room) : Prop :=
  submission.drawn ∉ room.messages.rows.map (·.id)

instance (submission : Submission) (room : Room) : Decidable (submission.Written room) :=
  inferInstanceAs (Decidable (_ ∉ _))

section Step

variable (sanitize : String → String) (me : String)

def Watch.step (s : Watch) : Deed → Watch
  | .submit submission clock =>
      { s with
        room := s.room.submitParticipantMessage sanitize submission clock
        late :=
          if s.polled ∧ submission.actorName ≠ me ∧ submission.Written s.room then
            s.late ++ [submission.message sanitize clock]
          else s.late }
  | .poll poll =>
      let answered := s.room.getThreadDelta me poll.query poll.now
      { s with
        room := answered.2
        polled := true
        received := s.received ++ answered.1.messages }

/-- A poll that asks for all there is leaves each message that others have written since the first
poll returned by one poll, once. -/
def CaughtUp (s : Watch) : Prop :=
  ∀ poll : Poll, s.room.messages.rows.length ≤ poll.limit →
    ∀ message ∈ s.late, (s.step sanitize me (.poll poll)).received.count message = 1

/-- When the participant submits, it has been returned just those late messages that were written no
later; what others submit is not written before the message its marker is on; and a later poll that
still has no marker asks for all there is. -/
def Meets (s : Watch) : Deed → Prop
  | .submit submission clock => submission.Written s.room →
      if submission.actorName = me then
        ∀ message ∈ s.late, message ∈ s.received ↔ message.createdAt ≤ clock 1
      else s.polled = true → ∀ message ∈ s.room.messages.rows,
        s.room.marker me = some message.id → message.createdAt ≤ clock 1
  | .poll poll => s.polled = true → s.room.marker me = none →
      s.room.messages.rows.length ≤ poll.limit

end Step

/-! ## The room -/

section Rooms

variable {sanitize : String → String} {me : String} {room : Room}

def Room.cursor (room : Room) (actorName : String) : Option (Lex (Time × Nat)) :=
  (room.marker actorName).bind fun id =>
    (room.messages.rows.zipIdx.find? fun row => row.1.id = id).map written

def Room.unread (room : Room) (actorName : String) : List Message :=
  (ahead written room.messages.rows.zipIdx (room.cursor actorName)).map (·.1)

theorem nodup_rows (room : Room) : room.messages.rows.Nodup := room.messages.unique.of_map

theorem nodup_written (rows : List Message) : (rows.zipIdx.map written).Nodup := by
  have hplaces : (rows.zipIdx.map Prod.snd).Nodup := by
    rw [List.zipIdx_map_snd]
    exact List.nodup_range'
  have hsame : rows.zipIdx.map Prod.snd =
      (rows.zipIdx.map written).map fun key => (ofLex key).2 := by
    rw [List.map_map]
    rfl
  rw [hsame] at hplaces
  exact hplaces.of_map

def Room.Marked (room : Room) (actorName : String) : Prop :=
  ∀ id, room.marker actorName = some id → id ∈ room.messages.rows.map (·.id)

variable {id : MessageId} {submission : Submission}

theorem cursor_of_marker (hmarked : room.Marked me) (hmarker : room.marker me = some id) :
    ∃ row ∈ room.messages.rows.zipIdx,
      row.1.id = id ∧ room.cursor me = some (written row) := by
  obtain ⟨message, hmessage, hid⟩ := List.mem_map.mp (hmarked id hmarker)
  cases hfound : room.messages.rows.zipIdx.find? fun row => row.1.id = id with
  | none =>
      obtain ⟨place, hplace⟩ := List.mem_iff_getElem?.mp hmessage
      have hrow : (message, place) ∈ room.messages.rows.zipIdx :=
        List.mk_mem_zipIdx_iff_getElem?.mpr hplace
      have habsent := List.find?_eq_none.mp hfound _ hrow
      simp [hid] at habsent
  | some row =>
      refine ⟨row, List.mem_of_find?_eq_some hfound, ?_, ?_⟩
      · have hsame := List.find?_some hfound
        exact of_decide_eq_true hsame
      · simp [Room.cursor, hmarker, hfound]

theorem unread_perm (room : Room) (actorName : String) : (room.unread actorName).Perm
    ((room.messages.rows.zipIdx.filter (isAfter written (room.cursor actorName))).map (·.1)) :=
  ((perm_ascending _).filter _).map _

theorem unread_subset (room : Room) (actorName : String) :
    ∀ message ∈ room.unread actorName, message ∈ room.messages.rows := by
  intro message hmessage
  obtain ⟨row, hrow, rfl⟩ := List.mem_map.mp hmessage
  exact List.fst_mem_of_mem_zipIdx (mem_ahead.1 hrow).1

theorem length_unread_le (room : Room) (actorName : String) :
    (room.unread actorName).length ≤ room.messages.rows.length := by
  calc (room.unread actorName).length
      = (ahead written room.messages.rows.zipIdx (room.cursor actorName)).length :=
        List.length_map _
    _ ≤ (ascending written room.messages.rows.zipIdx).length := List.length_filter_le _ _
    _ = room.messages.rows.length := by rw [length_ascending, List.length_zipIdx]

theorem allMessages_perm (room : Room) : room.allMessages.Perm room.messages.rows := by
  have hsorted : (ascending written room.messages.rows.zipIdx).Perm room.messages.rows.zipIdx :=
    perm_ascending _
  have hperm := hsorted.map Prod.fst
  rwa [List.zipIdx_map_fst] at hperm

theorem unread_of_none (hmarker : room.marker me = none) : room.unread me = room.allMessages := by
  have hcursor : room.cursor me = none := by
    simp [Room.cursor, hmarker]
  have hall : ∀ row ∈ ascending written room.messages.rows.zipIdx,
      isAfter written none row = true := fun _ _ => rfl
  rw [Room.unread, hcursor, Room.allMessages, ahead, List.filter_eq_self.mpr hall]

theorem messagesAfterCursor_of_some (hmarked : room.Marked me)
    (hmarker : room.marker me = some id) (limit : Nat) :
    messagesAfterCursor room.allMessages (some id.1) limit = (room.unread me).take limit := by
  obtain ⟨row, hrow, hid, hcursor⟩ := cursor_of_marker hmarked hmarker
  have hin : row ∈ ascending written room.messages.rows.zipIdx := mem_ascending.2 hrow
  obtain ⟨front, back, hsplit⟩ := List.append_of_mem hin
  have hahead : ahead written room.messages.rows.zipIdx (some (written row)) = back := by
    have hall : ∀ row ∈ ascending written room.messages.rows.zipIdx,
        isAfter written none row = true := fun _ _ => rfl
    have hwhole : ahead written room.messages.rows.zipIdx none = front ++ row :: back := by
      rw [ahead, List.filter_eq_self.mpr hall, hsplit]
    exact ahead_of_split (nodup_written _) hwhole
  have hids : (room.allMessages.map (·.id)).Nodup :=
    ((allMessages_perm room).map _).nodup_iff.mpr room.messages.unique
  have hall : room.allMessages = front.map (·.1) ++ row.1 :: back.map (·.1) := by
    rw [Room.allMessages, hsplit, List.map_append, List.map_cons]
  have hindex : room.allMessages.findIdx? (fun message => message.id.1 = id.1) =
      some front.length := by
    rw [hall] at hids ⊢
    rw [List.map_append, List.map_cons, List.nodup_append] at hids
    rw [List.findIdx?_append]
    have hfront : (front.map (·.1)).findIdx? (fun message => decide (message.id.1 = id.1)) =
        none := by
      rw [List.findIdx?_eq_none_iff]
      intro message hmessage
      apply decide_eq_false
      intro hsame
      apply hids.2.2 message.id (List.mem_map_of_mem hmessage) row.1.id List.mem_cons_self
      rw [hid]
      exact Subtype.ext hsame
    rw [hfront]
    simp [List.findIdx?_cons, hid]
  have hsome : (some id.1).filter (fun text => decide (text ≠ "")) = some id.1 := by
    simp [Option.filter, id.2]
  rw [messagesAfterCursor, hsome]
  dsimp only
  have hbehind : front.map (·.1) ++ row.1 :: back.map (·.1) =
      (front.map (·.1) ++ [row.1]) ++ back.map (·.1) := by
    simp
  rw [hindex, Room.unread, hcursor, hahead, hall, hbehind]
  dsimp only
  rw [List.drop_left' (by simp)]

/-! ### What a poll does to it -/

theorem marker_ensureParticipantState (room : Room) (actorName other : String) (now : Time) :
    (room.ensureParticipantState actorName now).marker other = room.marker other := by
  unfold Room.marker Room.ensureParticipantState
  by_cases hsame : other = actorName
  · subst hsame
    rw [Keyed.get_upsert_self]
    cases room.states.get other with
    | none => rfl
    | some => rfl
  · rw [Keyed.get_upsert_of_ne _ hsame]

theorem isSome_state_ensured (room : Room) (actorName : String) (now : Time) :
    ((room.ensureParticipantState actorName now).states.get actorName).isSome := by
  unfold Room.ensureParticipantState
  let fresh : ParticipantState := ⟨actorName, some now, none, none⟩
  let seen := fun row : ParticipantState => { row with lastSeenAt := some now }
  have hself : (room.states.upsert fresh seen fun _ => rfl).get actorName =
      some (((room.states.get actorName).map seen).getD fresh) := by
    have hkey : ∀ row, (seen row).actorName = row.actorName := fun _ => rfl
    exact Keyed.get_upsert_self hkey
  rw [hself]
  rfl

theorem marker_markRead (room : Room) {actorName : String} (message : Message)
    (hknown : (room.states.get actorName).isSome) (other : String) :
    (room.markRead actorName message).marker other =
      if other = actorName then some message.id else room.marker other := by
  obtain ⟨row, hrow⟩ := Option.isSome_iff_exists.mp hknown
  unfold Room.marker Room.markRead
  by_cases hsame : other = actorName
  · subst hsame
    rw [Keyed.get_modify_self _ hrow, if_pos rfl]
    rfl
  · rw [Keyed.get_modify_of_ne _ hsame, if_neg hsame]

theorem messages_getThreadDelta (room : Room) (actorName : String) (query : DeltaQuery)
    (now : Time) : (room.getThreadDelta actorName query now).2.messages = room.messages := by
  unfold Room.getThreadDelta
  dsimp only
  split <;> rfl

theorem page_poll (hmarked : room.Marked me) (poll : Poll) :
    (room.getThreadDelta me poll.query poll.now).1.messages =
      if room.marker me = none then
        room.allMessages.drop (room.allMessages.length - poll.limit)
      else (room.unread me).take poll.limit := by
  have hmarker : ((room.ensureParticipant me "ai").ensureParticipantState me poll.now).marker me =
      room.marker me := marker_ensureParticipantState _ _ _ _
  have hall : ((room.ensureParticipant me "ai").ensureParticipantState me poll.now).allMessages =
      room.allMessages := rfl
  simp only [Room.getThreadDelta, Poll.query, hmarker, hall]
  cases hcase : room.marker me with
  | none => rfl
  | some =>
      rw [if_neg (by simp)]
      exact messagesAfterCursor_of_some hmarked hcase poll.limit

theorem marker_poll (room : Room) (me : String) (poll : Poll) :
    (room.getThreadDelta me poll.query poll.now).2.marker me =
      ((room.getThreadDelta me poll.query poll.now).1.messages.getLast?.map (·.id)).or
        (room.marker me) := by
  have hmarker : ((room.ensureParticipant me "ai").ensureParticipantState me poll.now).marker me =
      room.marker me := marker_ensureParticipantState _ _ _ _
  simp only [Room.getThreadDelta, Poll.query]
  generalize messagesAfterCursor _ _ _ = messages
  cases hlast : messages.getLast? with
  | none =>
      simp only [Option.map_none, Option.none_or]
      exact hmarker
  | some =>
      simp only [Option.map_some, Option.some_or]
      rw [marker_markRead _ _ (isSome_state_ensured _ _ _), if_pos rfl]

/-! ### What a submission does to it -/

theorem submit_of_taken (htaken : ¬ submission.Written room) (clock : Clock) :
    room.submitParticipantMessage sanitize submission clock = room := by
  have hin : submission.drawn ∈ room.messages.rows.map (·.id) := not_not.mp htaken
  have hnone : room.messages.insert (submission.message sanitize clock) = none := by
    unfold Keyed.insert
    rw [dif_neg]
    exact fun hfree => hfree hin
  simp only [Room.submitParticipantMessage, hnone]

theorem submit_of_written (hwritten : submission.Written room) (clock : Clock) :
    let after := room.submitParticipantMessage sanitize submission clock
    after.messages.rows = room.messages.rows ++ [submission.message sanitize clock] ∧
      ∀ other, after.marker other =
        if other = submission.actorName then some submission.drawn else room.marker other := by
  intro after
  have hfree : room.messages.get (submission.message sanitize clock).id = none :=
    Keyed.get_eq_none_iff.2 hwritten
  obtain ⟨messages, hinsert, hrows⟩ := Keyed.insert_of_none hfree
  refine ⟨?_, ?_⟩
  · simp only [after, Room.submitParticipantMessage, hinsert]
    exact hrows
  · intro other
    have hknown := isSome_state_ensured
      (room.ensureParticipant submission.actorName submission.actorKind) submission.actorName
      (clock 0)
    simp only [after, Room.submitParticipantMessage, hinsert]
    refine (marker_markRead _ _ hknown other).trans ?_
    by_cases hsame : other = submission.actorName
    · rw [if_pos hsame, if_pos hsame]
      rfl
    · rw [if_neg hsame, if_neg hsame]
      exact marker_ensureParticipantState _ _ _ _

/-! ### What is ahead -/

theorem row_unique {left right : Message × Nat} (hleft : left ∈ room.messages.rows.zipIdx)
    (hright : right ∈ room.messages.rows.zipIdx) (hid : left.1.id = right.1.id) : left = right := by
  have hleftAt := List.mem_zipIdx_iff_getElem?.mp hleft
  have hrightAt := List.mem_zipIdx_iff_getElem?.mp hright
  have hsame : left.1 = right.1 :=
    List.inj_on_of_nodup_map room.messages.unique (List.mem_of_getElem? hleftAt)
      (List.mem_of_getElem? hrightAt) hid
  have hlength := (List.getElem?_eq_some_iff.mp hleftAt).1
  have hplaces : left.2 = right.2 := by
    apply (List.getElem?_inj hlength (nodup_rows room)).mp
    rw [hleftAt, hrightAt, hsame]
  exact Prod.ext hsame hplaces

theorem cursor_of_row {row : Message × Nat} (hrow : row ∈ room.messages.rows.zipIdx)
    (hmarker : room.marker me = some row.1.id) : room.cursor me = some (written row) := by
  have hmarked : room.Marked me := by
    intro id hid
    rw [hmarker] at hid
    cases hid
    exact List.mem_map_of_mem (List.fst_mem_of_mem_zipIdx hrow)
  obtain ⟨found, hfound, hid, hcursor⟩ := cursor_of_marker hmarked hmarker
  rw [hcursor, row_unique hfound hrow hid]

theorem unread_of_split {cursor : Option (Lex (Time × Nat))} {front back : List (Message × Nat)}
    {row : Message × Nat} (hsplit : ahead written room.messages.rows.zipIdx cursor =
      front ++ row :: back) (hmarker : room.marker me = some row.1.id) :
    room.unread me = back.map (·.1) := by
  have hrow : row ∈ room.messages.rows.zipIdx := by
    have hin : row ∈ ahead written room.messages.rows.zipIdx cursor := by
      rw [hsplit]
      exact List.mem_append_right front List.mem_cons_self
    exact (mem_ahead.1 hin).1
  rw [Room.unread, cursor_of_row hrow hmarker, ahead_of_split (nodup_written _) hsplit]

theorem unread_congr {after : Room} (hmessages : after.messages = room.messages)
    (hmarker : after.marker me = room.marker me) : after.unread me = room.unread me := by
  unfold Room.unread Room.cursor
  rw [hmessages, hmarker]

theorem nodup_unread (room : Room) (me : String) : (room.unread me).Nodup := by
  rw [(unread_perm room me).nodup_iff]
  apply List.Nodup.sublist (List.filter_sublist.map _)
  rw [List.zipIdx_map_fst]
  exact nodup_rows room

theorem mem_unread_iff {message : Message} {place : Nat}
    (hplace : room.messages.rows[place]? = some message) :
    message ∈ room.unread me ↔ isAfter written (room.cursor me) (message, place) = true := by
  have hrow : (message, place) ∈ room.messages.rows.zipIdx :=
    List.mk_mem_zipIdx_iff_getElem?.mpr hplace
  constructor
  · intro hin
    obtain ⟨row, hahead, hsame⟩ := List.mem_map.mp hin
    obtain ⟨hother, hafter⟩ := mem_ahead.1 hahead
    have hequal := row_unique hother hrow (congrArg Message.id hsame)
    rw [hequal] at hafter
    exact hafter
  · intro hafter
    exact List.mem_map.mpr ⟨(message, place), mem_ahead.2 ⟨hrow, hafter⟩, rfl⟩

/-- A poll with a marker takes its page from the front of what is ahead. -/
theorem poll_of_some (hmarked : room.Marked me) (hmarker : room.marker me ≠ none) (poll : Poll) :
    let answered := room.getThreadDelta me poll.query poll.now
    answered.1.messages ++ answered.2.unread me = room.unread me ∧
      answered.1.messages = (room.unread me).take poll.limit := by
  intro answered
  have hpage : answered.1.messages = (room.unread me).take poll.limit := by
    rw [page_poll hmarked, if_neg hmarker]
  have hmessages : answered.2.messages = room.messages := messages_getThreadDelta _ _ _ _
  refine ⟨?_, hpage⟩
  have hnext : answered.2.marker me =
      (answered.1.messages.getLast?.map (·.id)).or (room.marker me) := marker_poll room me poll
  let rows := ahead written room.messages.rows.zipIdx (room.cursor me)
  cases hlast : (rows.take poll.limit).getLast? with
  | none =>
      have hempty : rows.take poll.limit = [] := List.getLast?_eq_none_iff.mp hlast
      have hnothing : rows = [] := by
        rcases List.take_eq_nil_iff.mp hempty with hzero | hnil
        · have hpos := poll.limit_pos
          omega
        · exact hnil
      have hunread : room.unread me = [] := by
        rw [Room.unread]
        exact congrArg (List.map Prod.fst) hnothing
      have hnone : answered.1.messages = [] := by
        rw [hpage, hunread, List.take_nil]
      have hsame : answered.2.marker me = room.marker me := by
        rw [hnext, hnone]
        rfl
      rw [hnone, unread_congr hmessages hsame, List.nil_append]
  | some last =>
      obtain ⟨front, hfront⟩ := List.getLast?_eq_some_iff.mp hlast
      have hsplit : rows = front ++ last :: rows.drop poll.limit := by
        calc rows = rows.take poll.limit ++ rows.drop poll.limit :=
              (List.take_append_drop _ _).symm
          _ = front ++ last :: rows.drop poll.limit := by rw [hfront]; simp
      have hlastMessage : answered.1.messages.getLast? = some last.1 := by
        rw [hpage, Room.unread, ← List.map_take, hfront]
        simp
      have hmarks : answered.2.marker me = some last.1.id := by
        rw [hnext, hlastMessage]
        rfl
      have hrest : answered.2.unread me = (rows.drop poll.limit).map (·.1) := by
        have hbehind : ahead written answered.2.messages.rows.zipIdx (room.cursor me) =
            front ++ last :: rows.drop poll.limit := by
          rw [hmessages]
          exact hsplit
        exact unread_of_split hbehind hmarks
      rw [hrest, hpage, Room.unread, ← List.map_take, ← List.map_append,
        List.take_append_drop]

/-- A poll without a marker takes the end of the thread, and leaves nothing ahead. -/
theorem poll_of_none (hmarker : room.marker me = none) (poll : Poll) :
    let answered := room.getThreadDelta me poll.query poll.now
    answered.1.messages = (room.unread me).drop ((room.unread me).length - poll.limit) ∧
      answered.2.unread me = [] := by
  intro answered
  have hmarked : room.Marked me := by
    intro id hid
    rw [hmarker] at hid
    cases hid
  have hpage : answered.1.messages =
      (room.unread me).drop ((room.unread me).length - poll.limit) := by
    rw [page_poll hmarked, if_pos hmarker, unread_of_none hmarker]
  have hmessages : answered.2.messages = room.messages := messages_getThreadDelta _ _ _ _
  refine ⟨hpage, ?_⟩
  have hnext : answered.2.marker me =
      (answered.1.messages.getLast?.map (·.id)).or (room.marker me) := marker_poll room me poll
  let rows := ahead written room.messages.rows.zipIdx (room.cursor me)
  have hunread : room.unread me = rows.map (·.1) := rfl
  have hpos := poll.limit_pos
  cases hlast : rows.getLast? with
  | none =>
      have hnothing : rows = [] := List.getLast?_eq_none_iff.mp hlast
      have hnone : answered.1.messages = [] := by
        rw [hpage, hunread, hnothing, List.map_nil, List.drop_nil]
      have hsame : answered.2.marker me = room.marker me := by
        rw [hnext, hnone]
        rfl
      rw [unread_congr hmessages hsame, hunread, hnothing]
      rfl
  | some last =>
      obtain ⟨front, hfront⟩ := List.getLast?_eq_some_iff.mp hlast
      have hlastMessage : answered.1.messages.getLast? = some last.1 := by
        rw [hpage, hunread, hfront, List.getLast?_drop]
        have hshort : ¬ (List.map (fun row : Message × Nat => row.1) (front ++ [last])).length ≤
            (List.map (fun row : Message × Nat => row.1) (front ++ [last])).length - poll.limit := by
          simp only [List.length_map, List.length_append, List.length_singleton]
          omega
        rw [if_neg hshort]
        simp
      have hmarks : answered.2.marker me = some last.1.id := by
        rw [hnext, hlastMessage]
        rfl
      have hrest : answered.2.unread me = ([] : List (Message × Nat)).map (·.1) := by
        have hbehind : ahead written answered.2.messages.rows.zipIdx (room.cursor me) =
            front ++ [last] := by
          rw [hmessages]
          exact hfront
        exact unread_of_split hbehind hmarks
      rw [hrest]
      rfl

end Rooms

/-! ## Steps -/

section Steps

variable {sanitize : String → String} {me : String} {s : Watch}

/-- What is returned and what is ahead hold each late message once. -/
def Watch.Even (me : String) (s : Watch) : Prop :=
  ∀ message ∈ s.late, (s.received ++ s.room.unread me).count message = 1

/-- What the participant watches is in the room; nothing is late before the first poll; and as long
as there is no marker after it, everything is. -/
structure Watching (me : String) (s : Watch) : Prop where
  marked : s.room.Marked me
  late : ∀ message ∈ s.late, message ∈ s.room.messages.rows
  received : ∀ message ∈ s.received, message ∈ s.room.messages.rows
  early : s.polled = false → s.late = []
  unmarked : s.polled = true → s.room.marker me = none →
    ∀ message ∈ s.room.messages.rows, message ∈ s.late

theorem watching_start (me : String) : Watching me .start where
  marked id hid := by cases hid
  late _ hmessage := by cases hmessage
  received _ hmessage := by cases hmessage
  early _ := rfl
  unmarked hpolled := by cases hpolled

theorem count_received_unread (message : Message) :
    (s.received ++ s.room.unread me).count message =
      s.received.count message + if message ∈ s.room.unread me then 1 else 0 := by
  rw [List.count_append]
  congr 1
  split
  · rename_i hin
    exact List.count_eq_one_of_mem (nodup_unread _ _) hin
  · rename_i hnot
    exact List.count_eq_zero.mpr hnot

theorem page_subset (hmarked : s.room.Marked me) (poll : Poll) :
    ∀ message ∈ (s.room.getThreadDelta me poll.query poll.now).1.messages,
      message ∈ s.room.unread me := by
  intro message hmessage
  by_cases hmarker : s.room.marker me = none
  · rw [(poll_of_none hmarker poll).1] at hmessage
    exact List.mem_of_mem_drop hmessage
  · rw [(poll_of_some hmarked hmarker poll).2] at hmessage
    exact List.mem_of_mem_take hmessage

theorem caughtUp_iff_even (hwatching : Watching me s) :
    CaughtUp sanitize me s ↔ s.Even me := by
  have hpage : ∀ poll : Poll, s.room.messages.rows.length ≤ poll.limit →
      (s.step sanitize me (.poll poll)).received = s.received ++ s.room.unread me := by
    intro poll hlimit
    have hlength : (s.room.unread me).length ≤ poll.limit :=
      (length_unread_le s.room me).trans hlimit
    have hanswer : (s.room.getThreadDelta me poll.query poll.now).1.messages = s.room.unread me := by
      by_cases hmarker : s.room.marker me = none
      · rw [(poll_of_none hmarker poll).1, Nat.sub_eq_zero_of_le hlength, List.drop_zero]
      · rw [(poll_of_some hwatching.marked hmarker poll).2, List.take_of_length_le hlength]
    simp only [Watch.step]
    rw [hanswer]
  constructor
  · intro hcaught message hmessage
    let poll : Poll := ⟨s.room.messages.rows.length + 1, 0, Nat.le_add_left _ _⟩
    rw [← hpage poll (Nat.le_succ _)]
    exact hcaught poll (Nat.le_succ _) message hmessage
  · intro heven poll hlimit message hmessage
    rw [hpage poll hlimit]
    exact heven message hmessage

/-- A poll leaves the participant even exactly when it leaves nothing out. -/
theorem even_poll_iff (hwatching : Watching me s) (heven : s.Even me) (poll : Poll) :
    (s.step sanitize me (.poll poll)).Even me ↔ Meets me s (.poll poll) := by
  by_cases hmarker : s.room.marker me = none
  · obtain ⟨hpage, hrest⟩ := poll_of_none hmarker poll
    have hall : s.room.unread me = s.room.allMessages := unread_of_none hmarker
    have hafter : (s.step sanitize me (.poll poll)).Even me ↔ ∀ message ∈ s.late,
        (s.received ++ (s.room.unread me).drop ((s.room.unread me).length - poll.limit)).count
          message = 1 := by
      simp only [Watch.Even, Watch.step]
      rw [hrest, hpage, List.append_nil]
    have hlength : (s.room.unread me).length = s.room.messages.rows.length := by
      rw [hall]
      exact (allMessages_perm _).length_eq
    rw [hafter]
    constructor
    · intro hkept hpolled _
      by_contra hshort
      -- the first message of the thread is late, and the page begins behind it
      cases hfirst : s.room.unread me with
      | nil =>
          rw [hfirst, List.length_nil] at hlength
          omega
      | cons first rest =>
          have hin : first ∈ s.room.unread me := by
            rw [hfirst]
            exact List.mem_cons_self
          have hlate : first ∈ s.late :=
            hwatching.unmarked hpolled hmarker first (unread_subset _ _ first hin)
          have hbefore := heven first hlate
          rw [count_received_unread, if_pos hin] at hbefore
          have hnodup := nodup_unread s.room me
          rw [hfirst, List.nodup_cons] at hnodup
          have hnotIn : first ∉ (s.room.unread me).drop
              ((s.room.unread me).length - poll.limit) := by
            intro hdropped
            obtain ⟨skipped, hskipped⟩ : ∃ skipped,
                (s.room.unread me).length - poll.limit = skipped + 1 :=
              ⟨(s.room.unread me).length - poll.limit - 1, by omega⟩
            rw [hskipped, hfirst, List.drop_succ_cons] at hdropped
            exact hnodup.1 (List.mem_of_mem_drop hdropped)
          have hcount := hkept first hlate
          rw [List.count_append, List.count_eq_zero.mpr hnotIn] at hcount
          omega
    · intro hmeets message hmessage
      by_cases hpolled : s.polled = true
      · have hlimit := hmeets hpolled hmarker
        rw [Nat.sub_eq_zero_of_le (hlength.le.trans hlimit), List.drop_zero]
        exact heven message hmessage
      · rw [hwatching.early (Bool.eq_false_iff.mpr hpolled)] at hmessage
        cases hmessage
  · obtain ⟨hpage, _⟩ := poll_of_some hwatching.marked hmarker poll
    apply iff_of_true
    · intro message hmessage
      have hbefore := heven message hmessage
      simp only [Watch.step]
      rw [List.append_assoc, hpage]
      exact hbefore
    · exact fun _ hnone => absurd hnone hmarker

variable {submission : Submission}

/-- A message that somebody else writes is ahead exactly when it was not written before the message
the marker is on. -/
theorem unread_of_other (hmarked : s.room.Marked me) (hother : submission.actorName ≠ me)
    (hwritten : submission.Written s.room) (clock : Clock) :
    let after := s.room.submitParticipantMessage sanitize submission clock
    (∀ message ∈ s.room.messages.rows, message ∈ after.unread me ↔ message ∈ s.room.unread me) ∧
      (submission.message sanitize clock ∈ after.unread me ↔
        ∀ message ∈ s.room.messages.rows, s.room.marker me = some message.id →
          message.createdAt ≤ clock 1) := by
  intro after
  have hsubmit : after.messages.rows = _ ∧ ∀ other, after.marker other = _ :=
    submit_of_written hwritten clock
  obtain ⟨hrows, hmarkers⟩ := hsubmit
  have hmarker : after.marker me = s.room.marker me := by
    rw [hmarkers, if_neg (Ne.symm hother)]
  have hlast : after.messages.rows[s.room.messages.rows.length]? =
      some (submission.message sanitize clock) := by
    rw [hrows, List.getElem?_concat_length]
  have hkept : ∀ (place : Nat) (message : Message), s.room.messages.rows[place]? = some message →
      after.messages.rows[place]? = some message := by
    intro place message hplace
    rw [hrows]
    exact List.getElem?_append_left (List.getElem?_eq_some_iff.mp hplace).1 |>.trans hplace
  have hcursor : after.cursor me = s.room.cursor me := by
    cases hcase : s.room.marker me with
    | none => simp [Room.cursor, hmarker, hcase]
    | some =>
        obtain ⟨row, hrow, hid, hfound⟩ := cursor_of_marker hmarked hcase
        rw [hfound]
        apply cursor_of_row
        · exact List.mem_zipIdx_iff_getElem?.mpr (hkept _ _ (List.mem_zipIdx_iff_getElem?.mp hrow))
        · rw [hmarker, hcase, hid]
  refine ⟨?_, ?_⟩
  · intro message hmessage
    obtain ⟨place, hplace⟩ := List.mem_iff_getElem?.mp hmessage
    rw [mem_unread_iff (hkept place message hplace), mem_unread_iff hplace, hcursor]
  · rw [mem_unread_iff hlast, hcursor]
    cases hcase : s.room.marker me with
    | none =>
        have hnone : s.room.cursor me = none := by
          simp [Room.cursor, hcase]
        rw [hnone]
        simp [isAfter]
    | some =>
        obtain ⟨row, hrow, hid, hfound⟩ := cursor_of_marker hmarked hcase
        have hplace := (List.getElem?_eq_some_iff.mp (List.mem_zipIdx_iff_getElem?.mp hrow)).1
        have hless : written row < written (submission.message sanitize clock,
            s.room.messages.rows.length) ↔ row.1.createdAt ≤ clock 1 := by
          rw [written, written, Prod.Lex.toLex_lt_toLex]
          constructor
          · rintro (hearlier | ⟨hsame, _⟩)
            · exact le_of_lt hearlier
            · exact le_of_eq hsame
          · intro hle
            rcases lt_or_eq_of_le hle with hearlier | hsame
            · exact Or.inl hearlier
            · exact Or.inr ⟨hsame, hplace⟩
        rw [hfound]
        simp only [isAfter, decide_eq_true_eq]
        rw [hless]
        constructor
        · intro hle message hmessage hmarks
          cases hmarks
          have hsame : message = row.1 :=
            List.inj_on_of_nodup_map s.room.messages.unique hmessage
              (List.fst_mem_of_mem_zipIdx hrow) hid.symm
          rw [hsame]
          exact hle
        · intro hall
          exact hall row.1 (List.fst_mem_of_mem_zipIdx hrow) (congrArg some hid.symm)

theorem unread_of_own (hown : submission.actorName = me) (hwritten : submission.Written s.room)
    (clock : Clock) :
    ∀ message ∈ s.room.messages.rows,
      message ∈ (s.room.submitParticipantMessage sanitize submission clock).unread me ↔
        clock 1 < message.createdAt := by
  intro message hmessage
  let after := s.room.submitParticipantMessage sanitize submission clock
  have hsubmit : after.messages.rows = _ ∧ ∀ other, after.marker other = _ :=
    submit_of_written hwritten clock
  obtain ⟨hrows, hmarkers⟩ := hsubmit
  have hmarker : after.marker me = some (submission.message sanitize clock).id := by
    rw [hmarkers, if_pos hown.symm]
    rfl
  have hlast : after.messages.rows[s.room.messages.rows.length]? =
      some (submission.message sanitize clock) := by
    rw [hrows, List.getElem?_concat_length]
  have hcursor : after.cursor me =
      some (written (submission.message sanitize clock, s.room.messages.rows.length)) :=
    cursor_of_row (List.mk_mem_zipIdx_iff_getElem?.mpr hlast) hmarker
  obtain ⟨place, hplace⟩ := List.mem_iff_getElem?.mp hmessage
  have hlength := (List.getElem?_eq_some_iff.mp hplace).1
  have hkept : after.messages.rows[place]? = some message := by
    rw [hrows]
    exact (List.getElem?_append_left hlength).trans hplace
  rw [mem_unread_iff hkept, hcursor]
  simp only [isAfter, decide_eq_true_eq]
  rw [written, written, Prod.Lex.toLex_lt_toLex]
  constructor
  · rintro (hlater | ⟨_, hbehind⟩)
    · exact hlater
    · have hnot : ¬ s.room.messages.rows.length < place := by omega
      exact absurd hbehind hnot
  · exact Or.inl

/-- A submission leaves the participant even exactly when it opens no gap. -/
theorem even_submit_iff (hwatching : Watching me s) (heven : s.Even me) (submission : Submission)
    (clock : Clock) :
    (s.step sanitize me (.submit submission clock)).Even me ↔
      Meets me s (.submit submission clock) := by
  have hreceived : (s.step sanitize me (.submit submission clock)).received = s.received := rfl
  by_cases hwritten : submission.Written s.room
  · by_cases hown : submission.actorName = me
    · have hlate : (s.step sanitize me (.submit submission clock)).late = s.late := by
        simp [Watch.step, hown]
      have hcounts : ∀ message ∈ s.late,
          (s.step sanitize me (.submit submission clock)).received.count message +
            (if message ∈ (s.step sanitize me (.submit submission clock)).room.unread me then 1
              else 0) =
          s.received.count message + if clock 1 < message.createdAt then 1 else 0 := by
        intro message hmessage
        have hroom : message ∈ (s.step sanitize me (.submit submission clock)).room.unread me ↔
            clock 1 < message.createdAt :=
          unread_of_own hown hwritten clock message (hwatching.late message hmessage)
        rw [hreceived, if_congr hroom rfl rfl]
      have hmeets : Meets me s (.submit submission clock) ↔
          ∀ message ∈ s.late, message ∈ s.received ↔ message.createdAt ≤ clock 1 := by
        simp [Meets, hwritten, hown]
      unfold Watch.Even
      rw [hlate, hmeets]
      apply forall₂_congr
      intro message hmessage
      have hbefore := heven message hmessage
      rw [count_received_unread] at hbefore
      rw [count_received_unread, hcounts message hmessage, ← List.count_pos_iff]
      by_cases hlater : clock 1 < message.createdAt
      · rw [if_pos hlater]
        have hnot : ¬ message.createdAt ≤ clock 1 := not_le.mpr hlater
        simp only [hnot, iff_false]
        omega
      · rw [if_neg hlater]
        have hle : message.createdAt ≤ clock 1 := not_lt.mp hlater
        simp only [hle, iff_true]
        split at hbefore
        · omega
        · omega
    · obtain ⟨hold, hnew⟩ : (∀ message ∈ s.room.messages.rows,
          message ∈ (s.step sanitize me (.submit submission clock)).room.unread me ↔
            message ∈ s.room.unread me) ∧
          (submission.message sanitize clock ∈
              (s.step sanitize me (.submit submission clock)).room.unread me ↔
            ∀ message ∈ s.room.messages.rows, s.room.marker me = some message.id →
              message.createdAt ≤ clock 1) :=
        unread_of_other hwatching.marked hown hwritten clock
      have hfresh : submission.message sanitize clock ∉ s.room.messages.rows :=
        fun hin => hwritten (List.mem_map_of_mem (f := Message.id) hin)
      have hkept : ∀ message ∈ s.late,
          ((s.step sanitize me (.submit submission clock)).received ++
            (s.step sanitize me (.submit submission clock)).room.unread me).count message = 1 := by
        intro message hmessage
        have hbefore := heven message hmessage
        rw [count_received_unread] at hbefore ⊢
        rw [hreceived, if_congr (hold message (hwatching.late message hmessage)) rfl rfl]
        exact hbefore
      by_cases hpolled : s.polled = true
      · have hlate : (s.step sanitize me (.submit submission clock)).late =
            s.late ++ [submission.message sanitize clock] := by
          simp [Watch.step, hpolled, hown, hwritten]
        have hmeets : Meets me s (.submit submission clock) ↔
            ∀ message ∈ s.room.messages.rows, s.room.marker me = some message.id →
              message.createdAt ≤ clock 1 := by
          simp [Meets, hwritten, hown, hpolled]
        have hcount : ((s.step sanitize me (.submit submission clock)).received ++
            (s.step sanitize me (.submit submission clock)).room.unread me).count
              (submission.message sanitize clock) = 1 ↔
            ∀ message ∈ s.room.messages.rows, s.room.marker me = some message.id →
              message.createdAt ≤ clock 1 := by
          have hnone : s.received.count (submission.message sanitize clock) = 0 :=
            List.count_eq_zero.mpr fun hin => hfresh (hwatching.received _ hin)
          rw [count_received_unread, ← hnew, hreceived, hnone]
          split
          · rename_i hin
            exact iff_of_true rfl hin
          · rename_i hnot
            exact iff_of_false (by omega) hnot
        rw [hmeets, ← hcount]
        unfold Watch.Even
        rw [hlate]
        constructor
        · intro hall
          exact hall _ (List.mem_append_right _ List.mem_cons_self)
        · intro hhere message hmessage
          rcases List.mem_append.mp hmessage with hbefore | hlast
          · exact hkept message hbefore
          · rw [List.mem_singleton.mp hlast]
            exact hhere
      · have hlate : (s.step sanitize me (.submit submission clock)).late = s.late := by
          simp [Watch.step, hpolled]
        apply iff_of_true
        · unfold Watch.Even
          rw [hlate]
          exact hkept
        · simp [Meets, hwritten, hown, hpolled]
  · have hstep : s.step sanitize me (.submit submission clock) = s := by
      simp [Watch.step, submit_of_taken hwritten, hwritten]
    rw [hstep]
    exact iff_of_true heven fun hfree => absurd hfree hwritten

theorem watching_submit (hwatching : Watching me s) (submission : Submission) (clock : Clock) :
    Watching me (s.step sanitize me (.submit submission clock)) := by
  by_cases hwritten : submission.Written s.room
  · obtain ⟨hrows, hmarkers⟩ : (s.step sanitize me (.submit submission clock)).room.messages.rows =
          s.room.messages.rows ++ [submission.message sanitize clock] ∧
        ∀ other, (s.step sanitize me (.submit submission clock)).room.marker other =
          if other = submission.actorName then some submission.drawn else s.room.marker other :=
      submit_of_written hwritten clock
    have hlast : submission.message sanitize clock ∈
        (s.step sanitize me (.submit submission clock)).room.messages.rows := by
      rw [hrows]
      exact List.mem_append_right _ List.mem_cons_self
    have hkept : ∀ message ∈ s.room.messages.rows, message ∈
        (s.step sanitize me (.submit submission clock)).room.messages.rows := by
      intro message hmessage
      rw [hrows]
      exact List.mem_append_left _ hmessage
    constructor
    · intro id hid
      rw [hmarkers] at hid
      by_cases hown : me = submission.actorName
      · rw [if_pos hown] at hid
        cases hid
        exact List.mem_map_of_mem (f := Message.id) hlast
      · rw [if_neg hown] at hid
        obtain ⟨message, hmessage, hsame⟩ := List.mem_map.mp (hwatching.marked id hid)
        exact List.mem_map.mpr ⟨message, hkept message hmessage, hsame⟩
    · intro message hmessage
      simp only [Watch.step] at hmessage
      split at hmessage
      · rcases List.mem_append.mp hmessage with hbefore | hnew
        · exact hkept message (hwatching.late message hbefore)
        · rw [List.mem_singleton.mp hnew]
          exact hlast
      · exact hkept message (hwatching.late message hmessage)
    · intro message hmessage
      exact hkept message (hwatching.received message hmessage)
    · intro hpolled
      have hearly : s.polled = false := hpolled
      simp only [Watch.step, hearly]
      exact hwatching.early hearly
    · intro hpolled hmarker message hmessage
      have hafter : s.polled = true := hpolled
      rw [hmarkers] at hmarker
      have hother : submission.actorName ≠ me := by
        intro hown
        rw [if_pos hown.symm] at hmarker
        cases hmarker
      rw [if_neg (Ne.symm hother)] at hmarker
      have hlate : (s.step sanitize me (.submit submission clock)).late =
          s.late ++ [submission.message sanitize clock] := by
        simp [Watch.step, hafter, hother, hwritten]
      rw [hrows] at hmessage
      rw [hlate]
      rcases List.mem_append.mp hmessage with hbefore | hnew
      · exact List.mem_append_left _ (hwatching.unmarked hafter hmarker message hbefore)
      · exact List.mem_append_right _ hnew
  · have hstep : s.step sanitize me (.submit submission clock) = s := by
      simp [Watch.step, submit_of_taken hwritten, hwritten]
    rw [hstep]
    exact hwatching

theorem watching_poll (hwatching : Watching me s) (poll : Poll) :
    Watching me (s.step sanitize me (.poll poll)) := by
  have hmessages : (s.step sanitize me (.poll poll)).room.messages = s.room.messages :=
    messages_getThreadDelta _ _ _ _
  have hmarker : (s.step sanitize me (.poll poll)).room.marker me =
      ((s.room.getThreadDelta me poll.query poll.now).1.messages.getLast?.map (·.id)).or
        (s.room.marker me) := marker_poll s.room me poll
  have hpage : ∀ message ∈ (s.room.getThreadDelta me poll.query poll.now).1.messages,
      message ∈ s.room.messages.rows :=
    fun message hmessage => unread_subset _ _ _ (page_subset hwatching.marked poll message hmessage)
  constructor
  · intro id hid
    rw [hmarker] at hid
    rw [hmessages]
    cases hlast : (s.room.getThreadDelta me poll.query poll.now).1.messages.getLast? with
    | none =>
        rw [hlast] at hid
        exact hwatching.marked id hid
    | some last =>
        rw [hlast] at hid
        cases hid
        exact List.mem_map_of_mem (f := Message.id) (hpage last (List.mem_of_getLast? hlast))
  · intro message hmessage
    rw [hmessages]
    exact hwatching.late message hmessage
  · intro message hmessage
    rw [hmessages]
    rcases List.mem_append.mp hmessage with hbefore | hnew
    · exact hwatching.received message hbefore
    · exact hpage message hnew
  · intro hpolled
    cases hpolled
  · intro _ hnone message hmessage
    rw [hmarker] at hnone
    rw [hmessages] at hmessage
    obtain ⟨hempty, hunmarked⟩ := Option.or_eq_none_iff.mp hnone
    have hnothing : (s.room.getThreadDelta me poll.query poll.now).1.messages = [] :=
      List.getLast?_eq_none_iff.mp (Option.map_eq_none_iff.mp hempty)
    rw [(poll_of_none hunmarked poll).1, unread_of_none hunmarked] at hnothing
    have hall : message ∈ s.room.allMessages := (allMessages_perm s.room).mem_iff.mpr hmessage
    have hlength : 0 < s.room.allMessages.length := List.length_pos_of_mem hall
    have hshort := List.drop_eq_nil_iff.mp hnothing
    have hpos := poll.limit_pos
    omega

theorem watching_step (hwatching : Watching me s) (deed : Deed) :
    Watching me (s.step sanitize me deed) := by
  cases deed with
  | submit submission clock => exact watching_submit hwatching submission clock
  | poll poll => exact watching_poll hwatching poll

theorem caughtUp_step_iff (hwatching : Watching me s) (hcaught : CaughtUp sanitize me s)
    (deed : Deed) : CaughtUp sanitize me (s.step sanitize me deed) ↔ Meets me s deed := by
  have heven := (caughtUp_iff_even hwatching).mp hcaught
  rw [caughtUp_iff_even (watching_step hwatching deed)]
  cases deed with
  | submit submission clock => exact even_submit_iff hwatching heven submission clock
  | poll poll => exact even_poll_iff hwatching heven poll

theorem length_unread_poll (hwatching : Watching me s) (poll : Poll) :
    ((s.step sanitize me (.poll poll)).room.unread me).length ≤ (s.room.unread me).length - 1 := by
  have hpos := poll.limit_pos
  by_cases hmarker : s.room.marker me = none
  · have hrest : (s.step sanitize me (.poll poll)).room.unread me = [] :=
      (poll_of_none hmarker poll).2
    rw [hrest]
    exact Nat.zero_le _
  · obtain ⟨hboth, hpage⟩ := poll_of_some hwatching.marked hmarker poll
    have hlengths := congrArg List.length hboth
    rw [List.length_append, hpage, List.length_take] at hlengths
    have hrest : ((s.step sanitize me (.poll poll)).room.unread me).length =
        ((s.room.getThreadDelta me poll.query poll.now).2.unread me).length := rfl
    omega

end Steps

/-! ## Runs -/

section Runs

variable (sanitize : String → String) (me : String)

structure MissesNothing (deeds : List Deed) : Prop where
  caughtUp : Throughout (Watch.step sanitize me) (CaughtUp sanitize me) .start deeds
  returned : ∀ done polls, done ++ polls <+: deeds → (∀ deed ∈ polls, ∃ poll, deed = .poll poll) →
    (run (Watch.step sanitize me) .start done).room.messages.rows.length ≤ polls.length →
    ∀ message ∈ (run (Watch.step sanitize me) .start (done ++ polls)).late,
      (run (Watch.step sanitize me) .start (done ++ polls)).received.count message = 1

variable {sanitize me}

theorem watching_run (deeds : List Deed) :
    Throughout (Watch.step sanitize me) (Watching me) .start deeds :=
  throughout_of_preserved (watching_start me) fun _ deed _ hwatching => watching_step hwatching deed

theorem unread_after_polls (polls : List Deed) (hpolls : ∀ deed ∈ polls, ∃ poll, deed = .poll poll)
    (s : Watch) (hwatching : Watching me s) (hlength : (s.room.unread me).length ≤ polls.length) :
    (run (Watch.step sanitize me) s polls).room.unread me = [] := by
  induction polls generalizing s with
  | nil => exact List.length_eq_zero_iff.mp (Nat.le_zero.mp hlength)
  | cons deed polls ih =>
      obtain ⟨poll, rfl⟩ := hpolls deed List.mem_cons_self
      rw [run_cons]
      apply ih fun other hother => hpolls other (List.mem_cons_of_mem _ hother)
      · exact watching_step hwatching _
      · have hless : ((s.step sanitize me (.poll poll)).room.unread me).length ≤
            (s.room.unread me).length - 1 := length_unread_poll hwatching poll
        rw [List.length_cons] at hlength
        omega

/-- Over every run, the participant misses nothing exactly when no step opens a gap. -/
theorem misses_nothing_iff (sanitize : String → String) (me : String) (deeds : List Deed) :
    MissesNothing sanitize me deeds ↔ Along (Watch.step sanitize me) (Meets me) .start deeds := by
  have hcaught : Throughout (Watch.step sanitize me) (CaughtUp sanitize me) .start deeds ↔
      Along (Watch.step sanitize me) (Meets me) .start deeds := by
    apply throughout_iff_along_under (watching_start me)
    · intro s deed hwatching
      exact watching_step hwatching deed
    · intro _ _ _ hmessage
      cases hmessage
    · intro s deed hwatching hhere
      exact caughtUp_step_iff hwatching hhere deed
  constructor
  · intro hmisses
    exact hcaught.mp hmisses.caughtUp
  · intro hmeets
    have hall := hcaught.mpr hmeets
    refine ⟨hall, ?_⟩
    intro done polls hrun hpolls hlength message hmessage
    have hwatching : Throughout (Watch.step sanitize me) (Watching me) .start deeds :=
      watching_run deeds
    have hend : (run (Watch.step sanitize me) .start (done ++ polls)).room.unread me = [] := by
      rw [run_append]
      apply unread_after_polls polls hpolls
      · exact hwatching done ((List.prefix_append done polls).trans hrun)
      · exact (length_unread_le _ _).trans hlength
    have heven := (caughtUp_iff_even (hwatching _ hrun)).mp (hall _ hrun) message hmessage
    rw [hend, List.append_nil] at heven
    exact heven

end Runs

/-- `bob` polls an empty room, `ada` writes, `bob` writes before the next poll. -/
def crossedMessages : List Deed :=
  [.poll ⟨20, 0, by decide⟩,
    .submit ⟨"ada", "ai", "ready?", ⟨"m1", by decide⟩⟩ fun _ => 1,
    .submit ⟨"bob", "ai", "hello", ⟨"m2", by decide⟩⟩ fun _ => 2,
    .poll ⟨20, 3, by decide⟩]

/-- The message of `ada`'s is not returned. -/
theorem crossed_message_missed : ¬ MissesNothing id "bob" crossedMessages := by
  intro hmisses
  have hcaught := hmisses.caughtUp crossedMessages (List.prefix_refl _) ⟨20, 4, by decide⟩
    (by decide)
  have hlate : (⟨⟨"m1", by decide⟩, "ada", "claim", "ready?", 1⟩ : Message) ∈
      (run (Watch.step id "bob") .start crossedMessages).late := by
    decide
  have hcount := hcaught _ hlate
  revert hcount
  decide

end OpsCure.ChatRoom
