/-
The kernel scratch store (`kernel/scratch.py`) in a session that does not flush by itself
(`db.py`).  Does it read as a map with expiries?  `set` flushes and `delete` does not: until the next
flush a deleted row is still found, and a `set` that finds it is lost with it.
-/
import OpsCure.Library.Json
import OpsCure.Library.Keyed
import OpsCure.Library.Run
import OpsCure.Presence

namespace OpsCure.Scratch

open Run

/-! ## The service in its session -/

/-- The columns of the unique constraint. -/
structure ScratchKey where
  actorId : String
  spaceId : String
  key : String
deriving DecidableEq, Repr

/-- A row of `kernel_scratch`. -/
structure ScratchRow where
  key : ScratchKey
  value : Json
  createdAt : Time
  updatedAt : Time
  expiresAt : Option Time
deriving Repr

/-- What the transaction sees, and the rows that are marked for deletion and not flushed. -/
structure Session where
  rows : Keyed ScratchRow.key
  marked : List ScratchKey

namespace Session

def empty : Session := ⟨.empty, []⟩

/-- `session.flush()`: a row that is marked is deleted, whatever else was written to it. -/
def flush (s : Session) : Session :=
  ⟨s.rows.without fun row => row.key ∈ s.marked, []⟩

/-- `_fetch_row`: a row that is marked is still found. -/
def fetchRow (s : Session) (key : ScratchKey) : Option ScratchRow := s.rows.get key

/-- `get`; none stands for the default. -/
def get (s : Session) (key : ScratchKey) (now : Time) : Option Json :=
  match s.fetchRow key with
  | none => none
  | some row => if row.expiresAt.any (· ≤ now) then none else some row.value

/-- `has`. -/
def has (s : Session) (key : ScratchKey) (now : Time) : Bool := (s.get key now).isSome

/-- `delete`; nothing is flushed. -/
def delete (s : Session) (key : ScratchKey) : Bool × Session :=
  match s.fetchRow key with
  | none => (false, s)
  | some _ => (true, { s with marked := key :: s.marked })

/-- `set`. -/
def set (s : Session) (key : ScratchKey) (value : Json) (ttlSeconds : Option Int) (now : Time) :
    Session :=
  if ttlSeconds.any (· ≤ 0) then (s.delete key).2
  else
    let expiresAt := ttlSeconds.map fun ttl => now + seconds ttl
    match s.fetchRow key with
    | none =>
        match s.rows.insert ⟨key, value, now, now, expiresAt⟩ with
        | some rows => flush { s with rows := rows }
        | none => s
    | some _ =>
        flush { s with
          rows := s.rows.modify key
            (fun row => { row with
              value := value
              updatedAt := now
              expiresAt := expiresAt }) fun _ => rfl }

/-- The rows `cleanup_expired` takes out. -/
def expiredBatch (s : Session) (batchSize : Int) (now : Time) : List ScratchRow :=
  ((s.rows.rows.filter fun row => row.expiresAt.isSome).take (max 1 batchSize).toNat).filter
    fun row => row.expiresAt.any (· ≤ now)

/-- `cleanup_expired`, with the number of rows removed. -/
def cleanupExpired (s : Session) (batchSize : Int) (now : Time) : Nat × Session :=
  let batch := s.expiredBatch batchSize now
  (batch.length, { s with marked := batch.map (·.key) ++ s.marked })

end Session

/-! ## The map it stands for -/

structure Entry where
  value : Json
  expiresAt : Option Time

abbrev TtlMap := ScratchKey → Option Entry

def Entry.at? (entry : Option Entry) (now : Time) : Option Json :=
  (entry.filter fun entry => !entry.expiresAt.any (· ≤ now)).map (·.value)

def TtlMap.get (map : TtlMap) (key : ScratchKey) (now : Time) : Option Json :=
  Entry.at? (map key) now

def TtlMap.set (map : TtlMap) (key : ScratchKey) (value : Json) (ttlSeconds : Option Int)
    (now : Time) : TtlMap :=
  Function.update map key
    (if ttlSeconds.any (· ≤ 0) then none
    else some ⟨value, ttlSeconds.map fun ttl => now + seconds ttl⟩)

def TtlMap.delete (map : TtlMap) (key : ScratchKey) : TtlMap := Function.update map key none

/-! ## Both, side by side -/

inductive Request where
  | get (key : ScratchKey)
  | has (key : ScratchKey)
  | set (key : ScratchKey) (value : Json) (ttlSeconds : Option Int)
  | delete (key : ScratchKey)
  | cleanup (batchSize : Int)
  | commit

/-- A request, and how much later than the one before it is made.  A commit ends the session; the
next request is made in a new one. -/
structure Event where
  wait : Nat
  request : Request

/-- The service, the map, and the expiry of each entry that was set while the row of its key was
marked for deletion, until the key is set or deleted again. -/
structure System where
  session : Session
  map : TtlMap
  swallowed : ScratchKey → Option (Option Time)
  now : Time

def System.start (now : Time) : System := ⟨.empty, fun _ => none, fun _ => none, now⟩

def System.step (s : System) (event : Event) : System :=
  let now := s.now + event.wait
  match event.request with
  | .get _ | .has _ => { s with now := now }
  | .set key value ttlSeconds =>
      { session := s.session.set key value ttlSeconds now
        map := s.map.set key value ttlSeconds now
        swallowed := Function.update s.swallowed key
          (if ¬ ttlSeconds.any (· ≤ 0) ∧ key ∈ s.session.marked then
            some (ttlSeconds.map fun ttl => now + seconds ttl)
          else none)
        now := now }
  | .delete key =>
      { session := (s.session.delete key).2
        map := s.map.delete key
        swallowed := Function.update s.swallowed key none
        now := now }
  | .cleanup batchSize =>
      { s with
        session := (s.session.cleanupExpired batchSize now).2
        now := now }
  | .commit =>
      { s with
        session := s.session.flush
        now := now }

theorem System.now_le (s : System) (wait : Nat) : s.now ≤ s.now + wait :=
  Int.le_add_of_nonneg_right (Int.natCast_nonneg wait)

def ReadsAsMap (s : System) (event : Event) : Prop :=
  let now := s.now + event.wait
  match event.request with
  | .get key => s.session.get key now = s.map.get key now
  | .has key => s.session.has key now = (s.map.get key now).isSome
  | _ => True

/-- A key is read neither while its row is marked for deletion and not expired, nor while what was
last set is swallowed and would not have expired. -/
def ReadsSafely (s : System) (event : Event) : Prop :=
  let now := s.now + event.wait
  match event.request with
  | .get key | .has key =>
      (key ∈ s.session.marked → ∀ row, s.session.rows.get key = some row →
        row.expiresAt.any (· ≤ now)) ∧
      ∀ expiresAt, s.swallowed key = some expiresAt → expiresAt.any (· ≤ now)
  | _ => True

/-! ## What a key reads as -/

def ScratchRow.entry (row : ScratchRow) : Entry := ⟨row.value, row.expiresAt⟩

def Session.entry (s : Session) (key : ScratchKey) : Option Entry :=
  (s.rows.get key).map ScratchRow.entry

theorem Session.get_eq_at (s : Session) (key : ScratchKey) (now : Time) :
    s.get key now = Entry.at? (s.entry key) now := by
  unfold Session.get Session.fetchRow Session.entry
  cases s.rows.get key with
  | none => rfl
  | some row =>
      by_cases hexpired : row.expiresAt.any (· ≤ now) = true
      · simp [Entry.at?, ScratchRow.entry, Option.filter, hexpired]
      · simp [Entry.at?, ScratchRow.entry, Option.filter, hexpired]

theorem at?_eq_none_iff {entry : Entry} {now : Time} :
    Entry.at? (some entry) now = none ↔ entry.expiresAt.any (· ≤ now) = true := by
  by_cases hexpired : entry.expiresAt.any (· ≤ now) = true
  · simp [Entry.at?, Option.filter, hexpired]
  · simp [Entry.at?, Option.filter, hexpired]

theorem expired_later {expiresAt : Option Time} {now later : Time}
    (hexpired : expiresAt.any (· ≤ now) = true) (hlater : now ≤ later) :
    expiresAt.any (· ≤ later) = true := by
  obtain ⟨expiry, hexpiry, hpast⟩ := (Option.any_eq_true ..).mp hexpired
  apply (Option.any_eq_true ..).mpr
  refine ⟨expiry, hexpiry, ?_⟩
  have hbefore := of_decide_eq_true hpast
  exact decide_eq_true (hbefore.trans hlater)

/-! ## Where session and map differ -/

/-- How a key of the session and of the map are related, from an instant on: they read the same; or
the row is marked for deletion and the map reads as nothing; or what the map has was swallowed. -/
inductive Account (now : Time) (row entry : Option Entry) (marked : Prop)
    (swallowed : Option (Option Time)) : Prop where
  | sound (hunmarked : ¬ marked) (hkept : swallowed = none)
      (hsame : ∀ later, now ≤ later → Entry.at? row later = Entry.at? entry later)
  | marked (hmarked : marked) (hrow : row.isSome) (hkept : swallowed = none)
      (hnothing : ∀ later, now ≤ later → Entry.at? entry later = none)
  | swallowed (hunmarked : ¬ marked) (hrow : row = none) (value : Json) (expiresAt : Option Time)
      (hswallowed : swallowed = some expiresAt) (hentry : entry = some ⟨value, expiresAt⟩)

variable {swallowed : Option (Option Time)}

theorem Account.later {now after : Time} {row entry : Option Entry} {marked : Prop}
    (haccount : Account now row entry marked swallowed) (hafter : now ≤ after) :
    Account after row entry marked swallowed := by
  cases haccount with
  | sound hunmarked hkept hsame =>
      exact .sound hunmarked hkept fun later hlater => hsame later (hafter.trans hlater)
  | marked hmarked hrow hkept hnothing =>
      exact .marked hmarked hrow hkept fun later hlater => hnothing later (hafter.trans hlater)
  | swallowed hunmarked hrow value expiresAt hswallowed hentry =>
      exact .swallowed hunmarked hrow value expiresAt hswallowed hentry

theorem Account.flushed {now : Time} {row entry : Option Entry} {marked : Prop} [Decidable marked]
    (haccount : Account now row entry marked swallowed) :
    Account now (if marked then none else row) entry False swallowed := by
  cases haccount with
  | sound hunmarked hkept hsame =>
      rw [if_neg hunmarked]
      exact .sound id hkept hsame
  | marked hmarked hrow hkept hnothing =>
      rw [if_pos hmarked]
      exact .sound id hkept fun later hlater => (hnothing later hlater).symm
  | swallowed hunmarked hrow value expiresAt hswallowed hentry =>
      rw [if_neg hunmarked]
      exact .swallowed id hrow value expiresAt hswallowed hentry

def System.Accounted (s : System) : Prop :=
  ∀ key, Account s.now (s.session.entry key) (s.map key) (key ∈ s.session.marked) (s.swallowed key)

theorem accounted_start (now : Time) : (System.start now).Accounted := by
  intro key
  exact .sound List.not_mem_nil rfl fun _ _ => rfl

section Steps

variable {s : System} {now : Time}

theorem entry_flush (session : Session) (key : ScratchKey) :
    session.flush.entry key = if key ∈ session.marked then none else session.entry key := by
  unfold Session.flush Session.entry
  rw [Keyed.get_without]
  cases hrow : session.rows.get key with
  | none => simp
  | some row =>
      have hkey : row.key = key := Keyed.key_of_get hrow
      by_cases hmarked : key ∈ session.marked
      · simp [Option.filter, hkey, hmarked]
      · simp [Option.filter, hkey, hmarked]

theorem accounted_flush (haccounted : s.Accounted) (key : ScratchKey) :
    Account s.now (s.session.flush.entry key) (s.map key) (key ∈ s.session.flush.marked)
      (s.swallowed key) := by
  rw [entry_flush]
  have hnone : (key ∈ s.session.flush.marked) = False := by
    simp [Session.flush]
  rw [hnone]
  exact (haccounted key).flushed

variable {ttlSeconds : Option Int}

/-- What a `set` with a life of its own leaves of a key: the entry, unless the row was marked. -/
theorem entry_set (session : Session) (key other : ScratchKey) (value : Json)
    (hlives : ¬ ttlSeconds.any (· ≤ 0) = true) (now : Time)
    (hrows : key ∈ session.marked → (session.entry key).isSome) :
    let after := session.set key value ttlSeconds now
    after.marked = [] ∧ after.entry other =
      if other ∈ session.marked then none
      else if other = key then some ⟨value, ttlSeconds.map fun ttl => now + seconds ttl⟩
      else session.entry other := by
  intro after
  cases hrow : session.rows.get key with
  | none =>
      have hunmarked : key ∉ session.marked := by
        intro hmarked
        have hsome := hrows hmarked
        simp [Session.entry, hrow] at hsome
      let fresh : ScratchRow :=
        ⟨key, value, now, now, ttlSeconds.map fun ttl => now + seconds ttl⟩
      have hfree : session.rows.get fresh.key = none := hrow
      obtain ⟨rows, hinsert, _⟩ := Keyed.insert_of_none hfree
      have hafter : after = Session.flush { session with rows := rows } := by
        simp only [fresh] at hinsert
        simp only [after, Session.set, if_neg hlives, Session.fetchRow, hrow, hinsert]
      rw [hafter]
      refine ⟨rfl, ?_⟩
      rw [entry_flush]
      by_cases hsame : other = key
      · subst hsame
        have hself := Keyed.get_insert_self hinsert
        simp only [if_neg hunmarked, if_true, Session.entry]
        exact congrArg (Option.map ScratchRow.entry) hself
      · simp only [if_neg hsame, Session.entry]
        rw [Keyed.get_insert_of_ne hinsert hsame]
  | some row =>
      have hafter : after = Session.flush { session with
          rows := session.rows.modify key
            (fun row => { row with
              value := value
              updatedAt := now
              expiresAt := ttlSeconds.map fun ttl => now + seconds ttl }) fun _ => rfl } := by
        simp only [after, Session.set, if_neg hlives, Session.fetchRow, hrow]
      rw [hafter]
      refine ⟨rfl, ?_⟩
      rw [entry_flush]
      by_cases hsame : other = key
      · subst hsame
        simp only [if_true, Session.entry]
        rw [Keyed.get_modify_self _ hrow]
        rfl
      · simp only [if_neg hsame, Session.entry]
        rw [Keyed.get_modify_of_ne _ hsame]

/-- After a `delete` its key reads as nothing in the map, and its row, if there is one, is marked. -/
theorem account_delete (hrows : ∀ other, other ∈ s.session.marked →
    (s.session.entry other).isSome) (key : ScratchKey) (now : Time) :
    Account now ((s.session.delete key).2.entry key) (s.map.delete key key)
      (key ∈ (s.session.delete key).2.marked) none := by
  have hnothing : s.map.delete key key = none := by
    simp [TtlMap.delete]
  rw [hnothing]
  cases hrow : s.session.rows.get key with
  | none =>
      have hkept : (s.session.delete key).2 = s.session := by
        simp only [Session.delete, Session.fetchRow, hrow]
      have hentry : s.session.entry key = none := by
        simp [Session.entry, hrow]
      have hunmarked : key ∉ s.session.marked := by
        intro hmarked
        have hsome := hrows key hmarked
        rw [hentry] at hsome
        cases hsome
      rw [hkept, hentry]
      exact .sound hunmarked rfl fun _ _ => rfl
  | some =>
      have hmarks : (s.session.delete key).2 =
          { s.session with marked := key :: s.session.marked } := by
        simp only [Session.delete, Session.fetchRow, hrow]
      rw [hmarks]
      refine .marked List.mem_cons_self ?_ rfl fun _ _ => rfl
      simp [Session.entry, hrow]

/-- A `delete` leaves every other key alone. -/
theorem delete_other (session : Session) {key other : ScratchKey} (hother : other ≠ key) :
    (session.delete key).2.entry other = session.entry other ∧
      (other ∈ (session.delete key).2.marked ↔ other ∈ session.marked) := by
  unfold Session.delete
  split
  · exact ⟨rfl, Iff.rfl⟩
  · refine ⟨rfl, ?_⟩
    simp [hother]

theorem marked_cleanup (session : Session) (batchSize : Int) (now : Time) (key : ScratchKey) :
    key ∈ (session.cleanupExpired batchSize now).2.marked ↔
      key ∈ session.marked ∨ ∃ row, session.rows.get key = some row ∧
        row ∈ session.expiredBatch batchSize now := by
  simp only [Session.cleanupExpired, List.mem_append, List.mem_map]
  constructor
  · rintro (⟨row, hrow, rfl⟩ | hmarked)
    · have hmem : row ∈ session.rows.rows :=
        List.mem_of_mem_filter (List.mem_of_mem_take (List.mem_of_mem_filter hrow))
      exact Or.inr ⟨row, Keyed.get_of_mem hmem, hrow⟩
    · exact Or.inl hmarked
  · rintro (hmarked | ⟨row, hfound, hrow⟩)
    · exact Or.inr hmarked
    · exact Or.inl ⟨row, hrow, Keyed.key_of_get hfound⟩

theorem rows_of_accounted (haccounted : s.Accounted) (key : ScratchKey)
    (hmarked : key ∈ s.session.marked) : (s.session.entry key).isSome := by
  cases haccounted key with
  | sound hunmarked => exact absurd hmarked hunmarked
  | marked _ hrow => exact hrow
  | swallowed hunmarked => exact absurd hmarked hunmarked

theorem account_cleanup (haccounted : s.Accounted) (batchSize : Int) {now : Time}
    (hnow : s.now ≤ now) (key : ScratchKey) :
    Account now ((s.session.cleanupExpired batchSize now).2.entry key) (s.map key)
      (key ∈ (s.session.cleanupExpired batchSize now).2.marked) (s.swallowed key) := by
  have hentry : (s.session.cleanupExpired batchSize now).2.entry key = s.session.entry key := rfl
  rw [hentry]
  by_cases hbatch : ∃ row, s.session.rows.get key = some row ∧
      row ∈ s.session.expiredBatch batchSize now
  · have hmarked := (marked_cleanup s.session batchSize now key).mpr (Or.inr hbatch)
    obtain ⟨row, hrow, hin⟩ := hbatch
    have hrowEntry : s.session.entry key = some row.entry := by
      simp [Session.entry, hrow]
    have hexpired : row.expiresAt.any (· ≤ now) = true := (List.mem_filter.mp hin).2
    cases haccounted key with
    | sound _ hkept hsame =>
        refine .marked hmarked (by simp [hrowEntry]) hkept ?_
        intro later hlater
        rw [← hsame later (hnow.trans hlater), hrowEntry]
        exact at?_eq_none_iff.mpr (expired_later hexpired hlater)
    | marked _ hsome hkept hnothing =>
        exact .marked hmarked hsome hkept fun later hlater => hnothing later (hnow.trans hlater)
    | swallowed _ hnone =>
        rw [hrowEntry] at hnone
        cases hnone
  · have hmarks : (key ∈ (s.session.cleanupExpired batchSize now).2.marked) =
        (key ∈ s.session.marked) := by
      apply propext
      rw [marked_cleanup]
      exact or_iff_left hbatch
    rw [hmarks]
    exact (haccounted key).later hnow

/-- A key is accounted for after a `set` that gives it an entry with a life of its own. -/
theorem account_set (haccounted : s.Accounted) (key : ScratchKey) (value : Json)
    (hlives : ¬ ttlSeconds.any (· ≤ 0) = true) {now : Time} (hnow : s.now ≤ now)
    (other : ScratchKey) :
    Account now ((s.session.set key value ttlSeconds now).entry other)
      (s.map.set key value ttlSeconds now other)
      (other ∈ (s.session.set key value ttlSeconds now).marked)
      (Function.update s.swallowed key
        (if ¬ ttlSeconds.any (· ≤ 0) ∧ key ∈ s.session.marked then
          some (ttlSeconds.map fun ttl => now + seconds ttl) else none) other) := by
  obtain ⟨hmarks, hentry⟩ := entry_set s.session key other value hlives now
    (rows_of_accounted haccounted key)
  have hnone : (other ∈ (s.session.set key value ttlSeconds now).marked) = False := by
    rw [hmarks]
    simp
  rw [hentry, hnone]
  by_cases hsame : other = key
  · subst hsame
    have hmap : s.map.set other value ttlSeconds now other =
        some ⟨value, ttlSeconds.map fun ttl => now + seconds ttl⟩ := by
      simp only [TtlMap.set, Function.update_self, if_neg hlives]
    rw [hmap, Function.update_self, if_pos rfl]
    by_cases hmarked : other ∈ s.session.marked
    · rw [if_pos hmarked, if_pos ⟨hlives, hmarked⟩]
      exact .swallowed id rfl value _ rfl rfl
    · rw [if_neg hmarked, if_neg fun hboth => hmarked hboth.2]
      exact .sound id rfl fun _ _ => rfl
  · have hmap : s.map.set key value ttlSeconds now other = s.map other := by
      simp [TtlMap.set, hsame]
    rw [hmap, Function.update_of_ne hsame, if_neg hsame]
    exact ((haccounted other).later hnow).flushed

theorem account_removal (haccounted : s.Accounted) (key : ScratchKey) {now : Time}
    (hnow : s.now ≤ now) (other : ScratchKey) :
    Account now ((s.session.delete key).2.entry other) (s.map.delete key other)
      (other ∈ (s.session.delete key).2.marked)
      (Function.update s.swallowed key none other) := by
  by_cases hsame : other = key
  · subst hsame
    rw [Function.update_self]
    exact account_delete (rows_of_accounted haccounted) other now
  · obtain ⟨hentry, hmarks⟩ := delete_other s.session hsame
    have hmap : s.map.delete key other = s.map other := by
      simp [TtlMap.delete, hsame]
    rw [hentry, hmap, propext hmarks, Function.update_of_ne hsame]
    exact (haccounted other).later hnow

theorem accounted_step (haccounted : s.Accounted) (event : Event) :
    (s.step event).Accounted := by
  obtain ⟨wait, request⟩ := event
  have hnow := s.now_le wait
  intro key
  cases request with
  | get => exact (haccounted key).later hnow
  | has => exact (haccounted key).later hnow
  | set named value ttlSeconds =>
      by_cases hlives : ttlSeconds.any (· ≤ 0) = true
      · have hset : s.session.set named value ttlSeconds (s.now + wait) =
            (s.session.delete named).2 := by
          simp only [Session.set, hlives, if_true]
        have hmap : s.map.set named value ttlSeconds (s.now + wait) = s.map.delete named := by
          simp only [TtlMap.set, TtlMap.delete, hlives, if_true]
        have hremoved := account_removal haccounted named hnow key
        simpa [System.step, hset, hmap, hlives] using hremoved
      · exact account_set haccounted named value hlives hnow key
  | delete named => exact account_removal haccounted named hnow key
  | cleanup batchSize => exact account_cleanup haccounted batchSize hnow key
  | commit => exact (accounted_flush haccounted key).later hnow

theorem reads_iff (haccounted : s.Accounted) (key : ScratchKey) (wait : Nat) :
    s.session.get key (s.now + wait) = s.map.get key (s.now + wait) ↔
      (key ∈ s.session.marked → ∀ row, s.session.rows.get key = some row →
        row.expiresAt.any (· ≤ s.now + wait)) ∧
      ∀ expiresAt, s.swallowed key = some expiresAt → expiresAt.any (· ≤ s.now + wait) := by
  have hnow := s.now_le wait
  rw [Session.get_eq_at, TtlMap.get]
  cases haccounted key with
  | sound hunmarked hkept hsame =>
      apply iff_of_true (hsame _ hnow)
      refine ⟨fun hmarked => absurd hmarked hunmarked, ?_⟩
      intro expiresAt hswallowed
      rw [hkept] at hswallowed
      cases hswallowed
  | marked hmarked hrow hkept hnothing =>
      obtain ⟨row, hfound⟩ : ∃ row, s.session.rows.get key = some row := by
        rw [Session.entry, Option.isSome_map] at hrow
        exact Option.isSome_iff_exists.mp hrow
      have hentry : s.session.entry key = some row.entry := by
        simp [Session.entry, hfound]
      rw [hnothing _ hnow, hentry, at?_eq_none_iff]
      constructor
      · intro hexpired
        refine ⟨?_, ?_⟩
        · intro _ found hsame
          rw [hfound] at hsame
          cases hsame
          exact hexpired
        · intro expiresAt hswallowed
          rw [hkept] at hswallowed
          cases hswallowed
      · intro hsafe
        exact hsafe.1 hmarked row hfound
  | swallowed hunmarked hrow value expiresAt hswallowed hentry =>
      have hnothing : Entry.at? (none : Option Entry) (s.now + wait) = none := rfl
      rw [hrow, hentry, hnothing, eq_comm, at?_eq_none_iff]
      constructor
      · intro hexpired
        refine ⟨fun hmarked => absurd hmarked hunmarked, ?_⟩
        intro other hother
        rw [hswallowed] at hother
        cases hother
        exact hexpired
      · intro hsafe
        exact hsafe.2 expiresAt hswallowed

theorem get_eq_iff_isSome (haccounted : s.Accounted) (key : ScratchKey) (wait : Nat) :
    s.session.get key (s.now + wait) = s.map.get key (s.now + wait) ↔
      s.session.has key (s.now + wait) = (s.map.get key (s.now + wait)).isSome := by
  have hnow := s.now_le wait
  unfold Session.has
  rw [Session.get_eq_at, TtlMap.get]
  cases haccounted key with
  | sound _ _ hsame => simp [hsame _ hnow]
  | marked _ _ _ hnothing => simp [hnothing _ hnow]
  | swallowed _ hrow value expiresAt =>
      have hnothing : Entry.at? (none : Option Entry) (s.now + wait) = none := rfl
      rw [hrow, hnothing]
      generalize Entry.at? (s.map key) (s.now + wait) = read
      cases read with
      | none => simp
      | some => simp

theorem readsAsMap_iff (haccounted : s.Accounted) (event : Event) :
    ReadsAsMap s event ↔ ReadsSafely s event := by
  obtain ⟨wait, request⟩ := event
  cases request with
  | get key => exact reads_iff haccounted key wait
  | has key => exact (get_eq_iff_isSome haccounted key wait).symm.trans (reads_iff haccounted key wait)
  | set => exact Iff.rfl
  | delete => exact Iff.rfl
  | cleanup => exact Iff.rfl
  | commit => exact Iff.rfl

end Steps

/-! ## Runs -/

/-- Over any sequence of requests, cut into sessions anywhere, every read returns what the map
returns exactly when every key is read safely. -/
theorem scratch_reads_as_map_iff (now : Time) (events : List Event) :
    Along System.step ReadsAsMap (.start now) events ↔
      Along System.step ReadsSafely (.start now) events := by
  apply along_iff_along_under (accounted_start now)
  · intro s event haccounted
    exact readsAsMap_iff haccounted event
  · intro s event haccounted _
    exact accounted_step haccounted event

def deletedValue : List Event :=
  [⟨0, .set ⟨"launcher", "", "dedup"⟩ (.bool true) none⟩, ⟨0, .delete ⟨"launcher", "", "dedup"⟩⟩,
    ⟨0, .get ⟨"launcher", "", "dedup"⟩⟩]

/-- It is still read; the map has nothing. -/
theorem deleted_value_read : ¬ Along System.step ReadsAsMap (.start 0) deletedValue := by
  intro halong
  have hread := halong [⟨0, .set ⟨"launcher", "", "dedup"⟩ (.bool true) none⟩,
    ⟨0, .delete ⟨"launcher", "", "dedup"⟩⟩] ⟨0, .get ⟨"launcher", "", "dedup"⟩⟩
    (List.prefix_refl _)
  have hfound : ((run System.step (.start 0) [⟨0, .set ⟨"launcher", "", "dedup"⟩ (.bool true) none⟩,
      ⟨0, .delete ⟨"launcher", "", "dedup"⟩⟩]).session.get ⟨"launcher", "", "dedup"⟩ 0).isSome =
        true := by
    decide
  have hnothing : ((run System.step (.start 0)
      [⟨0, .set ⟨"launcher", "", "dedup"⟩ (.bool true) none⟩,
        ⟨0, .delete ⟨"launcher", "", "dedup"⟩⟩]).map.get ⟨"launcher", "", "dedup"⟩ 0).isSome =
          false := by
    decide
  have hsame := congrArg Option.isSome hread
  have hboth : true = false := hfound.symm.trans (hsame.trans hnothing)
  cases hboth

end OpsCure.Scratch
