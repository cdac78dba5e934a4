/-
Does starting a project twice open one session?  A start looks for a session before its waits and
writes one after them; and it looks for the words of its request, which are not the words the row
gets when the finder has resolved the target.
-/
import OpsCure.Library.Run
import OpsCure.StartWorkflow

namespace OpsCure.StartWorkflow

open Table Run

/-! ## One open session -/

structure IsOpenFor (key : StartKey) (row : ProjectSession) : Prop where
  openedFor : row.openedFor = key
  stillOpen : row.closedAt = none

def OneOpen (key : StartKey) (s : State) : Prop :=
  ∀ (id other : Id) (row rival : ProjectSession), s.sessions[id]? = some row →
    s.sessions[other]? = some rival → IsOpenFor key row → IsOpenFor key rival → id = other

structure ReturnsNext (key : StartKey) (s : State) (event : Event) (start : Start)
    (session : Id) : Prop where
  returns : ∃ id, event = .finish id none ∧ s.starts[id]? = some start
  stage : start.stage = .returning session
  key : start.request.key = key

def ReturnsOpen (key : StartKey) (s : State) (event : Event) : Prop :=
  ∀ (start : Start) (session id : Id) (row : ProjectSession),
    ReturnsNext key s event start session → s.sessions[id]? = some row → IsOpenFor key row →
    id = session

structure WritesNext (key : StartKey) (s : State) (event : Event) (start : Start) : Prop where
  writes : ∃ id now, event = .threaded id none now ∧ s.starts[id]? = some start
  stage : ∃ session, start.stage = .threading session
  key : start.request.key = key

/-! ## What a start can know of a session -/

/-- The session bears the words the start looked for. -/
def isNamedFor (start : Start) (row : ProjectSession) : Prop :=
  row.projectName = start.request.projectName ∧
    row.targetProjectName = start.request.requestedTarget ∧
    row.guildId = start.request.guildId ∧ row.parentChannelId = start.request.parentChannelId ∧
    start.selectedPreset.all (row.preset = ·)

/-- The session was there when the start looked for one, under the words it looked for. -/
structure Knowable (start : Start) (id : Id) (row : ProjectSession) : Prop where
  earlier : id < start.searched
  named : isNamedFor start row

/-- The step does no harm: when a start writes a session, each that is open for it could be found
when it looked; when it returns one, each other that is open for it could be found as well, and
the one it returns was opened for it too. -/
structure Careful (key : StartKey) (s : State) (event : Event) : Prop where
  writing : ∀ (start : Start) (id : Id) (row : ProjectSession), WritesNext key s event start →
    s.sessions[id]? = some row → IsOpenFor key row → Knowable start id row
  returning : ∀ (start : Start) (session id : Id) (row : ProjectSession),
    ReturnsNext key s event start session → s.sessions[id]? = some row → IsOpenFor key row →
    id ≠ session → Knowable start id row ∧
      ∃ own, s.sessions[session]? = some own ∧ own.openedFor = key

/-! ## The sessions of a run -/

/-- The sessions after a step: those there were keep their words, and reopen never. -/
structure Grew (sessions after : List ProjectSession) : Prop where
  length_le : sessions.length ≤ after.length
  earlier : ∀ (id : Id) (row : ProjectSession), after[id]? = some row → id < sessions.length →
    ∃ old, sessions[id]? = some old ∧ row.openedFor = old.openedFor ∧
      (row.closedAt = none → old.closedAt = none) ∧
      ∀ start, isNamedFor start row ↔ isNamedFor start old

theorem Grew.refl (sessions : List ProjectSession) : Grew sessions sessions where
  length_le := Nat.le_refl _
  earlier := by
    intro id row hrow _
    exact ⟨row, hrow, rfl, fun hopen => hopen, fun _ => Iff.rfl⟩

theorem Grew.open {sessions after : List ProjectSession} (hgrew : Grew sessions after)
    {key : StartKey} {id : Id} {row : ProjectSession} (hrow : after[id]? = some row)
    (hid : id < sessions.length) (hopen : IsOpenFor key row) :
    ∃ old, sessions[id]? = some old ∧ IsOpenFor key old ∧
      ∀ start, isNamedFor start row ↔ isNamedFor start old := by
  obtain ⟨old, hold, hkey, hstill, hnamed⟩ := hgrew.earlier id row hrow hid
  exact ⟨old, hold, ⟨hkey ▸ hopen.openedFor, hstill hopen.stillOpen⟩, hnamed⟩

/-- What holds of a start, whatever it waits for. -/
structure Fits (sessions : List ProjectSession) (start : Start) : Prop where
  place : start.searched ≤ sessions.length
  /-- A start that goes on to write a session has found none that it looked for. -/
  unseen : (∃ manifest preset, start.stage = .finding manifest preset) ∨
      (∃ session, start.stage = .threading session) →
    ∀ (id : Id) (row : ProjectSession), sessions[id]? = some row → id < start.searched →
      row.closedAt = none → ¬ isNamedFor start row
  there : ∀ session, start.stage = .returning session → session < sessions.length
  /-- A start that returns a session opened for it knew of no other. -/
  alone : ∀ (session : Id) (own : ProjectSession), start.stage = .returning session →
    sessions[session]? = some own → own.openedFor = start.request.key →
    ∀ (id : Id) (row : ProjectSession), sessions[id]? = some row → id < start.searched →
      id ≠ session → ¬ IsOpenFor start.request.key row

theorem Fits.grew {sessions after : List ProjectSession} {start : Start}
    (hfits : Fits sessions start) (hgrew : Grew sessions after) : Fits after start where
  place := hfits.place.trans hgrew.length_le
  unseen := by
    intro hstage id row hrow hid hopen hnamed
    have hlt := Nat.lt_of_lt_of_le hid hfits.place
    obtain ⟨old, hold, _, hstill, hsame⟩ := hgrew.earlier id row hrow hlt
    exact hfits.unseen hstage id old hold hid (hstill hopen) ((hsame start).mp hnamed)
  there := fun session hstage =>
    Nat.lt_of_lt_of_le (hfits.there session hstage) hgrew.length_le
  alone := by
    intro session own hstage hown hkey id row hrow hid hne hopen
    obtain ⟨oldOwn, holdOwn, hsame, _⟩ := hgrew.earlier session own hown (hfits.there session hstage)
    have hlt := Nat.lt_of_lt_of_le hid hfits.place
    obtain ⟨old, hold, hopened, _⟩ := hgrew.open hrow hlt hopen
    exact hfits.alone session oldOwn hstage holdOwn (hsame ▸ hkey) id old hold hid hne hopened

theorem Fits.through {sessions : List ProjectSession} {start : Start}
    (hplace : start.searched ≤ sessions.length)
    (hstage : (∃ session, start.stage = .returned session) ∨
      ∃ error, start.stage = .raised error) : Fits sessions start where
  place := hplace
  unseen := by
    rintro (⟨_, _, hfinding⟩ | ⟨_, hthreading⟩) <;>
      rcases hstage with ⟨_, hstage⟩ | ⟨_, hstage⟩ <;> simp_all
  there := by
    intro session hreturning
    rcases hstage with ⟨_, hstage⟩ | ⟨_, hstage⟩ <;> rw [hstage] at hreturning <;> cases hreturning
  alone := by
    intro session own hreturning
    rcases hstage with ⟨_, hstage⟩ | ⟨_, hstage⟩ <;> rw [hstage] at hreturning <;> cases hreturning

def Sound (key : StartKey) (s : State) : Prop :=
  ∀ (id : Id) (start : Start), s.starts[id]? = some start → start.request.key = key →
    Fits s.sessions start

/-! ## What a search finds -/

theorem isSought_iff {request : StartRequest} {preset : Option String} {row : ProjectSession}
    {start : Start} (hrequest : start.request = request) (hpreset : start.selectedPreset = preset) :
    isSought request preset row ↔ isNamedFor start row ∧ row.closedAt = none := by
  subst hrequest hpreset
  simp only [isSought, inReach, isNamedFor, decide_eq_true_eq]
  tauto

theorem not_sought_of_none {sessions : List ProjectSession} {request : StartRequest}
    {preset : Option String} (hnone : findExistingSessionId sessions request preset = none)
    {id : Id} {row : ProjectSession} (hrow : sessions[id]? = some row) :
    ¬ isSought request preset row := by
  simp only [findExistingSessionId, Option.map_eq_none_iff, Option.or_eq_none_iff] at hnone
  exact not_keep_of_firstBy_none hnone.1 hrow

theorem open_of_found {sessions : List ProjectSession} {request : StartRequest}
    {preset : Option String} {id : Id}
    (hfound : findExistingSessionId sessions request preset = some id) :
    ∃ row, sessions[id]? = some row ∧ row.closedAt = none := by
  simp only [findExistingSessionId, Option.map_eq_some_iff, Option.or_eq_some_iff] at hfound
  obtain ⟨⟨row, found⟩, hfirst, rfl⟩ := hfound
  rcases hfirst with hsought | ⟨_, hreusable⟩
  · obtain ⟨hrow, hkeep⟩ := firstBy_selectWhere hsought
    simp only [isSought, inReach, decide_eq_true_eq] at hkeep
    exact ⟨row, hrow, hkeep.2.2.2.2.1⟩
  · obtain ⟨hrow, hkeep⟩ := firstBy_selectWhere hreusable
    simp only [isReusable, inReach, decide_eq_true_eq] at hkeep
    exact ⟨row, hrow, hkeep.2.1.2.2.1⟩

section Resolving

variable {paths : Paths} {key : StartKey} {s : State}

theorem threadingOrRaised_ne_returning (session : Except StartError NewSession) (id : Id) :
    threadingOrRaised session ≠ .returning id := by
  cases session <;> exact Stage.noConfusion

theorem resolveTargetWorkdir_ne_returning (manifest : Manifest) (preset : String)
    (request : StartRequest) (id : Id) :
    resolveTargetWorkdir paths manifest preset request ≠ .returning id := by
  unfold resolveTargetWorkdir
  dsimp only
  split
  · exact threadingOrRaised_ne_returning _ id
  · split
    · exact threadingOrRaised_ne_returning _ id
    · split
      · exact Stage.noConfusion
      · split <;> exact Stage.noConfusion

theorem firstStage_cases (paths : Paths) (sessions : List ProjectSession) (request : StartRequest)
    (registry : Registry) :
    (∃ id, (firstStage paths sessions request registry).2 = .returning id ∧
        findExistingSessionId sessions request (firstStage paths sessions request registry).1 =
          some id) ∨
      findExistingSessionId sessions request (firstStage paths sessions request registry).1 =
          none ∧
        ∀ id, (firstStage paths sessions request registry).2 ≠ .returning id := by
  unfold firstStage
  cases hmanifest : resolveManifest registry request.preset with
  | ok chosen =>
      obtain ⟨manifest, preset⟩ := chosen
      dsimp only
      cases hfound : findExistingSessionId sessions request (some preset) with
      | some id => exact Or.inl ⟨id, rfl, rfl⟩
      | none => exact Or.inr ⟨rfl, resolveTargetWorkdir_ne_returning manifest preset request⟩
  | error =>
      dsimp only
      cases hfound : findExistingSessionId sessions request request.preset with
      | some id => exact Or.inl ⟨id, rfl, rfl⟩
      | none => exact Or.inr ⟨rfl, fun _ => Stage.noConfusion⟩

/-! ## What a step keeps -/

theorem starts_setStage {id other : Id} {under start : Start} {stage : Stage}
    (hstart : (s.setStage id under stage).starts[other]? = some start) :
    start = { under with stage := stage } ∨ s.starts[other]? = some start := by
  rcases getElem?_update_eq_some hstart with ⟨_, hstart⟩ | hstart
  · exact Or.inl hstart
  · exact Or.inr hstart

theorem Sound.setStage (hsound : Sound key s) {id : Id} {under : Start} {stage : Stage}
    (hfits : under.request.key = key → Fits s.sessions { under with stage := stage }) :
    Sound key (s.setStage id under stage) := by
  intro other start hstart hkey
  rcases starts_setStage hstart with rfl | hstart
  · exact hfits hkey
  · exact hsound other start hstart hkey

theorem Grew.update {sessions : List ProjectSession} {id : Id} {row written : ProjectSession}
    (hrow : sessions[id]? = some row) (hkey : written.openedFor = row.openedFor)
    (hstill : written.closedAt = none → row.closedAt = none)
    (hnamed : ∀ start, isNamedFor start written ↔ isNamedFor start row) :
    Grew sessions (update sessions id written) where
  length_le := Nat.le_of_eq List.length_set.symm
  earlier := by
    intro other found hfound _
    rcases getElem?_update_eq_some hfound with ⟨rfl, rfl⟩ | hold
    · exact ⟨row, hrow, hkey, hstill, hnamed⟩
    · exact ⟨found, hold, rfl, fun hopen => hopen, fun _ => Iff.rfl⟩

theorem Grew.concat (sessions : List ProjectSession) (row : ProjectSession) :
    Grew sessions (sessions ++ [row]) where
  length_le := List.length_append ▸ Nat.le_add_right _ _
  earlier := by
    intro id found hfound hid
    rw [List.getElem?_append_left hid] at hfound
    exact ⟨found, hfound, rfl, fun hopen => hopen, fun _ => Iff.rfl⟩

theorem grew_close (s : State) (session : Id) (now : Time) :
    Grew s.sessions (close s session now).sessions ∧ (close s session now).starts = s.starts := by
  unfold close
  cases hrow : s.sessions[session]? with
  | none => exact ⟨Grew.refl _, rfl⟩
  | some =>
      refine ⟨Grew.update hrow rfl ?_ fun _ => Iff.rfl, rfl⟩
      intro hopen
      exact (Option.or_eq_none_iff.mp hopen).1

theorem grew_setStatus (s : State) (session : Id) (status : SessionService.SessionStatus) :
    Grew s.sessions (setStatus s session status).sessions ∧
      (setStatus s session status).starts = s.starts := by
  unfold setStatus
  cases hrow : s.sessions[session]? with
  | none => exact ⟨Grew.refl _, rfl⟩
  | some => exact ⟨Grew.update hrow rfl (fun hopen => hopen) fun _ => Iff.rfl, rfl⟩

theorem Sound.grew {t : State} (hsound : Sound key s) (hgrew : Grew s.sessions t.sessions)
    (hstarts : t.starts = s.starts) : Sound key t := by
  intro id start hstart hkey
  rw [hstarts] at hstart
  exact (hsound id start hstart hkey).grew hgrew

theorem Sound.arrive (hsound : Sound key s) (hone : OneOpen key s) (request : StartRequest)
    (registry : Registry) : Sound key (arrive paths s request registry) := by
  intro id start hstart hrequest
  rcases getElem?_concat_eq_some hstart with hold | ⟨_, rfl⟩
  · exact hsound id start hold hrequest
  · have hcases := firstStage_cases paths s.sessions request registry
    constructor
    · exact Nat.le_refl _
    · intro hstage other row hrow _ hopen hnamed
      rcases hcases with ⟨found, hreturning, _⟩ | ⟨hnone, _⟩
      · rcases hstage with ⟨_, _, hfinding⟩ | ⟨_, hthreading⟩
        · exact Stage.noConfusion (hfinding.symm.trans hreturning)
        · exact Stage.noConfusion (hthreading.symm.trans hreturning)
      · exact not_sought_of_none hnone hrow ((isSought_iff rfl rfl).mpr ⟨hnamed, hopen⟩)
    · intro session hreturning
      rcases hcases with ⟨found, hstage, hfound⟩ | ⟨_, hnot⟩
      · obtain rfl : session = found := Stage.returning.inj (hreturning.symm.trans hstage)
        obtain ⟨row, hrow, _⟩ := open_of_found hfound
        exact (List.getElem?_eq_some_iff.mp hrow).1
      · exact absurd hreturning (hnot session)
    · intro session own hreturning hown hkey other row hrow _ hne hopen
      rcases hcases with ⟨found, hstage, hfound⟩ | ⟨_, hnot⟩
      · obtain rfl : session = found := Stage.returning.inj (hreturning.symm.trans hstage)
        obtain ⟨seen, hseen, hstill⟩ := open_of_found hfound
        obtain rfl : own = seen := Option.some.inj (hown.symm.trans hseen)
        rw [hrequest] at hkey hopen
        exact hne (hone other session row own hrow hown hopen ⟨hkey, hstill⟩)
      · exact absurd hreturning (hnot session)

theorem Sound.found (hsound : Sound key s) (id : Id) (answer : Option ProjectFind) :
    Sound key (found paths s id answer) := by
  unfold StartWorkflow.found
  cases hstart : s.starts[id]? with
  | none => exact hsound
  | some under =>
      dsimp only
      split
      · rename_i manifest preset hstage
        apply hsound.setStage
        intro hkey
        have hfits := hsound id under hstart hkey
        have hnot := threadingOrRaised_ne_returning
          (resolveFound paths manifest preset under.request answer)
        constructor
        · exact hfits.place
        · intro _
          exact hfits.unseen (Or.inl ⟨manifest, preset, hstage⟩)
        · intro session hreturning
          exact absurd hreturning (hnot session)
        · intro session own hreturning
          exact absurd hreturning (hnot session)
      · exact hsound

theorem Sound.finish (hsound : Sound key s) (id : Id) (refused : Option String) :
    Sound key (finish s id refused) := by
  unfold StartWorkflow.finish
  cases hstart : s.starts[id]? with
  | none => exact hsound
  | some under =>
      have hplace := fun hkey => (hsound id under hstart hkey).place
      dsimp only
      split
      · exact hsound.setStage fun hkey => Fits.through (hplace hkey) (Or.inl ⟨_, rfl⟩)
      · exact hsound.setStage fun hkey => Fits.through (hplace hkey) (Or.inr ⟨_, rfl⟩)
      · exact hsound

theorem Sound.threaded (hsound : Sound key s) {id : Id} {refused : Option String} {now : Time}
    (hone : OneOpen key (threaded s id refused now)) :
    Sound key (threaded s id refused now) := by
  revert hone
  unfold StartWorkflow.threaded
  cases hstart : s.starts[id]? with
  | none => exact fun _ => hsound
  | some under =>
      dsimp only
      split
      · rename_i session hstage
        intro hone
        let written := createdRow under.request session now
        have hgrew : Grew s.sessions (s.sessions ++ [written]) := Grew.concat _ _
        have hwritten : (s.sessions ++ [written])[s.sessions.length]? = some written :=
          List.getElem?_concat_length
        apply Sound.setStage
        · exact hsound.grew hgrew rfl
        · intro hkey
          have hfits := hsound id under hstart hkey
          constructor
          · exact hfits.place.trans hgrew.length_le
          · rintro (⟨_, _, hfinding⟩ | ⟨_, hthreading⟩)
            · cases hfinding
            · cases hthreading
          · intro other hreturning
            obtain rfl : s.sessions.length = other := Stage.returning.inj hreturning
            exact (List.getElem?_eq_some_iff.mp hwritten).1
          · intro other own hreturning _ _ place row hrow _ hne hopen
            obtain rfl : s.sessions.length = other := Stage.returning.inj hreturning
            rw [show ({ under with stage := .returning s.sessions.length } : Start).request.key =
              key from hkey] at hopen
            exact hne (hone place _ row written hrow hwritten hopen ⟨hkey, rfl⟩)
      · exact fun _ => hsound.setStage fun hkey =>
          Fits.through (hsound id under hstart hkey).place (Or.inr ⟨_, rfl⟩)
      · exact fun _ => hsound

/-! ## At most one session -/

theorem OneOpen.grew {t : State} (hone : OneOpen key s) (hgrew : Grew s.sessions t.sessions)
    (hlength : t.sessions.length = s.sessions.length) : OneOpen key t := by
  intro id other row rival hrow hrival hopen hrivals
  have hlt := (List.getElem?_eq_some_iff.mp hrow).1
  have hlts := (List.getElem?_eq_some_iff.mp hrival).1
  obtain ⟨old, hold, hopened, _⟩ := hgrew.open hrow (hlength ▸ hlt) hopen
  obtain ⟨before, hbefore, hrivaled, _⟩ := hgrew.open hrival (hlength ▸ hlts) hrivals
  exact hone id other old before hold hbefore hopened hrivaled

theorem oneOpen_concat_iff {t : State} {written : ProjectSession} (hone : OneOpen key s)
    (hsessions : t.sessions = s.sessions ++ [written]) (hopen : written.closedAt = none) :
    OneOpen key t ↔ (written.openedFor = key →
      ∀ (id : Id) (row : ProjectSession), s.sessions[id]? = some row → ¬ IsOpenFor key row) := by
  have hwritten : t.sessions[s.sessions.length]? = some written := by
    rw [hsessions]
    exact List.getElem?_concat_length
  constructor
  · intro hafter hkey id row hrow hstill
    have hlt := (List.getElem?_eq_some_iff.mp hrow).1
    have hkept : t.sessions[id]? = some row := by
      rw [hsessions, List.getElem?_append_left hlt]
      exact hrow
    have hid := hafter id _ row written hkept hwritten hstill ⟨hkey, hopen⟩
    exact Nat.ne_of_lt hlt hid
  · intro hfree id other row rival hrow hrival hstill hstills
    rw [hsessions] at hrow hrival
    rcases getElem?_concat_eq_some hrow with hold | ⟨hid, rfl⟩ <;>
      rcases getElem?_concat_eq_some hrival with hrivals | ⟨hother, rfl⟩
    · exact hone id other row rival hold hrivals hstill hstills
    · exact absurd hstill (hfree hstills.openedFor id row hold)
    · exact absurd hstills (hfree hstill.openedFor other rival hrivals)
    · exact hid.trans hother.symm

/-- A step that writes no session leaves at most one open. -/
theorem sessions_step (paths : Paths) (s : State) (event : Event) :
    Grew s.sessions (step paths s event).sessions ∧
        (step paths s event).sessions.length = s.sessions.length ∨
      ∃ id now start session, event = .threaded id none now ∧ s.starts[id]? = some start ∧
        start.stage = .threading session ∧ (step paths s event).sessions =
          s.sessions ++ [createdRow start.request session now] := by
  have hsame : ∀ t : State, t.sessions = s.sessions →
      Grew s.sessions t.sessions ∧ t.sessions.length = s.sessions.length := by
    intro t ht
    rw [ht]
    exact ⟨Grew.refl _, rfl⟩
  cases event with
  | arrive => exact Or.inl (hsame _ rfl)
  | found =>
      refine Or.inl (hsame _ ?_)
      simp only [step, StartWorkflow.found]
      split
      · split <;> rfl
      · rfl
  | threaded id refused now =>
      simp only [step, StartWorkflow.threaded]
      cases hstart : s.starts[id]? with
      | none => exact Or.inl (hsame _ rfl)
      | some under =>
          dsimp only
          split
          · rename_i session hstage
            exact Or.inr ⟨id, now, under, session, rfl, hstart, hstage, rfl⟩
          · exact Or.inl (hsame _ rfl)
          · exact Or.inl (hsame _ rfl)
  | finish =>
      refine Or.inl (hsame _ ?_)
      simp only [step, StartWorkflow.finish]
      split
      · split <;> rfl
      · rfl
  | close session now =>
      refine Or.inl ⟨(grew_close s session now).1, ?_⟩
      simp only [step, close]
      split
      · exact List.length_set
      · rfl
  | setStatus session status =>
      refine Or.inl ⟨(grew_setStatus s session status).1, ?_⟩
      simp only [step, setStatus]
      split
      · exact List.length_set
      · rfl

theorem length_of_writes {event : Event} {start : Start} (hwrites : WritesNext key s event start) :
    (step paths s event).sessions.length = s.sessions.length + 1 := by
  obtain ⟨⟨id, now, rfl, hstart⟩, ⟨session, hstage⟩, _⟩ := hwrites
  simp only [step, StartWorkflow.threaded, hstart, hstage, State.setStage, List.length_append,
    List.length_singleton]

theorem oneOpen_step_iff (hone : OneOpen key s) (event : Event) :
    OneOpen key (step paths s event) ↔ ∀ start, WritesNext key s event start →
      ∀ (id : Id) (row : ProjectSession), s.sessions[id]? = some row → ¬ IsOpenFor key row := by
  rcases sessions_step paths s event with
    ⟨hgrew, hlength⟩ | ⟨id, now, start, session, hevent, hstart, hstage, hsessions⟩
  · constructor
    · intro _ start hwrites
      have hgrown : (step paths s event).sessions.length = s.sessions.length + 1 :=
        length_of_writes hwrites
      omega
    · intro _
      exact hone.grew hgrew hlength
  · rw [oneOpen_concat_iff hone hsessions rfl]
    constructor
    · rintro hfree other ⟨⟨place, then', hthen, hother⟩, _, hkey⟩
      cases hevent.symm.trans hthen
      obtain rfl : start = other := Option.some.inj (hstart.symm.trans hother)
      exact hfree hkey
    · intro hfree hkey
      exact hfree start ⟨⟨id, now, hevent, hstart⟩, ⟨session, hstage⟩, hkey⟩

theorem Sound.step (hsound : Sound key s) (hone : OneOpen key s) {event : Event}
    (hafter : OneOpen key (step paths s event)) : Sound key (step paths s event) := by
  cases event with
  | arrive request registry => exact hsound.arrive hone request registry
  | found id answer => exact hsound.found id answer
  | threaded => exact hsound.threaded hafter
  | finish id refused => exact hsound.finish id refused
  | close session now =>
      obtain ⟨hgrew, hstarts⟩ := grew_close s session now
      exact hsound.grew hgrew hstarts
  | setStatus session status =>
      obtain ⟨hgrew, hstarts⟩ := grew_setStatus s session status
      exact hsound.grew hgrew hstarts

theorem careful_writing_iff (hsound : Sound key s) (event : Event) :
    (∀ (start : Start) (id : Id) (row : ProjectSession), WritesNext key s event start →
        s.sessions[id]? = some row → IsOpenFor key row → Knowable start id row) ↔
      ∀ start, WritesNext key s event start →
        ∀ (id : Id) (row : ProjectSession), s.sessions[id]? = some row → ¬ IsOpenFor key row := by
  constructor
  · intro hcareful start hwrites id row hrow hopen
    have hknowable := hcareful start id row hwrites hrow hopen
    obtain ⟨⟨_, _, _, hstart⟩, hthreading, hkey⟩ := hwrites
    exact (hsound _ start hstart hkey).unseen (Or.inr hthreading) id row hrow hknowable.earlier
      hopen.stillOpen hknowable.named
  · intro hfree start id row hwrites hrow hopen
    exact absurd hopen (hfree start hwrites id row hrow)

theorem careful_returning_iff (hsound : Sound key s) (event : Event) :
    (∀ (start : Start) (session id : Id) (row : ProjectSession),
        ReturnsNext key s event start session → s.sessions[id]? = some row → IsOpenFor key row →
        id ≠ session → Knowable start id row ∧
          ∃ own, s.sessions[session]? = some own ∧ own.openedFor = key) ↔
      ReturnsOpen key s event := by
  constructor
  · intro hcareful start session id row hreturns hrow hopen
    by_contra hne
    obtain ⟨hknowable, own, hown, howned⟩ :=
      hcareful start session id row hreturns hrow hopen hne
    obtain ⟨⟨_, _, hstart⟩, hreturning, hkey⟩ := hreturns
    have halone := (hsound _ start hstart hkey).alone session own hreturning hown
    rw [hkey] at halone
    exact halone howned id row hrow hknowable.earlier hne hopen
  · intro hreturnsOpen start session id row hreturns hrow hopen hne
    exact absurd (hreturnsOpen start session id row hreturns hrow hopen) hne

theorem careful_iff (hsound : Sound key s) (hone : OneOpen key s) (event : Event) :
    OneOpen key (step paths s event) ∧ ReturnsOpen key s event ↔ Careful key s event := by
  rw [oneOpen_step_iff hone, ← careful_writing_iff hsound, ← careful_returning_iff hsound]
  constructor
  · rintro ⟨hwriting, hreturning⟩
    exact ⟨hwriting, hreturning⟩
  · intro hcareful
    exact ⟨hcareful.writing, hcareful.returning⟩

/-- At most one session is open for the start, and its requests fit the sessions. -/
structure Kept (key : StartKey) (s : State) : Prop where
  sound : Sound key s
  one : OneOpen key s

theorem kept_empty (key : StartKey) : Kept key .empty where
  sound := fun _ _ hstart => by cases hstart
  one := fun _ _ _ _ hrow => by cases hrow

/-- Requests for one start have one open session at most, and return it, exactly when no step of
theirs passes over a session that the request could not have found when it looked. -/
theorem start_idempotent_iff (paths : Paths) (key : StartKey) (events : List Event) :
    Throughout (step paths) (OneOpen key) .empty events ∧
        Along (step paths) (ReturnsOpen key) .empty events ↔
      Along (step paths) (Careful key) .empty events := by
  have hboth : Throughout (step paths) (OneOpen key) .empty events ↔
      Throughout (step paths) (Kept key) .empty events := by
    constructor
    · intro hall
      apply throughout_of_preserved (kept_empty key)
      intro done event hevent hhere
      have hafter := hall (done ++ [event]) hevent
      rw [run_concat] at hafter
      exact ⟨hhere.sound.step hhere.one hafter, hafter⟩
    · intro hall done hdone
      exact (hall done hdone).one
  rw [hboth]
  apply throughout_and_along_iff (kept_empty key)
  intro s event hkept
  rw [← careful_iff hkept.sound hkept.one]
  constructor
  · rintro ⟨hafter, hreturns⟩
    exact ⟨hafter.one, hreturns⟩
  · rintro ⟨hafter, hreturns⟩
    exact ⟨⟨hkept.sound.step hkept.one hafter, hafter⟩, hreturns⟩

end Resolving

def plainPaths : Paths := ⟨id, id, id, id⟩

def laptop : Manifest :=
  { profileName := "sample"
    guildId := "g"
    parentChannelId := "c"
    allowedUserIds := ["op"]
    resolvedDefaultTargetName := "sample"
    defaultWorkdir := "/work/sample"
    finderRoots := ["/work"] }

def startCure : StartRequest := ⟨"cure", some "cure", some "sample", "op", "g", "c", none⟩

def curePath : ProjectFind := ⟨"selected", some "/work/ops-cure", some "ops-cure", none⟩

/-- A start whose target the finder resolves to a directory of another name. -/
def startedAt (start : Id) (now : Time) : List Event :=
  [.arrive startCure [("sample", laptop)], .found start (some curePath), .threaded start none now,
    .finish start none]

/-- The same start, once more after the first has returned, opens a second session. -/
theorem second_start_opens_another :
    ¬ (Throughout (step plainPaths) (OneOpen startCure.key) .empty
          (startedAt 0 10 ++ startedAt 1 20) ∧
        Along (step plainPaths) (ReturnsOpen startCure.key) .empty
          (startedAt 0 10 ++ startedAt 1 20)) := by
  rintro ⟨hone, _⟩
  have hend := hone _ List.prefix_rfl
  have hopened : ∀ id < 2, ((run (step plainPaths) .empty
      (startedAt 0 10 ++ startedAt 1 20)).sessions[id]?).any
        (fun row => row.openedFor = startCure.key ∧ row.closedAt = none) := by
    decide
  obtain ⟨row, hrow, hfirst⟩ := (Option.any_eq_true ..).mp (hopened 0 (by decide))
  obtain ⟨rival, hrival, hsecond⟩ := (Option.any_eq_true ..).mp (hopened 1 (by decide))
  have hrows := of_decide_eq_true hfirst
  have hrivals := of_decide_eq_true hsecond
  exact absurd (hend 0 1 row rival hrow hrival ⟨hrows.1, hrows.2⟩ ⟨hrivals.1, hrivals.2⟩)
    (by decide)

end OpsCure.StartWorkflow
