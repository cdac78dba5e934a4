/-
The capability service (`kernel/v2/capabilities.py`) over the actor rows of the repository.  Are
grants and revokes set operations?  They are on the explicit capabilities of a row; what an actor can
do falls back to the defaults of its kind where there are none.
-/
import OpsCure.Library.Run
import OpsCure.Library.SetEdits
import OpsCure.Conversation

namespace OpsCure.Capabilities

open SetEdits Contract Run

/-! ## Rows -/

/-- A row of `actors_v2`; the handle it is looked up by is unique. -/
structure ActorRow where
  displayName : String
  kind : String
  capabilities : List String
  status : String
  lastSeenAt : Option Time
deriving DecidableEq, Repr

abbrev ActorTable := String → Option ActorRow

def ActorTable.empty : ActorTable := fun _ => none

/-- `insert_actor`; a handle that is taken violates the unique index. -/
def ActorTable.insertActor (table : ActorTable) (handle displayName kind : String)
    (capabilities : List String) (status : String) : ActorTable :=
  match table handle with
  | some _ => table
  | none => Function.update table handle (some
      { displayName := displayName
        kind := kind
        capabilities := capabilities
        status := status
        lastSeenAt := none })

/-- `update_actor_presence`. -/
def ActorTable.updateActorPresence (table : ActorTable) (handle status : String)
    (lastSeenAt : Time) : ActorTable :=
  Function.update table handle ((table handle).map fun row =>
    { row with status := status, lastSeenAt := some lastSeenAt })

/-- `ensure_actor_by_handle`. -/
def ActorTable.ensureActorByHandle (table : ActorTable) (handle : String)
    (displayName : Option String) (kind : String) (capabilities : List String) (now : Time) :
    ActorTable :=
  match table handle with
  | some _ => table.updateActorPresence handle "online" now
  | none =>
      let shown := match displayName with
        | some name => if name = "" then handle else name
        | none => handle
      table.insertActor handle shown kind capabilities "online"

/-- What the service stores in `capabilities_json`. -/
def ActorTable.setCapabilities (table : ActorTable) (handle : String)
    (capabilities : List String) : ActorTable :=
  Function.update table handle ((table handle).map fun row =>
    { row with capabilities := capabilities })

/-- `actor_capabilities`, of the row with that handle. -/
def ActorTable.actorCapabilities (table : ActorTable) (handle : String) : List String :=
  ((table handle).map (·.capabilities)).getD []

/-! ## The service -/

/-- `grant`, with the new full list. -/
def ActorTable.grant (table : ActorTable) (actorHandle : String) (capabilities : List String)
    (now : Time) : List String × ActorTable :=
  let handle := withAt actorHandle
  let table := table.ensureActorByHandle handle none "ai" [] now
  let existing := table.actorCapabilities handle
  let added := capabilities.filter fun capability => capability ∉ existing
  if added = [] then (existing, table)
  else (existing ++ added, table.setCapabilities handle (existing ++ added))

/-- `revoke`, with what is kept. -/
def ActorTable.revoke (table : ActorTable) (actorHandle : String) (capabilities : List String) :
    List String × ActorTable :=
  let handle := withAt actorHandle
  match table handle with
  | none => ([], table)
  | some actor =>
      let kept := actor.capabilities.filter fun capability => capability ∉ capabilities
      if kept.length = actor.capabilities.length then (actor.capabilities, table)
      else (kept, table.setCapabilities handle kept)

/-- `_effective_capabilities`: the explicit ones, or the defaults of the kind. -/
def effectiveCapabilities (actor : ActorRow) : List String :=
  if actor.capabilities ≠ [] then actor.capabilities
  else if actor.kind = "human" then defaultCapabilitiesHuman.map Capability.text
  else defaultCapabilitiesAi.map Capability.text

/-- `actor_can`. -/
def ActorTable.actorCan (table : ActorTable) (actorHandle capability : String) : Bool :=
  (table (withAt actorHandle)).any fun actor => capability ∈ effectiveCapabilities actor

/-- What is asked of the service and of the repository it works on.  An authorizer provisions the
actor and then asks `actor_can`. -/
inductive ActorRequest where
  | insertActor (handle displayName kind : String) (capabilities : List String) (status : String)
  | ensureActor (handle : String) (displayName : Option String) (kind : String)
      (capabilities : List String)
  | updatePresence (handle status : String)
  | grant (actorHandle : String) (capabilities : List String)
  | revoke (actorHandle : String) (capabilities : List String)

/-- A request with the reading of its clock. -/
def ActorTable.step (table : ActorTable) (timed : ActorRequest × Time) : ActorTable :=
  match timed.1 with
  | .insertActor handle displayName kind capabilities status =>
      table.insertActor handle displayName kind capabilities status
  | .ensureActor handle displayName kind capabilities =>
      table.ensureActorByHandle handle displayName kind capabilities timed.2
  | .updatePresence handle status => table.updateActorPresence handle status timed.2
  | .grant actorHandle capabilities => (table.grant actorHandle capabilities timed.2).2
  | .revoke actorHandle capabilities => (table.revoke actorHandle capabilities).2

/-! ## What an actor has and what it can do -/

def Explicit (table : ActorTable) (actorHandle : String) : Set String :=
  {capability | capability ∈ table.actorCapabilities (withAt actorHandle)}

def Effective (table : ActorTable) (actorHandle : String) : Set String :=
  {capability | table.actorCan actorHandle capability = true}

def ActorRequest.edits (handle : String) : ActorRequest → List (Edit String)
  | .grant actorHandle capabilities =>
      if withAt actorHandle = handle then [.add capabilities] else []
  | .revoke actorHandle capabilities =>
      if withAt actorHandle = handle then [.remove capabilities] else []
  | _ => []

def editsOf (handle : String) (requests : List (ActorRequest × Time)) : List (Edit String) :=
  requests.flatMap fun timed => timed.1.edits handle

variable {actorHandle : String}

@[simp]
theorem mem_explicit_iff {table : ActorTable} {capability : String} :
    capability ∈ Explicit table actorHandle ↔
      capability ∈ table.actorCapabilities (withAt actorHandle) := Iff.rfl

theorem explicit_of_row {table : ActorTable} {row : ActorRow}
    (hrow : table (withAt actorHandle) = some row) :
    Explicit table actorHandle = {capability | capability ∈ row.capabilities} := by
  simp [Explicit, ActorTable.actorCapabilities, hrow]

theorem effective_of_explicit {table : ActorTable}
    (hgiven : (Explicit table actorHandle).Nonempty) :
    Effective table actorHandle = Explicit table actorHandle := by
  cases hrow : table (withAt actorHandle) with
  | none => simp [Explicit, ActorTable.actorCapabilities, hrow] at hgiven
  | some row =>
      rw [explicit_of_row hrow] at hgiven ⊢
      obtain ⟨capability, hcapability⟩ := hgiven
      have hsome : row.capabilities ≠ [] := List.ne_nil_of_mem hcapability
      simp [Effective, ActorTable.actorCan, hrow, effectiveCapabilities, hsome]

/-! ## One request -/

section Steps

variable (table : ActorTable)

variable {handle other : String}

theorem actorCapabilities_setCapabilities (hknown : (table handle).isSome)
    (capabilities : List String) (other : String) :
    (table.setCapabilities handle capabilities).actorCapabilities other =
      if other = handle then capabilities else table.actorCapabilities other := by
  obtain ⟨row, hrow⟩ := Option.isSome_iff_exists.mp hknown
  by_cases hsame : other = handle
  · simp [ActorTable.setCapabilities, ActorTable.actorCapabilities, hrow, hsame]
  · simp [ActorTable.setCapabilities, ActorTable.actorCapabilities, hsame]

theorem actorCapabilities_updateActorPresence (handle status : String) (now : Time)
    (other : String) :
    (table.updateActorPresence handle status now).actorCapabilities other =
      table.actorCapabilities other := by
  by_cases hsame : other = handle
  · subst hsame
    cases hrow : table other with
    | none => simp [ActorTable.updateActorPresence, ActorTable.actorCapabilities, hrow]
    | some => simp [ActorTable.updateActorPresence, ActorTable.actorCapabilities, hrow]
  · simp [ActorTable.updateActorPresence, ActorTable.actorCapabilities, hsame]

theorem insertActor_of_known (hknown : (table other).isSome) (displayName kind : String)
    (capabilities : List String) (status : String) :
    table.insertActor handle displayName kind capabilities status other = table other := by
  unfold ActorTable.insertActor
  cases hrow : table handle with
  | some => rfl
  | none =>
      have hother : other ≠ handle := by
        intro hsame
        rw [hsame, hrow] at hknown
        cases hknown
      exact Function.update_of_ne hother _ _

theorem actorCapabilities_ensureActorByHandle {capabilities : List String}
    (hunchanged : (table other).isSome ∨ capabilities = []) (displayName : Option String)
    (kind : String) (now : Time) :
    (table.ensureActorByHandle handle displayName kind capabilities now).actorCapabilities other =
      table.actorCapabilities other := by
  unfold ActorTable.ensureActorByHandle
  cases hrow : table handle with
  | some => exact actorCapabilities_updateActorPresence table _ _ _ _
  | none =>
      rcases hunchanged with hknown | hnothing
      · unfold ActorTable.actorCapabilities
        exact congrArg (fun row => (row.map ActorRow.capabilities).getD [])
          (insertActor_of_known table hknown _ _ _ _)
      · by_cases hsame : other = handle
        · simp [ActorTable.insertActor, ActorTable.actorCapabilities, hrow, hsame, hnothing]
        · simp [ActorTable.insertActor, ActorTable.actorCapabilities, hrow, hsame]

theorem isSome_ensureActorByHandle (handle : String) (displayName : Option String)
    (kind : String) (capabilities : List String) (now : Time) :
    (table.ensureActorByHandle handle displayName kind capabilities now handle).isSome := by
  cases hrow : table handle with
  | some => simp [ActorTable.ensureActorByHandle, ActorTable.updateActorPresence, hrow]
  | none => simp [ActorTable.ensureActorByHandle, ActorTable.insertActor, hrow]

theorem mem_actorCapabilities_grant (actorHandle : String) (capabilities : List String)
    (now : Time) (other capability : String) :
    capability ∈ (table.grant actorHandle capabilities now).2.actorCapabilities other ↔
      capability ∈ table.actorCapabilities other ∨
        (other = withAt actorHandle ∧ capability ∈ capabilities) := by
  let ensured := table.ensureActorByHandle (withAt actorHandle) none "ai" [] now
  have hensured : ∀ handle, ensured.actorCapabilities handle = table.actorCapabilities handle :=
    fun handle => actorCapabilities_ensureActorByHandle table (Or.inr rfl) _ _ _
  have hknown : (ensured (withAt actorHandle)).isSome :=
    isSome_ensureActorByHandle table _ _ _ _ _
  have hgrant : (table.grant actorHandle capabilities now).2 =
      if capabilities.filter (fun c => c ∉ ensured.actorCapabilities (withAt actorHandle)) = [] then
        ensured
      else ensured.setCapabilities (withAt actorHandle)
        (ensured.actorCapabilities (withAt actorHandle) ++
          capabilities.filter fun c => c ∉ ensured.actorCapabilities (withAt actorHandle)) := by
    unfold ActorTable.grant
    exact apply_ite Prod.snd _ _ _
  rw [hgrant]
  split
  · rename_i hnone
    rw [hensured]
    have hincluded := List.filter_eq_nil_iff.mp hnone
    constructor
    · exact Or.inl
    · rintro (hhad | ⟨rfl, hnamed⟩)
      · exact hhad
      · have hin := hincluded capability hnamed
        rw [hensured] at hin
        simpa using hin
  · rw [actorCapabilities_setCapabilities _ hknown]
    by_cases hsame : other = withAt actorHandle
    · subst hsame
      simp only [hensured, if_true, List.mem_append, List.mem_filter, decide_eq_true_eq, true_and]
      by_cases hhad : capability ∈ table.actorCapabilities (withAt actorHandle)
      · simp [hhad]
      · simp [hhad]
    · simp [hsame, hensured]

theorem mem_actorCapabilities_revoke (actorHandle : String) (capabilities : List String)
    (other capability : String) :
    capability ∈ (table.revoke actorHandle capabilities).2.actorCapabilities other ↔
      capability ∈ table.actorCapabilities other ∧
        ¬ (other = withAt actorHandle ∧ capability ∈ capabilities) := by
  cases hrow : table (withAt actorHandle) with
  | none =>
      have hrevoke : (table.revoke actorHandle capabilities).2 = table := by
        simp [ActorTable.revoke, hrow]
      rw [hrevoke]
      constructor
      · intro hin
        refine ⟨hin, ?_⟩
        rintro ⟨rfl, _⟩
        simp [ActorTable.actorCapabilities, hrow] at hin
      · exact And.left
  | some actor =>
      have hlist : table.actorCapabilities (withAt actorHandle) = actor.capabilities := by
        simp [ActorTable.actorCapabilities, hrow]
      have hrevoke : (table.revoke actorHandle capabilities).2 =
          if (actor.capabilities.filter fun c => c ∉ capabilities).length =
              actor.capabilities.length then table
          else table.setCapabilities (withAt actorHandle)
            (actor.capabilities.filter fun c => c ∉ capabilities) := by
        simp only [ActorTable.revoke, hrow]
        exact apply_ite Prod.snd _ _ _
      rw [hrevoke]
      split
      · rename_i hall
        have hkept := List.length_filter_eq_length_iff.mp hall
        constructor
        · intro hin
          refine ⟨hin, ?_⟩
          rintro ⟨rfl, hnamed⟩
          rw [hlist] at hin
          have hnot := hkept capability hin
          simp [hnamed] at hnot
        · exact And.left
      · rw [actorCapabilities_setCapabilities _ (by simp [hrow])]
        by_cases hsame : other = withAt actorHandle
        · subst hsame
          simp [hlist]
        · simp [hsame]

theorem isSome_setCapabilities (capabilities : List String) (hknown : (table other).isSome) :
    (table.setCapabilities handle capabilities other).isSome := by
  unfold ActorTable.setCapabilities
  by_cases hsame : other = handle
  · subst hsame
    simpa using hknown
  · simpa [hsame] using hknown

theorem isSome_step (timed : ActorRequest × Time) (hknown : (table handle).isSome) :
    (table.step timed handle).isSome := by
  have hpresence : ∀ other status now,
      (table.updateActorPresence other status now handle).isSome := by
    intro other status now
    unfold ActorTable.updateActorPresence
    by_cases hsame : handle = other
    · subst hsame
      simpa using hknown
    · simpa [hsame] using hknown
  have hensure : ∀ other displayName kind capabilities now,
      (table.ensureActorByHandle other displayName kind capabilities now handle).isSome := by
    intro other displayName kind capabilities now
    unfold ActorTable.ensureActorByHandle
    cases hrow : table other with
    | some => exact hpresence _ _ _
    | none =>
        dsimp only
        rw [insertActor_of_known table hknown]
        exact hknown
  obtain ⟨request, now⟩ := timed
  cases request with
  | insertActor =>
      simp only [ActorTable.step]
      rw [insertActor_of_known table hknown]
      exact hknown
  | ensureActor => exact hensure _ _ _ _ _
  | updatePresence => exact hpresence _ _ _
  | grant actorHandle =>
      simp only [ActorTable.step, ActorTable.grant]
      split
      · exact hensure (withAt actorHandle) none "ai" [] now
      · exact isSome_setCapabilities _ _ (hensure _ _ _ _ _)
  | revoke =>
      simp only [ActorTable.step, ActorTable.revoke]
      split
      · exact hknown
      · split
        · exact hknown
        · exact isSome_setCapabilities _ _ hknown

theorem explicit_step (timed : ActorRequest × Time) {actorHandle : String}
    (hknown : (table (withAt actorHandle)).isSome) :
    Explicit (table.step timed) actorHandle =
      applyAll (Explicit table actorHandle) (timed.1.edits (withAt actorHandle)) := by
  have hkept : ∀ after : ActorTable,
      after.actorCapabilities (withAt actorHandle) =
        table.actorCapabilities (withAt actorHandle) →
      Explicit after actorHandle = Explicit table actorHandle := by
    intro after hsame
    unfold Explicit
    rw [hsame]
  obtain ⟨request, now⟩ := timed
  cases request with
  | insertActor other displayName kind capabilities =>
      apply hkept
      unfold ActorTable.actorCapabilities
      exact congrArg (fun row => (row.map ActorRow.capabilities).getD [])
        (insertActor_of_known table hknown _ _ _ _)
  | ensureActor =>
      apply hkept
      exact actorCapabilities_ensureActorByHandle table (Or.inl hknown) _ _ _
  | updatePresence =>
      apply hkept
      exact actorCapabilities_updateActorPresence table _ _ _ _
  | grant named capabilities =>
      ext capability
      have hgrant := mem_actorCapabilities_grant table named capabilities now
        (withAt actorHandle) capability
      by_cases hsame : withAt named = withAt actorHandle
      · simpa [ActorTable.step, ActorRequest.edits, hsame, Edit.apply] using hgrant
      · have hother : withAt actorHandle ≠ withAt named := fun heq => hsame heq.symm
        simpa [ActorTable.step, ActorRequest.edits, hsame, hother] using hgrant
  | revoke named capabilities =>
      ext capability
      have hrevoke := mem_actorCapabilities_revoke table named capabilities
        (withAt actorHandle) capability
      by_cases hsame : withAt named = withAt actorHandle
      · simpa [ActorTable.step, ActorRequest.edits, hsame, Edit.apply] using hrevoke
      · have hother : withAt actorHandle ≠ withAt named := fun heq => hsame heq.symm
        simpa [ActorTable.step, ActorRequest.edits, hsame, hother] using hrevoke

end Steps

/-! ## Runs -/

theorem explicit_run (table : ActorTable) (requests : List (ActorRequest × Time))
    (hknown : (table (withAt actorHandle)).isSome) :
    Explicit (run ActorTable.step table requests) actorHandle =
      applyAll (Explicit table actorHandle) (editsOf (withAt actorHandle) requests) := by
  induction requests generalizing table with
  | nil => rfl
  | cons timed requests ih =>
      rw [run_cons, ih _ (isSome_step table timed hknown), explicit_step table timed hknown]
      simp [editsOf, applyAll, List.foldl_append]

theorem known_of_explicit {table : ActorTable} (hgiven : (Explicit table actorHandle).Nonempty) :
    (table (withAt actorHandle)).isSome := by
  cases hrow : table (withAt actorHandle) with
  | none => simp [Explicit, ActorTable.actorCapabilities, hrow] at hgiven
  | some => rfl

/-- In every reachable state, grants and revokes are set operations on what an actor can do, as long
as it was given something and something is left; the first grant of something to an actor that was
given nothing replaces the defaults of its kind. -/
theorem capabilities_as_sets (history : List (ActorRequest × Time)) (actorHandle : String) :
    let table := run ActorTable.step .empty history
    (∀ capabilities now,
      ((Explicit table actorHandle).Nonempty →
        Effective (table.grant actorHandle capabilities now).2 actorHandle =
          {c | c ∈ Effective table actorHandle ∨ c ∈ capabilities}) ∧
      (Explicit table actorHandle = ∅ → capabilities ≠ [] →
        Effective (table.grant actorHandle capabilities now).2 actorHandle =
          {c | c ∈ capabilities})) ∧
    (∀ capabilities, (∃ c ∈ Explicit table actorHandle, c ∉ capabilities) →
      Effective (table.revoke actorHandle capabilities).2 actorHandle =
        {c | c ∈ Effective table actorHandle ∧ c ∉ capabilities}) ∧
    ∀ requests : List (ActorRequest × Time), (Explicit table actorHandle).Nonempty →
      let after := run ActorTable.step table requests
      let edits := editsOf (withAt actorHandle) requests
      (applyAll (Effective table actorHandle) edits).Nonempty →
        Effective after actorHandle = applyAll (Effective table actorHandle) edits ∧
          ∀ c, c ∈ Effective after actorHandle ↔
            lastNaming c edits = some true ∨
              (lastNaming c edits = none ∧ c ∈ Effective table actorHandle) := by
  intro table
  refine ⟨?_, ?_, ?_⟩
  · intro capabilities now
    have hgranted : Explicit (table.grant actorHandle capabilities now).2 actorHandle =
        {c | c ∈ Explicit table actorHandle ∨ c ∈ capabilities} := by
      ext c
      simpa [Explicit] using
        mem_actorCapabilities_grant table actorHandle capabilities now (withAt actorHandle) c
    constructor
    · intro hgiven
      have hleft : (Explicit (table.grant actorHandle capabilities now).2 actorHandle).Nonempty := by
        rw [hgranted]
        exact hgiven.mono fun _ => Or.inl
      rw [effective_of_explicit hleft, effective_of_explicit hgiven, hgranted]
    · intro hnothing hsome
      obtain ⟨first, hfirst⟩ := List.exists_mem_of_ne_nil capabilities hsome
      have hleft : (Explicit (table.grant actorHandle capabilities now).2 actorHandle).Nonempty := by
        rw [hgranted]
        exact ⟨first, Or.inr hfirst⟩
      rw [effective_of_explicit hleft, hgranted, hnothing]
      simp
  · intro capabilities hkept
    obtain ⟨kept, hhad, hnot⟩ := hkept
    have hrevoked : Explicit (table.revoke actorHandle capabilities).2 actorHandle =
        {c | c ∈ Explicit table actorHandle ∧ c ∉ capabilities} := by
      ext c
      simpa [Explicit] using
        mem_actorCapabilities_revoke table actorHandle capabilities (withAt actorHandle) c
    have hleft : (Explicit (table.revoke actorHandle capabilities).2 actorHandle).Nonempty := by
      rw [hrevoked]
      exact ⟨kept, hhad, hnot⟩
    rw [effective_of_explicit hleft, effective_of_explicit ⟨kept, hhad⟩, hrevoked]
  · intro requests hgiven after edits hleft
    have hrun : Explicit after actorHandle = applyAll (Explicit table actorHandle) edits :=
      explicit_run table requests (known_of_explicit hgiven)
    rw [effective_of_explicit hgiven] at hleft ⊢
    have hsome : (Explicit after actorHandle).Nonempty := by
      rw [hrun]
      exact hleft
    rw [effective_of_explicit hsome, hrun]
    refine ⟨rfl, ?_⟩
    intro c
    exact mem_applyAll_iff _ _ _

/-- An actor that was given one capability, is granted another and loses the first. -/
theorem last_grant_left :
    let table := run ActorTable.step .empty [(.grant "lead" ["task.claim"], 0)]
    Effective (run ActorTable.step table
        [(.grant "@lead" ["task.fail"], 1), (.revoke "lead" ["task.claim"], 2)]) "lead" =
      applyAll (Effective table "lead") [.add ["task.fail"], .remove ["task.claim"]] := by
  have hstart : Explicit (run ActorTable.step .empty [(.grant "lead" ["task.claim"], 0)]) "lead" =
      {c | c ∈ ["task.claim"]} := by
    have hlist : (run ActorTable.step .empty
        [(.grant "lead" ["task.claim"], 0)]).actorCapabilities (withAt "lead") = ["task.claim"] := by
      decide
    unfold Explicit
    rw [hlist]
  have hgiven : (Explicit (run ActorTable.step .empty
      [(.grant "lead" ["task.claim"], 0)]) "lead").Nonempty := by
    rw [hstart]
    exact ⟨"task.claim", List.mem_cons_self⟩
  have hedits : editsOf (withAt "lead")
      [(.grant "@lead" ["task.fail"], 1), (.revoke "lead" ["task.claim"], 2)] =
        [.add ["task.fail"], .remove ["task.claim"]] := by
    have hsame : withAt "@lead" = withAt "lead" := by decide
    simp [editsOf, ActorRequest.edits, hsame]
  have hsets := (capabilities_as_sets [(.grant "lead" ["task.claim"], 0)] "lead").2.2
    [(.grant "@lead" ["task.fail"], 1), (.revoke "lead" ["task.claim"], 2)] hgiven
  rw [hedits] at hsets
  refine (hsets ?_).1
  rw [effective_of_explicit hgiven, hstart]
  exact ⟨"task.fail", by simp [Edit.apply]⟩

/-- A new agent may claim tasks; when it is granted something, it may not. -/
theorem defaults_replaced :
    let table := run ActorTable.step .empty [(.ensureActor "@scoped" none "ai" [], 0)]
    "task.claim" ∈ Effective table "@scoped" ∧
      "task.claim" ∉ Effective (table.grant "@scoped" ["conversation.open"] 1).2 "@scoped" := by
  constructor
  · have hcan : (run ActorTable.step .empty
        [(.ensureActor "@scoped" none "ai" [], 0)]).actorCan "@scoped" "task.claim" = true := by
      decide
    exact hcan
  · have hcannot : ((run ActorTable.step .empty [(.ensureActor "@scoped" none "ai" [], 0)]).grant
        "@scoped" ["conversation.open"] 1).2.actorCan "@scoped" "task.claim" = false := by
      decide
    intro hin
    have hcan : _ = true := hin
    rw [hcannot] at hcan
    cases hcan

end OpsCure.Capabilities
