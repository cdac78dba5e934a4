/-
Does the roll-up of the task index terminate?  `_reconcile_task_index` takes the parents in order and
gives each the status of its children, round after round until nothing changes.  Up a tree that
settles; handed round a circle of tasks, a status can go on for ever.
-/
import Mathlib.Data.List.ProdSigma
import OpsCure.Library.Circulation
import OpsCure.TaskIndex

namespace OpsCure.Workspace

open Circulation SharedCell SharedCell.Program

/-! ## Rounds -/

def reconcileRound (now : Time) (index : Index) : Index × List String :=
  (parentIds index).foldl (reconcileParent now) (index, [])

def afterRounds (now : Time) (index : Index) : Nat → Index
  | 0 => index
  | rounds + 1 => (reconcileRound now (afterRounds now index rounds)).1

/-- The task's status and notes are the roll-up of its children's. -/
def RolledUpAt (index : Index) (parentId : String) : Prop :=
  ∀ parent, index.lookup parentId = some parent →
    rollUpParentStatus parent (childrenOf index parentId) = (parent.status, parent.notes)

def RolledUp (index : Index) : Prop := ∀ parentId ∈ parentIds index, RolledUpAt index parentId

/-- After some rounds a round changes nothing, and every parent is rolled up. -/
def RollsUp (now : Time) (index : Index) : Prop :=
  ∃ rounds, (reconcileRound now (afterRounds now index rounds)).2 = [] ∧
    RolledUp (afterRounds now index rounds)

/-! ## Levels and circles -/

/-- The statuses in the order in which a roll-up prefers them. -/
def CardStatus.level : CardStatus → Nat
  | done => 0
  | failed => 1
  | ready | inProgress | verify | review | handoffQueued => 2
  | blockedOnOperator => 3

def levelOf (index : Index) (taskId : String) : Nat :=
  ((index.lookup taskId).map (·.status.level)).getD 0

def parentOf (index : Index) (taskId : String) : Option String :=
  (index.lookup taskId).bind fun card => card.dependsOn.filter fun parentId =>
    parentId ≠ "" ∧ parentId ∈ index.names

section Lookup

variable {index : Index} {name other : String} {card : TaskCard}

theorem lookup_of_mem (hunique : index.names.Nodup) (hmem : (name, card) ∈ index) :
    index.lookup name = some card := by
  induction index with
  | nil => cases hmem
  | cons head rest ih =>
      obtain ⟨hfresh, hrest⟩ := List.nodup_cons.mp hunique
      rcases List.mem_cons.mp hmem with rfl | hlater
      · exact List.lookup_cons_self
      · have hne : name ≠ head.1 := by
          intro hsame
          apply hfresh
          rw [← hsame]
          exact List.mem_map.mpr ⟨(name, card), hlater, rfl⟩
        rw [List.lookup_cons, beq_eq_false_iff_ne.mpr hne]
        exact ih hrest hlater

theorem lookup_isSome_iff : (index.lookup name).isSome = true ↔ name ∈ index.names := by
  constructor
  · intro hsome
    obtain ⟨card, hcard⟩ := Option.isSome_iff_exists.mp hsome
    exact List.mem_map.mpr ⟨_, Dict.mem_of_lookup hcard, rfl⟩
  · intro hname
    obtain ⟨entry, hentry, rfl⟩ := List.mem_map.mp hname
    cases hfound : index.lookup entry.1 with
    | some => rfl
    | none =>
        have habsent := List.lookup_eq_none_iff.mp hfound entry hentry
        simp at habsent

theorem cards_eq (hunique : index.names.Nodup) :
    index.map Prod.snd = index.names.filterMap fun name => index.lookup name := by
  have hsome : ∀ entry ∈ index, index.lookup entry.1 = some entry.2 :=
    fun entry hentry => lookup_of_mem hunique hentry
  unfold Index.names
  rw [List.filterMap_map, ← List.filterMap_eq_map]
  apply List.filterMap_congr
  intro entry hentry
  exact (hsome entry hentry).symm

theorem mem_childrenOf_iff (hunique : index.names.Nodup) :
    card ∈ childrenOf index name ↔
      ∃ taskId, index.lookup taskId = some card ∧ card.dependsOn = some name := by
  unfold childrenOf
  rw [List.mem_filter, List.mem_map, decide_eq_true_eq]
  constructor
  · rintro ⟨⟨entry, hentry, rfl⟩, hdepends⟩
    exact ⟨entry.1, lookup_of_mem hunique hentry, hdepends⟩
  · rintro ⟨taskId, hfound, hdepends⟩
    exact ⟨⟨_, Dict.mem_of_lookup hfound, rfl⟩, hdepends⟩

theorem mem_parentIds_iff (hunique : index.names.Nodup) :
    name ∈ parentIds index ↔ ∃ taskId, parentOf index taskId = some name := by
  unfold parentIds
  rw [List.mem_insertionSort, List.mem_filter, decide_eq_true_eq]
  constructor
  · rintro ⟨hname, hpresent, hchildren⟩
    obtain ⟨child, hchild⟩ := List.exists_mem_of_ne_nil _ hchildren
    obtain ⟨taskId, hfound, hdepends⟩ := (mem_childrenOf_iff hunique).mp hchild
    refine ⟨taskId, ?_⟩
    rw [parentOf, hfound, Option.bind_some, hdepends, Option.filter_eq_some_iff]
    exact ⟨rfl, decide_eq_true ⟨hpresent, hname⟩⟩
  · rintro ⟨taskId, hparent⟩
    obtain ⟨child, hfound, hfilter⟩ := Option.bind_eq_some_iff.mp hparent
    obtain ⟨hdepends, hboth⟩ := Option.filter_eq_some_iff.mp hfilter
    obtain ⟨hpresent, hname⟩ := of_decide_eq_true hboth
    refine ⟨hname, hpresent, ?_⟩
    exact List.ne_nil_of_mem ((mem_childrenOf_iff hunique).mpr ⟨taskId, hfound, hdepends⟩)

end Lookup

/-- A task hands its status to the one it depends on; a round takes the parents in their order. -/
def wiring (index : Index) (hunique : index.names.Nodup) : Wiring String where
  up := parentOf index
  rank taskId := (parentIds index).idxOf taskId
  late_of_unfed taskId parentId hup hnobody := by
    have hchild : taskId ∉ parentIds index := by
      intro hin
      obtain ⟨other, hother⟩ := (mem_parentIds_iff hunique).mp hin
      exact hnobody other hother
    rw [List.idxOf_eq_length hchild]
    exact List.idxOf_le_length

/-! ## One roll-up -/

/-- What a roll-up reads of a child. -/
def TaskCard.seen (card : TaskCard) : String × Nat := (card.taskId, card.status.level)

def rollUpSeen (children : List (String × Nat)) : CardStatus × String :=
  let named := fun level =>
    ", ".intercalate ((children.filter fun child => child.2 = level).map (·.1))
  if children.any fun child => child.2 = 3 then
    (.blockedOnOperator, "Waiting on operator response for child task(s): " ++ named 3)
  else if children.any fun child => child.2 = 2 then
    (.handoffQueued, "Waiting on child task(s): " ++ named 2)
  else if children.any fun child => child.2 = 1 then (.failed, "Child task failed: " ++ named 1)
  else (.done, "Completed via child task(s): " ++ ", ".intercalate (children.map (·.1)))

theorem level_le (status : CardStatus) : status.level ≤ 3 := by
  cases status with
  | done | failed | ready | inProgress | verify | review | handoffQueued | blockedOnOperator =>
      decide

theorem filter_ne_nil_iff {children : List TaskCard} {chosen : TaskCard → Bool} {level : Nat}
    (hlevel : ∀ child, chosen child = true ↔ child.status.level = level) :
    children.filter chosen ≠ [] ↔
      ((children.map TaskCard.seen).any fun child => child.2 = level) = true := by
  rw [List.any_map, List.any_eq_true, ne_eq, List.filter_eq_nil_iff]
  constructor
  · intro hnot
    by_contra hnone
    apply hnot
    intro child hchild hchosen
    exact hnone ⟨child, hchild, decide_eq_true ((hlevel child).mp hchosen)⟩
  · rintro ⟨child, hchild, hat⟩ hnone
    exact hnone child hchild ((hlevel child).mpr (of_decide_eq_true hat))

theorem filter_taskIds {children : List TaskCard} {chosen : TaskCard → Bool} {level : Nat}
    (hlevel : ∀ child, chosen child = true ↔ child.status.level = level) :
    (children.filter chosen).map (·.taskId) =
      ((children.map TaskCard.seen).filter fun child => child.2 = level).map (·.1) := by
  have hsame : chosen = (fun child => decide (child.2 = level)) ∘ TaskCard.seen := by
    funext child
    rw [Bool.eq_iff_iff, hlevel]
    exact decide_eq_true_iff.symm
  rw [List.filter_map, List.map_map, ← hsame]
  rfl

/-- With children, a roll-up does not read the parent. -/
theorem rollUp_eq (parent : TaskCard) {children : List TaskCard} (hchildren : children ≠ []) :
    rollUpParentStatus parent children = rollUpSeen (children.map TaskCard.seen) := by
  have hblocked : ∀ child : TaskCard, decide (child.status = .blockedOnOperator) = true ↔
      child.status.level = 3 := by
    intro child
    cases child.status with
    | done | failed | ready | inProgress | verify | review | handoffQueued | blockedOnOperator =>
        decide
  have hactive : ∀ child : TaskCard, child.status.isActive = true ↔ child.status.level = 2 := by
    intro child
    cases child.status with
    | done | failed | ready | inProgress | verify | review | handoffQueued | blockedOnOperator =>
        decide
  have hfailed : ∀ child : TaskCard, decide (child.status = .failed) = true ↔
      child.status.level = 1 := by
    intro child
    cases child.status with
    | done | failed | ready | inProgress | verify | review | handoffQueued | blockedOnOperator =>
        decide
  unfold rollUpParentStatus rollUpSeen
  simp only [filter_ne_nil_iff hblocked, filter_ne_nil_iff hactive, filter_ne_nil_iff hfailed,
    filter_taskIds hblocked, filter_taskIds hactive, filter_taskIds hfailed]
  split
  · rfl
  · rename_i hnoBlocked
    split
    · rfl
    · rename_i hnoActive
      split
      · rfl
      · rename_i hnoFailed
        have hdone : children.all (fun child => decide (child.status = .done)) = true := by
          rw [List.all_eq_true]
          intro child hchild
          have hnone : ∀ level, ¬ ((children.map TaskCard.seen).any
              fun child => decide (child.2 = level)) = true → child.status.level ≠ level := by
            intro level hnot hat
            apply hnot
            rw [List.any_map, List.any_eq_true]
            exact ⟨child, hchild, decide_eq_true hat⟩
          have h3 := hnone 3 hnoBlocked
          have h2 := hnone 2 hnoActive
          have h1 := hnone 1 hnoFailed
          cases hstatus : child.status with
          | done => rfl
          | failed | ready | inProgress | verify | review | handoffQueued | blockedOnOperator =>
              rw [hstatus] at h1 h2 h3
              simp [CardStatus.level] at h1 h2 h3
        rw [if_pos ⟨hchildren, hdone⟩, List.map_map]
        rfl

/-- The level of a roll-up is the highest of its children. -/
theorem le_level_rollUpSeen_iff {children : List (String × Nat)} (hchildren : children ≠ [])
    (hlevels : ∀ child ∈ children, child.2 ≤ 3) (level : Nat) :
    level ≤ (rollUpSeen children).1.level ↔ ∃ child ∈ children, level ≤ child.2 := by
  have hat : ∀ bound, (children.any fun child => decide (child.2 = bound)) = true ↔
      ∃ child ∈ children, child.2 = bound := by
    intro bound
    simp
  have hbelow : ∀ bound, ¬ (children.any fun child => decide (child.2 = bound)) = true →
      ∀ child ∈ children, child.2 ≠ bound := by
    intro bound hnot child hchild hsame
    exact hnot ((hat bound).mpr ⟨child, hchild, hsame⟩)
  have hhighest : ∀ bound, (∃ child ∈ children, child.2 = bound) →
      (∀ child ∈ children, child.2 ≤ bound) →
        (level ≤ bound ↔ ∃ child ∈ children, level ≤ child.2) := by
    rintro bound ⟨top, htop, hsame⟩ hall
    constructor
    · intro hle
      exact ⟨top, htop, by omega⟩
    · rintro ⟨child, hchild, hle⟩
      exact hle.trans (hall child hchild)
  unfold rollUpSeen
  simp only
  split
  · rename_i h3
    exact hhighest 3 ((hat 3).mp h3) hlevels
  · rename_i h3
    have hle2 : ∀ child ∈ children, child.2 ≤ 2 := by
      intro child hchild
      have hne := hbelow 3 h3 child hchild
      have hle := hlevels child hchild
      omega
    split
    · rename_i h2
      exact hhighest 2 ((hat 2).mp h2) hle2
    · rename_i h2
      have hle1 : ∀ child ∈ children, child.2 ≤ 1 := by
        intro child hchild
        have hne := hbelow 2 h2 child hchild
        have hle := hle2 child hchild
        omega
      split
      · rename_i h1
        exact hhighest 1 ((hat 1).mp h1) hle1
      · rename_i h1
        have hle0 : ∀ child ∈ children, child.2 = 0 := by
          intro child hchild
          have hne := hbelow 1 h1 child hchild
          have hle := hle1 child hchild
          omega
        obtain ⟨first, hfirst⟩ := List.exists_mem_of_ne_nil _ hchildren
        exact hhighest 0 ⟨first, hfirst, hle0 first hfirst⟩ fun child hchild =>
          Nat.le_of_eq (hle0 child hchild)

/-! ## One round -/

/-- Two indexes with the same tasks, which depend on each other in the same way. -/
structure Alike (a b : Index) : Prop where
  names : b.names = a.names
  fields : ∀ taskId, (List.lookup taskId b).map (fun card => (card.taskId, card.dependsOn)) =
    (List.lookup taskId a).map fun card => (card.taskId, card.dependsOn)

theorem Alike.refl (index : Index) : Alike index index := ⟨rfl, fun _ => rfl⟩

theorem Alike.trans {a b c : Index} (hfirst : Alike a b) (hsecond : Alike b c) : Alike a c :=
  ⟨hsecond.names.trans hfirst.names,
    fun taskId => (hsecond.fields taskId).trans (hfirst.fields taskId)⟩

section Alike

variable {a b : Index}

theorem Alike.symm (halike : Alike a b) : Alike b a :=
  ⟨halike.names.symm, fun taskId => (halike.fields taskId).symm⟩

theorem Alike.unique (halike : Alike a b) (hunique : a.names.Nodup) : b.names.Nodup := by
  rw [halike.names]
  exact hunique

theorem Alike.same_parent (halike : Alike a b) (taskId : String) :
    parentOf b taskId = parentOf a taskId := by
  have hdepends : (b.lookup taskId).map (·.dependsOn) = (a.lookup taskId).map (·.dependsOn) := by
    have hboth := congrArg (Option.map Prod.snd) (halike.fields taskId)
    rwa [Option.map_map, Option.map_map] at hboth
  have hparent : ∀ index : Index, parentOf index taskId =
      ((index.lookup taskId).map (·.dependsOn)).bind fun dependsOn =>
        dependsOn.filter fun parentId => parentId ≠ "" ∧ parentId ∈ index.names := by
    intro index
    unfold parentOf
    rw [Option.bind_map]
    rfl
  rw [hparent, hparent, hdepends, halike.names]

theorem seen_childrenOf (hunique : a.names.Nodup) (parentId : String) :
    (childrenOf a parentId).map TaskCard.seen = a.names.filterMap fun taskId =>
      ((a.lookup taskId).filter fun card => card.dependsOn = some parentId).map TaskCard.seen := by
  unfold childrenOf
  rw [cards_eq hunique, List.filter_filterMap, List.map_filterMap]

theorem Alike.same_seen (halike : Alike a b) (hunique : a.names.Nodup) {parentId : String}
    (hlevels : ∀ taskId, parentOf a taskId = some parentId → levelOf b taskId = levelOf a taskId)
    (hparent : parentId ∈ parentIds a) :
    (childrenOf b parentId).map TaskCard.seen = (childrenOf a parentId).map TaskCard.seen := by
  rw [seen_childrenOf hunique, seen_childrenOf (halike.unique hunique), halike.names]
  obtain ⟨hname, hpresent, _⟩ : parentId ∈ a.names ∧ parentId ≠ "" ∧
      childrenOf a parentId ≠ [] := by
    unfold parentIds at hparent
    rw [List.mem_insertionSort, List.mem_filter, decide_eq_true_eq] at hparent
    exact hparent
  apply List.filterMap_congr
  intro taskId _
  have hfields := halike.fields taskId
  cases hb : b.lookup taskId with
  | none =>
      rw [hb] at hfields
      rw [Option.map_none] at hfields
      rw [Option.map_eq_none_iff.mp hfields.symm]
  | some later =>
      rw [hb, Option.map_some] at hfields
      obtain ⟨before, ha, hsame⟩ := Option.map_eq_some_iff.mp hfields.symm
      simp only [Prod.mk.injEq] at hsame
      rw [ha]
      simp only [Option.filter_some, hsame.2]
      by_cases hdepends : later.dependsOn = some parentId
      · have hup : parentOf a taskId = some parentId := by
          rw [parentOf, ha, Option.bind_some, hsame.2, hdepends,
            Option.filter_eq_some_iff]
          exact ⟨rfl, decide_eq_true ⟨hpresent, hname⟩⟩
        have hlevel := hlevels taskId hup
        unfold levelOf at hlevel
        rw [ha, hb] at hlevel
        simp only [Option.map_some, Option.getD_some] at hlevel
        simp [hdepends, TaskCard.seen, hsame.1, hlevel]
      · simp [hdepends]

theorem Alike.same_parents (halike : Alike a b) (hunique : a.names.Nodup) :
    parentIds b = parentIds a := by
  have hchildren : ∀ parentId, parentId ∈ a.names →
      (parentId ≠ "" ∧ childrenOf b parentId ≠ [] ↔ parentId ≠ "" ∧ childrenOf a parentId ≠ []) := by
    intro parentId hname
    have hmem : ∀ index : Index, index.names.Nodup → parentId ∈ index.names →
        (parentId ≠ "" ∧ childrenOf index parentId ≠ [] ↔
          ∃ taskId, parentOf index taskId = some parentId) := by
      intro index hnodup hin
      rw [← mem_parentIds_iff hnodup, parentIds, List.mem_insertionSort,
        List.mem_filter, decide_eq_true_eq]
      exact (and_iff_right hin).symm
    rw [hmem a hunique hname, hmem b (halike.unique hunique) (halike.names ▸ hname)]
    simp only [halike.same_parent]
  unfold parentIds
  rw [halike.names]
  congr 1
  apply List.filter_congr
  intro parentId hname
  rw [decide_eq_decide]
  exact hchildren parentId hname

end Alike

section Round

variable {now : Time} {index : Index} {parentId taskId : String}

theorem reconcileParent_cases (now : Time) (index : Index) (changed : List String)
    (parentId : String) :
    reconcileParent now (index, changed) parentId = (index, changed) ∧
        RolledUpAt index parentId ∨
      ∃ parent, index.lookup parentId = some parent ∧
        rollUpParentStatus parent (childrenOf index parentId) ≠ (parent.status, parent.notes) ∧
        reconcileParent now (index, changed) parentId =
          (Dict.set index parentId
            { parent with
              status := (rollUpParentStatus parent (childrenOf index parentId)).1
              notes := (rollUpParentStatus parent (childrenOf index parentId)).2
              updatedAt := now },
            changed ++ [parentId]) := by
  unfold reconcileParent RolledUpAt
  cases hfound : index.lookup parentId with
  | none =>
      left
      refine ⟨rfl, ?_⟩
      intro parent hparent
      cases hparent
  | some parent =>
      simp only
      split
      · rename_i hsame
        left
        refine ⟨rfl, ?_⟩
        intro other hother
        cases hother
        exact hsame
      · rename_i hdiffers
        exact Or.inr ⟨parent, rfl, hdiffers, rfl⟩

theorem alike_reconcileParent (now : Time) (index : Index) (changed : List String)
    (parentId : String) : Alike index (reconcileParent now (index, changed) parentId).1 := by
  rcases reconcileParent_cases now index changed parentId with
    ⟨hsame, _⟩ | ⟨parent, hfound, _, hwritten⟩
  · rw [hsame]
    exact Alike.refl index
  · rw [hwritten]
    have hname : parentId ∈ index.map Prod.fst := List.mem_map.mpr ⟨_, Dict.mem_of_lookup hfound, rfl⟩
    constructor
    · have hkeys := Dict.keys_set index parentId
        { parent with
          status := (rollUpParentStatus parent (childrenOf index parentId)).1
          notes := (rollUpParentStatus parent (childrenOf index parentId)).2
          updatedAt := now }
      rw [if_pos hname] at hkeys
      exact hkeys
    · intro taskId
      rw [Dict.lookup_set]
      by_cases hsame : taskId = parentId
      · rw [if_pos hsame, hsame, hfound]
        rfl
      · rw [if_neg hsame]

theorem lookup_reconcileParent_of_ne (changed : List String) (hother : taskId ≠ parentId) :
    List.lookup taskId (reconcileParent now (index, changed) parentId).1 =
      index.lookup taskId := by
  rcases reconcileParent_cases now index changed parentId with
    ⟨hsame, _⟩ | ⟨parent, _, _, hwritten⟩
  · rw [hsame]
  · rw [hwritten, Dict.lookup_set, if_neg hother]

variable (now) in
theorem lookup_reconcileParent_self {parent : TaskCard} (changed : List String)
    (hfound : index.lookup parentId = some parent) :
    ∃ card, List.lookup parentId (reconcileParent now (index, changed) parentId).1 = some card ∧
      (card.status, card.notes) =
        rollUpParentStatus parent (childrenOf index parentId) := by
  rcases reconcileParent_cases now index changed parentId with
    ⟨hsame, hrolled⟩ | ⟨other, hother, _, hwritten⟩
  · rw [hsame]
    exact ⟨parent, hfound, (hrolled parent hfound).symm⟩
  · rw [hfound] at hother
    cases hother
    rw [hwritten, Dict.lookup_set, if_pos rfl]
    exact ⟨_, rfl, rfl⟩

theorem alike_foldl (parents : List String) (index : Index) (changed : List String) :
    Alike index (parents.foldl (reconcileParent now) (index, changed)).1 := by
  induction parents generalizing index changed with
  | nil => exact Alike.refl index
  | cons parentId parents ih =>
      rw [List.foldl_cons]
      have hfirst := alike_reconcileParent now index changed parentId
      have hrest := ih (reconcileParent now (index, changed) parentId).1
        (reconcileParent now (index, changed) parentId).2
      exact hfirst.trans hrest

variable (now) in
theorem lookup_foldl_of_not_mem (parents : List String) (hnot : taskId ∉ parents) (index : Index)
    (changed : List String) :
    List.lookup taskId (parents.foldl (reconcileParent now) (index, changed)).1 =
      index.lookup taskId := by
  induction parents generalizing index changed with
  | nil => rfl
  | cons parentId parents ih =>
      obtain ⟨hother, hlater⟩ := List.ne_and_not_mem_of_not_mem_cons hnot
      rw [List.foldl_cons]
      have hrest := ih hlater (reconcileParent now (index, changed) parentId).1
        (reconcileParent now (index, changed) parentId).2
      rw [hrest]
      exact lookup_reconcileParent_of_ne changed hother

theorem foldl_of_rolledUp (parents : List String) (changed : List String)
    (hrolled : ∀ parentId ∈ parents, RolledUpAt index parentId) :
    parents.foldl (reconcileParent now) (index, changed) = (index, changed) := by
  induction parents with
  | nil => rfl
  | cons parentId parents ih =>
      obtain ⟨hfirst, hrest⟩ := List.forall_mem_cons.mp hrolled
      rw [List.foldl_cons]
      rcases reconcileParent_cases now index changed parentId with
        ⟨hsame, _⟩ | ⟨parent, hfound, hdiffers, _⟩
      · rw [hsame]
        exact ih hrest
      · exact absurd (hfirst parent hfound) hdiffers

variable (now) in
theorem length_changed_le (parents : List String) (index : Index) (changed : List String) :
    changed.length ≤ (parents.foldl (reconcileParent now) (index, changed)).2.length := by
  induction parents generalizing index changed with
  | nil => exact Nat.le_refl _
  | cons parentId parents ih =>
      rw [List.foldl_cons]
      have hrest := ih (reconcileParent now (index, changed) parentId).1
        (reconcileParent now (index, changed) parentId).2
      refine Nat.le_trans ?_ hrest
      rcases reconcileParent_cases now index changed parentId with
        ⟨hsame, _⟩ | ⟨_, _, _, hwritten⟩
      · rw [hsame]
      · rw [hwritten, List.length_append]
        exact Nat.le_add_right _ _

theorem rolledUp_of_quiet (parents : List String) (changed : List String)
    (hquiet : (parents.foldl (reconcileParent now) (index, changed)).2 = changed) :
    ∀ parentId ∈ parents, RolledUpAt index parentId := by
  induction parents with
  | nil => exact fun _ hin => absurd hin List.not_mem_nil
  | cons parentId parents ih =>
      rw [List.foldl_cons] at hquiet
      rw [List.forall_mem_cons]
      rcases reconcileParent_cases now index changed parentId with
        ⟨hsame, hrolled⟩ | ⟨parent, _, _, hwritten⟩
      · rw [hsame] at hquiet
        exact ⟨hrolled, ih hquiet⟩
      · have hmore := length_changed_le now parents
          (reconcileParent now (index, changed) parentId).1
          (reconcileParent now (index, changed) parentId).2
        rw [hquiet, hwritten, List.length_append, List.length_singleton] at hmore
        omega

theorem quiet_iff_rolledUp : (reconcileRound now index).2 = [] ↔ RolledUp index := by
  unfold reconcileRound
  constructor
  · exact rolledUp_of_quiet _ []
  · intro hrolled
    rw [foldl_of_rolledUp _ [] hrolled]

variable (now) in
/-- What a round makes of a parent: the roll-up of children that were taken before it as the round
leaves them, and of the others as it found them. -/
theorem lookup_round (hunique : index.names.Nodup) (hparent : parentId ∈ parentIds index) :
    ∃ parent mid card, Alike index mid ∧
      List.lookup parentId (reconcileRound now index).1 = some card ∧
      (card.status, card.notes) = rollUpParentStatus parent (childrenOf mid parentId) ∧
      ∀ taskId, mid.lookup taskId =
        if (wiring index hunique).rank taskId < (wiring index hunique).rank parentId then
          List.lookup taskId (reconcileRound now index).1
        else index.lookup taskId := by
  have hnodup : (parentIds index).Nodup := by
    unfold parentIds
    rw [(List.perm_insertionSort _ _).nodup_iff]
    exact hunique.filter _
  have hname : parentId ∈ index.names := by
    unfold parentIds at hparent
    rw [List.mem_insertionSort] at hparent
    exact (List.mem_filter.mp hparent).1
  obtain ⟨front, back, hsplit⟩ := List.append_of_mem hparent
  rw [hsplit, List.nodup_append] at hnodup
  obtain ⟨_, hback, hapart⟩ := hnodup
  have hnotFront : parentId ∉ front := fun hin => hapart _ hin _ List.mem_cons_self rfl
  have hnotBack : parentId ∉ back := (List.nodup_cons.mp hback).1
  let met := front.foldl (reconcileParent now) (index, [])
  have hround : reconcileRound now index =
      back.foldl (reconcileParent now) (reconcileParent now met parentId) := by
    unfold reconcileRound
    rw [hsplit, List.foldl_append, List.foldl_cons]
  have hmid : Alike index met.1 := alike_foldl front index []
  have hthere : (met.1.lookup parentId).isSome = true := by
    rw [lookup_isSome_iff, hmid.names]
    exact hname
  obtain ⟨parent, hfound⟩ := Option.isSome_iff_exists.mp hthere
  obtain ⟨card, hcard, hrolled⟩ := lookup_reconcileParent_self now met.2 hfound
  refine ⟨parent, met.1, card, hmid, ?_, hrolled, ?_⟩
  · rw [hround]
    have hkept := lookup_foldl_of_not_mem now back hnotBack
      (reconcileParent now met parentId).1 (reconcileParent now met parentId).2
    exact hkept.trans hcard
  · intro taskId
    have hrank : (wiring index hunique).rank taskId < (wiring index hunique).rank parentId ↔
        taskId ∈ front := by
      have hself : (parentIds index).idxOf parentId = front.length := by
        rw [hsplit, List.idxOf_append_of_notMem hnotFront, List.idxOf_cons_self, Nat.add_zero]
      show (parentIds index).idxOf taskId < (parentIds index).idxOf parentId ↔ _
      rw [hself, hsplit]
      constructor
      · intro hless
        by_contra hnot
        rw [List.idxOf_append_of_notMem hnot] at hless
        omega
      · intro hin
        rw [List.idxOf_append_of_mem hin]
        exact List.idxOf_lt_length_of_mem hin
    by_cases hin : taskId ∈ front
    · rw [if_pos (hrank.mpr hin), hround]
      have hother : taskId ≠ parentId := fun hsame => hnotFront (hsame ▸ hin)
      have hlater : taskId ∉ back :=
        fun hboth => hapart _ hin _ (List.mem_cons_of_mem _ hboth) rfl
      have hkept := lookup_foldl_of_not_mem now back hlater
        (reconcileParent now met parentId).1 (reconcileParent now met parentId).2
      have hown : List.lookup taskId (reconcileParent now met parentId).1 = met.1.lookup taskId :=
        lookup_reconcileParent_of_ne met.2 hother
      exact (hkept.trans hown).symm
    · rw [if_neg (fun hless => hin (hrank.mp hless))]
      exact lookup_foldl_of_not_mem now front hin index []

/-! ## Many rounds -/

theorem alike_afterRounds (now : Time) (index : Index) (rounds : Nat) :
    Alike index (afterRounds now index rounds) := by
  induction rounds with
  | zero => exact Alike.refl index
  | succ rounds ih => exact ih.trans (alike_foldl _ _ [])

theorem levelOf_eq_of_lookup {a b : Index} (hsame : a.lookup taskId = b.lookup taskId) :
    levelOf a taskId = levelOf b taskId := by
  unfold levelOf
  rw [hsame]

theorem levelOf_le (index : Index) (taskId : String) : levelOf index taskId ≤ 3 := by
  unfold levelOf
  cases index.lookup taskId with
  | none => exact Nat.zero_le 3
  | some card => exact level_le card.status

theorem exists_child_iff (hunique : index.names.Nodup) (hparent : parentId ∈ parentIds index)
    (level : Nat) :
    (∃ child ∈ (childrenOf index parentId).map TaskCard.seen, level ≤ child.2) ↔
      ∃ taskId, parentOf index taskId = some parentId ∧ level ≤ levelOf index taskId := by
  have hboth : parentId ≠ "" ∧ parentId ∈ index.names := by
    unfold parentIds at hparent
    rw [List.mem_insertionSort, List.mem_filter, decide_eq_true_eq] at hparent
    exact ⟨hparent.2.1, hparent.1⟩
  constructor
  · rintro ⟨child, hchild, hle⟩
    obtain ⟨card, hcard, rfl⟩ := List.mem_map.mp hchild
    obtain ⟨taskId, hfound, hdepends⟩ := (mem_childrenOf_iff hunique).mp hcard
    refine ⟨taskId, ?_, ?_⟩
    · rw [parentOf, hfound, Option.bind_some, hdepends, Option.filter_eq_some_iff]
      exact ⟨rfl, decide_eq_true hboth⟩
    · unfold levelOf
      rw [hfound]
      exact hle
  · rintro ⟨taskId, hup, hle⟩
    obtain ⟨card, hfound, hfilter⟩ := Option.bind_eq_some_iff.mp hup
    have hdepends := (Option.filter_eq_some_iff.mp hfilter).1
    unfold levelOf at hle
    rw [hfound] at hle
    exact ⟨card.seen, List.mem_map.mpr ⟨card, (mem_childrenOf_iff hunique).mpr
      ⟨taskId, hfound, hdepends⟩, rfl⟩, hle⟩

theorem childrenOf_ne_nil (hparent : parentId ∈ parentIds index) :
    childrenOf index parentId ≠ [] := by
  unfold parentIds at hparent
  rw [List.mem_insertionSort, List.mem_filter, decide_eq_true_eq] at hparent
  exact hparent.2.2

/-- Level by level, the rounds carry marks along the wiring of the index. -/
theorem carries_levels (now : Time) (hunique : index.names.Nodup) (level : Nat) :
    (wiring index hunique).Carries fun rounds taskId =>
      level ≤ levelOf (afterRounds now index rounds) taskId := by
  constructor
  · intro taskId hunfed rounds
    induction rounds with
    | zero => exact Iff.rfl
    | succ rounds ih =>
        rw [← ih]
        have halike := alike_afterRounds now index rounds
        have hchild : taskId ∉ parentIds (afterRounds now index rounds) := by
          rw [halike.same_parents hunique]
          intro hin
          exact hunfed ((mem_parentIds_iff hunique).mp hin)
        have hkept : List.lookup taskId (afterRounds now index (rounds + 1)) =
            (afterRounds now index rounds).lookup taskId :=
          lookup_foldl_of_not_mem _ _ hchild _ []
        rw [levelOf_eq_of_lookup hkept]
  · intro parentId hfed rounds
    have halike := alike_afterRounds now index rounds
    have hnodup := halike.unique hunique
    have hsame := halike.same_parents hunique
    have hparent : parentId ∈ parentIds (afterRounds now index rounds) := by
      rw [hsame]
      exact (mem_parentIds_iff hunique).mpr hfed
    obtain ⟨parent, mid, card, hmid, hcard, hrolled, hfinds⟩ := lookup_round now hnodup hparent
    have hmidUnique := hmid.unique hnodup
    have hmidParent : parentId ∈ parentIds mid := by
      rw [hmid.same_parents hnodup]
      exact hparent
    have hlevel : levelOf (afterRounds now index (rounds + 1)) parentId =
        (rollUpSeen ((childrenOf mid parentId).map TaskCard.seen)).1.level := by
      have hstatus := congrArg Prod.fst hrolled
      rw [rollUp_eq parent (childrenOf_ne_nil hmidParent)] at hstatus
      have hfound : List.lookup parentId (afterRounds now index (rounds + 1)) = some card := hcard
      unfold levelOf
      rw [hfound, Option.map_some, Option.getD_some, ← hstatus]
    have hchildren : (childrenOf mid parentId).map TaskCard.seen ≠ [] := by
      intro hnone
      exact childrenOf_ne_nil hmidParent (List.map_eq_nil_iff.mp hnone)
    have hlevels : ∀ child ∈ (childrenOf mid parentId).map TaskCard.seen, child.2 ≤ 3 := by
      intro child hchild
      obtain ⟨card, _, rfl⟩ := List.mem_map.mp hchild
      exact level_le card.status
    rw [hlevel, le_level_rollUpSeen_iff hchildren hlevels, exists_child_iff hmidUnique hmidParent]
    have hat : ∀ taskId, levelOf mid taskId =
        levelOf (afterRounds now index
          (rounds + 1 - (wiring index hunique).lag taskId parentId)) taskId := by
      intro taskId
      apply levelOf_eq_of_lookup
      have hranks : ∀ other, (wiring (afterRounds now index rounds) hnodup).rank other =
          (wiring index hunique).rank other := by
        intro other
        show (parentIds _).idxOf other = (parentIds index).idxOf other
        rw [hsame]
      rw [hfinds, hranks, hranks]
      unfold Wiring.lag
      split
      · rfl
      · rfl
    have hups : ∀ taskId, parentOf mid taskId = (wiring index hunique).up taskId := by
      intro taskId
      rw [hmid.same_parent, halike.same_parent]
      rfl
    simp only [hat, hups]

/-! ## Settling -/

theorem afterRounds_of_rolledUp {rounds : Nat} (hrolled : RolledUp (afterRounds now index rounds)) :
    ∀ later, rounds ≤ later → afterRounds now index later = afterRounds now index rounds := by
  intro later hlater
  induction later, hlater using Nat.le_induction with
  | base => rfl
  | succ later _ ih =>
      have hround : afterRounds now index (later + 1) =
          (reconcileRound now (afterRounds now index later)).1 := rfl
      rw [hround, ih]
      unfold reconcileRound
      rw [foldl_of_rolledUp _ [] hrolled]

theorem eventually_forall_mem {α : Type} {Q : α → Nat → Prop} (items : List α)
    (hitems : ∀ item ∈ items, ∃ n, ∀ m, n ≤ m → Q item m) :
    ∃ n, ∀ m, n ≤ m → ∀ item ∈ items, Q item m := by
  induction items with
  | nil => exact ⟨0, fun _ _ _ hin => absurd hin List.not_mem_nil⟩
  | cons item items ih =>
      obtain ⟨hfirst, hrest⟩ := List.forall_mem_cons.mp hitems
      obtain ⟨n, hn⟩ := hfirst
      obtain ⟨k, hk⟩ := ih hrest
      refine ⟨max n k, ?_⟩
      intro m hm
      rw [List.forall_mem_cons]
      exact ⟨hn m (by omega), hk m (by omega)⟩

theorem levels_steady
    (hsettles : ∀ level taskId,
      Settles (fun rounds taskId => level ≤ levelOf (afterRounds now index rounds) taskId) taskId) :
    ∃ n, ∀ m, n ≤ m → ∀ taskId,
      levelOf (afterRounds now index (m + 1)) taskId = levelOf (afterRounds now index m) taskId := by
  have hpairs : ∀ item ∈ index.names ×ˢ List.range 4, ∃ n, ∀ m, n ≤ m →
      (item.2 ≤ levelOf (afterRounds now index (m + 1)) item.1 ↔
        item.2 ≤ levelOf (afterRounds now index m) item.1) := by
    intro item _
    obtain ⟨n, hn⟩ := hsettles item.2 item.1
    refine ⟨n, ?_⟩
    intro m hm
    exact (hn (m + 1) (by omega)).trans (hn m hm).symm
  obtain ⟨n, hn⟩ := eventually_forall_mem _ hpairs
  refine ⟨n, ?_⟩
  intro m hm taskId
  by_cases hname : taskId ∈ index.names
  · have hlevel : ∀ level, level ≤ 3 →
        (level ≤ levelOf (afterRounds now index (m + 1)) taskId ↔
          level ≤ levelOf (afterRounds now index m) taskId) := by
      intro level hle
      apply hn m hm (taskId, level)
      exact List.pair_mem_product.mpr ⟨hname, List.mem_range.mpr (by omega)⟩
    apply Nat.le_antisymm
    · exact (hlevel _ (levelOf_le _ _)).mp (Nat.le_refl _)
    · exact (hlevel _ (levelOf_le _ _)).mpr (Nat.le_refl _)
  · have hnone : ∀ rounds, (afterRounds now index rounds).lookup taskId = none := by
      intro rounds
      rw [← Option.not_isSome_iff_eq_none, lookup_isSome_iff,
        (alike_afterRounds now index rounds).names]
      exact hname
    apply levelOf_eq_of_lookup
    rw [hnone, hnone]

theorem rolledUp_of_steady (hunique : index.names.Nodup)
    (hsteady : ∀ taskId, levelOf (reconcileRound now index).1 taskId = levelOf index taskId) :
    RolledUp (reconcileRound now index).1 := by
  have halike : Alike index (reconcileRound now index).1 := alike_foldl _ _ []
  intro parentId hparent card hfound
  rw [halike.same_parents hunique] at hparent
  obtain ⟨parent, mid, other, hmid, hother, hrolled, hfinds⟩ :=
    lookup_round now hunique hparent
  rw [hfound] at hother
  cases hother
  have hmidLevels : ∀ taskId, levelOf mid taskId = levelOf (reconcileRound now index).1 taskId := by
    intro taskId
    have hlookup := hfinds taskId
    by_cases hbefore :
        (wiring index hunique).rank taskId < (wiring index hunique).rank parentId
    · rw [if_pos hbefore] at hlookup
      exact levelOf_eq_of_lookup hlookup
    · rw [if_neg hbefore] at hlookup
      rw [hsteady]
      exact levelOf_eq_of_lookup hlookup
  have hmidParent : parentId ∈ parentIds mid := by
    rw [hmid.same_parents hunique]
    exact hparent
  have hafterParent : parentId ∈ parentIds (reconcileRound now index).1 := by
    rw [halike.same_parents hunique]
    exact hparent
  have hseen := (hmid.symm.trans halike).same_seen (hmid.unique hunique)
    (fun taskId _ => (hmidLevels taskId).symm) hmidParent
  rw [rollUp_eq card (childrenOf_ne_nil hafterParent), hseen,
    ← rollUp_eq parent (childrenOf_ne_nil hmidParent)]
  exact hrolled.symm

theorem rollsUp_iff_settles (now : Time) (hunique : index.names.Nodup) :
    RollsUp now index ↔ ∀ level taskId,
      Settles (fun rounds taskId => level ≤ levelOf (afterRounds now index rounds) taskId)
        taskId := by
  constructor
  · rintro ⟨rounds, _, hrolled⟩ level taskId
    refine ⟨rounds, ?_⟩
    intro later hlater
    simp only
    rw [afterRounds_of_rolledUp hrolled later hlater]
  · intro hsettles
    obtain ⟨n, hsteady⟩ := levels_steady hsettles
    have hnodup := (alike_afterRounds now index n).unique hunique
    have hrolled : RolledUp (afterRounds now index (n + 1)) :=
      rolledUp_of_steady hnodup (hsteady n (Nat.le_refl n))
    exact ⟨n + 1, quiet_iff_rolledUp.2 hrolled, hrolled⟩

end Round

/-- The loop of `_reconcile_task_index` ends, with every parent rolled up, exactly if on every
circle of tasks and for every level: a task without children that is at the level or above leads to
the circle, or no such status that is read before it is rolled up comes to the circle, or one comes
to it in every phase of a lap. -/
theorem rollsUp_iff (now : Time) {index : Index} (hunique : index.names.Nodup) :
    RollsUp now index ↔
      ∀ level, (wiring index hunique).Balanced fun taskId => level ≤ levelOf index taskId := by
  rw [rollsUp_iff_settles now hunique]
  have hnodes : ∀ taskId parentId, (wiring index hunique).up taskId = some parentId →
      taskId ∈ index.names := by
    intro taskId parentId hup
    obtain ⟨card, hfound, _⟩ := Option.bind_eq_some_iff.mp hup
    rw [← lookup_isSome_iff, hfound]
    rfl
  constructor
  · intro hall level
    exact (settles_iff_balanced hnodes (carries_levels now hunique level)).mp (hall level)
  · intro hall level
    exact (settles_iff_balanced hnodes (carries_levels now hunique level)).mpr (hall level)

/-! ## Recorded work -/

def fileAfter {α : Type} (operation : Program Index α) (file : Index) : Index :=
  ((operation.alone file).2.getLast?.map Access.value).getD file

def handing (targetAgent body : String) : CliOutput := ⟨[], [], [], [], [(targetAgent, body)], ""⟩

/-- A task that was handed on, and rolled up since. -/
def handedOn : Index :=
  fileAfter (recordCliResult .ascii 9 "planner" "T-001 plan" (handing "coder" "T-002 build it")
    (some "T-001") "log-1" 2)
    (fileAfter (writeJobBrief .ascii 9 "planner" "task" "T-001 plan it" none "brief-1" 1) [])

theorem handedOn_rolls_up : handedOn.names.Nodup ∧ RollsUp 3 handedOn := by
  have hunique : handedOn.names.Nodup := by
    decide +kernel
  refine ⟨hunique, (rollsUp_iff 3 hunique).mpr ?_⟩
  intro level parentId lap hcircle
  have hup : ∀ taskId, parentOf handedOn taskId = some parentId → parentId = "T-001" := by
    intro taskId hparent
    have hin := (mem_parentIds_iff hunique).mpr ⟨taskId, hparent⟩
    have hparents : parentIds handedOn = ["T-001"] := by
      decide
    rw [hparents] at hin
    exact List.mem_singleton.mp hin
  obtain ⟨taskId, hlast⟩ := hcircle.fed
  obtain ⟨next, hfirst, _⟩ := hcircle.first
  rw [hup taskId hlast] at hfirst
  have htop : parentOf handedOn "T-001" = none := by
    decide
  have hnext : parentOf handedOn "T-001" = some next := hfirst
  rw [htop] at hnext
  cases hnext

def handedBack : Index :=
  fileAfter (recordCliResult .ascii 9 "tester" "T-003 test" (handing "planner" "T-001 plan again")
    (some "T-003") "log-3" 4)
    (fileAfter (recordCliResult .ascii 9 "coder" "T-002 build" (handing "tester" "T-003 test it")
      (some "T-002") "log-2" 3) handedOn)

/-- The second task is then recorded as done: the index as the last roll-up finds it. -/
def doneOnCircle : Index :=
  fileAfter (recordCliResult .ascii 0 "coder" "T-002 build" ⟨["built"], [], [], [], [], ""⟩
    (some "T-002") "log-4" 5) handedBack

/-- Its statuses go round the circle for ever. -/
theorem doneOnCircle_goes_round : ¬ RollsUp 5 doneOnCircle := by
  have hrounds : afterRounds 5 doneOnCircle 3 = afterRounds 5 doneOnCircle 1 ∧
      (reconcileRound 5 (afterRounds 5 doneOnCircle 0)).2 ≠ [] ∧
      (reconcileRound 5 (afterRounds 5 doneOnCircle 1)).2 ≠ [] ∧
      (reconcileRound 5 (afterRounds 5 doneOnCircle 2)).2 ≠ [] := by
    decide +kernel
  obtain ⟨hperiod, hchanges⟩ := hrounds
  have hagain : ∀ rounds, afterRounds 5 doneOnCircle (rounds + 3) =
      afterRounds 5 doneOnCircle (rounds + 1) := by
    intro rounds
    induction rounds with
    | zero => exact hperiod
    | succ rounds ih =>
        have hround : ∀ n, afterRounds 5 doneOnCircle (n + 1) =
            (reconcileRound 5 (afterRounds 5 doneOnCircle n)).1 := fun _ => rfl
        rw [Nat.add_right_comm, hround, ih, ← hround]
  have hnever : ∀ rounds, (reconcileRound 5 (afterRounds 5 doneOnCircle rounds)).2 ≠ [] := by
    intro rounds
    induction rounds using Nat.strong_induction_on with
    | _ rounds ih =>
        by_cases hearly : rounds < 3
        · obtain ⟨h0, h1, h2⟩ := hchanges
          have hcases : rounds = 0 ∨ rounds = 1 ∨ rounds = 2 := by omega
          rcases hcases with rfl | rfl | rfl
          · exact h0
          · exact h1
          · exact h2
        · obtain ⟨before, hbefore⟩ : ∃ before, rounds = before + 3 := ⟨rounds - 3, by omega⟩
          rw [hbefore, hagain]
          exact ih (before + 1) (by omega)
  rintro ⟨rounds, hquiet, _⟩
  exact hnever rounds hquiet

end OpsCure.Workspace
