/-
Python dictionaries as association lists in insertion order: writing a key
replaces its value in place, or appends it.
-/
import Mathlib.Data.Finset.Dedup
import Mathlib.Data.Finset.Card

namespace OpsCure.Dict

universe u v

variable {κ : Type u} {ν : Type v} [DecidableEq κ]

/-- `entries[key] = value`. -/
def set (entries : List (κ × ν)) (key : κ) (value : ν) : List (κ × ν) :=
  if key ∈ entries.map Prod.fst then
    entries.map fun entry => if entry.1 = key then (key, value) else entry
  else entries ++ [(key, value)]

/-- Write the given entries one after the other. -/
def setAll (entries additions : List (κ × ν)) : List (κ × ν) :=
  additions.foldl (fun written entry => set written entry.1 entry.2) entries

theorem keys_set (entries : List (κ × ν)) (key : κ) (value : ν) :
    (set entries key value).map Prod.fst =
      if key ∈ entries.map Prod.fst then entries.map Prod.fst
      else entries.map Prod.fst ++ [key] := by
  unfold set
  split
  · rw [List.map_map]
    refine List.map_congr_left fun entry _ => ?_
    by_cases hkey : entry.1 = key
    · simp [hkey]
    · simp [hkey]
  · simp

variable {entries additions : List (κ × ν)} {key : κ} {value : ν}

theorem nodup_keys_set (hnodup : (entries.map Prod.fst).Nodup) (key : κ) (value : ν) :
    ((set entries key value).map Prod.fst).Nodup := by
  rw [keys_set]
  split
  · exact hnodup
  · rename_i habsent
    rw [List.nodup_append]
    refine ⟨hnodup, List.nodup_singleton key, ?_⟩
    intro other hother added hadded
    rw [List.mem_singleton.mp hadded]
    rintro rfl
    exact habsent hother

theorem mem_keys_set {other : κ} :
    other ∈ (set entries key value).map Prod.fst ↔
      other ∈ entries.map Prod.fst ∨ other = key := by
  rw [keys_set]
  split
  · rename_i hpresent
    constructor
    · exact Or.inl
    · rintro (hother | rfl)
      · exact hother
      · exact hpresent
  · rw [List.mem_append, List.mem_singleton]

theorem mem_set {entry : κ × ν} (hmem : entry ∈ set entries key value) :
    entry ∈ entries ∨ entry = (key, value) := by
  unfold set at hmem
  split at hmem
  · obtain ⟨stood, hstood, rfl⟩ := List.mem_map.mp hmem
    by_cases hkey : stood.1 = key
    · right
      rw [if_pos hkey]
    · left
      rw [if_neg hkey]
      exact hstood
  · rcases List.mem_append.mp hmem with hstood | hnew
    · exact Or.inl hstood
    · exact Or.inr (List.mem_singleton.mp hnew)

theorem nodup_keys_setAll (additions : List (κ × ν)) (hnodup : (entries.map Prod.fst).Nodup) :
    ((setAll entries additions).map Prod.fst).Nodup := by
  induction additions generalizing entries with
  | nil => exact hnodup
  | cons head tail ih => exact ih (nodup_keys_set hnodup head.1 head.2)

theorem mem_keys_setAll :
    key ∈ (setAll entries additions).map Prod.fst ↔
      key ∈ entries.map Prod.fst ∨ key ∈ additions.map Prod.fst := by
  induction additions generalizing entries with
  | nil => simp [setAll]
  | cons head tail ih =>
      change key ∈ (setAll (set entries head.1 head.2) tail).map Prod.fst ↔ _
      rw [ih, mem_keys_set, List.map_cons, List.mem_cons, or_assoc]

theorem mem_setAll {entry : κ × ν} (hmem : entry ∈ setAll entries additions) :
    entry ∈ entries ∨ entry ∈ additions := by
  induction additions generalizing entries with
  | nil => exact Or.inl hmem
  | cons head tail ih =>
      have hwritten := @ih (set entries head.1 head.2) hmem
      rcases hwritten with hbefore | hlater
      · rcases mem_set hbefore with hstood | hhead
        · exact Or.inl hstood
        · rw [hhead]
          exact Or.inr List.mem_cons_self
      · exact Or.inr (List.mem_cons_of_mem head hlater)

theorem setAll_of_nodup (hnodup : ((entries ++ additions).map Prod.fst).Nodup) :
    setAll entries additions = entries ++ additions := by
  induction additions generalizing entries with
  | nil => exact (List.append_nil entries).symm
  | cons head tail ih =>
      have hnew : head.1 ∉ entries.map Prod.fst := by
        rw [List.map_append, List.nodup_append] at hnodup
        intro hold
        exact hnodup.2.2 _ hold _ List.mem_cons_self rfl
      have hset : set entries head.1 head.2 = entries ++ [head] := by
        rw [set, if_neg hnew]
      have hshift : entries ++ [head] ++ tail = entries ++ head :: tail := by
        rw [List.append_assoc, List.singleton_append]
      have hrest := @ih (entries ++ [head])
      rw [hshift] at hrest
      rw [setAll, List.foldl_cons, hset]
      exact hrest hnodup

theorem length_setAll_nil (additions : List (κ × ν)) :
    (setAll [] additions).length = (additions.map Prod.fst).toFinset.card := by
  have hnodup : ((setAll [] additions).map Prod.fst).Nodup :=
    nodup_keys_setAll additions (by simp)
  have hkeys : ((setAll [] additions).map Prod.fst).toFinset =
      (additions.map Prod.fst).toFinset := by
    ext key
    simp only [List.mem_toFinset, mem_keys_setAll, List.map_nil, List.not_mem_nil, false_or]
  rw [← hkeys, List.toFinset_card_of_nodup hnodup, List.length_map]

/-- `entries.pop(key, None)`. -/
def pop (entries : List (κ × ν)) (key : κ) : List (κ × ν) :=
  entries.filter fun entry => entry.1 ≠ key

theorem lookup_cons_eq (other : κ) (entry : κ × ν) (rest : List (κ × ν)) :
    List.lookup other (entry :: rest) =
      if other = entry.1 then some entry.2 else List.lookup other rest := by
  by_cases hsame : other = entry.1
  · rw [if_pos hsame, hsame]
    exact List.lookup_cons_self
  · rw [if_neg hsame, List.lookup_cons, beq_eq_false_iff_ne.mpr hsame]

theorem mem_of_lookup (hfound : entries.lookup key = some value) : (key, value) ∈ entries := by
  obtain ⟨front, back, hsplit, _⟩ := List.lookup_eq_some_iff.mp hfound
  rw [hsplit]
  exact List.mem_append_right front List.mem_cons_self

theorem lookup_map_set (entries : List (κ × ν)) (key : κ) (value : ν) (other : κ) :
    List.lookup other (entries.map fun entry => if entry.1 = key then (key, value) else entry) =
      if other = key then (if key ∈ entries.map Prod.fst then some value else none)
      else entries.lookup other := by
  induction entries with
  | nil => simp
  | cons head rest ih =>
      rw [List.map_cons, lookup_cons_eq, lookup_cons_eq, ih]
      by_cases hhead : head.1 = key
      · rw [if_pos hhead]
        by_cases hother : other = key
        · simp [hhead, hother]
        · simp [hhead, hother]
      · rw [if_neg hhead]
        by_cases hother : other = key
        · have hlater : key ∈ (head :: rest).map Prod.fst ↔ key ∈ rest.map Prod.fst := by
            rw [List.map_cons, List.mem_cons]
            exact or_iff_right fun hsame => hhead hsame.symm
          have hne : ¬ other = head.1 := fun hsame => hhead (hsame.symm.trans hother)
          rw [if_neg hne, if_pos hother, if_pos hother]
          simp only [hlater]
        · simp [hother]

theorem lookup_set (entries : List (κ × ν)) (key : κ) (value : ν) (other : κ) :
    (set entries key value).lookup other =
      if other = key then some value else entries.lookup other := by
  unfold set
  by_cases hpresent : key ∈ entries.map Prod.fst
  · rw [if_pos hpresent, lookup_map_set, if_pos hpresent]
  · rw [if_neg hpresent, List.lookup_append, lookup_cons_eq]
    by_cases hother : other = key
    · have habsent : entries.lookup key = none := by
        cases hfound : entries.lookup key with
        | none => rfl
        | some =>
            exact absurd (List.mem_map.mpr ⟨_, mem_of_lookup hfound, rfl⟩) hpresent
      rw [if_pos hother, if_pos hother, hother, habsent]
      rfl
    · rw [if_neg hother, if_neg hother]
      exact Option.or_none

theorem lookup_of_mem (hnodup : (entries.map Prod.fst).Nodup) (hmem : (key, value) ∈ entries) :
    entries.lookup key = some value := by
  induction entries with
  | nil => cases hmem
  | cons head tail ih =>
      rw [List.map_cons, List.nodup_cons] at hnodup
      rw [lookup_cons_eq]
      rcases List.mem_cons.mp hmem with hhead | htail
      · rw [← hhead, if_pos rfl]
      · have hother : key ≠ head.1 := by
          intro hsame
          apply hnodup.1
          rw [← hsame]
          exact List.mem_map.mpr ⟨_, htail, rfl⟩
        rw [if_neg hother]
        exact ih hnodup.2 htail

theorem lookup_setAll_cases (hfound : (setAll entries additions).lookup key = some value) :
    entries.lookup key = some value ∨ (key, value) ∈ additions := by
  induction additions generalizing entries with
  | nil => exact Or.inl hfound
  | cons head tail ih =>
      have hwritten := @ih (set entries head.1 head.2) hfound
      rcases hwritten with hbefore | hlater
      · rw [lookup_set] at hbefore
        split at hbefore
        · next hsame =>
            rw [← Option.some.inj hbefore, hsame]
            exact Or.inr List.mem_cons_self
        · exact Or.inl hbefore
      · exact Or.inr (List.mem_cons_of_mem head hlater)

theorem lookup_pop (entries : List (κ × ν)) (key other : κ) :
    (pop entries key).lookup other = if other = key then none else entries.lookup other := by
  induction entries with
  | nil => simp [pop]
  | cons head rest ih =>
      rw [pop, List.filter_cons]
      by_cases hhead : head.1 = key
      · rw [if_neg (by simp [hhead])]
        refine ih.trans ?_
        by_cases hother : other = key
        · rw [if_pos hother, if_pos hother]
        · have hne : ¬ other = head.1 := fun hsame => hother (hsame.trans hhead)
          rw [if_neg hother, if_neg hother, lookup_cons_eq, if_neg hne]
      · rw [if_pos (by simp [hhead]), lookup_cons_eq, lookup_cons_eq]
        by_cases hother : other = key
        · have hne : ¬ other = head.1 := fun hsame => hhead (hsame.symm.trans hother)
          rw [if_neg hne, if_pos hother]
          exact ih.trans (if_pos hother)
        · rw [if_neg hother]
          split
          · rfl
          · exact ih.trans (if_neg hother)

end OpsCure.Dict
