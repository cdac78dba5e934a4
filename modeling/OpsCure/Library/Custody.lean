/-
Custody of things that are handed out to holders and settled by them: the history of who was
handed what and who settled what, and the law that each thing is handed out once and settled
once, by the one it was handed to.
-/
import Mathlib.Data.List.Infix
import Mathlib.Data.List.Nodup

namespace OpsCure.Custody

universe u v

/-- What happens to the thing under a key. -/
inductive Deed (K : Type u) (W : Type v) where
  | handed (key : K) (holder : W)
  | settled (key : K) (holder : W)
deriving DecidableEq, Repr

variable {K : Type u} {W : Type v}

def Deed.key : Deed K W → K
  | handed key _ | settled key _ => key

def Deed.handed? : Deed K W → Option K
  | handed key _ => some key
  | settled _ _ => none

def Deed.settled? : Deed K W → Option K
  | handed _ _ => none
  | settled key _ => some key

def handedKeys (history : List (Deed K W)) : List K := history.filterMap Deed.handed?

def settledKeys (history : List (Deed K W)) : List K := history.filterMap Deed.settled?

structure Lawful (history : List (Deed K W)) : Prop where
  handed_once : (handedKeys history).Nodup
  settled_once : (settledKeys history).Nodup
  by_holder : ∀ before key holder, before ++ [.settled key holder] <+: history →
    Deed.handed key holder ∈ before

variable {history : List (Deed K W)} {key : K} {holder : W}

theorem mem_handedKeys : key ∈ handedKeys history ↔ ∃ holder, .handed key holder ∈ history := by
  unfold handedKeys
  rw [List.mem_filterMap]
  constructor
  · rintro ⟨deed, hdeed, hkey⟩
    cases deed with
    | handed other holder =>
        cases hkey
        exact ⟨holder, hdeed⟩
    | settled => cases hkey
  · rintro ⟨holder, hdeed⟩
    exact ⟨_, hdeed, rfl⟩

theorem handedKeys_handed : handedKeys (history ++ [.handed key holder]) =
    handedKeys history ++ [key] := by
  simp [handedKeys, Deed.handed?]

theorem handedKeys_settled : handedKeys (history ++ [.settled key holder]) =
    handedKeys history := by
  simp [handedKeys, Deed.handed?]

theorem settledKeys_handed : settledKeys (history ++ [.handed key holder]) =
    settledKeys history := by
  simp [settledKeys, Deed.settled?]

theorem settledKeys_settled : settledKeys (history ++ [.settled key holder]) =
    settledKeys history ++ [key] := by
  simp [settledKeys, Deed.settled?]

theorem lawful_nil : Lawful ([] : List (Deed K W)) where
  handed_once := List.nodup_nil
  settled_once := List.nodup_nil
  by_holder := by
    intro before key holder hbefore
    simp at hbefore

theorem Lawful.holder_eq {rival : W} (hlawful : Lawful history)
    (hholder : .handed key holder ∈ history) (hrival : .handed key rival ∈ history) :
    holder = rival := by
  have honce := hlawful.handed_once
  rcases List.append_of_mem hholder with ⟨before, after, rfl⟩
  simp only [handedKeys, List.filterMap_append, List.filterMap_cons, Deed.handed?] at honce
  have hapart := List.nodup_append.mp honce
  rcases List.mem_append.mp hrival with hearlier | hlater
  · have hkey : key ∈ before.filterMap Deed.handed? :=
      List.mem_filterMap.mpr ⟨_, hearlier, rfl⟩
    exact absurd rfl (hapart.2.2 key hkey key List.mem_cons_self)
  · rcases List.mem_cons.mp hlater with hsame | hlater
    · cases hsame
      rfl
    · have hkey : key ∈ after.filterMap Deed.handed? :=
        List.mem_filterMap.mpr ⟨_, hlater, rfl⟩
      exact absurd hkey (List.nodup_cons.mp hapart.2.1).1

theorem Lawful.earlier {more : List (Deed K W)} (hlawful : Lawful (history ++ more)) :
    Lawful history where
  handed_once := by
    have honce := hlawful.handed_once
    rw [handedKeys, List.filterMap_append] at honce
    exact (List.nodup_append.mp honce).1
  settled_once := by
    have honce := hlawful.settled_once
    rw [settledKeys, List.filterMap_append] at honce
    exact (List.nodup_append.mp honce).1
  by_holder := by
    intro before key holder hbefore
    exact hlawful.by_holder before key holder (hbefore.trans (List.prefix_append _ _))

theorem Lawful.handed (hlawful : Lawful history) (hfresh : key ∉ handedKeys history) :
    Lawful (history ++ [.handed key holder]) where
  handed_once := by
    rw [handedKeys_handed, List.nodup_append]
    refine ⟨hlawful.handed_once, List.nodup_singleton key, ?_⟩
    intro other hother added hadded hsame
    rw [List.mem_singleton.mp hadded] at hsame
    rw [hsame] at hother
    exact hfresh hother
  settled_once := by
    rw [settledKeys_handed]
    exact hlawful.settled_once
  by_holder := by
    intro before other rival hbefore
    rcases List.prefix_concat_iff.mp hbefore with hwhole | hearlier
    · have hlast := (List.append_inj' hwhole rfl).2
      cases hlast
    · exact hlawful.by_holder before other rival hearlier

theorem lawful_settled_iff (hlawful : Lawful history) :
    Lawful (history ++ [.settled key holder]) ↔
      .handed key holder ∈ history ∧ key ∉ settledKeys history := by
  constructor
  · intro hafter
    refine ⟨hafter.by_holder history key holder List.prefix_rfl, ?_⟩
    intro hsettled
    have honce := hafter.settled_once
    rw [settledKeys_settled, List.nodup_append] at honce
    exact honce.2.2 key hsettled key List.mem_cons_self rfl
  · rintro ⟨hheld, hfresh⟩
    refine ⟨?_, ?_, ?_⟩
    · rw [handedKeys_settled]
      exact hlawful.handed_once
    · rw [settledKeys_settled, List.nodup_append]
      refine ⟨hlawful.settled_once, List.nodup_singleton key, ?_⟩
      intro other hother added hadded hsame
      rw [List.mem_singleton.mp hadded] at hsame
      rw [hsame] at hother
      exact hfresh hother
    · intro before other rival hbefore
      rcases List.prefix_concat_iff.mp hbefore with hwhole | hearlier
      · have hparts := List.append_inj' hwhole rfl
        cases hparts.2
        rw [hparts.1]
        exact hheld
      · exact hlawful.by_holder before other rival hearlier

end OpsCure.Custody
