/-
Marks that are handed up in rounds.  Every node hands to at most one other, so that the nodes form
trees and circles; in a round the nodes that are handed to are taken in the order of their ranks, and
each is marked just if one that hands to it is.  When do the marks settle?  What stands in a tree
comes to its end; what has come to a circle goes round for ever.
-/
import Mathlib.Data.Nat.ModEq
import Mathlib.Data.List.Nodup
import Mathlib.Data.List.Perm.Subperm
import Mathlib.Tactic.Common

namespace OpsCure.Circulation

universe u

variable {N : Type u}

/-- Whom a node hands to, and when in a round a node is taken.  A node that nobody hands to is not
taken before the one it hands to. -/
structure Wiring (N : Type u) where
  up : N → Option N
  rank : N → Nat
  late_of_unfed : ∀ c p, up c = some p → (∀ b, up b ≠ some c) → rank p ≤ rank c

variable (w : Wiring N)

/-- Somebody hands to the node. -/
def Wiring.Fed (p : N) : Prop := ∃ c, w.up c = some p

/-- How many rounds later a mark of `c` shows on the node `p` it hands to: none if `c` is taken
first. -/
def Wiring.lag (c p : N) : Nat := if w.rank c < w.rank p then 0 else 1

/-- From `c` marks come to `p`, so many rounds later. -/
inductive Wiring.Climbs : N → Nat → N → Prop
  | once {c p : N} : w.up c = some p → Climbs c (w.lag c p) p
  | more {c p q : N} {n : Nat} : Climbs c n p → w.up p = some q → Climbs c (n + w.lag p q) q

/-- What `c` was marked with at the start is handed on before `c` is taken. -/
def Wiring.Late (c : N) : Prop := ∃ p, w.up c = some p ∧ w.rank p ≤ w.rank c

/-- A history of marks: a node that nobody hands to keeps its mark, the others are marked as they
are handed to. -/
structure Wiring.Carries (marked : Nat → N → Prop) : Prop where
  keeps : ∀ c, ¬ w.Fed c → ∀ n, marked n c ↔ marked 0 c
  takes : ∀ p, w.Fed p → ∀ n,
    marked (n + 1) p ↔ ∃ c, w.up c = some p ∧ marked (n + 1 - w.lag c p) c

/-- A node that nobody hands to and that is marked hands to `p` in the end. -/
def Wiring.Supplied (marked : N → Prop) (p : N) : Prop :=
  ∃ c n, ¬ w.Fed c ∧ marked c ∧ w.Climbs c n p

/-- A mark that stood on a node which is handed to, and is handed on before the node is taken, comes
to `p` in round `n`. -/
def Wiring.Arrives (marked : N → Prop) (p : N) (n : Nat) : Prop :=
  ∃ c, w.Fed c ∧ w.Late c ∧ marked c ∧ w.Climbs c n p

/-- On every circle: it is supplied, or no mark comes to it, or marks come to it in every phase of a
lap. -/
def Wiring.Balanced (marked : N → Prop) : Prop :=
  ∀ p lap, w.Climbs p lap p →
    w.Supplied marked p ∨ (∀ n, ¬ w.Arrives marked p n) ∨
      ∀ phase, ∃ n, n ≡ phase [MOD lap] ∧ w.Arrives marked p n

variable {w} {c p q : N} {n k : Nat}

/-! ## Climbing -/

theorem lag_le_one (c p : N) : w.lag c p ≤ 1 := by
  unfold Wiring.lag
  split
  · omega
  · omega

theorem Wiring.Climbs.fed (hclimbs : w.Climbs c n p) : w.Fed p := by
  cases hclimbs with
  | once hup => exact ⟨c, hup⟩
  | more _ hup => exact ⟨_, hup⟩

theorem Wiring.Climbs.trans (hfirst : w.Climbs c n p) (hsecond : w.Climbs p k q) :
    w.Climbs c (n + k) q := by
  induction hsecond with
  | once hup => exact .more hfirst hup
  | more _ hup ih =>
      rw [← Nat.add_assoc]
      exact .more ih hup

theorem Wiring.Climbs.first (hclimbs : w.Climbs c n q) :
    ∃ p, w.up c = some p ∧ (q = p ∧ n = w.lag c p ∨
      ∃ m, n = w.lag c p + m ∧ w.Climbs p m q) := by
  induction hclimbs with
  | once hup => exact ⟨_, hup, Or.inl ⟨rfl, rfl⟩⟩
  | more _ hup ih =>
      obtain ⟨p, hfirst, hrest⟩ := ih
      refine ⟨p, hfirst, Or.inr ?_⟩
      rcases hrest with ⟨rfl, rfl⟩ | ⟨m, rfl, hclimbs⟩
      · exact ⟨_, rfl, .once hup⟩
      · exact ⟨_, Nat.add_assoc _ _ _, .more hclimbs hup⟩

theorem circle_of_climbs (hclimbs : w.Climbs c n p) (hcircle : ∃ lap, w.Climbs c lap c) :
    ∃ lap, w.Climbs p lap p := by
  induction hclimbs with
  | once hup =>
      obtain ⟨lap, hlap⟩ := hcircle
      obtain ⟨next, hnext, hrest⟩ := hlap.first
      rw [hup] at hnext
      cases hnext
      rcases hrest with ⟨hself, _⟩ | ⟨m, _, hback⟩
      · rw [← hself]
        exact ⟨lap, hlap⟩
      · exact ⟨_, .more hback hup⟩
  | more _ hup ih =>
      obtain ⟨lap, hlap⟩ := ih
      obtain ⟨next, hnext, hrest⟩ := hlap.first
      rw [hup] at hnext
      cases hnext
      rcases hrest with ⟨hself, _⟩ | ⟨m, _, hback⟩
      · rw [← hself]
        exact ⟨lap, hlap⟩
      · exact ⟨_, .more hback hup⟩

theorem Wiring.Climbs.rank_lt (hclimbs : w.Climbs c n p) (hnow : n = 0) : w.rank c < w.rank p := by
  induction hclimbs with
  | once _ =>
      unfold Wiring.lag at hnow
      split at hnow
      · assumption
      · omega
  | more _ _ ih =>
      have hlag : w.lag _ _ = 0 := Nat.eq_zero_of_add_eq_zero_left hnow
      have hbefore := ih (by omega)
      unfold Wiring.lag at hlag
      split at hlag
      · omega
      · omega

theorem lap_pos (hcircle : w.Climbs p k p) : 0 < k := by
  by_contra hzero
  have hless := hcircle.rank_lt (by omega)
  omega

theorem climbs_laps (hclimbs : w.Climbs c n p) (hcircle : w.Climbs p k p) (laps : Nat) :
    w.Climbs c (n + laps * k) p := by
  induction laps with
  | zero =>
      rw [Nat.zero_mul]
      exact hclimbs
  | succ laps ih =>
      have hmore := ih.trans hcircle
      rwa [Nat.add_assoc, ← Nat.succ_mul] at hmore

theorem Wiring.Climbs.pos_of_late (hclimbs : w.Climbs c n p) (hlate : w.Late c) : 0 < n := by
  obtain ⟨first, hfirst, hrank⟩ := hlate
  obtain ⟨next, hnext, hrest⟩ := hclimbs.first
  rw [hfirst] at hnext
  cases hnext
  have hlag : w.lag c first = 1 := by
    unfold Wiring.lag
    rw [if_neg (by omega)]
  rcases hrest with ⟨_, rfl⟩ | ⟨m, rfl, _⟩
  · omega
  · omega

theorem Wiring.Climbs.le_length {nodes : List N} (hnodes : ∀ c p, w.up c = some p → c ∈ nodes)
    (hclimbs : w.Climbs c n p) (hfree : ¬ ∃ lap, w.Climbs p lap p) : n ≤ nodes.length := by
  have htrail : ∃ trail : List N, n ≤ trail.length ∧ trail ⊆ nodes ∧ trail.Nodup ∧
      ∀ b ∈ trail, ∃ m, w.Climbs b m p := by
    induction hclimbs with
    | once hup =>
        refine ⟨[c], lag_le_one _ _, ?_, List.nodup_singleton c, ?_⟩
        · intro b hb
          rw [List.mem_singleton.mp hb]
          exact hnodes c _ hup
        · intro b hb
          rw [List.mem_singleton.mp hb]
          exact ⟨_, .once hup⟩
    | @more p q m hbefore hup ih =>
        have hfreeBefore : ¬ ∃ lap, w.Climbs p lap p :=
          fun hcircle => hfree (circle_of_climbs (.once hup) hcircle)
        obtain ⟨trail, hlength, hsubset, hnodup, hall⟩ := ih hfreeBefore
        refine ⟨p :: trail, ?_, ?_, ?_, ?_⟩
        · have hlag := lag_le_one (w := w) p q
          rw [List.length_cons]
          omega
        · exact List.cons_subset.mpr ⟨hnodes p q hup, hsubset⟩
        · rw [List.nodup_cons]
          exact ⟨fun hin => hfreeBefore (hall p hin), hnodup⟩
        · intro b hb
          rcases List.mem_cons.mp hb with rfl | hold
          · exact ⟨_, .once hup⟩
          · obtain ⟨k, hk⟩ := hall b hold
            exact ⟨_, .more hk hup⟩
  obtain ⟨trail, hlength, hsubset, hnodup, _⟩ := htrail
  exact hlength.trans (List.subperm_of_subset hnodup hsubset).length_le

/-! ## Marks -/

variable {marked : Nat → N → Prop}

theorem Wiring.Carries.step (hcarries : w.Carries marked) (hpos : 0 < n) (hmarked : marked n c)
    (hup : w.up c = some p) : marked (n + w.lag c p) p := by
  obtain ⟨m, hm⟩ : ∃ m, n + w.lag c p = m + 1 := ⟨n + w.lag c p - 1, by omega⟩
  rw [hm, hcarries.takes p ⟨c, hup⟩]
  refine ⟨c, hup, ?_⟩
  have hback : m + 1 - w.lag c p = n := by omega
  rw [hback]
  exact hmarked

theorem Wiring.Carries.climb (hcarries : w.Carries marked) (hclimbs : w.Climbs c k p)
    (hpos : 0 < n) (hmarked : marked n c) : marked (n + k) p := by
  induction hclimbs with
  | once hup => exact hcarries.step hpos hmarked hup
  | more _ hup ih =>
      rw [← Nat.add_assoc]
      exact hcarries.step (by omega) ih hup

theorem Wiring.Carries.climb_late (hcarries : w.Carries marked) (hclimbs : w.Climbs c n p)
    (hlate : w.Late c) (hmarked : marked 0 c) : marked n p := by
  induction hclimbs with
  | @once p hup =>
      obtain ⟨first, hfirst, hrank⟩ := hlate
      rw [hup] at hfirst
      cases hfirst
      have hlag : w.lag c p = 1 := by
        unfold Wiring.lag
        rw [if_neg (by omega)]
      rw [hlag]
      have htakes := hcarries.takes p ⟨c, hup⟩ 0
      rw [Nat.zero_add] at htakes
      rw [htakes]
      refine ⟨c, hup, ?_⟩
      rw [hlag]
      exact hmarked
  | more hbefore hup ih => exact hcarries.step (hbefore.pos_of_late hlate) ih hup

theorem late_of_not_fed (hup : w.up c = some p) (hunfed : ¬ w.Fed c) : w.Late c := by
  refine ⟨p, hup, w.late_of_unfed c p hup ?_⟩
  intro b hb
  exact hunfed ⟨b, hb⟩

/-- Where the marks of a round come from: from a node that nobody hands to, by now, or from one that
was marked at the start, just now. -/
theorem Wiring.Carries.marked_iff (hcarries : w.Carries marked) (hpos : 0 < n) (hfed : w.Fed p) :
    marked n p ↔
      (∃ c k, ¬ w.Fed c ∧ marked 0 c ∧ w.Climbs c k p ∧ k ≤ n) ∨ w.Arrives (marked 0) p n := by
  constructor
  · -- induction on the round, and in a round on the rank
    induction n generalizing p with
    | zero => omega
    | succ n ih =>
        induction hrank : w.rank p using Nat.strong_induction_on generalizing p with
        | _ rank ihRank =>
            intro hmarked
            obtain ⟨c, hup, hbefore⟩ := (hcarries.takes p hfed n).mp hmarked
            by_cases hfedBefore : w.Fed c
            · have hextend : ∀ m, (m + w.lag c p = n + 1) →
                  ((∃ b k, ¬ w.Fed b ∧ marked 0 b ∧ w.Climbs b k c ∧ k ≤ m) ∨
                    w.Arrives (marked 0) c m) →
                  (∃ b k, ¬ w.Fed b ∧ marked 0 b ∧ w.Climbs b k p ∧ k ≤ n + 1) ∨
                    w.Arrives (marked 0) p (n + 1) := by
                intro m hm hsource
                rcases hsource with ⟨b, k, hb, hmarkedB, hclimbs, hk⟩ | ⟨b, hb, hlate, hmarkedB, hclimbs⟩
                · exact Or.inl ⟨b, k + w.lag c p, hb, hmarkedB, .more hclimbs hup, by omega⟩
                · rw [← hm]
                  exact Or.inr ⟨b, hb, hlate, hmarkedB, .more hclimbs hup⟩
              by_cases hfirst : w.rank c < w.rank p
              · have hlag : w.lag c p = 0 := if_pos hfirst
                rw [hlag] at hbefore
                apply hextend (n + 1) (by omega)
                exact ihRank (w.rank c) (by omega) hfedBefore rfl hbefore
              · have hlag : w.lag c p = 1 := if_neg hfirst
                rw [hlag, Nat.add_sub_cancel] at hbefore
                by_cases hstart : n = 0
                · rw [hstart] at hbefore ⊢
                  have hclimbs : w.Climbs c 1 p := hlag ▸ .once hup
                  exact Or.inr ⟨c, hfedBefore, ⟨p, hup, by omega⟩, hbefore, hclimbs⟩
                · apply hextend n (by omega)
                  exact ih (by omega) hfedBefore hbefore
            · have hlag := lag_le_one (w := w) c p
              rw [hcarries.keeps c hfedBefore] at hbefore
              exact Or.inl ⟨c, _, hfedBefore, hbefore, .once hup, by omega⟩
  · rintro (⟨c, k, hunfed, hmarked, hclimbs, hk⟩ | ⟨c, _, hlate, hmarked, hclimbs⟩)
    · have hlate : w.Late c := by
        obtain ⟨first, hfirst, _⟩ := hclimbs.first
        exact late_of_not_fed hfirst hunfed
      by_cases hnow : k = n
      · rw [← hnow]
        exact hcarries.climb_late hclimbs hlate hmarked
      · have hthen : marked (n - k) c := (hcarries.keeps c hunfed _).mpr hmarked
        have hreaches := hcarries.climb hclimbs (by omega) hthen
        rwa [Nat.sub_add_cancel hk] at hreaches
    · exact hcarries.climb_late hclimbs hlate hmarked

/-! ## Settling -/

/-- From some round on the mark of `p` stays as it is. -/
def Settles (marked : Nat → N → Prop) (p : N) : Prop :=
  ∃ n, ∀ m, n ≤ m → (marked m p ↔ marked n p)

theorem settles_of_from {n : Nat} {P : Prop} (hfrom : ∀ m, n ≤ m → (marked m p ↔ P)) :
    Settles marked p :=
  ⟨n, fun m hm => (hfrom m hm).trans (hfrom n (Nat.le_refl n)).symm⟩

theorem settles_of_supplied (hcarries : w.Carries marked) (hfed : w.Fed p)
    (hsupplied : w.Supplied (marked 0) p) : Settles marked p := by
  obtain ⟨c, k, hunfed, hmarked, hclimbs⟩ := hsupplied
  apply settles_of_from (n := k + 1) (P := True)
  intro m hm
  rw [iff_true, hcarries.marked_iff (by omega) hfed]
  exact Or.inl ⟨c, k, hunfed, hmarked, hclimbs, by omega⟩

theorem marked_iff_arrives (hcarries : w.Carries marked) (hfed : w.Fed p)
    (hdry : ¬ w.Supplied (marked 0) p) (hpos : 0 < n) :
    marked n p ↔ w.Arrives (marked 0) p n := by
  rw [hcarries.marked_iff hpos hfed]
  constructor
  · rintro (⟨c, k, hunfed, hmarked, hclimbs, _⟩ | harrives)
    · exact absurd ⟨c, k, hunfed, hmarked, hclimbs⟩ hdry
    · exact harrives
  · exact Or.inr

theorem Wiring.Arrives.laps {start : N → Prop} (harrives : w.Arrives start p n)
    (hcircle : w.Climbs p k p) (laps : Nat) : w.Arrives start p (n + laps * k) := by
  obtain ⟨c, hfed, hlate, hmarked, hclimbs⟩ := harrives
  exact ⟨c, hfed, hlate, hmarked, climbs_laps hclimbs hcircle laps⟩

theorem arrives_of_phases {start : N → Prop} (hcircle : w.Climbs p k p)
    (hphases : ∀ phase, ∃ n, n ≡ phase [MOD k] ∧ w.Arrives start p n) :
    ∃ n, ∀ m, n ≤ m → w.Arrives start p m := by
  have hpos := lap_pos hcircle
  choose round hround using hphases
  have hbounded : ∀ count, ∃ bound, ∀ phase < count, round phase ≤ bound := by
    intro count
    induction count with
    | zero => exact ⟨0, fun phase hphase => by omega⟩
    | succ count ih =>
        obtain ⟨bound, hbound⟩ := ih
        refine ⟨max bound (round count), ?_⟩
        intro phase hphase
        by_cases hlast : phase = count
        · rw [hlast]
          exact Nat.le_max_right _ _
        · exact (hbound phase (by omega)).trans (Nat.le_max_left _ _)
  obtain ⟨bound, hbound⟩ := hbounded k
  refine ⟨bound, ?_⟩
  intro m hm
  have hle : round (m % k) ≤ bound := hbound _ (Nat.mod_lt m hpos)
  have hsame : round (m % k) ≡ m [MOD k] := (hround (m % k)).1.trans (Nat.mod_modEq m k)
  obtain ⟨laps, hlaps⟩ := (Nat.modEq_iff_dvd' (hle.trans hm)).mp hsame
  have hm' : m = round (m % k) + laps * k := by
    rw [Nat.mul_comm laps k, ← hlaps]
    omega
  rw [hm']
  exact (hround (m % k)).2.laps hcircle laps

/-- The marks of all nodes settle exactly if they are balanced on every circle. -/
theorem settles_iff_balanced {nodes : List N} (hnodes : ∀ c p, w.up c = some p → c ∈ nodes)
    (hcarries : w.Carries marked) :
    (∀ p, Settles marked p) ↔ w.Balanced (marked 0) := by
  constructor
  · intro hsettles p lap hcircle
    have hfed := hcircle.fed
    have hpos := lap_pos hcircle
    by_cases hsupplied : w.Supplied (marked 0) p
    · exact Or.inl hsupplied
    · right
      by_cases harrives : ∃ n, w.Arrives (marked 0) p n
      · right
        obtain ⟨n, harrives⟩ := harrives
        obtain ⟨settled, hsettled⟩ := hsettles p
        have hlate : ∀ laps, settled + 1 ≤ laps → settled + 1 ≤ laps * lap :=
          fun laps hlaps => hlaps.trans (Nat.le_mul_of_pos_right laps hpos)
        have hround := hlate (settled + 1) (Nat.le_refl _)
        have hmarked : marked (n + (settled + 1) * lap) p := by
          rw [marked_iff_arrives hcarries hfed hsupplied (by omega)]
          exact harrives.laps hcircle _
        rw [hsettled _ (by omega)] at hmarked
        intro phase
        refine ⟨phase + (settled + 1) * lap, ?_, ?_⟩
        · exact Nat.add_mul_modulus_modEq_iff.mpr rfl
        · rw [← marked_iff_arrives hcarries hfed hsupplied (by omega),
            hsettled _ (by omega)]
          exact hmarked
      · left
        intro n hn
        exact harrives ⟨n, hn⟩
  · intro hbalanced p
    by_cases hfed : w.Fed p
    · by_cases hsupplied : w.Supplied (marked 0) p
      · exact settles_of_supplied hcarries hfed hsupplied
      · have harrives : ∀ n, 1 ≤ n → (marked n p ↔ w.Arrives (marked 0) p n) :=
          fun n hn => marked_iff_arrives hcarries hfed hsupplied hn
        by_cases hcircle : ∃ lap, w.Climbs p lap p
        · obtain ⟨lap, hlap⟩ := hcircle
          rcases hbalanced p lap hlap with hyes | hnever | hphases
          · exact absurd hyes hsupplied
          · apply settles_of_from (n := 1) (P := False)
            intro m hm
            rw [harrives m hm, iff_false]
            exact hnever m
          · obtain ⟨n, hn⟩ := arrives_of_phases hlap hphases
            apply settles_of_from (n := n + 1) (P := True)
            intro m hm
            rw [harrives m (by omega), iff_true]
            exact hn m (by omega)
        · apply settles_of_from (n := nodes.length + 1) (P := False)
          intro m hm
          rw [harrives m (by omega), iff_false]
          rintro ⟨c, _, _, _, hclimbs⟩
          have hle := hclimbs.le_length hnodes hcircle
          omega
    · exact settles_of_from (n := 0) fun m _ => hcarries.keeps p hfed m

end OpsCure.Circulation
