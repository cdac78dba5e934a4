/-
Walks over pages: each page comes with the place where the next one begins, until one comes without.
Where the rows of a page are filtered after it was cut, and a page that the filter left short ends
the walk, the walk reaches a row exactly when the filter keeps all rows of the pages before its own.
-/
import OpsCure.Library.Keyset

namespace OpsCure.PageWalk

universe u v w

variable {α : Type u} {β : Type v} {C : Type w}

/-- Pages are asked for from `cursor` on until one leads nowhere; they hold these items. -/
inductive Walk (page : Option C → List β × Option C) : Option C → List β → Prop where
  | last {cursor : Option C} {items : List β} (hpage : page cursor = (items, none)) :
      Walk page cursor items
  | next {cursor : Option C} {items rest : List β} {place : C}
      (hpage : page cursor = (items, some place)) (hrest : Walk page (some place) rest) :
      Walk page cursor (items ++ rest)

theorem Walk.unique {page : Option C → List β × Option C} {cursor : Option C}
    {items others : List β} (hwalk : Walk page cursor items) (hother : Walk page cursor others) :
    items = others := by
  induction hwalk generalizing others with
  | last hpage =>
      cases hother with
      | last hagain =>
          rw [hpage] at hagain
          cases hagain
          rfl
      | next hagain =>
          rw [hpage] at hagain
          cases hagain
  | next hpage _ ih =>
      cases hother with
      | last hagain =>
          rw [hpage] at hagain
          cases hagain
      | next hagain hrest =>
          rw [hpage] at hagain
          cases hagain
          rw [ih hrest]

section Filtered

variable (keep : α → Bool) (size : Nat) (goesOn : Bool)

def fullPage (rows : List α) : Bool := size ≤ rows.length && (rows.take size).all keep

def yielded (rows : List α) : List α :=
  if 0 < size ∧ goesOn ∧ fullPage keep size rows then
    rows.take size ++ yielded (rows.drop size)
  else (rows.take size).filter keep
termination_by rows.length
decreasing_by
  rename_i hfull
  obtain ⟨hpos, _, hfull⟩ := hfull
  have hlength : size ≤ rows.length := by
    simp only [fullPage, Bool.and_eq_true, decide_eq_true_eq] at hfull
    exact hfull.1
  rw [List.length_drop]
  omega

/-- The pages before the one a place is on are left full. -/
def Reached (rows : List α) (place : Nat) : Prop :=
  ∀ earlier row, earlier < place / size * size → rows[earlier]? = some row →
    goesOn = true ∧ keep row = true

variable {keep size goesOn}

variable {rows : List α} {place : Nat} {row : α}

theorem fullPage_iff : fullPage keep size rows = true ↔
    size ≤ rows.length ∧ ∀ (place : Nat) (row : α), place < size → rows[place]? = some row →
      keep row = true := by
  simp only [fullPage, Bool.and_eq_true, decide_eq_true_eq, List.all_eq_true]
  apply and_congr_right
  intro _
  constructor
  · intro hall place row hplace hrow
    apply hall
    rw [List.mem_iff_getElem?]
    exact ⟨place, by rw [List.getElem?_take_of_lt hplace, hrow]⟩
  · intro hall row hrow
    obtain ⟨place, hplace⟩ := List.mem_iff_getElem?.mp hrow
    rw [List.getElem?_take] at hplace
    split at hplace
    · rename_i hless
      exact hall place row hless hplace
    · cases hplace

theorem reached_drop_iff (hpos : 0 < size) (hgoesOn : goesOn = true)
    (hfull : fullPage keep size rows = true) :
    Reached keep size goesOn (rows.drop size) place ↔
      Reached keep size goesOn rows (size + place) := by
  have hpages : (size + place) / size * size = size + place / size * size := by
    rw [Nat.add_div_left _ hpos, Nat.succ_mul, Nat.add_comm]
  obtain ⟨_, hkept⟩ := fullPage_iff.1 hfull
  unfold Reached
  rw [hpages]
  constructor
  · intro hreached earlier row hless hrow
    by_cases hfirst : earlier < size
    · exact ⟨hgoesOn, hkept earlier row hfirst hrow⟩
    · apply hreached (earlier - size) row (by omega)
      rw [List.getElem?_drop]
      have hback : size + (earlier - size) = earlier := by omega
      rw [hback, hrow]
  · intro hreached earlier row hless hrow
    rw [List.getElem?_drop] at hrow
    exact hreached (size + earlier) row (by omega) hrow

theorem mem_take_iff (hnodup : rows.Nodup) (hrow : rows[place]? = some row) :
    row ∈ rows.take size ↔ place < size := by
  constructor
  · intro hin
    obtain ⟨early, hearly⟩ := List.mem_iff_getElem?.mp hin
    rw [List.getElem?_take] at hearly
    split at hearly
    · rename_i hless
      have hlength := (List.getElem?_eq_some_iff.mp hearly).1
      have hsame := (List.getElem?_inj hlength hnodup).mp (hearly.trans hrow.symm)
      omega
    · cases hearly
  · intro hfirst
    exact List.mem_iff_getElem?.mpr ⟨place, by rw [List.getElem?_take_of_lt hfirst, hrow]⟩

theorem reached_of_first (hfirst : place < size) : Reached keep size goesOn rows place := by
  intro earlier _ hless _
  rw [Nat.div_eq_of_lt hfirst] at hless
  omega

theorem mem_yielded_iff (hpos : 0 < size) (hnodup : rows.Nodup) (hrow : rows[place]? = some row) :
    row ∈ yielded keep size goesOn rows ↔
      keep row = true ∧ Reached keep size goesOn rows place := by
  induction rows using yielded.induct keep size goesOn generalizing place with
  | case1 rows hfull ih =>
      obtain ⟨_, hgoesOn, hfull⟩ := hfull
      obtain ⟨_, hkept⟩ := fullPage_iff.1 hfull
      rw [yielded, if_pos ⟨hpos, hgoesOn, hfull⟩, List.mem_append]
      by_cases hfirst : place < size
      · have hin := (mem_take_iff hnodup hrow).mpr hfirst
        exact iff_of_true (Or.inl hin) ⟨hkept place row hfirst hrow, reached_of_first hfirst⟩
      · have hlater : rows[size + (place - size)]? = some row := by
          have hback : size + (place - size) = place := by omega
          rw [hback, hrow]
        have hnot : row ∉ rows.take size := fun hin => hfirst ((mem_take_iff hnodup hrow).mp hin)
        have hdropped : (rows.drop size)[place - size]? = some row := by
          rw [List.getElem?_drop, hlater]
        rw [or_iff_right hnot,
          ih (hnodup.sublist (List.drop_sublist _ _)) hdropped,
          reached_drop_iff hpos hgoesOn hfull]
        have hback : size + (place - size) = place := by omega
        rw [hback]
  | case2 rows hshort =>
      rw [yielded, if_neg hshort, List.mem_filter]
      by_cases hfirst : place < size
      · have hin := (mem_take_iff hnodup hrow).mpr hfirst
        have hreached : Reached keep size goesOn rows place := reached_of_first hfirst
        simp [hin, hreached]
      · have hnot : row ∉ rows.take size := fun hin => hfirst ((mem_take_iff hnodup hrow).mp hin)
        have hunreached : ¬ Reached keep size goesOn rows place := by
          intro hreached
          have hpage : size ≤ place / size * size := by
            have hone : 1 ≤ place / size := (Nat.one_le_div_iff hpos).mpr (by omega)
            exact Nat.le_mul_of_pos_left size hone
          have hlength : place < rows.length := (List.getElem?_eq_some_iff.mp hrow).1
          apply hshort
          have hfirstRow : ∃ first, rows[0]? = some first :=
            ⟨_, List.getElem?_eq_getElem (by omega)⟩
          obtain ⟨first, hzero⟩ := hfirstRow
          refine ⟨hpos, (hreached 0 first (by omega) hzero).1, ?_⟩
          apply fullPage_iff.2
          refine ⟨by omega, ?_⟩
          intro early other hless hother
          exact (hreached early other (by omega) hother).2
        exact iff_of_false (fun hboth => hnot hboth.1) (fun hboth => hunreached hboth.2)

theorem yielded_sublist (rows : List α) : (yielded keep size goesOn rows).Sublist rows := by
  induction rows using yielded.induct keep size goesOn with
  | case1 rows hfull ih =>
      rw [yielded, if_pos hfull]
      have hboth := (List.Sublist.refl (rows.take size)).append ih
      rwa [List.take_append_drop] at hboth
  | case2 rows hshort =>
      rw [yielded, if_neg hshort]
      exact List.filter_sublist.trans (List.take_sublist _ _)

theorem kept_of_mem_yielded (hrow : row ∈ yielded keep size goesOn rows) : keep row = true := by
  induction rows using yielded.induct keep size goesOn with
  | case1 rows hfull ih =>
      rw [yielded, if_pos hfull, List.mem_append] at hrow
      rcases hrow with hfirst | hlater
      · have hall := hfull.2.2
        simp only [fullPage, Bool.and_eq_true, List.all_eq_true] at hall
        exact hall.2 row hfirst
      · exact ih hlater
  | case2 rows hshort =>
      rw [yielded, if_neg hshort] at hrow
      exact (List.mem_filter.mp hrow).2

/-- Pages cut from the rows ahead of a place, filtered, and left at the last row of a full page make
a walk, and it ends. -/
theorem walk_yielded (hpos : 0 < size) {render : α → β} {place : α → C}
    {ahead : Option C → List α} {page : Option C → List β × Option C}
    (hitems : ∀ cursor, (page cursor).1 = (((ahead cursor).take size).filter keep).map render)
    (hnext : ∀ cursor, (page cursor).2 =
      if goesOn ∧ fullPage keep size (ahead cursor) then
        ((ahead cursor).take size).getLast?.map place
      else none)
    (hahead : ∀ cursor front last back, ahead cursor = front ++ last :: back →
      ahead (some (place last)) = back) (cursor : Option C) :
    Walk page cursor ((yielded keep size goesOn (ahead cursor)).map render) := by
  induction hlength : (ahead cursor).length using Nat.strongRecOn generalizing cursor with
  | _ length ih =>
      by_cases hfull : goesOn ∧ fullPage keep size (ahead cursor)
      · obtain ⟨hgoesOn, hpage⟩ := hfull
        obtain ⟨henough, hkept⟩ := fullPage_iff.1 hpage
        have hsome : (ahead cursor).take size ≠ [] := by
          intro hnone
          have hzero := congrArg List.length hnone
          rw [List.length_take, List.length_nil] at hzero
          omega
        have hlast := List.dropLast_append_getLast hsome
        have hsplit : ahead cursor = ((ahead cursor).take size).dropLast ++
            ((ahead cursor).take size).getLast hsome :: (ahead cursor).drop size := by
          have hcut := List.take_append_drop size (ahead cursor)
          rw [← hlast, List.append_assoc] at hcut
          exact hcut.symm
        have hrest := hahead cursor _ _ _ hsplit
        have hfilter : ((ahead cursor).take size).filter keep = (ahead cursor).take size := by
          rw [List.filter_eq_self]
          have hall := hpage
          simp only [fullPage, Bool.and_eq_true, List.all_eq_true] at hall
          exact hall.2
        have hshorter : (ahead (some (place (((ahead cursor).take size).getLast hsome)))).length <
            length := by
          rw [hrest, List.length_drop]
          omega
        have hwalk := ih _ hshorter _ rfl
        rw [yielded, if_pos ⟨hpos, hgoesOn, hpage⟩, List.map_append]
        rw [hrest] at hwalk
        refine .next ?_ hwalk
        apply Prod.ext
        · rw [hitems, hfilter]
        · rw [hnext, if_pos ⟨hgoesOn, hpage⟩, List.getLast?_eq_some_getLast hsome]
          rfl
      · have hshort : ¬ (0 < size ∧ goesOn ∧ fullPage keep size (ahead cursor)) :=
          fun hall => hfull hall.2
        rw [yielded, if_neg hshort]
        apply Walk.last
        apply Prod.ext
        · exact hitems cursor
        · rw [hnext, if_neg hfull]

end Filtered

end OpsCure.PageWalk
