/-
Discovery (`api/v2_inbox.py`), page after page.  Does following the cursors find every operation the
asker could join?  A page is cut before it is filtered, and one that the filter leaves short ends the
walk.
-/
import Mathlib.Data.Prod.Lex
import OpsCure.ActorRoutes
import OpsCure.Library.PageWalk

namespace OpsCure.Api

open Session Table Contract V2 Keyset PageWalk

/-- What is asked for on every page of a walk; the limit is at least 1. -/
structure DiscoveryQuery where
  actorHandle : String
  spaceId : Option String
  askerKinds : Option (List String)
  limit : Nat
  limit_pos : 1 ≤ limit

abbrev DiscoveryCursor := Time × Id

/-- The items of one page, and its `next_cursor`. -/
def discoverPage (w : World) (query : DiscoveryQuery) (cursor : Option DiscoveryCursor) :
    List DiscoverableEntry × Option DiscoveryCursor :=
  match (exec (listDiscoverable query.actorHandle query.spaceId query.askerKinds cursor
      query.limit) w).1 with
  | .ok (.discoverable _ items nextCursor) => (items, nextCursor)
  | _ => ([], none)

def openIn (store : Store) (spaceId : Option String) : List (V2.Operation × Id) :=
  (selectWhere (·.state = .opened) store.operations).filter fun row =>
    (spaceId.filter (· ≠ "")).all (row.1.spaceId = ·)

/-- The newest comes first, and of operations as old the one with the greater identity. -/
def recency (row : V2.Operation × Id) : (Lex (Time × Id))ᵒᵈ :=
  OrderDual.toDual (toLex (row.1.createdAt, row.2))

/-- The order in which discovery goes through them. -/
def listing (w : World) (query : DiscoveryQuery) : List (V2.Operation × Id) :=
  ascending recency (openIn w.store query.spaceId)

def DiscoveryQuery.pageSize (query : DiscoveryQuery) : Nat := max 1 (min query.limit 500)

/-- The asker may join, and can say what is asked for. -/
def DiscoveryQuery.keeps (query : DiscoveryQuery) (w : World) (row : V2.Operation × Id) : Bool :=
  joinable w.store ((w.store.getActorByHandle (withAt query.actorHandle)).map (·.handle))
    query.askerKinds row

def Discoverable (w : World) (query : DiscoveryQuery) (id : Id) : Prop :=
  ∃ row ∈ openIn w.store query.spaceId, row.2 = id ∧ query.keeps w row = true

structure Complete (w : World) (query : DiscoveryQuery) (items : List DiscoverableEntry) : Prop where
  once : (items.map (·.id)).Nodup
  exactly : ∀ id, id ∈ items.map (·.id) ↔ Discoverable w query id

/-- Before the page of an operation that is discoverable, every operation is; and a limit that no
page can reach leaves but one page. -/
def PagesReach (w : World) (query : DiscoveryQuery) : Prop :=
  ∀ place row, (listing w query)[place]? = some row → query.keeps w row = true →
    ∀ earlier other, earlier < place / query.pageSize * query.pageSize →
      (listing w query)[earlier]? = some other → query.limit ≤ 500 ∧ query.keeps w other = true

/-! ## One page -/

theorem recency_le_iff {left right : V2.Operation × Id} : recency left ≤ recency right ↔
    right.1.createdAt < left.1.createdAt ∨
      right.1.createdAt = left.1.createdAt ∧ right.2 ≤ left.2 := by
  rw [recency, recency, OrderDual.toDual_le_toDual, Prod.Lex.toLex_le_toLex]

def DiscoveryCursor.place (cursor : DiscoveryCursor) : (Lex (Time × Id))ᵒᵈ :=
  OrderDual.toDual (toLex cursor)

theorem afterCursor_eq (cursor : Option DiscoveryCursor) (row : V2.Operation × Id) :
    afterCursor cursor row = isAfter recency (cursor.map DiscoveryCursor.place) row := by
  cases cursor with
  | none => rfl
  | some last =>
      have hless : last.place < recency row ↔
          row.1.createdAt < last.1 ∨ row.1.createdAt = last.1 ∧ row.2 < last.2 := by
        rw [recency, DiscoveryCursor.place, OrderDual.toDual_lt_toDual]
        exact Prod.Lex.toLex_lt_toLex
      simp [afterCursor, isAfter, hless]

theorem nodup_recency (store : Store) (spaceId : Option String) :
    ((openIn store spaceId).map recency).Nodup := by
  have hids : (openIn store spaceId).Pairwise fun left right => left.2 ≠ right.2 :=
    (pairwise_selectWhere _ _).filter _
  apply List.pairwise_map.mpr
  apply hids.imp
  intro left right hids hsame
  exact hids (congrArg (fun key => (ofLex (OrderDual.ofDual key)).2) hsame)

theorem openOperations_eq (w : World) (query : DiscoveryQuery) (cursor : Option DiscoveryCursor) :
    openOperations w.store query.spaceId cursor query.limit =
      (ahead recency (openIn w.store query.spaceId) (cursor.map DiscoveryCursor.place)).take
        query.pageSize := by
  have hrows : ((selectWhere (·.state = .opened) w.store.operations).filter fun row =>
      (query.spaceId.filter (· ≠ "")).all (row.1.spaceId = ·) ∧ afterCursor cursor row) =
        (openIn w.store query.spaceId).filter
          (isAfter recency (cursor.map DiscoveryCursor.place)) := by
    rw [openIn, List.filter_filter]
    apply List.filter_congr
    intro row _
    rw [← afterCursor_eq]
    simp [and_comm]
  have hsorted : ∀ rows : List (V2.Operation × Id),
      rows.insertionSort (fun left right => right.1.createdAt < left.1.createdAt ∨
        right.1.createdAt = left.1.createdAt ∧ right.2 ≤ left.2) = ascending recency rows :=
    insertionSort_eq_ascending fun _ _ => recency_le_iff.symm
  simp only [openOperations]
  rw [hrows, hsorted, ascending_filter (nodup_recency _ _)]
  rfl

theorem discoverPage_eq (w : World) (query : DiscoveryQuery) (cursor : Option DiscoveryCursor) :
    let found := ((ahead recency (openIn w.store query.spaceId)
      (cursor.map DiscoveryCursor.place)).take query.pageSize).filter (query.keeps w)
    discoverPage w query cursor = (found.map discoverableEntry,
      if query.limit ≤ found.length then
        found.getLast?.map fun row => (row.1.createdAt, row.2)
      else none) := by
  intro found
  have hfound : found = (openOperations w.store query.spaceId cursor query.limit).filter
      (query.keeps w) := by
    rw [openOperations_eq]
  rw [hfound]
  simp only [discoverPage, listDiscoverable, exec_query]
  rfl

theorem limit_le_length_iff (query : DiscoveryQuery) (keep : V2.Operation × Id → Bool)
    (rows : List (V2.Operation × Id)) :
    query.limit ≤ ((rows.take query.pageSize).filter keep).length ↔
      query.limit ≤ 500 ∧ fullPage keep query.pageSize rows = true := by
  have hpos := query.limit_pos
  have hsize : query.pageSize = min query.limit 500 := by
    unfold DiscoveryQuery.pageSize
    omega
  have hkept : ((rows.take query.pageSize).filter keep).length ≤
      (rows.take query.pageSize).length := List.length_filter_le _ _
  have htaken : (rows.take query.pageSize).length = min query.pageSize rows.length :=
    List.length_take
  simp only [fullPage, Bool.and_eq_true, decide_eq_true_eq]
  constructor
  · intro hlimit
    refine ⟨by omega, by omega, ?_⟩
    have hall : ((rows.take query.pageSize).filter keep).length =
        (rows.take query.pageSize).length := by
      omega
    rw [List.all_eq_true]
    exact List.length_filter_eq_length_iff.mp hall
  · rintro ⟨hsmall, hlength, hall⟩
    rw [List.all_eq_true] at hall
    rw [List.length_filter_eq_length_iff.mpr hall]
    omega

/-! ## The walk -/

/-- Following the cursors ends, and yields these operations. -/
theorem walk_discovery (w : World) (query : DiscoveryQuery) :
    Walk (discoverPage w query) none
      ((yielded (query.keeps w) query.pageSize (query.limit ≤ 500) (listing w query)).map
        discoverableEntry) := by
  have hpos : 0 < query.pageSize := by
    unfold DiscoveryQuery.pageSize
    omega
  let rows := openIn w.store query.spaceId
  let before := fun cursor : Option DiscoveryCursor =>
    ahead recency rows (cursor.map DiscoveryCursor.place)
  have hstart : before none = listing w query := by
    have hall : ∀ row ∈ ascending recency rows, isAfter recency none row = true := fun _ _ => rfl
    exact List.filter_eq_self.mpr hall
  rw [← hstart]
  let place := fun row : Operation × Id => (row.1.createdAt, row.2)
  have hnext : ∀ cursor, (discoverPage w query cursor).2 =
      if decide (query.limit ≤ 500) = true ∧
          fullPage (query.keeps w) query.pageSize (before cursor) = true then
        ((before cursor).take query.pageSize).getLast?.map place
      else none := by
    intro cursor
    rw [discoverPage_eq]
    by_cases hfull : query.limit ≤ 500 ∧ fullPage (query.keeps w) query.pageSize (before cursor)
    · have hall := hfull.2
      simp only [fullPage, Bool.and_eq_true] at hall
      have hsame : ((before cursor).take query.pageSize).filter (query.keeps w) =
          (before cursor).take query.pageSize := by
        rw [List.filter_eq_self]
        exact List.all_eq_true.mp hall.2
      have hlimit := (limit_le_length_iff query (query.keeps w) (before cursor)).mpr hfull
      have hgoesOn : decide (query.limit ≤ 500) = true ∧
          fullPage (query.keeps w) query.pageSize (before cursor) = true :=
        ⟨decide_eq_true hfull.1, hfull.2⟩
      rw [if_pos hgoesOn, if_pos hlimit, hsame]
    · have hlimit : ¬ query.limit ≤
          (((before cursor).take query.pageSize).filter (query.keeps w)).length :=
        fun hle => hfull ((limit_le_length_iff query _ _).mp hle)
      have hstops : ¬ (decide (query.limit ≤ 500) = true ∧
          fullPage (query.keeps w) query.pageSize (before cursor) = true) :=
        fun hboth => hfull ⟨of_decide_eq_true hboth.1, hboth.2⟩
      rw [if_neg hstops, if_neg hlimit]
  apply walk_yielded hpos
  · intro cursor
    rw [discoverPage_eq]
  · exact hnext
  · intro cursor front last back hsplit
    exact ahead_of_split (nodup_recency _ _) hsplit

theorem nodup_ids_listing (w : World) (query : DiscoveryQuery) :
    ((listing w query).map (·.2)).Nodup := by
  have hids : ((openIn w.store query.spaceId).map (·.2)).Nodup :=
    List.pairwise_map.mpr ((pairwise_selectWhere _ _).filter _)
  exact ((perm_ascending _).map _).nodup_iff.mpr hids

/-- Following `next_cursor` from the first page ends, in one way; what it yields is every
discoverable operation that matches, each once, exactly when before the page of such an operation
the filter drops nothing. -/
theorem discovery_complete_iff (w : World) (query : DiscoveryQuery) :
    ∃ items, Walk (discoverPage w query) none items ∧
      (∀ others, Walk (discoverPage w query) none others → others = items) ∧
      (Complete w query items ↔ PagesReach w query) := by
  have hpos : 0 < query.pageSize := by
    unfold DiscoveryQuery.pageSize
    omega
  have hwalk := walk_discovery w query
  refine ⟨_, hwalk, fun others hother => hother.unique hwalk, ?_⟩
  let found := yielded (query.keeps w) query.pageSize (query.limit ≤ 500) (listing w query)
  have hids : (found.map discoverableEntry).map (·.id) = found.map (·.2) := by
    rw [List.map_map]
    rfl
  have hnodup : (listing w query).Nodup := (nodup_ids_listing w query).of_map
  have honce : (found.map (·.2)).Nodup :=
    ((yielded_sublist (listing w query)).map (·.2)).nodup (nodup_ids_listing w query)
  have hlisted : ∀ row ∈ found, row ∈ listing w query :=
    fun _ hrow => (yielded_sublist (listing w query)).subset hrow
  constructor
  · intro hcomplete place row hplace hkeeps
    have hrow : row ∈ listing w query := List.mem_of_getElem? hplace
    have hin := (hcomplete.exactly row.2).mpr ⟨row, mem_ascending.mp hrow, rfl, hkeeps⟩
    rw [hids] at hin
    obtain ⟨other, hother, hsame⟩ := List.mem_map.mp hin
    have hequal := List.inj_on_of_nodup_map (nodup_ids_listing w query) (hlisted other hother)
      hrow hsame
    rw [hequal] at hother
    have hreached := ((mem_yielded_iff hpos hnodup hplace).mp hother).2
    intro earlier earlierRow hless hearlier
    obtain ⟨hsmall, hkept⟩ := hreached earlier earlierRow hless hearlier
    exact ⟨of_decide_eq_true hsmall, hkept⟩
  · intro hreach
    refine ⟨?_, ?_⟩
    · rw [hids]
      exact honce
    · intro id
      rw [hids]
      constructor
      · intro hin
        obtain ⟨row, hrow, rfl⟩ := List.mem_map.mp hin
        exact ⟨row, mem_ascending.mp (hlisted row hrow), rfl, kept_of_mem_yielded hrow⟩
      · rintro ⟨row, hopen, rfl, hkeeps⟩
        have hrow : row ∈ listing w query := mem_ascending.mpr hopen
        obtain ⟨place, hplace⟩ := List.mem_iff_getElem?.mp hrow
        apply List.mem_map_of_mem
        rw [mem_yielded_iff hpos hnodup hplace]
        refine ⟨hkeeps, ?_⟩
        intro earlier other hless hother
        obtain ⟨hsmall, hkept⟩ := hreach place row hplace hkeeps earlier other hless hother
        exact ⟨decide_eq_true hsmall, hkept⟩

/-! ## A short first page -/

def openedWith (joinPolicy : JoinPolicy) (createdAt : Time) : V2.Operation where
  spaceId := "room"
  kind := .inquiry
  state := .opened
  title := "t"
  intent := none
  v1ConversationId := 0
  isGeneral := false
  policy := some { defaultOperationPolicy with joinPolicy := joinPolicy }
  resolution := none
  resolutionSummary := none
  closedByActorId := none
  createdAt := createdAt
  updatedAt := createdAt
  closedAt := none
  participants := []
  events := []
  artifacts := []

/-- An operation anyone may join, and a newer one for invited actors. -/
def invitedBehind : World where
  bridge :=
    { chat :=
        { store := { actors := [], operations := [openedWith .anyone 0, openedWith .inviteOnly 1] }
          threads := []
          conversations := []
          messages := []
          tasks := .empty }
      inboxes := []
      stream := []
      discord := [] }
  tokens := []
  presence := fun _ => ⟨.offline, none⟩
  lastSeenSeq := fun _ _ => none
  subscriptions := []

def onePerPage : DiscoveryQuery where
  actorHandle := "@bob"
  spaceId := none
  askerKinds := none
  limit := 1
  limit_pos := le_rfl

/-- The first page is empty and leads nowhere; the operation `bob` could join is not found. -/
theorem joinable_not_found :
    ¬ ∃ items, Walk (discoverPage invitedBehind onePerPage) none items ∧
      Complete invitedBehind onePerPage items := by
  have hitems : (discoverPage invitedBehind onePerPage none).1.length = 0 := by
    decide
  have hnext : (discoverPage invitedBehind onePerPage none).2 = none := by
    decide
  rintro ⟨items, hwalk, hcomplete⟩
  have hnothing : items = [] := by
    cases hwalk with
    | last hpage =>
        rw [hpage] at hitems
        exact List.length_eq_zero_iff.mp hitems
    | next hpage _ =>
        rw [hpage] at hnext
        cases hnext
  have hdiscoverable : Discoverable invitedBehind onePerPage 0 := by
    refine ⟨(openedWith .anyone 0, 0), List.mem_cons_self, rfl, ?_⟩
    decide
  have hin := (hcomplete.exactly 0).mpr hdiscoverable
  rw [hnothing] at hin
  cases hin

end OpsCure.Api
