import Dashkoda.Lib.Listings
import Dashkoda.Visibility.WebsiteAnalytics

/-!
# What moved on the website

Channels and pages that grew or fell between two windows, the largest move first.  A listing is the
front of one ranking of the whole population where nothing the listing leaves out, and no tie,
reaches that front.
-/

open Lib

namespace Dashkoda.Visibility.Website

open EventProgramme (Ga4Snapshot currentDays currentPages)

structure AdjacentWindows where
  previousStart : Date
  previousEnd : Date
  start : Date
  «end» : Date
  previous_in_order : previousStart ≤ previousEnd
  in_order : start ≤ «end»
  contiguous : Date.addDays? 1 previousEnd = some start

namespace AdjacentWindows

variable (windows : AdjacentWindows)

def compared : ComparedWindows where
  start := windows.start
  «end» := windows.end
  previous := some (windows.previousStart, windows.previousEnd)
  in_order := windows.in_order
  contiguous := by
    intro window h
    rw [← Option.mem_some.mp h]
    exact ⟨windows.previous_in_order, windows.contiguous⟩

def current : Date × Date := (windows.start, windows.end)

def prior : Date × Date := (windows.previousStart, windows.previousEnd)

def Covers (day : Date) : Prop :=
  (windows.start ≤ day ∧ day ≤ windows.end) ∨
    (windows.previousStart ≤ day ∧ day ≤ windows.previousEnd)

instance (day : Date) : Decidable (windows.Covers day) := inferInstanceAs (Decidable (_ ∨ _))

/-- Between the windows there is no other day. -/
theorem covers_iff {day : Date} : windows.Covers day ↔ windows.previousStart ≤ day ∧
    day ≤ windows.end := by
  have hnext := Date.addDays?_eq_some_iff.mp windows.contiguous
  have hprevious := Date.toOrdinal_le_iff.mpr windows.previous_in_order
  have horder := Date.toOrdinal_le_iff.mpr windows.in_order
  unfold Covers
  rw [← Date.toOrdinal_le_iff, ← Date.toOrdinal_le_iff, ← Date.toOrdinal_le_iff,
    ← Date.toOrdinal_le_iff]
  omega

end AdjacentWindows

/-- The two lists of a movement. -/
inductive Direction
  | rising
  | falling
  deriving DecidableEq

/-- How large a change is in a direction. -/
def Direction.size : Direction → Int → Int
  | rising, change => change
  | falling, change => -change

/-! ## Channels -/

structure ChannelMovement where
  rising : List WebsiteChannelPerformance
  falling : List WebsiteChannelPerformance
  minimumSessions : Int

def ChannelMovement.listed (movement : ChannelMovement) : Direction → List WebsiteChannelPerformance
  | .rising => movement.rising
  | .falling => movement.falling

/-- `rank_channel_movement` -/
def rankChannelMovement (channels : List WebsiteChannelPerformance) (days : Int) (limit : Nat) :
    ChannelMovement :=
  let floor := minChannelSessionsFor days
  let eligible := channels.filter fun channel =>
    channel.sessionChange.isSome ∧ floor ≤ max channel.sessions (channel.previousSessions.getD 0)
  let change (channel : WebsiteChannelPerformance) := channel.sessionChange.getD 0
  { rising := (sortOn (fun channel => OrderDual.toDual (change channel))
      (eligible.filter (0 < change ·))).take limit
    falling := (sortOn change (eligible.filter (change · < 0))).take limit
    minimumSessions := floor }

section Channels

variable (stored : StoredDays) (windows : AdjacentWindows) (days : Int)

def sessionsIn (window : Date × Date) (channel : String) : Int :=
  amountOf rowSessions (channelIn stored channel window)

def moved (channel : String) : Int :=
  sessionsIn stored windows.current channel - sessionsIn stored windows.prior channel

def channelPopulation : List String :=
  (((currentChannels stored.rows).filter fun row => windows.Covers row.1).map (·.2.channel)).dedup

/-- The channels whose sessions rose, or fell, and cleared the floor in one of the windows. -/
def channelMovers (direction : Direction) : List String :=
  (channelPopulation stored windows).filter fun channel =>
    0 < direction.size (moved stored windows channel) ∧
      minChannelSessionsFor days ≤ max (sessionsIn stored windows.current channel)
        (sessionsIn stored windows.prior channel)

/-- A channel without sessions now, or with no row before. -/
def Lost (channel : String) : Prop :=
  sessionsIn stored windows.current channel = 0 ∨ channelIn stored channel windows.prior = []

instance (channel : String) : Decidable (Lost stored windows channel) :=
  inferInstanceAs (Decidable (_ ∨ _))

def keptMovers (direction : Direction) : List String :=
  (channelMovers stored windows days direction).filter fun channel => ¬Lost stored windows channel

/-- One ranking of the channels that moved, by the size of the move, has the listing in front,
however the rows are stored. -/
def ChannelLaw (siteSessions previousSiteSessions : Option Int) (limit : Nat)
    (direction : Direction) : Prop :=
  ∃ ranking : List String, ranking.Perm (channelMovers stored windows days direction) ∧
    (ranking.Pairwise fun a b =>
      direction.size (moved stored windows b) ≤ direction.size (moved stored windows a)) ∧
    ∀ (order : GroupOrder) (stored' : StoredDays),
      (currentChannels stored'.rows).Perm (currentChannels stored.rows) →
      ((rankChannelMovement
        (channelsOver order stored' windows.compared siteSessions previousSiteSessions) days
        limit).listed direction).map (·.channel) = ranking.take limit

end Channels

/-! ## Pages -/

structure WebsitePageMovement where
  path : String
  pageViews : Int
  previousPageViews : Int
  deriving DecidableEq

def WebsitePageMovement.change (page : WebsitePageMovement) : Int :=
  page.pageViews - page.previousPageViews

structure PageMovementResult where
  rising : List WebsitePageMovement
  falling : List WebsitePageMovement
  minimumPageViews : Int

def PageMovementResult.listed (movement : PageMovementResult) : Direction → List WebsitePageMovement
  | .rising => movement.rising
  | .falling => movement.falling

/-- The order of paths in the database, which tells any two apart. -/
structure PathOrder (κ : Type) where
  collate : String → κ
  injective : Function.Injective collate

section Pages

variable {κ : Type} [LinearOrder κ] (paths : PathOrder κ) (snapshots : List Ga4Snapshot)

/-- The rows that may be ranked, of the days both windows are in. -/
def movementRows (lower «end» : Date) : List (Date × PageRow) :=
  (currentPages snapshots).filter fun row => lower ≤ row.1 ∧ row.1 ≤ «end» ∧ rankable row.2.path

/-- `Coalesce(Sum("page_views", filter=...), Value(0))` -/
def viewsIn (rows : List (Date × PageRow)) (window : Date × Date) (path : String) : Int :=
  (sumOf pageViews (rows.filter fun row => row.2.path = path ∧ window.1 ≤ row.1 ∧
    row.1 ≤ window.2)).getD 0

/-- `get_page_movement` -/
def getPageMovement (start «end» previousStart previousEnd : Date) (limit : Nat) :
    PageMovementResult :=
  let floor := minPageViewsFor (windowDays start «end»)
  let rows := movementRows snapshots previousStart «end»
  let grouped := ((rows.map (·.2.path)).dedup.map fun path =>
    (⟨path, viewsIn rows (start, «end») path, viewsIn rows (previousStart, previousEnd) path⟩ :
      WebsitePageMovement)).filter fun page => floor ≤ page.pageViews ∨
      floor ≤ page.previousPageViews
  { rising := (sortOn (fun page => toLex (OrderDual.toDual page.change, paths.collate page.path))
      (grouped.filter (0 < ·.change))).take limit
    falling :=
      (sortOn (fun page => toLex (page.change, paths.collate page.path))
        (grouped.filter (·.change < 0))).take limit
    minimumPageViews := floor }

variable (windows : AdjacentWindows)

def pageMoved (path : String) : Int :=
  amountOf pageViews (pathRows snapshots windows.start windows.end path) -
    amountOf pageViews (pathRows snapshots windows.previousStart windows.previousEnd path)

/-- Every path that may be ranked and has a row in either window. -/
def pagePopulation : List String :=
  (((currentPages snapshots).filter fun row => windows.Covers row.1 ∧ rankable row.2.path).map
    (·.2.path)).dedup

/-- The paths whose views rose, or fell, and cleared the floor in one of the windows. -/
def pageMovers (direction : Direction) : List String :=
  (pagePopulation snapshots windows).filter fun path =>
    0 < direction.size (pageMoved snapshots windows path) ∧
      minPageViewsFor (windowDays windows.start windows.end) ≤
        max (amountOf pageViews (pathRows snapshots windows.start windows.end path))
          (amountOf pageViews (pathRows snapshots windows.previousStart windows.previousEnd path))

/-- One ranking of the paths that moved, by the size of the move, has the listing in front, however
the rows are stored. -/
def PageLaw (limit : Nat) (direction : Direction) : Prop :=
  ∃ ranking : List String, ranking.Perm (pageMovers snapshots windows direction) ∧
    (ranking.Pairwise fun a b =>
      direction.size (pageMoved snapshots windows b) ≤ direction.size
        (pageMoved snapshots windows a)) ∧
    ∀ snapshots' : List Ga4Snapshot, (currentPages snapshots').Perm (currentPages snapshots) →
      ((getPageMovement paths snapshots' windows.start windows.end windows.previousStart
        windows.previousEnd limit).listed
        direction).map (·.path) = ranking.take limit

end Pages

/-! ## What a channel listing is -/

section Listed

variable {stored stored' : StoredDays} {windows : AdjacentWindows} {days : Int} {limit : Nat}
  {siteSessions previousSiteSessions : Option Int}

/-- Both lists are sorted by the size of the change. -/
theorem listed_rankChannelMovement (channels : List WebsiteChannelPerformance)
    (direction : Direction) :
    (rankChannelMovement channels days limit).listed direction =
      (sortOn (fun channel => OrderDual.toDual (direction.size (channel.sessionChange.getD 0)))
        (channels.filter fun channel => (channel.sessionChange.isSome ∧
            minChannelSessionsFor days ≤ max channel.sessions (channel.previousSessions.getD 0)) ∧
          0 < direction.size (channel.sessionChange.getD 0))).take limit := by
  unfold rankChannelMovement
  cases direction with
  | rising =>
    show (sortOn _ (List.filter _ (channels.filter _))).take limit = _
    rw [List.filter_filter]
    refine congrArg (fun kept => (sortOn _ kept).take limit) (List.filter_congr fun channel _ => ?_)
    rw [← Bool.decide_and]
    exact decide_eq_decide.mpr and_comm
  | falling =>
    show (sortOn _ (List.filter _ (channels.filter _))).take limit = _
    rw [List.filter_filter]
    have hkept : (channels.filter fun channel =>
        decide (channel.sessionChange.getD 0 < 0) && decide (channel.sessionChange.isSome ∧
        minChannelSessionsFor days ≤ max channel.sessions (channel.previousSessions.getD 0))) =
      channels.filter fun channel => (channel.sessionChange.isSome ∧
          minChannelSessionsFor days ≤ max channel.sessions (channel.previousSessions.getD 0)) ∧
        0 < Direction.falling.size (channel.sessionChange.getD 0) := by
      refine List.filter_congr fun channel _ => ?_
      rw [← Bool.decide_and]
      exact decide_eq_decide.mpr (and_comm.trans (and_congr_right fun _ => neg_pos.symm))
    rw [hkept]
    refine congrArg (List.take limit) (sortOn_congr (List.pairwise_of_forall fun a b => ?_))
    exact neg_le_neg_iff.symm

theorem channelIn_perm (hperm : (currentChannels stored'.rows).Perm (currentChannels stored.rows))
    (channel : String)
    (window : Date × Date) : (channelIn stored' channel window).Perm
      (channelIn stored channel window) := hperm.filter _

theorem sessionsIn_perm (hperm : (currentChannels stored'.rows).Perm (currentChannels stored.rows))
    (window : Date × Date)
    (channel : String) : sessionsIn stored' window channel = sessionsIn stored window channel :=
  total_perm _ (channelIn_perm hperm channel window)

def performanceOf (stored : StoredDays) (windows : AdjacentWindows)
    (siteSessions previousSiteSessions : Option Int)
    (channel : String) : WebsiteChannelPerformance :=
  channelPerformance (currentChannels stored.rows) windows.start windows.end
    (some windows.prior) siteSessions
    previousSiteSessions channel

@[simp] theorem sessions_performanceOf (channel : String) :
    (performanceOf stored windows siteSessions previousSiteSessions channel).sessions =
      sessionsIn stored windows.current channel := getD_sumOf _

/-- A channel that has no row before is compared with nothing. -/
theorem previousSessions_performanceOf (channel : String) :
    (performanceOf stored windows siteSessions previousSiteSessions channel).previousSessions =
      if channelIn stored channel windows.prior = [] then none else
        some (sessionsIn stored windows.prior channel) := by
  show sumOf rowSessions (channelIn stored channel windows.prior) = _
  rw [sumOf_eq]
  refine if_congr ?_ rfl rfl
  constructor
  · intro h
    exact List.eq_nil_iff_forall_not_mem.mpr fun row hrow => Option.some_ne_none _ (h row hrow)
  · intro h row hrow
    rw [h] at hrow
    exact absurd hrow List.not_mem_nil

def Kept (stored : StoredDays) (windows : AdjacentWindows) (days : Int) (direction : Direction)
    (channel : String) : Prop :=
  (0 < direction.size (moved stored windows channel) ∧
    minChannelSessionsFor days ≤ max (sessionsIn stored windows.current channel)
      (sessionsIn stored windows.prior channel)) ∧
  ¬Lost stored windows channel

instance (direction : Direction) (channel : String) :
    Decidable (Kept stored windows days direction channel) :=
  inferInstanceAs (Decidable (_ ∧ _))

theorem sessionChange_of_kept {channel : String} (h : ¬Lost stored windows channel) :
    (performanceOf stored windows siteSessions previousSiteSessions channel).sessionChange =
      some (moved stored windows channel) := by
  unfold WebsiteChannelPerformance.sessionChange
  rw [previousSessions_performanceOf, if_neg fun hnil => h (Or.inr hnil), sessions_performanceOf]
  rfl

/-- A channel is listed where it has sessions, a change to compare, and enough of both. -/
theorem kept_iff (direction : Direction) (channel : String) :
    let performance := performanceOf stored windows siteSessions previousSiteSessions channel
    (((performance.sessionChange.isSome ∧
        minChannelSessionsFor days ≤ max performance.sessions
          (performance.previousSessions.getD 0)) ∧
      0 < direction.size (performance.sessionChange.getD 0)) ∧ performance.sessions ≠ 0) ↔
      Kept stored windows days direction channel := by
  dsimp only
  by_cases hlost : Lost stored windows channel
  · refine iff_of_false (fun h => ?_) fun h => h.2 hlost
    rcases hlost with hzero | hnone
    · exact h.2 ((sessions_performanceOf channel).trans hzero)
    · have hchange := h.1.1.1
      unfold WebsiteChannelPerformance.sessionChange at hchange
      rw [previousSessions_performanceOf, if_pos hnone] at hchange
      exact absurd hchange Bool.false_ne_true
  · have hprior : channelIn stored channel windows.prior ≠ [] := fun hnil => hlost (Or.inr hnil)
    have hcurrent : sessionsIn stored windows.current channel ≠ 0 :=
      fun hzero => hlost (Or.inl hzero)
    rw [sessionChange_of_kept hlost, previousSessions_performanceOf, if_neg hprior,
      sessions_performanceOf]
    unfold Kept
    simp only [Option.isSome_some, Option.getD_some, true_and, hcurrent, ne_eq, not_false_eq_true,
      and_true, hlost]
    exact and_comm

/-- The order a listing is in: the size of the change, and then the sessions. -/
def sizeKey (stored : StoredDays) (windows : AdjacentWindows) (direction : Direction)
    (channel : String) : Intᵒᵈ :=
  OrderDual.toDual (direction.size (moved stored windows channel))

def sessionsKey (stored : StoredDays) (windows : AdjacentWindows) (channel : String) : Intᵒᵈ :=
  OrderDual.toDual (sessionsIn stored windows.current channel)

/-- The groups the query is handed. -/
def groupsOf (stored : StoredDays) (windows : AdjacentWindows) : List String :=
  ((channelRows stored.rows windows.previousStart windows.end).map (·.2.channel)).dedup

theorem channelsOver_eq (order : GroupOrder) :
    channelsOver order stored windows.compared siteSessions previousSiteSessions =
      ((sortOn (sessionsKey stored windows) (order.arrange (groupsOf stored windows))).map
        (performanceOf stored windows siteSessions previousSiteSessions)).filter
          (·.sessions ≠ 0) := by
  have hgroups : (order.arrange (groupsOf stored windows)).map
      (channelPerformance (channelRows stored.rows windows.previousStart windows.end)
        windows.start windows.end
        (some windows.prior) siteSessions previousSiteSessions) =
      (order.arrange (groupsOf stored windows)).map
        (performanceOf stored windows siteSessions previousSiteSessions) :=
    List.map_congr_left fun channel _ =>
      @channelPerformance_channelRows stored windows.compared _ _ channel
  have hkey : (fun channel : String =>
      OrderDual.toDual
        (performanceOf stored windows siteSessions previousSiteSessions channel).sessions) =
      sessionsKey stored windows := by
    funext channel
    rw [sessions_performanceOf]
    rfl
  show (sortOn _
    (List.map
      (channelPerformance (channelRows stored.rows windows.previousStart windows.end) windows.start
    windows.end (some windows.prior) siteSessions previousSiteSessions)
      (order.arrange (groupsOf stored windows)))).filter _ = _
  rw [hgroups, sortOn_map, hkey]

/-- The channels listed are the first of those kept. -/
theorem names_listed (order : GroupOrder) (direction : Direction) :
    ((rankChannelMovement (channelsOver order stored windows.compared siteSessions
      previousSiteSessions) days limit).listed
        direction).map (·.channel) =
      (listing (sizeKey stored windows direction) (sessionsKey stored windows)
        ((order.arrange (groupsOf stored windows)).filter fun channel =>
          Kept stored windows days direction channel)).take
        limit := by
  rw [listed_rankChannelMovement, channelsOver_eq, List.filter_filter, List.filter_map]
  have hkept :
      (sortOn (sessionsKey stored windows) (order.arrange (groupsOf stored windows))).filter
      ((fun channel : WebsiteChannelPerformance => decide ((channel.sessionChange.isSome ∧
          minChannelSessionsFor days ≤ max channel.sessions (channel.previousSessions.getD 0)) ∧
        0 < direction.size (channel.sessionChange.getD 0)) && decide (channel.sessions ≠ 0)) ∘
          performanceOf stored windows siteSessions previousSiteSessions) =
      sortOn (sessionsKey stored windows)
        ((order.arrange (groupsOf stored windows)).filter fun channel =>
        Kept stored windows days direction channel) := by
    rw [← filter_sortOn]
    refine List.filter_congr fun channel _ => ?_
    rw [Function.comp_apply, ← Bool.decide_and]
    exact decide_eq_decide.mpr (kept_iff direction channel)
  rw [hkept, sortOn_map, List.map_take, List.map_map]
  have hname : (fun channel : WebsiteChannelPerformance => channel.channel) ∘
      performanceOf stored windows siteSessions previousSiteSessions = id := rfl
  rw [hname, List.map_id]
  unfold listing
  refine congrArg (List.take limit)
    (sortOn_congr (List.pairwise_of_forall_mem_list fun a ha b hb => ?_))
  have hchange : ∀ channel ∈ sortOn (sessionsKey stored windows)
      ((order.arrange (groupsOf stored windows)).filter fun channel =>
      Kept stored windows days direction channel),
      (performanceOf stored windows siteSessions previousSiteSessions
        channel).sessionChange.getD 0 =
        moved stored windows channel := by
    intro channel hchannel
    have hchannel := of_decide_eq_true (List.mem_filter.mp (mem_sortOn.mp hchannel)).2
    rw [sessionChange_of_kept hchannel.2]
    rfl
  rw [hchange a ha, hchange b hb]
  exact Iff.rfl

/-! ## The law of the channels -/

theorem groupsOf_eq (stored : StoredDays) (windows : AdjacentWindows) :
    groupsOf stored windows = channelPopulation stored windows := by
  unfold groupsOf channelRows channelPopulation
  rw [List.filter_congr fun row _ => decide_eq_decide.mpr windows.covers_iff.symm]

theorem keptMovers_eq (stored : StoredDays) (windows : AdjacentWindows) (days : Int)
    (direction : Direction) :
    keptMovers stored windows days direction =
      (groupsOf stored windows).filter fun channel =>
        Kept stored windows days direction channel := by
  unfold keptMovers channelMovers
  rw [groupsOf_eq, List.filter_filter]
  refine List.filter_congr fun channel _ => ?_
  rw [← Bool.decide_and]
  exact decide_eq_decide.mpr and_comm

theorem groupsOf_perm (hperm : (currentChannels stored'.rows).Perm (currentChannels stored.rows)) :
    (groupsOf stored' windows).Perm (groupsOf stored windows) := ((hperm.filter _).map _).dedup

theorem moved_perm (hperm : (currentChannels stored'.rows).Perm (currentChannels stored.rows)) :
    moved stored' windows = moved stored windows := by
  funext channel
  unfold moved
  rw [sessionsIn_perm hperm, sessionsIn_perm hperm]

theorem kept_perm (hperm : (currentChannels stored'.rows).Perm (currentChannels stored.rows))
    {direction : Direction}
    {channel : String} : Kept stored' windows days direction channel ↔
    Kept stored windows days direction channel := by
  have hnil : channelIn stored' channel windows.prior = [] ↔
      channelIn stored channel windows.prior = [] := by
    rw [← List.length_eq_zero_iff, (channelIn_perm hperm channel windows.prior).length_eq,
      List.length_eq_zero_iff]
  unfold Kept Lost
  rw [moved_perm hperm, sessionsIn_perm hperm, sessionsIn_perm hperm, hnil]

/-- However the rows are stored, a listing is one of the kept channels in some order. -/
theorem names_of_perm (hperm : (currentChannels stored'.rows).Perm (currentChannels stored.rows))
    (order : GroupOrder)
    (direction : Direction) : ∃ rows : List String,
      rows.Perm (keptMovers stored windows days direction) ∧
    ((rankChannelMovement (channelsOver order stored' windows.compared siteSessions
      previousSiteSessions) days limit).listed
        direction).map (·.channel) =
      (listing (sizeKey stored windows direction) (sessionsKey stored windows)
        rows).take limit := by
  have hsize : sizeKey stored' windows direction = sizeKey stored windows direction := by
    unfold sizeKey
    rw [moved_perm hperm]
  have hsessions : sessionsKey stored' windows = sessionsKey stored windows := by
    unfold sessionsKey
    funext channel
    rw [sessionsIn_perm hperm]
  have hkept : ((order.arrange (groupsOf stored' windows)).filter fun channel =>
      Kept stored' windows days direction channel) =
      (order.arrange (groupsOf stored' windows)).filter fun channel =>
          Kept stored windows days direction channel :=
    List.filter_congr fun channel _ => decide_eq_decide.mpr (kept_perm hperm)
  have hnames := @names_listed stored' windows days limit siteSessions previousSiteSessions
    order direction
  rw [hsize, hsessions, hkept] at hnames
  refine ⟨_, ?_, hnames⟩
  rw [keptMovers_eq]
  exact ((order.perm _).trans (groupsOf_perm hperm)).filter _

/-- Every order of the kept channels is one the database may hand out. -/
theorem exists_order {rows : List String} {direction : Direction}
    (hrows : rows.Perm (keptMovers stored windows days direction)) :
    ∃ order : GroupOrder, ((order.arrange (groupsOf stored windows)).filter fun channel =>
      Kept stored windows days direction channel) = rows := by
  rw [keptMovers_eq] at hrows
  have hperm : (rows ++ (groupsOf stored windows).filter fun channel =>
      ¬Kept stored windows days direction channel).Perm
      (groupsOf stored windows) := by
    refine (hrows.append_right _).trans ?_
    have hsplit :=
      List.filter_append_perm (fun channel => decide (Kept stored windows days direction channel))
      (groupsOf stored windows)
    simpa only [decide_not] using hsplit
  refine ⟨⟨fun groups => if groups = groupsOf stored windows then
    rows ++ (groupsOf stored windows).filter fun channel =>
      ¬Kept stored windows days direction channel
    else groups, fun groups => ?_⟩, ?_⟩
  · by_cases h : groups = groupsOf stored windows
    · rw [if_pos h, h]
      exact hperm
    · rw [if_neg h]
  · have hself : rows.filter (fun channel => Kept stored windows days direction channel) = rows :=
      List.filter_eq_self.mpr fun channel hchannel =>
        (List.mem_filter.mp (hrows.mem_iff.mp hchannel)).2
    dsimp only
    rw [if_pos rfl, List.filter_append, hself, List.filter_filter]
    have hnone : (groupsOf stored windows).filter
        (fun channel => decide (Kept stored windows days direction channel) &&
        decide ¬Kept stored windows days direction channel) = [] :=
      List.filter_eq_nil_iff.mpr fun channel _ => by simp
    rw [hnone, List.append_nil]

/-- The law holds of a direction exactly where no lost channel and no tie reaches the front. -/
theorem channelLaw_iff (direction : Direction) :
    ChannelLaw stored windows days siteSessions previousSiteSessions limit direction ↔
      LeftBehind (sizeKey stored windows direction) limit
        (channelMovers stored windows days direction)
          (keptMovers stored windows days direction) ∧
        TiesBehind (sizeKey stored windows direction) (sessionsKey stored windows) limit
          (keptMovers stored windows days direction) := by
  have hmovers : (channelMovers stored windows days direction).Nodup :=
    (List.nodup_dedup _).filter _
  have hkept : (keptMovers stored windows days direction).Nodup := hmovers.filter _
  rw [← exists_ranking_iff hmovers hkept fun channel hchannel => List.mem_of_mem_filter hchannel]
  refine exists_congr fun ranking => and_congr_right fun _ => and_congr Iff.rfl ?_
  constructor
  · intro h rows hrows
    obtain ⟨order, horder⟩ := exists_order hrows
    have hlisted := h order stored (List.Perm.refl _)
    rw [names_listed, horder] at hlisted
    exact hlisted
  · intro h order stored' hperm
    obtain ⟨rows, hrows, hlisted⟩ :=
      @names_of_perm stored stored' windows days limit siteSessions previousSiteSessions hperm
      order direction
    exact hlisted.trans (h rows hrows)

end Listed

/-! ## The law of the pages -/

section PageLaw

variable {κ : Type} [LinearOrder κ] {paths : PathOrder κ} {snapshots snapshots' : List Ga4Snapshot}
  {windows : AdjacentWindows}
  {limit : Nat}

/-- The views of a path in one of the windows are those of all its rows there. -/
theorem viewsIn_movementRows {window : Date × Date} (hstart : windows.previousStart ≤ window.1)
    (hend : window.2 ≤ windows.end)
    (path : String) : viewsIn (movementRows snapshots windows.previousStart windows.end)
      window path =
      amountOf pageViews (pathRows snapshots window.1 window.2 path) := by
  unfold viewsIn
  rw [getD_sumOf]
  unfold movementRows pathRows
  rw [List.filter_filter]
  refine congrArg (amountOf pageViews) (List.filter_congr fun row _ => ?_)
  rw [← Bool.decide_and]
  refine decide_eq_decide.mpr ⟨fun h => ⟨h.1.2.1, h.1.2.2, h.2.2.2, h.1.1⟩, fun h =>
    ⟨⟨h.2.2.2, h.1, h.2.1⟩, ?_⟩⟩
  exact ⟨hstart.trans h.1, h.2.1.trans hend, h.2.2.1⟩

def movementOf (snapshots : List Ga4Snapshot) (windows : AdjacentWindows) (path : String) :
    WebsitePageMovement :=
  ⟨path, amountOf pageViews (pathRows snapshots windows.start windows.end path),
    amountOf pageViews (pathRows snapshots windows.previousStart windows.previousEnd path)⟩

/-- A direction is sorted by the size of the change, and then by path. -/
def pageKey (paths : PathOrder κ) (snapshots : List Ga4Snapshot) (windows : AdjacentWindows)
    (direction : Direction)
    (path : String) : Intᵒᵈ ×ₗ κ :=
  toLex (OrderDual.toDual (direction.size (pageMoved snapshots windows path)), paths.collate path)

def pageRowsOf (snapshots : List Ga4Snapshot) (windows : AdjacentWindows) :
    List WebsitePageMovement :=
  ((pagePopulation snapshots windows).map (movementOf snapshots windows)).filter fun page =>
    minPageViewsFor (windowDays windows.start windows.end) ≤ page.pageViews ∨
      minPageViewsFor (windowDays windows.start windows.end) ≤ page.previousPageViews

theorem pagePopulation_eq (snapshots : List Ga4Snapshot) (windows : AdjacentWindows) :
    pagePopulation snapshots windows =
      ((movementRows snapshots windows.previousStart windows.end).map (·.2.path)).dedup := by
  unfold pagePopulation movementRows
  refine congrArg (fun rows : List (Date × PageRow) => (rows.map (·.2.path)).dedup)
    (List.filter_congr fun row _ => ?_)
  refine decide_eq_decide.mpr ?_
  rw [windows.covers_iff]
  exact and_assoc

theorem pageRowsOf_eq (snapshots : List Ga4Snapshot) (windows : AdjacentWindows) :
    (((movementRows snapshots windows.previousStart windows.end).map
      (·.2.path)).dedup.map fun path =>
      (⟨path, viewsIn (movementRows snapshots windows.previousStart windows.end)
        (windows.start, windows.end) path,
        viewsIn (movementRows snapshots windows.previousStart windows.end)
          (windows.previousStart, windows.previousEnd)
          path⟩ : WebsitePageMovement)).filter (fun page =>
        minPageViewsFor (windowDays windows.start windows.end) ≤ page.pageViews ∨
          minPageViewsFor (windowDays windows.start windows.end) ≤ page.previousPageViews) =
      pageRowsOf snapshots windows := by
  obtain ⟨hstart, hend⟩ := windows.compared.previous_le (Option.mem_some.mpr rfl)
  unfold pageRowsOf
  rw [pagePopulation_eq]
  refine congrArg (List.filter _) (List.map_congr_left fun path _ => ?_)
  have hcurrent := @viewsIn_movementRows snapshots windows windows.current hstart (le_refl _) path
  have hprior := @viewsIn_movementRows snapshots windows windows.prior (le_refl _) hend path
  exact WebsitePageMovement.mk.injEq .. ▸ ⟨rfl, hcurrent, hprior⟩

/-- Both lists are sorted by the size of the change, and then by path. -/
theorem listed_getPageMovement (direction : Direction) :
    (getPageMovement paths snapshots windows.start windows.end windows.previousStart
      windows.previousEnd limit).listed
        direction =
      (sortOn
        (fun page => toLex (OrderDual.toDual (direction.size page.change), paths.collate page.path))
        ((pageRowsOf snapshots windows).filter fun page =>
          0 < direction.size page.change)).take limit := by
  unfold getPageMovement
  dsimp only
  rw [pageRowsOf_eq]
  cases direction with
  | rising => rfl
  | falling =>
    have hfell : ((pageRowsOf snapshots windows).filter fun page => page.change < 0) =
        (pageRowsOf snapshots windows).filter fun page => 0 < Direction.falling.size page.change :=
      List.filter_congr fun page _ => decide_eq_decide.mpr neg_pos.symm
    show (sortOn _ (List.filter _ _)).take limit = _
    rw [hfell]
    refine congrArg (List.take limit) (sortOn_congr (List.pairwise_of_forall fun a b => ?_))
    rw [Prod.Lex.toLex_le_toLex, Prod.Lex.toLex_le_toLex]
    refine or_congr neg_lt_neg_iff.symm (and_congr_left fun _ => ?_)
    exact neg_inj.symm

/-- The paths listed are the first of those that moved. -/
theorem paths_listed (direction : Direction) :
    ((getPageMovement paths snapshots windows.start windows.end windows.previousStart
      windows.previousEnd limit).listed
        direction).map (·.path) =
      (sortOn (pageKey paths snapshots windows direction)
        (pageMovers snapshots windows direction)).take limit := by
  have hmovers : (pageRowsOf snapshots windows).filter
      (fun page => 0 < direction.size page.change) =
      (pageMovers snapshots windows direction).map (movementOf snapshots windows) := by
    unfold pageRowsOf pageMovers
    rw [List.filter_filter, List.filter_map]
    refine congrArg (List.map _) (List.filter_congr fun path _ => ?_)
    rw [Function.comp_apply, ← Bool.decide_and]
    exact decide_eq_decide.mpr (and_congr Iff.rfl le_max_iff.symm)
  rw [listed_getPageMovement, hmovers, sortOn_map, List.map_take, List.map_map]
  have hname : (fun page : WebsitePageMovement => page.path) ∘ movementOf snapshots
    windows = id := rfl
  rw [hname, List.map_id]
  rfl

/-- Pages are asked of their whole population. -/
theorem pageLaw (paths : PathOrder κ) (snapshots : List Ga4Snapshot) (windows : AdjacentWindows)
    (limit : Nat)
    (direction : Direction) : PageLaw paths snapshots windows limit direction := by
  refine ⟨sortOn (pageKey paths snapshots windows direction)
    (pageMovers snapshots windows direction), perm_sortOn _ _, ?_, ?_⟩
  · refine (pairwise_sortOn _ _).imp fun {a b} hab => ?_
    rcases Prod.Lex.toLex_le_toLex.mp hab with hlt | ⟨heq, -⟩
    · exact le_of_lt hlt
    · exact le_of_eq heq.symm
  · intro snapshots' hperm
    have hviews (start «end» : Date) (path : String) :
        amountOf pageViews (pathRows snapshots' start «end» path) =
        amountOf pageViews (pathRows snapshots start «end» path) := total_perm _ (hperm.filter _)
    have hmoved : pageMoved snapshots' windows = pageMoved snapshots windows := by
      funext path
      unfold pageMoved
      rw [hviews, hviews]
    have hkey : pageKey paths snapshots' windows direction =
        pageKey paths snapshots windows direction := by
      unfold pageKey
      rw [hmoved]
    have hmovers : (pageMovers snapshots' windows direction).Perm
        (pageMovers snapshots windows direction) := by
      unfold pageMovers
      simp only [hmoved, hviews]
      exact ((hperm.filter _).map _).dedup.filter _
    have hkeys :
        ((pageMovers snapshots' windows direction).map
          (pageKey paths snapshots windows direction)).Nodup := by
      refine List.Nodup.map_on (fun a _ b _ heq => ?_) ((List.nodup_dedup _).filter _)
      exact paths.injective (congrArg Prod.snd (toLex.injective heq))
    rw [paths_listed, hkey, sortOn_eq_of_perm hmovers hkeys]

end PageLaw

/-- Both lists of the channels, and both of the pages, are the front of one ranking of all that
moved, exactly where no channel that is lost or tied reaches the front of the channels'. -/
theorem movement_iff {κ : Type} [LinearOrder κ] (paths : PathOrder κ) (stored : StoredDays)
    (windows : AdjacentWindows) (days : Int) (limit : Nat)
    (siteSessions previousSiteSessions : Option Int) :
    (∀ direction, ChannelLaw stored windows days siteSessions previousSiteSessions limit direction ∧
        ∀ limit, PageLaw paths stored.rows windows limit direction) ↔
      ∀ direction, LeftBehind (sizeKey stored windows direction) limit
        (channelMovers stored windows days direction)
          (keptMovers stored windows days direction) ∧
        TiesBehind (sizeKey stored windows direction) (sessionsKey stored windows) limit
          (keptMovers stored windows days direction) := by
  refine forall_congr' fun direction => ?_
  rw [and_iff_left fun limit => pageLaw paths stored.rows windows limit direction, channelLaw_iff]

/-! ## A channel that appears -/

/-- A day of a window was collected by channel. -/
def CarriesChannels (stored : StoredDays) (window : Date × Date) : Prop :=
  ∃ row ∈ currentDays stored.rows, row.content.hasChannelDetail = true ∧ window.1 ≤ row.day ∧
    row.day ≤ window.2

def sampleChannels (day : Date) (channels : List ChannelRow) : Ga4Snapshot :=
  { sampleRow day none none with
    content := ⟨⟨none, none, none, none, none, none⟩, false, true, [], channels⟩ }

/-- On the second day a channel is there that was not on the first. -/
def sampleArrival : StoredDays where
  rows := [sampleChannels sampleFirst [⟨"Direct", 100, none⟩],
    sampleChannels sampleLast [⟨"Direct", 130, none⟩, ⟨"Paid Search", 400, none⟩]]
  one_source := by decide
  one_current := by decide
  unsigned := by
    intro row hrow
    have hcases : row = sampleChannels sampleFirst [⟨"Direct", 100, none⟩] ∨
        row = sampleChannels sampleLast [⟨"Direct", 130, none⟩, ⟨"Paid Search", 400, none⟩] := by
      simpa using hrow
    refine ⟨?_, ?_, ?_⟩
      <;> rcases hcases with h | h <;> subst h <;> simp [sampleChannels, siteFigures]
  one_channel := by decide

def sampleAdjacent : AdjacentWindows where
  previousStart := sampleFirst
  previousEnd := sampleFirst
  start := sampleLast
  «end» := sampleLast
  previous_in_order := le_refl _
  in_order := le_refl _
  contiguous := by decide +kernel

/-- The arrival is the largest rise, and the listing does not have it. -/
theorem arrival_unlisted : ¬∀ (stored : StoredDays) (windows : AdjacentWindows),
    CarriesChannels stored windows.current →
    CarriesChannels stored windows.prior → ∀ direction,
      ChannelLaw stored windows (windowDays windows.start windows.end) none none 5 direction ∧
        ∀ limit, PageLaw ⟨id, Function.injective_id⟩ stored.rows windows limit direction := by
  intro h
  have hcarries : CarriesChannels sampleArrival sampleAdjacent.current ∧
      CarriesChannels sampleArrival sampleAdjacent.prior := by
    refine ⟨⟨_, List.mem_cons_of_mem _ List.mem_cons_self, rfl, le_refl _, le_refl _⟩,
      ⟨_, List.mem_cons_self, rfl, ?_⟩⟩
    exact ⟨le_refl _, le_refl _⟩
  obtain ⟨ranking, hperm, -, hlisted⟩ :=
    (h sampleArrival sampleAdjacent hcarries.1 hcarries.2 .rising).1
  have hcode := hlisted sampleOrder sampleArrival (List.Perm.refl _)
  have hmovers :
      (channelMovers sampleArrival sampleAdjacent (windowDays sampleLast sampleLast)
        .rising).length = 2 := by
    decide +kernel
  have hnames :
      (((rankChannelMovement
        (channelsOver sampleOrder sampleArrival sampleAdjacent.compared none none)
      (windowDays sampleLast sampleLast) 5).listed .rising).map (·.channel)).length = 1 := by
        decide +kernel
  have hlength := hperm.length_eq.trans hmovers
  have hlong := congrArg List.length hcode
  rw [List.length_take, hlength] at hlong
  exact absurd (hnames.symm.trans hlong) (by decide)

end Dashkoda.Visibility.Website
