import Dashkoda.Lib.NullableSums
import Dashkoda.Visibility.TopPages
import Dashkoda.Visibility.WebsitePeriods

/-!
# What the stored history says about how the website is used

Site totals, channels, pages and a series, each with its ratios.  A sum over nothing is none, and a
ratio is one over matched sums where the rows that carry one of its two figures alone leave it as it
is.
-/

open Lib

namespace Dashkoda.Visibility

open EventProgramme (Ga4Snapshot currentDays currentPages)

namespace Website

/-! ## What is stored -/

/-- The figures of a day that may be absent. -/
def siteFigures (site : SiteFigures) : List (Option Int) :=
  [site.sessions, site.activeUsers, site.newUsers, site.pageViews, site.engagedSessions,
    site.userEngagementSeconds]

/-- Every column of figures is a `PositiveIntegerField`. -/
structure Unsigned (day : Ga4Day) : Prop where
  site : ∀ figure ∈ siteFigures day.site, ∀ n ∈ figure, 0 ≤ n
  pages : ∀ row ∈ day.pages, 0 ≤ row.pageViews ∧ (∀ n ∈ row.activeUsers, 0 ≤ n) ∧
    ∀ n ∈ row.userEngagementSeconds, 0 ≤ n
  channels : ∀ row ∈ day.channels, 0 ≤ row.sessions ∧ ∀ n ∈ row.engagedSessions, 0 ≤ n

/-- The revisions of the days, as the table can hold them. -/
structure StoredDays extends SiteSnapshots where
  unsigned : ∀ row ∈ rows, Unsigned row.content
  /-- `ga4channel_unique_channel_per_snapshot` -/
  one_channel : ∀ row ∈ rows, (row.content.channels.map (·.channel)).Nodup

/-- A window, and the one right before it where they are compared. -/
structure ComparedWindows where
  start : Date
  «end» : Date
  previous : Option (Date × Date)
  in_order : start ≤ «end»
  contiguous : ∀ window ∈ previous, window.1 ≤ window.2 ∧ Date.addDays? 1 window.2 = some start

def ComparedWindows.previousStart (windows : ComparedWindows) : Option Date :=
  windows.previous.map Prod.fst

def ComparedWindows.previousEnd (windows : ComparedWindows) : Option Date :=
  windows.previous.map Prod.snd

def currentChannels (snapshots : List Ga4Snapshot) : List (Date × ChannelRow) :=
  (currentDays snapshots).flatMap fun snapshot => snapshot.content.channels.map fun channel =>
    (snapshot.day, channel)

/-! ## Thresholds -/

def MIN_PAGE_VIEW_RATE_PER_DAY : Nat := 1

def MIN_PAGE_VIEWS_FLOOR : Nat := 10

def MIN_CHANNEL_SESSION_RATE_PER_DAY : Nat := 5

def MIN_CHANNEL_SESSIONS_FLOOR : Nat := 25

/-- `(end - start).days + 1` -/
def windowDays (start «end» : Date) : Int := («end».toOrdinal : Int) - start.toOrdinal + 1

/-- `min_page_views_for` -/
def minPageViewsFor (days : Int) : Int :=
  max MIN_PAGE_VIEWS_FLOOR (MIN_PAGE_VIEW_RATE_PER_DAY * max days 0)

/-- `min_channel_sessions_for` -/
def minChannelSessionsFor (days : Int) : Int :=
  max MIN_CHANNEL_SESSIONS_FLOOR (MIN_CHANNEL_SESSION_RATE_PER_DAY * max days 0)

/-! ## Site-wide totals -/

structure WebsiteTrafficSummary where
  start : Option Date
  «end» : Option Date
  days : Nat
  sessions : Option Int
  pageViews : Option Int
  engagedSessions : Option Int
  engagementSeconds : Option Int
  peakActiveUsers : Option Int
  peakActiveUsersOn : Option Date
  sessionsWithEngaged : Option Int
  sessionsWithSeconds : Option Int
  deriving DecidableEq

def WebsiteTrafficSummary.engagementRate (summary : WebsiteTrafficSummary) : Option ℚ :=
  ratio summary.engagedSessions summary.sessionsWithEngaged

def WebsiteTrafficSummary.secondsPerSession (summary : WebsiteTrafficSummary) : Option ℚ :=
  ratio summary.engagementSeconds summary.sessionsWithSeconds

def WebsiteTrafficSummary.viewsPerSession (summary : WebsiteTrafficSummary) : Option ℚ :=
  ratio summary.pageViews summary.sessions

section Figures

variable (snapshot : Ga4Snapshot)

def daySessions : Option Int := snapshot.content.site.sessions

def dayPageViews : Option Int := snapshot.content.site.pageViews

def dayEngaged : Option Int := snapshot.content.site.engagedSessions

def daySeconds : Option Int := snapshot.content.site.userEngagementSeconds

def dayActiveUsers : Option Int := snapshot.content.site.activeUsers

end Figures

/-- `get_traffic_summary` -/
def getTrafficSummary (snapshots : SiteSnapshots) : Option Date → Option Date →
    WebsiteTrafficSummary
  | some start, some «end» =>
    let rows := daysInside snapshots start «end»
    let busiest := maxOf dayActiveUsers rows
    { start := some start
      «end» := some «end»
      days := rows.length
      sessions := sumOf daySessions rows
      pageViews := sumOf dayPageViews rows
      engagedSessions := sumOf dayEngaged rows
      engagementSeconds := sumOf daySeconds rows
      peakActiveUsers := busiest
      peakActiveUsersOn := busiest.bind fun users =>
        ((rows.filter fun row => dayActiveUsers row = some users).map (·.day)).min?
      sessionsWithEngaged := sumOf daySessions (rows.filter fun row => (dayEngaged row).isSome)
      sessionsWithSeconds := sumOf daySessions (rows.filter fun row => (daySeconds row).isSome) }
  | start, «end» => ⟨start, «end», 0, none, none, none, none, none, none, none, none⟩

/-! ## Acquisition channels -/

structure WebsiteChannelPerformance where
  channel : String
  sessions : Int
  engagedSessions : Option Int
  previousSessions : Option Int
  previousEngagedSessions : Option Int
  share : Option ℚ
  previousShare : Option ℚ
  deriving DecidableEq

namespace WebsiteChannelPerformance

variable (channel : WebsiteChannelPerformance)

def engagementRate : Option ℚ := ratio channel.engagedSessions (some channel.sessions)

def previousEngagementRate : Option ℚ :=
  ratio channel.previousEngagedSessions channel.previousSessions

def sessionChange : Option Int := channel.previousSessions.map fun previous =>
    channel.sessions - previous

end WebsiteChannelPerformance

/-- In which order the database hands out the groups that no `ORDER BY` tells apart. -/
structure GroupOrder where
  arrange : List String → List String
  perm : ∀ groups, (arrange groups).Perm groups

/-- The rows the grouped query reads: `report_date__gte=lower`, `report_date__lte=end`. -/
def channelRows (snapshots : List Ga4Snapshot) (lower «end» : Date) : List (Date × ChannelRow) :=
  (currentChannels snapshots).filter fun row => lower ≤ row.1 ∧ row.1 ≤ «end»

def ownRows (rows : List (Date × ChannelRow)) (channel : String) (start «end» : Date) :
    List (Date × ChannelRow) :=
  rows.filter fun row => row.2.channel = channel ∧ start ≤ row.1 ∧ row.1 ≤ «end»

def rowSessions (row : Date × ChannelRow) : Option Int := some row.2.sessions

def rowEngaged (row : Date × ChannelRow) : Option Int := row.2.engagedSessions

/-- One group of the query; `row.get("prior_sessions")` is none where nothing is compared. -/
def channelPerformance (rows : List (Date × ChannelRow)) (start «end» : Date)
    (previous : Option (Date × Date)) (siteSessions previousSiteSessions : Option Int)
    (channel : String) :
      WebsiteChannelPerformance :=
  let window := ownRows rows channel start «end»
  let prior := previous.map fun days => ownRows rows channel days.1 days.2
  let priorSessions := prior.bind (sumOf rowSessions)
  { channel
    sessions := (sumOf rowSessions window).getD 0
    engagedSessions := sumOf rowEngaged window
    previousSessions := priorSessions
    previousEngagedSessions := prior.bind (sumOf rowEngaged)
    share := ratio (sumOf rowSessions window) siteSessions
    previousShare := ratio priorSessions previousSiteSessions }

/-- `get_channel_performance`: `desc(nulls_last=True)`, and a channel with no sessions or zero is
left out. -/
def getChannelPerformance (order : GroupOrder) (snapshots : List Ga4Snapshot) (start «end» : Date)
    (previousStart previousEnd : Option Date) (siteSessions previousSiteSessions : Option Int) :
    List WebsiteChannelPerformance :=
  let rows := channelRows snapshots (previousStart.getD start) «end»
  let previous := previousStart.bind fun first => previousEnd.map fun last => (first, last)
  let grouped := (order.arrange (rows.map (·.2.channel)).dedup).map
    (channelPerformance rows start «end» previous siteSessions previousSiteSessions)
  (sortOn (fun channel => OrderDual.toDual channel.sessions) grouped).filter (·.sessions ≠ 0)

/-! ## Page engagement -/

structure WebsitePageEngagement where
  path : String
  pageViews : Int
  engagementSeconds : Option Int
  viewsWithSeconds : Option Int
  deriving DecidableEq

def WebsitePageEngagement.secondsPerView (page : WebsitePageEngagement) : Option ℚ :=
  ratio page.engagementSeconds page.viewsWithSeconds

structure EngagementMatrix where
  pages : List WebsitePageEngagement
  medianPageViews : Option ℚ
  medianSecondsPerView : Option ℚ
  minimumPageViews : Int

/-- `_median` -/
def median (values : List ℚ) : Option ℚ :=
  let ordered := sortOn id values
  let middle := ordered.length / 2
  if values = [] then none
  else if ordered.length % 2 = 1 then ordered[middle]?
  else do return ((← ordered[middle - 1]?) + (← ordered[middle]?)) / 2

def pageViews (row : Date × PageRow) : Option Int := some row.2.pageViews

def pageSeconds (row : Date × PageRow) : Option Int := row.2.userEngagementSeconds

def pathRows (snapshots : List Ga4Snapshot) (start «end» : Date) (path : String) :
    List (Date × PageRow) :=
  (currentPages snapshots).filter fun row => start ≤ row.1 ∧ row.1 ≤ «end» ∧ rankable row.2.path ∧
    row.2.path = path

def rankablePaths (snapshots : List Ga4Snapshot) (start «end» : Date) : List String :=
  (((currentPages snapshots).filter fun row => start ≤ row.1 ∧ row.1 ≤ «end» ∧
    rankable row.2.path).map (·.2.path)).dedup

def pageEngagement (snapshots : List Ga4Snapshot) (start «end» : Date) (path : String) :
    WebsitePageEngagement :=
  let rows := pathRows snapshots start «end» path
  { path
    pageViews := (sumOf pageViews rows).getD 0
    engagementSeconds := sumOf pageSeconds rows
    viewsWithSeconds := sumOf pageViews (rows.filter fun row => (pageSeconds row).isSome) }

section Pages

variable {κ : Type} [LinearOrder κ] (collate : String → κ)

/-- `get_engagement_matrix` -/
def getEngagementMatrix (snapshots : List Ga4Snapshot) (start «end» : Date) : EngagementMatrix :=
  let floor := minPageViewsFor (windowDays start «end»)
  let grouped :=
    ((rankablePaths snapshots start «end»).map (pageEngagement snapshots start «end»)).filter
    fun page => floor ≤ page.pageViews
  let pages :=
    sortOn (fun page => toLex (OrderDual.toDual page.pageViews, collate page.path)) grouped
  let measured := pages.filter fun page => page.secondsPerView.isSome
  { pages
    medianPageViews := median (measured.map fun page => (page.pageViews : ℚ))
    medianSecondsPerView := median (measured.filterMap (·.secondsPerView))
    minimumPageViews := floor }

end Pages

/-! ## Site-wide series -/

def GRAIN_DAY : String := "day"

def GRAIN_WEEK : String := "week"

def GRAIN_MONTH : String := "month"

def WEEKLY_FROM_DAYS : Int := 120

def MONTHLY_FROM_DAYS : Int := 400

/-- `grain_for` -/
def grainFor (days : Int) : String :=
  if MONTHLY_FROM_DAYS ≤ days then GRAIN_MONTH
  else if WEEKLY_FROM_DAYS ≤ days then GRAIN_WEEK
  else GRAIN_DAY

structure TrafficPoint where
  periodStart : Date
  sessions : Option Int
  pageViews : Option Int
  engagedSessions : Option Int
  peakActiveUsers : Option Int
  days : Nat
  deriving DecidableEq

def TrafficPoint.engagementRate (point : TrafficPoint) : Option ℚ :=
  match point.sessions, point.engagedSessions with
  | some sessions, some engaged => if sessions = 0 then none else some ((engaged : ℚ) / sessions)
  | _, _ => none

structure TrafficSeries where
  points : List TrafficPoint
  grain : String
  start : Date
  «end» : Date

def TrafficSeries.totalSessions (series : TrafficSeries) : Option Int :=
  sumOf TrafficPoint.sessions series.points

def TrafficSeries.totalPageViews (series : TrafficSeries) : Option Int :=
  sumOf TrafficPoint.pageViews series.points

def TrafficSeries.peakActiveUsers (series : TrafficSeries) : Option Int :=
  maxOf TrafficPoint.peakActiveUsers series.points

/-- `TruncWeek`: the first day of the calendar is a Monday. -/
def truncWeek (day : Date) : Date := (Date.subDays? ((day.toOrdinal - 1) % 7) day).getD day

/-- `TruncMonth` -/
def truncMonth (day : Date) : Date :=
  ⟨day.year, day.month, 1, day.year_range, day.month_range, le_refl 1,
    one_le_daysInMonth day.year day.month⟩

def bucketStart (grain : String) (day : Date) : Date :=
  if grain = GRAIN_DAY then day else if grain = GRAIN_WEEK then truncWeek day else truncMonth day

def dayPoint (row : Ga4Snapshot) : TrafficPoint where
  periodStart := row.day
  sessions := daySessions row
  pageViews := dayPageViews row
  engagedSessions := dayEngaged row
  peakActiveUsers := dayActiveUsers row
  days := 1

def bucketPoint (bucket : Date) (rows : List Ga4Snapshot) : TrafficPoint where
  periodStart := bucket
  sessions := sumOf daySessions rows
  pageViews := sumOf dayPageViews rows
  engagedSessions := sumOf dayEngaged rows
  peakActiveUsers := maxOf dayActiveUsers rows
  days := rows.length

/-- `grain or grain_for((end - start).days + 1)` -/
def grainOf (start «end» : Date) (grain : Option String) : String :=
  if grain.getD "" = "" then grainFor (windowDays start «end») else grain.getD ""

def inBucket (grain : String) (bucket : Date) (rows : List Ga4Snapshot) : List Ga4Snapshot :=
  rows.filter fun row => bucketStart grain row.day = bucket

/-- `get_traffic_series` -/
def getTrafficSeries (snapshots : SiteSnapshots) (start «end» : Date) (grain : Option String) :
    TrafficSeries :=
  let grain := grainOf start «end» grain
  let rows := daysInside snapshots start «end»
  { points :=
      if grain = GRAIN_DAY then (sortOn (·.day) rows).map dayPoint
      else (sortOn id (rows.map fun row => bucketStart grain row.day).dedup).map fun bucket =>
        bucketPoint bucket (inBucket grain bucket rows)
    grain
    start
    «end» }

/-! ## Matched ratios -/

section Ratios

variable {κ : Type} [LinearOrder κ] (collate : String → κ) (order : GroupOrder)
  (stored : StoredDays)
  (windows : ComparedWindows) (grain : Option String)
  (siteSessions previousSiteSessions : Option Int)

def channelsOver : List WebsiteChannelPerformance :=
  getChannelPerformance order stored.rows windows.start windows.end windows.previousStart
    windows.previousEnd siteSessions
    previousSiteSessions

def channelIn (channel : String) (window : Date × Date) : List (Date × ChannelRow) :=
  ownRows (currentChannels stored.rows) channel window.1 window.2

/-- Each ratio is one over exactly the rows that carry both of its figures. -/
structure RatiosMatched : Prop where
  engagementRate :
    (getTrafficSummary stored.toSiteSnapshots windows.start windows.end).engagementRate =
    matchedRatio dayEngaged daySessions
      (daysInside stored.toSiteSnapshots windows.start windows.end)
  secondsPerSession :
    (getTrafficSummary stored.toSiteSnapshots windows.start windows.end).secondsPerSession =
    matchedRatio daySeconds daySessions
      (daysInside stored.toSiteSnapshots windows.start windows.end)
  viewsPerSession :
    (getTrafficSummary stored.toSiteSnapshots windows.start windows.end).viewsPerSession =
    matchedRatio dayPageViews daySessions
      (daysInside stored.toSiteSnapshots windows.start windows.end)
  channels : ∀ channel ∈ channelsOver order stored windows siteSessions previousSiteSessions,
    channel.engagementRate =
        matchedRatio rowEngaged rowSessions
          (channelIn stored channel.channel (windows.start, windows.end)) ∧
      channel.previousEngagementRate = windows.previous.bind fun window =>
        matchedRatio rowEngaged rowSessions (channelIn stored channel.channel window)
  pages : ∀ page ∈ (getEngagementMatrix collate stored.rows windows.start windows.end).pages,
    page.secondsPerView = matchedRatio pageSeconds pageViews
      (pathRows stored.rows windows.start windows.end page.path)
  buckets :
    ∀ point ∈ (getTrafficSeries stored.toSiteSnapshots windows.start windows.end grain).points,
    point.engagementRate = matchedRatio dayEngaged daySessions
      (inBucket (grainOf windows.start windows.end grain)
      point.periodStart (daysInside stored.toSiteSnapshots windows.start windows.end))

/-- The series adds up to the summary. -/
structure TotalsAgree (grain : Option String) : Prop where
  sessions :
    (getTrafficSeries stored.toSiteSnapshots windows.start windows.end grain).totalSessions =
    (getTrafficSummary stored.toSiteSnapshots windows.start windows.end).sessions
  pageViews :
    (getTrafficSeries stored.toSiteSnapshots windows.start windows.end grain).totalPageViews =
    (getTrafficSummary stored.toSiteSnapshots windows.start windows.end).pageViews
  peakActiveUsers :
    (getTrafficSeries stored.toSiteSnapshots windows.start windows.end grain).peakActiveUsers =
    (getTrafficSummary stored.toSiteSnapshots windows.start windows.end).peakActiveUsers

/-- The rows that carry one figure alone leave every ratio as it is. -/
structure FiguresTogether : Prop where
  engaged : NothingAlone dayEngaged daySessions
    (daysInside stored.toSiteSnapshots windows.start windows.end)
  seconds : NothingAlone daySeconds daySessions
    (daysInside stored.toSiteSnapshots windows.start windows.end)
  views : Unbiased dayPageViews daySessions
    (daysInside stored.toSiteSnapshots windows.start windows.end)
  channels : ∀ channel, amountOf rowSessions
    (channelIn stored channel (windows.start, windows.end)) ≠ 0 →
    Unbiased rowEngaged rowSessions (channelIn stored channel (windows.start, windows.end)) ∧
      ∀ window ∈ windows.previous, Unbiased rowEngaged rowSessions (channelIn stored channel window)
  buckets : ∀ row ∈ daysInside stored.toSiteSnapshots windows.start windows.end,
    Unbiased dayEngaged daySessions (inBucket (grainOf windows.start windows.end grain)
      (bucketStart (grainOf windows.start windows.end grain) row.day)
      (daysInside stored.toSiteSnapshots windows.start windows.end))

end Ratios

section Proofs

variable {stored : StoredDays} {windows : ComparedWindows}

theorem sessions_nonneg (stored : StoredDays) {row : Ga4Snapshot} (hrow : row ∈ stored.rows) (n : ℤ)
    (h : daySessions row = some n) : 0 ≤ n := by
  have hfigure : row.content.site.sessions ∈ siteFigures row.content.site := List.mem_cons_self
  exact (stored.unsigned row hrow).site _ hfigure n h

theorem mem_currentChannels {snapshots : List Ga4Snapshot} {row : Date × ChannelRow} :
    row ∈ currentChannels snapshots ↔
      ∃ snapshot ∈ currentDays snapshots, snapshot.day = row.1 ∧
      row.2 ∈ snapshot.content.channels := by
  unfold currentChannels
  rw [List.mem_flatMap]
  refine exists_congr fun snapshot => and_congr_right fun _ => ?_
  rw [List.mem_map]
  constructor
  · rintro ⟨channel, hchannel, rfl⟩
    exact ⟨rfl, hchannel⟩
  · rintro ⟨hday, hchannel⟩
    exact ⟨row.2, hchannel, Prod.ext hday rfl⟩

theorem rowSessions_nonneg (stored : StoredDays) {row : Date × ChannelRow}
    (hrow : row ∈ currentChannels stored.rows) (n : ℤ)
    (h : rowSessions row = some n) : 0 ≤ n := by
  obtain ⟨snapshot, hsnapshot, -, hchannel⟩ := mem_currentChannels.mp hrow
  have hsessions :=
    ((stored.unsigned snapshot (List.mem_of_mem_filter hsnapshot)).channels _ hchannel).1
  rwa [← Option.some.inj h]

theorem TrafficPoint.engagementRate_eq (point : TrafficPoint) :
    point.engagementRate = ratio point.engagedSessions point.sessions := by
  unfold TrafficPoint.engagementRate ratio
  cases point.sessions <;> cases point.engagedSessions <;> rfl

/-! ### The series -/

/-- A day of its own is a bucket of one row. -/
theorem dayPoint_eq (row : Ga4Snapshot) : dayPoint row = bucketPoint row.day [row] := by
  have hsum (f : Ga4Snapshot → Option ℤ) : sumOf f [row] = f row := by
    unfold sumOf
    cases h : f row <;> simp [h]
  have hmax : maxOf dayActiveUsers [row] = dayActiveUsers row := by
    unfold maxOf
    cases h : dayActiveUsers row <;> simp [h]
  unfold dayPoint bucketPoint
  rw [hsum, hsum, hsum, hmax]
  rfl

theorem inBucket_day {snapshots : SiteSnapshots} {start «end» : Date} {row : Ga4Snapshot}
    (h : row ∈ daysInside snapshots start «end») :
      inBucket GRAIN_DAY row.day (daysInside snapshots start «end») = [row] := by
  have hnodup := nodup_daysInside snapshots start «end»
  have hinside : ∀ other ∈ daysInside snapshots start «end», other.day = row.day → other = row :=
      fun other hother hday =>
    List.inj_on_of_nodup_map hnodup hother h hday
  have hfilter : inBucket GRAIN_DAY row.day (daysInside snapshots start «end») =
      (daysInside snapshots start «end»).filter fun other => other = row := by
    refine List.filter_congr fun other hother =>
      decide_eq_decide.mpr ⟨hinside other hother, fun heq => ?_⟩
    exact congrArg (·.day) heq
  rw [hfilter]
  have hone := List.count_eq_one_of_mem hnodup.of_map h
  rw [List.filter_eq, hone]
  rfl

/-- Whatever the grain, the points are those of the buckets. -/
theorem points_perm (snapshots : SiteSnapshots) (start «end» : Date) (grain : Option String) :
    (getTrafficSeries snapshots start «end» grain).points.Perm
      (((daysInside snapshots start «end»).map fun row =>
        bucketStart (grainOf start «end» grain) row.day).dedup.map
        fun bucket => bucketPoint bucket
            (inBucket (grainOf start «end» grain) bucket (daysInside snapshots start «end»))) := by
  unfold getTrafficSeries
  dsimp only
  by_cases hday : grainOf start «end» grain = GRAIN_DAY
  · rw [if_pos hday, hday]
    have hstart :
        ((daysInside snapshots start «end»).map fun row => bucketStart GRAIN_DAY row.day) =
        (daysInside snapshots start «end»).map (·.day) := rfl
    rw [hstart, (nodup_daysInside snapshots start «end»).dedup, List.map_map]
    refine ((perm_sortOn _ _).map _).trans
      (List.Perm.of_eq (List.map_congr_left fun row hrow => ?_))
    rw [dayPoint_eq]
    exact congrArg (bucketPoint row.day) (inBucket_day hrow).symm
  · rw [if_neg hday]
    exact (perm_sortOn _ _).map _

/-! ### Totals -/

theorem mem_buckets {rows : List Ga4Snapshot} (grain : String) {row : Ga4Snapshot}
    (h : row ∈ rows) :
    bucketStart grain row.day ∈ (rows.map fun row => bucketStart grain row.day).dedup :=
  List.mem_dedup.mpr (List.mem_map.mpr ⟨row, h, rfl⟩)

/-- Every row of the window is in the bucket of its day. -/
theorem total_points {f : TrafficPoint → Option ℤ} {g : Ga4Snapshot → Option ℤ}
    {snapshots : SiteSnapshots} {start «end» : Date} {grain : Option String}
    (h : ∀ bucket rows, f (bucketPoint bucket rows) = sumOf g rows) :
    sumOf f (getTrafficSeries snapshots start «end» grain).points =
      sumOf g (daysInside snapshots start «end») := by
  have hpoints := sumOf_perm (f := f) (points_perm snapshots start «end» grain)
  have hgroups :=
    @sumOf_groups _ g _ _ (fun row => bucketStart (grainOf start «end» grain) row.day) _
    (daysInside snapshots start «end») (List.nodup_dedup _) fun row hrow => mem_buckets _ hrow
  rw [sumOf_map, sumOf_congr fun bucket _ => h bucket _] at hpoints
  exact hpoints.trans hgroups

/-- The busiest day of the window is that of one of the buckets. -/
theorem max_points (snapshots : SiteSnapshots) (start «end» : Date) (grain : Option String) :
    maxOf TrafficPoint.peakActiveUsers (getTrafficSeries snapshots start «end» grain).points =
      maxOf dayActiveUsers (daysInside snapshots start «end») := by
  have hpoints := maxOf_perm (f := TrafficPoint.peakActiveUsers)
    (points_perm snapshots start «end» grain)
  have hgroups := @maxOf_groups _ dayActiveUsers _ _
    (fun row => bucketStart (grainOf start «end» grain) row.day) _
    (daysInside snapshots start «end») fun row hrow => mem_buckets _ hrow
  rw [maxOf_map] at hpoints
  exact hpoints.trans hgroups

/-- At every grain the series adds up to the summary. -/
theorem totals_agree (stored : StoredDays) (windows : ComparedWindows) (grain : Option String) :
    TotalsAgree stored windows grain where
  sessions := total_points fun _ _ => rfl
  pageViews := total_points fun _ _ => rfl
  peakActiveUsers := max_points _ _ _ _

/-! ### Ratios -/

theorem mem_points {point : TrafficPoint} {snapshots : SiteSnapshots} {start «end» : Date}
    {grain : Option String} :
    point ∈ (getTrafficSeries snapshots start «end» grain).points ↔
    ∃ row ∈ daysInside snapshots start «end»,
      bucketPoint (bucketStart (grainOf start «end» grain) row.day)
        (inBucket (grainOf start «end» grain)
        (bucketStart (grainOf start «end» grain) row.day)
          (daysInside snapshots start «end»)) = point := by
  rw [(points_perm snapshots start «end» grain).mem_iff, List.mem_map]
  simp only [List.mem_dedup, List.mem_map, exists_exists_and_eq_and]

/-- The rate of a bucket is matched where its own days are together. -/
theorem bucketPoint_matched_iff (stored : StoredDays) {start «end» : Date} (grain : String)
    (bucket : Date) :
    (bucketPoint bucket
      (inBucket grain bucket (daysInside stored.toSiteSnapshots start «end»))).engagementRate =
        matchedRatio dayEngaged daySessions
          (inBucket grain bucket (daysInside stored.toSiteSnapshots start «end»)) ↔
      Unbiased dayEngaged daySessions
        (inBucket grain bucket (daysInside stored.toSiteSnapshots start «end»)) := by
  rw [TrafficPoint.engagementRate_eq]
  refine ratio_eq_matched_iff fun row hrow n hn => sessions_nonneg stored ?_ n hn
  exact List.mem_of_mem_filter (mem_daysInside.mp (List.mem_of_mem_filter hrow)).1

/-- What the query over both windows reads of one of them is what is stored. -/
theorem ownRows_channelRows {snapshots : List Ga4Snapshot} {lower last start «end» : Date}
    (channel : String) (hlower : lower ≤ start)
    (hlast : «end» ≤ last) :
    ownRows (channelRows snapshots lower last) channel start «end» =
      ownRows (currentChannels snapshots) channel start «end» := by
  unfold ownRows channelRows
  rw [List.filter_filter]
  refine List.filter_congr fun row _ => ?_
  rw [← Bool.decide_and]
  refine decide_eq_decide.mpr (and_iff_left_of_imp fun hrow => ?_)
  exact ⟨hlower.trans hrow.2.1, hrow.2.2.trans hlast⟩

theorem ComparedWindows.previous_le (windows : ComparedWindows) {window : Date × Date}
    (h : window ∈ windows.previous) :
    window.1 ≤ windows.start ∧ window.2 ≤ windows.end := by
  obtain ⟨horder, hnext⟩ := windows.contiguous window h
  have hlt : window.2 ≤ windows.start := by
    have hordinal := Date.addDays?_eq_some_iff.mp hnext
    exact Date.toOrdinal_le_iff.mp (by omega)
  exact ⟨horder.trans hlt, hlt.trans windows.in_order⟩

theorem ComparedWindows.previous_eq (windows : ComparedWindows) :
    (windows.previousStart.bind fun first => windows.previousEnd.map fun last => (first, last)) =
      windows.previous := by
  unfold previousStart previousEnd
  cases windows.previous <;> rfl

theorem ComparedWindows.lower_le (windows : ComparedWindows) :
    windows.previousStart.getD windows.start ≤ windows.start := by
  unfold previousStart
  cases h : windows.previous with
  | none => exact le_refl _
  | some window => exact (windows.previous_le h).1

theorem sessions_channelPerformance (rows : List (Date × ChannelRow)) (start «end» : Date)
    (previous : Option (Date × Date)) (siteSessions previousSiteSessions : Option Int)
    (channel : String) :
    (channelPerformance rows start «end» previous siteSessions previousSiteSessions
      channel).sessions =
      amountOf rowSessions (ownRows rows channel start «end») := getD_sumOf _

section Channels

variable {order : GroupOrder} {siteSessions previousSiteSessions : Option Int}

/-- The query over both windows gives the sums over each of them. -/
theorem channelPerformance_channelRows (channel : String) :
    channelPerformance
      (channelRows stored.rows (windows.previousStart.getD windows.start) windows.end) windows.start
        windows.end windows.previous siteSessions previousSiteSessions channel =
      channelPerformance (currentChannels stored.rows) windows.start windows.end windows.previous
        siteSessions
        previousSiteSessions channel := by
  have hprior : (windows.previous.map fun days =>
        ownRows (channelRows stored.rows (windows.previousStart.getD windows.start) windows.end)
          channel days.1 days.2) =
      windows.previous.map fun days =>
          ownRows (currentChannels stored.rows) channel days.1 days.2 := by
    refine Option.map_congr fun days hdays =>
      ownRows_channelRows channel ?_ (windows.previous_le hdays).2
    unfold ComparedWindows.previousStart
    rw [hdays]
    exact le_refl _
  unfold channelPerformance
  dsimp only
  rw [hprior, ownRows_channelRows channel windows.lower_le (le_refl _)]

/-- The channels listed are those with sessions in the window. -/
theorem mem_channelsOver {performance : WebsiteChannelPerformance} :
    performance ∈ channelsOver order stored windows siteSessions previousSiteSessions ↔
      ∃ channel, amountOf rowSessions (channelIn stored channel (windows.start, windows.end)) ≠ 0 ∧
        channelPerformance (currentChannels stored.rows) windows.start windows.end windows.previous
          siteSessions
          previousSiteSessions channel = performance := by
  unfold channelsOver getChannelPerformance
  dsimp only
  rw [windows.previous_eq, List.mem_filter, mem_sortOn, List.mem_map]
  simp only [(order.perm _).mem_iff, List.mem_dedup, channelPerformance_channelRows,
    decide_eq_true_eq, ne_eq]
  constructor
  · intro ⟨⟨channel, _, heq⟩, hsessions⟩
    rw [← heq, sessions_channelPerformance] at hsessions
    exact ⟨channel, hsessions, heq⟩
  · intro ⟨channel, hsessions, heq⟩
    have hlisted : ¬performance.sessions = 0 := by
      rw [← heq, sessions_channelPerformance]
      exact hsessions
    refine ⟨⟨channel, ?_, heq⟩, hlisted⟩
    -- a channel whose sessions are not zero has a row
    have hrows : channelIn stored channel (windows.start, windows.end) ≠ [] :=
      fun hnil => hsessions (hnil ▸ rfl)
    obtain ⟨row, hrow⟩ := List.exists_mem_of_ne_nil _ hrows
    obtain ⟨hcurrent, hown⟩ := List.mem_filter.mp hrow
    rw [decide_eq_true_eq] at hown
    refine List.mem_map.mpr ⟨row, List.mem_filter.mpr ⟨hcurrent, decide_eq_true ?_⟩, hown.1⟩
    exact ⟨windows.lower_le.trans hown.2.1, hown.2.2⟩

/-- The rates of a channel with sessions are matched where its rows are together. -/
theorem channel_matched_iff (stored : StoredDays) (windows : ComparedWindows) {channel : String}
    (hsessions : amountOf rowSessions (channelIn stored channel (windows.start, windows.end)) ≠ 0) :
    let performance := channelPerformance (currentChannels stored.rows) windows.start windows.end
      windows.previous siteSessions
      previousSiteSessions channel
    (performance.engagementRate = matchedRatio rowEngaged rowSessions
      (channelIn stored channel (windows.start, windows.end)) ∧
        performance.previousEngagementRate = windows.previous.bind fun window =>
          matchedRatio rowEngaged rowSessions (channelIn stored channel window)) ↔
      Unbiased rowEngaged rowSessions (channelIn stored channel (windows.start, windows.end)) ∧
        ∀ window ∈ windows.previous, Unbiased rowEngaged rowSessions
          (channelIn stored channel window) := by
  have hmatched (window : Date × Date) :
      ratio (sumOf rowEngaged (channelIn stored channel window))
        (sumOf rowSessions (channelIn stored channel window)) =
          matchedRatio rowEngaged rowSessions (channelIn stored channel window) ↔
        Unbiased rowEngaged rowSessions (channelIn stored channel window) :=
    ratio_eq_matched_iff fun row hrow n hn =>
      rowSessions_nonneg stored (List.mem_of_mem_filter hrow) n hn
  have hsum :
      some ((sumOf rowSessions (channelIn stored channel (windows.start, windows.end))).getD 0) =
      sumOf rowSessions (channelIn stored channel (windows.start, windows.end)) := by
    cases hsome : sumOf rowSessions (channelIn stored channel (windows.start, windows.end)) with
    | none =>
      rw [← getD_sumOf, hsome] at hsessions
      exact absurd rfl hsessions
    | some n => rfl
  refine and_congr ?_ ?_
  · rw [← hmatched, ← hsum]
    exact Iff.rfl
  · unfold channelPerformance WebsiteChannelPerformance.previousEngagementRate
    dsimp only
    cases windows.previous with
    | none => exact iff_of_true rfl fun _ h => absurd h (Option.not_mem_none _)
    | some window =>
      simp only [Option.map_some, Option.bind_some, Option.mem_def, Option.some.injEq, forall_eq']
      exact hmatched window

end Channels

/-- A page's seconds come with its views, which no row is without. -/
theorem page_matched (snapshots : List Ga4Snapshot) (start «end» : Date) (path : String) :
    (pageEngagement snapshots start «end» path).secondsPerView =
      matchedRatio pageSeconds pageViews (pathRows snapshots start «end» path) := by
  refine (filtered_eq_matched_iff (f := pageSeconds) (g := pageViews) _).mpr (Or.inr ?_)
  refine amountOf_of_none fun row hrow => ?_
  have halone := (List.mem_filter.mp hrow).2
  rw [decide_eq_true_eq] at halone
  exact absurd halone.2 (Option.some_ne_none _)

end Proofs

/-- Every ratio is matched exactly where no row carries one figure of a quotient alone in a way that
moves it; the totals of the series are those of the summary at every grain. -/
theorem ratios_matched_iff {κ : Type} [LinearOrder κ] (collate : String → κ) (order : GroupOrder)
    (stored : StoredDays) (windows : ComparedWindows) (grain : Option String)
    (siteSessions previousSiteSessions : Option Int) :
    (RatiosMatched collate order stored windows grain siteSessions previousSiteSessions ∧
        ∀ grain, TotalsAgree stored windows grain) ↔ FiguresTogether stored windows grain := by
  have hsessions : ∀ row ∈ daysInside stored.toSiteSnapshots windows.start windows.end, ∀ n,
      daySessions row = some n → 0 ≤ n :=
    fun row hrow => sessions_nonneg stored (List.mem_of_mem_filter (mem_daysInside.mp hrow).1)
  rw [and_iff_left fun grain => totals_agree stored windows grain]
  constructor
  · intro h
    exact {
      engaged := (filtered_eq_matched_iff _).mp h.engagementRate
      seconds := (filtered_eq_matched_iff _).mp h.secondsPerSession
      views := (ratio_eq_matched_iff hsessions).mp h.viewsPerSession
      channels := fun channel hchannel =>
        (channel_matched_iff stored windows hchannel).mp
          (h.channels _ (mem_channelsOver.mpr ⟨channel, hchannel, rfl⟩))
      buckets := fun row hrow => (bucketPoint_matched_iff stored _ _).mp
        (h.buckets _ (mem_points.mpr ⟨row, hrow, rfl⟩)) }
  · intro h
    exact {
      engagementRate := (filtered_eq_matched_iff _).mpr h.engaged
      secondsPerSession := (filtered_eq_matched_iff _).mpr h.seconds
      viewsPerSession := (ratio_eq_matched_iff hsessions).mpr h.views
      channels := by
        intro performance hperformance
        obtain ⟨channel, hchannel, heq⟩ := mem_channelsOver.mp hperformance
        subst heq
        exact (channel_matched_iff stored windows hchannel).mpr (h.channels channel hchannel)
      pages := by
        intro page hpage
        obtain ⟨path, -, heq⟩ := List.mem_map.mp (List.mem_of_mem_filter (mem_sortOn.mp hpage))
        subst heq
        exact page_matched _ _ _ path
      buckets := by
        intro point hpoint
        obtain ⟨row, hrow, heq⟩ := mem_points.mp hpoint
        subst heq
        exact (bucketPoint_matched_iff stored _ _).mpr (h.buckets row hrow) }

/-! ## Two days, one of them without its page views -/

def sampleOrder : GroupOrder := ⟨id, fun _ => List.Perm.refl _⟩

/-- A day with its sessions and its page views, and with nothing else. -/
def sampleRow (day : Date) (sessions views : Option Int) : Ga4Snapshot where
  pk := day.day
  source := 6
  artifact := day.day
  importRun := day.day
  day := day
  observedAt := 0
  checksum := ""
  revision := 1
  supersedes := none
  isCurrentForDate := true
  content := ⟨⟨sessions, none, none, views, none, none⟩, false, false, [], []⟩

def sampleFirst : Date := .of 2026 8 3

def sampleLast : Date := .of 2026 8 4

def sampleStored : StoredDays where
  rows := [sampleRow sampleFirst (some 100) none, sampleRow sampleLast (some 100) (some 300)]
  one_source := by decide
  one_current := by decide
  unsigned := by
    intro row hrow
    have hcases : row = sampleRow sampleFirst (some 100) none ∨
        row = sampleRow sampleLast (some 100) (some 300) := by
      simpa using hrow
    refine ⟨?_, ?_, ?_⟩ <;> rcases hcases with h | h <;> subst h <;> simp [sampleRow, siteFigures]
  one_channel := by decide

def sampleWindows : ComparedWindows where
  start := sampleFirst
  «end» := sampleLast
  previous := none
  in_order := by decide
  contiguous := fun _ h => absurd h (Option.not_mem_none _)

/-- Three hundred views of a hundred sessions are divided by two hundred. -/
theorem views_unmatched : ¬∀ (order : GroupOrder) (stored : StoredDays) (windows : ComparedWindows)
    (grain : Option String),
    RatiosMatched id order stored windows grain none none ∧
    ∀ grain, TotalsAgree stored windows grain := by
  intro h
  have hviews := (h sampleOrder sampleStored sampleWindows none).1.viewsPerSession
  have hcode :
      (getTrafficSummary sampleStored.toSiteSnapshots sampleWindows.start
        sampleWindows.end).viewsPerSession =
      some (3 / 2) := by decide +kernel
  have hmatched : matchedRatio dayPageViews daySessions
      (daysInside sampleStored.toSiteSnapshots sampleWindows.start sampleWindows.end) = some 3 := by
        decide +kernel
  rw [hcode, hmatched] at hviews
  revert hviews
  decide +kernel

end Website

end Dashkoda.Visibility
