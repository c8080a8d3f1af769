import Dashkoda.Visibility.Ga4CollectedDays
import Mathlib.Data.List.ReduceOption

/-!
# Days that can be published, in any order of the rows

A collected day has to meet the constraints of the tables that it is written to, and what is
digested of it must not depend on the order in which the rows came.
-/

open Lib

namespace Dashkoda.Visibility

/-! ## The rows of the three reports, read -/

structure ReadRows where
  site : List (Date × SiteFigures)
  pages : List (Option (Date × PageRow))
  channels : List (Date × ChannelRow)

section Reading

variable (classes : CharClasses) (check : NetlocCheck)

/-- What `collect_range` reads of the three reports. -/
structure ReadAs (reports : Ga4Reports) (withPages withChannels : Bool)
    (rows : ReadRows) : Prop where
  site : reports.site.mapM (readSiteRow classes) = .ok rows.site
  pages : readPages classes check reports withPages = .ok rows.pages
  channels : readChannels classes reports withChannels = .ok rows.channels

def ReadRows.reading (rows : ReadRows) (withPages withChannels : Bool) (day : Date) : DayReading :=
  dayReading withPages withChannels rows.site rows.pages.reduceOption rows.channels day

theorem DayReading.validate_eq_ok_iff {reading out : DayReading} :
    reading.validate = .ok out ↔ reading.objection = none ∧ out = reading := by
  unfold DayReading.validate
  cases reading.objection with
  | none => exact ⟨fun h => ⟨rfl, (Except.ok.inj h).symm⟩, fun h => congrArg _ h.2.symm⟩
  | some message => exact ⟨fun h => (by cases h), fun h => (by cases h.1)⟩

variable {classes check} {reports : Ga4Reports} {start stop : Date} {withPages withChannels : Bool}
  {days : Dict Date DayReading}

theorem collectRange_eq_ok_iff :
    collectRange classes check reports start stop withPages withChannels = .ok days ↔
      start ≤ stop ∧ ∃ rows, ReadAs classes check reports withPages withChannels rows ∧
        (∀ day ∈ Date.eachDay start stop,
          (rows.reading withPages withChannels day).objection = none) ∧
        days = Dict.ofList ((Date.eachDay start stop).map fun day =>
          (day, rows.reading withPages withChannels day)) := by
  unfold collectRange
  rw [raiseIf_eq_ok_iff, not_lt]
  apply and_congr_right
  intro _
  constructor
  · intro h
    obtain ⟨site, hsite, h⟩ := bind_eq_ok_iff.mp h
    obtain ⟨pages, hpages, h⟩ := bind_eq_ok_iff.mp h
    obtain ⟨channels, hchannels, h⟩ := bind_eq_ok_iff.mp h
    obtain ⟨readings, hreadings, h⟩ := bind_eq_ok_iff.mp h
    obtain ⟨hvalid, rfl⟩ := (mapM_checked_iff fun _ _ => DayReading.validate_eq_ok_iff).mp hreadings
    refine ⟨⟨site, pages, channels⟩, ⟨hsite, hpages, hchannels⟩, hvalid, ?_⟩
    rw [List.map_map] at h
    exact (Except.ok.inj h).symm
  · intro ⟨rows, hread, hvalid, hdays⟩
    refine bind_eq_ok_iff.mpr ⟨_, hread.site, bind_eq_ok_iff.mpr ⟨_, hread.pages,
      bind_eq_ok_iff.mpr ⟨_, hread.channels, bind_eq_ok_iff.mpr ⟨_,
        (mapM_checked_iff fun _ _ => DayReading.validate_eq_ok_iff).mpr ⟨hvalid, rfl⟩, ?_⟩⟩⟩⟩
    rw [hdays, List.map_map]
    rfl

/-- Each day of the range has its own reading, and no other day has one. -/
theorem get?_days {rows : ReadRows} {day : Date} {reading : DayReading}
    (hdays : days = Dict.ofList ((Date.eachDay start stop).map fun day =>
      (day, rows.reading withPages withChannels day))) :
    days.get? day = some reading ↔
      (start ≤ day ∧ day ≤ stop) ∧ reading = rows.reading withPages withChannels day := by
  subst hdays
  rw [← Date.mem_eachDay]
  by_cases hday : day ∈ Date.eachDay start stop
  · rw [Dict.get?_ofList_map (Date.nodup_eachDay start stop) _ hday]
    exact ⟨fun h => ⟨hday, (Option.some.inj h).symm⟩, fun h => congrArg _ h.2.symm⟩
  · refine ⟨fun h => absurd ?_ hday, fun h => absurd h.1 hday⟩
    have hkey := Dict.mem_keys_ofList.mp (Dict.mem_keys_iff_get?.mpr ⟨reading, h⟩)
    rw [List.map_map] at hkey
    obtain ⟨other, hother, heq⟩ := List.mem_map.mp hkey
    exact heq ▸ hother

end Reading

/-! ## What is digested of a day -/

section Digest

/-- Both have the same digest, whichever hash function it is taken with. -/
def SameDigest (a b : DayReading) : Prop :=
  ∀ digestBytes, Core.canonicalChecksum digestBytes a.canonicalPayload =
    Core.canonicalChecksum digestBytes b.canonicalPayload

theorem sameDigest_iff {a b : DayReading} :
    SameDigest a b ↔ a.canonicalPayload.canon = b.canonicalPayload.canon := by
  rw [← Json.chars_eq_iff]
  constructor
  · intro h
    exact flatMap_utf8EncodeChar_injective
      (spelledOut_injective (congrArg (·.sha256) (h spelledOut)))
  · intro h digestBytes
    unfold Core.canonicalChecksum
    rw [h]

/-- The figures for the whole site can be read off what is digested of them. -/
theorem site_payload_inj {a b : SiteFigures} (h : a.payload.canon = b.payload.canon) : a = b := by
  unfold SiteFigures.payload at h
  have hfields := (Json.canon_obj_eq_iff ["sessions", "active_users", "new_users", "page_views",
    "engaged_sessions", "user_engagement_seconds"] (by decide) rfl rfl).mp h
  simp only [List.map_cons, List.map_nil, List.cons.injEq, Json.canonField, Prod.mk.injEq, true_and,
    and_true, Json.canon_ofOption_int_eq_iff] at hfields
  obtain ⟨hsessions, husers, hnew, hviews, hengaged, hseconds⟩ := hfields
  cases a
  cases b
  simp_all only

theorem SameDigest.site {a b : DayReading} (h : SameDigest a b) : a.site = b.site := by
  have hpayload := sameDigest_iff.mp h
  unfold DayReading.canonicalPayload at hpayload
  have hfields :=
    (Json.canon_obj_eq_iff ["schema", "source", "report_date", "site", "has_page_detail",
    "has_channel_detail", "pages", "channels"] (by decide) rfl rfl).mp hpayload
  simp only [List.map_cons, List.map_nil, List.cons.injEq, Json.canonField, Prod.mk.injEq,
    true_and] at hfields
  exact site_payload_inj hfields.2.1

end Digest

/-! ## What is promised of the days of a range -/

section Promise

/-- The uniqueness and length constraints of the tables hold of the rows that are written. -/
structure StorableRows (reading : DayReading) : Prop where
  paths : (reading.pages.map (·.path)).Nodup
  channels : (reading.channels.map (·.channel)).Nodup
  stored : (reading.channels.map fun row => PyText.take 120 row.channel).Nodup
  lengths : ∀ row ∈ reading.pages, row.path.length ≤ 500

structure SameRows (a b : Ga4Reports) : Prop where
  site : a.site.Perm b.site
  pages : a.pages.Perm b.pages
  channels : a.channels.Perm b.channels

/-- No two rows of a report have the same dimensions. -/
structure DistinctDimensions (reports : Ga4Reports) : Prop where
  site : (reports.site.map (·.dimensionValues)).Nodup
  pages : (reports.pages.map (·.dimensionValues)).Nodup
  channels : (reports.channels.map (·.dimensionValues)).Nodup

variable (classes : CharClasses) (check : NetlocCheck) (reports : Ga4Reports) (start stop : Date)
  (withPages withChannels : Bool)

def nameableRows (day : Date) : List PageRow :=
  if withPages then
    reports.pages.filterMap fun row =>
      match readPageRow classes check row with
      | .ok (some (date, page)) => if date = day then some page else none
      | _ => none
  else []

/-- Each day can be stored, has the views of its rows, and has the same digest in any order of
them. -/
structure PublishableDays (days : Dict Date DayReading) : Prop where
  storable : ∀ day reading, days.get? day = some reading → StorableRows reading
  views : ∀ day reading, days.get? day = some reading →
    total (·.pageViews) reading.pages =
      total (·.pageViews) (nameableRows classes check reports withPages day)
  order : ∀ reports', SameRows reports reports' →
    ∃ days', collectRange classes check reports' start stop withPages withChannels = .ok days' ∧
      ∀ day reading, days.get? day = some reading →
        ∃ reading', days'.get? day = some reading' ∧ SameDigest reading reading'

/-- What the collector does not check of its rows. -/
structure RowsApart : Prop where
  site : ∀ row ∈ reports.site, ∀ row' ∈ reports.site, ∀ day figures figures', start ≤ day →
    day ≤ stop →
    readSiteRow classes row = .ok (day, figures) → readSiteRow classes row' = .ok (day, figures') →
      figures = figures'
  pages : withPages = true → ∀ row ∈ reports.pages, ∀ day page, start ≤ day → day ≤ stop →
    readPageRow classes check row = .ok (some (day, page)) → page.path.length ≤ 500
  channels : withChannels = true → reports.channels.Pairwise fun row row' =>
    ∀ day channel channel', start ≤ day → day ≤ stop →
      readChannelRow classes row = .ok (day, channel) →
      readChannelRow classes row' = .ok (day, channel') →
        PyText.take 120 channel.channel ≠ PyText.take 120 channel'.channel

end Promise

/-! ## Rows of a day -/

section RowsOfDay

variable {α : Type} {rows rows' : List (Date × α)} {day : Date}

theorem mem_ofDay {row : α} : row ∈ ofDay day rows ↔ (day, row) ∈ rows := by
  unfold ofDay
  rw [List.mem_map]
  constructor
  · intro ⟨pair, hpair, hrow⟩
    obtain ⟨hmem, hday⟩ := List.mem_filter.mp hpair
    have heq : pair = (day, row) := Prod.ext (of_decide_eq_true hday) hrow
    exact heq ▸ hmem
  · exact fun hmem => ⟨(day, row), List.mem_filter.mpr ⟨hmem, decide_eq_true rfl⟩, rfl⟩

theorem ofDay_perm (h : rows.Perm rows') : (ofDay day rows).Perm (ofDay day rows') :=
  (h.filter _).map _

theorem ofDay_append (rows rows' : List (Date × α)) :
    ofDay day (rows ++ rows') = ofDay day rows ++ ofDay day rows' := by
  unfold ofDay
  rw [List.filter_append, List.map_append]

theorem pairwise_ofDay {R : α → α → Prop} {inRange : Date → Prop} :
    rows.Pairwise (fun a b => inRange a.1 → a.1 = b.1 → R a.2 b.2) ↔
      ∀ day, inRange day → (ofDay day rows).Pairwise R := by
  unfold ofDay
  simp only [List.pairwise_map, List.pairwise_filter, decide_eq_true_eq]
  constructor
  · intro hrows day hday
    refine hrows.imp fun hR ha hb => ?_
    exact hR (ha ▸ hday) (ha.trans hb.symm)
  · intro hdays
    induction rows with
    | nil => exact List.Pairwise.nil
    | cons row rest ih =>
      refine List.pairwise_cons.mpr ⟨fun other hother hrange hsame => ?_, ih fun day hday =>
        (List.pairwise_cons.mp (hdays day hday)).2⟩
      exact (List.pairwise_cons.mp (hdays row.1 hrange)).1 other hother rfl hsame.symm

/-- Where all rows agree, the last one is the same in any order. -/
theorem getLast?_perm {rows rows' : List α} (h : rows.Perm rows')
    (hsame : ∀ a ∈ rows, ∀ b ∈ rows, a = b) :
    rows.getLast? = rows'.getLast? := by
  cases hlast : rows.getLast? with
  | none =>
    rw [List.getLast?_eq_none_iff] at hlast
    rw [hlast] at h
    rw [h.symm.eq_nil]
    rfl
  | some a =>
    have ha := List.mem_of_getLast? hlast
    cases hlast' : rows'.getLast? with
    | none =>
      rw [List.getLast?_eq_none_iff] at hlast'
      exact absurd (h.mem_iff.mp ha) (hlast' ▸ List.not_mem_nil)
    | some b => exact congrArg some (hsame a ha b (h.mem_iff.mpr (List.mem_of_getLast? hlast')))

end RowsOfDay

section Reading

variable {classes : CharClasses} {check : NetlocCheck} {reports reports' : Ga4Reports}
  {start stop : Date}
  {withPages withChannels : Bool} {rows rows' : ReadRows} {day : Date}

theorem ReadAs.of_perm (h : ReadAs classes check reports withPages withChannels rows)
    (hsame : SameRows reports reports') :
    ∃ rows', ReadAs classes check reports' withPages withChannels rows' ∧
      rows'.site.Perm rows.site ∧ rows'.pages.Perm rows.pages ∧
      rows'.channels.Perm rows.channels := by
  obtain ⟨site, hsite, hsitePerm⟩ := mapM_perm hsame.site.symm h.site
  have hpages : ∃ pages, readPages classes check reports' withPages = .ok pages ∧
      pages.Perm rows.pages := by
    have hread := h.pages
    unfold readPages at hread ⊢
    split
    · rename_i hwith
      rw [if_pos hwith] at hread
      exact mapM_perm hsame.pages.symm hread
    · rename_i hwithout
      rw [if_neg hwithout] at hread
      exact ⟨[], rfl, Except.ok.inj hread ▸ List.Perm.refl _⟩
  have hchannels : ∃ channels, readChannels classes reports' withChannels = .ok channels ∧
      channels.Perm rows.channels := by
    have hread := h.channels
    unfold readChannels at hread ⊢
    split
    · rename_i hwith
      rw [if_pos hwith] at hread
      exact mapM_perm hsame.channels.symm hread
    · rename_i hwithout
      rw [if_neg hwithout] at hread
      exact ⟨[], rfl, Except.ok.inj hread ▸ List.Perm.refl _⟩
  obtain ⟨pages, hpages, hpagesPerm⟩ := hpages
  obtain ⟨channels, hchannels, hchannelsPerm⟩ := hchannels
  exact ⟨⟨site, pages, channels⟩, ⟨hsite, hpages, hchannels⟩, hsitePerm, hpagesPerm, hchannelsPerm⟩

theorem reduceOption_perm {α : Type} {a b : List (Option α)} (h : a.Perm b) :
    a.reduceOption.Perm b.reduceOption := h.filterMap id

/-- Rows that agree on the site and name no channel twice are read alike in any order. -/
theorem reading_perm (hsite : rows'.site.Perm rows.site) (hpages : rows'.pages.Perm rows.pages)
    (hchannels : rows'.channels.Perm rows.channels)
    (hagree : ∀ a ∈ ofDay day rows.site, ∀ b ∈ ofDay day rows.site, a = b)
    (hnames : ((ofDay day rows.channels).map (·.channel)).Nodup) :
    (rows'.reading withPages withChannels day).objection =
      (rows.reading withPages withChannels day).objection ∧
      (rows'.reading withPages withChannels day).canonicalPayload =
        (rows.reading withPages withChannels day).canonicalPayload := by
  have hfigures := getLast?_perm (ofDay_perm hsite.symm) hagree
  have hrows : (ofDay day rows'.pages.reduceOption).Perm (ofDay day rows.pages.reduceOption) :=
    ofDay_perm (reduceOption_perm hpages)
  have hnamed : (ofDay day rows'.channels).Perm (ofDay day rows.channels) := ofDay_perm hchannels
  constructor
  · unfold DayReading.objection ReadRows.reading dayReading
    rw [hfigures, negative_mergePages hrows, hnamed.any_eq]
  · unfold DayReading.canonicalPayload ReadRows.reading dayReading
    rw [hfigures, payload_mergePages hrows, sortOn_eq_of_perm hnamed.symm hnames]

end Reading

/-! ## When the days of a range can be published -/

section Apart

variable {classes : CharClasses} {check : NetlocCheck} {reports : Ga4Reports} {start stop : Date}
  {withPages withChannels : Bool} {rows : ReadRows}

/-- `RowsApart`, said of the rows read. -/
structure ReadApart (start stop : Date) (rows : ReadRows) : Prop where
  site : ∀ day, start ≤ day ∧ day ≤ stop → ∀ a ∈ ofDay day rows.site,
    ∀ b ∈ ofDay day rows.site, a = b
  pages : ∀ day, start ≤ day ∧ day ≤ stop → ∀ page ∈ ofDay day rows.pages.reduceOption,
    page.path.length ≤ 500
  channels : ∀ day, start ≤ day ∧ day ≤ stop →
    ((ofDay day rows.channels).map fun row => PyText.take 120 row.channel).Nodup

theorem mem_site_iff (h : ReadAs classes check reports withPages withChannels rows) {day : Date}
    {figures : SiteFigures} :
    figures ∈ ofDay day rows.site ↔ ∃ row ∈ reports.site, readSiteRow classes row =
      .ok (day, figures) := by
  have hall := mapM_eq_ok_iff.mp h.site
  rw [mem_ofDay]
  constructor
  · exact exists_of_mem_forall₂ hall
  · intro ⟨row, hrow, hread⟩
    obtain ⟨pair, hpair, hread'⟩ := exists_of_mem_forall₂_left hall hrow
    rw [hread] at hread'
    exact Except.ok.inj hread' ▸ hpair

theorem mem_pages_iff (h : ReadAs classes check reports withPages withChannels rows) {day : Date}
    {page : PageRow} :
    page ∈ ofDay day rows.pages.reduceOption ↔
      withPages = true ∧ ∃ row ∈ reports.pages, readPageRow classes check row =
        .ok (some (day, page)) := by
  have hread := h.pages
  unfold readPages at hread
  rw [mem_ofDay, List.reduceOption_mem_iff]
  by_cases hwith : withPages = true
  · rw [if_pos hwith] at hread
    have hall := mapM_eq_ok_iff.mp hread
    constructor
    · exact fun hmem => ⟨hwith, exists_of_mem_forall₂ hall hmem⟩
    · intro ⟨_, row, hrow, hread⟩
      obtain ⟨pair, hpair, hread'⟩ := exists_of_mem_forall₂_left hall hrow
      rw [hread] at hread'
      exact Except.ok.inj hread' ▸ hpair
  · rw [if_neg hwith] at hread
    rw [← Except.ok.inj hread]
    exact ⟨fun hmem => absurd hmem List.not_mem_nil, fun hmem => absurd hmem.1 hwith⟩

/-- Channels differ row by row exactly when each day names none twice. -/
theorem channels_apart_iff (h : ReadAs classes check reports withPages withChannels rows) :
    (∀ day, start ≤ day ∧ day ≤ stop →
        ((ofDay day rows.channels).map fun row => PyText.take 120 row.channel).Nodup) ↔
      (withChannels = true → reports.channels.Pairwise fun row row' =>
        ∀ day channel channel', start ≤ day → day ≤ stop →
          readChannelRow classes row = .ok (day, channel) →
          readChannelRow classes row' = .ok (day, channel') →
            PyText.take 120 channel.channel ≠ PyText.take 120 channel'.channel) := by
  unfold List.Nodup
  simp only [List.pairwise_map]
  rw [← @pairwise_ofDay ChannelRow rows.channels
    (fun a b => PyText.take 120 a.channel ≠ PyText.take 120 b.channel) fun day =>
      start ≤ day ∧ day ≤ stop]
  have hread := h.channels
  unfold readChannels at hread
  by_cases hwith : withChannels = true
  · rw [if_pos hwith] at hread
    have hall := mapM_eq_ok_iff.mp hread
    constructor
    · intro hpairs _
      refine pairwise_of_forall₂ ?_ hall.flip hpairs
      intro pair pair' row row' hrow hrow' hapart day channel channel' hstart hstop
        hchannel hchannel'
      rw [hchannel] at hrow
      rw [hchannel'] at hrow'
      rw [← Except.ok.inj hrow, ← Except.ok.inj hrow'] at hapart
      exact hapart ⟨hstart, hstop⟩ rfl
    · intro hpairs
      refine pairwise_of_forall₂ ?_ hall (hpairs hwith)
      intro row row' pair pair' hrow hrow' hapart hrange hsame
      exact hapart pair.1 pair.2 pair'.2 hrange.1 hrange.2 hrow (hsame ▸ hrow')
  · rw [if_neg hwith] at hread
    rw [← Except.ok.inj hread]
    exact ⟨fun _ hwith' => absurd hwith' hwith, fun _ => List.Pairwise.nil⟩

theorem rowsApart_iff (h : ReadAs classes check reports withPages withChannels rows) :
    RowsApart classes check reports start stop withPages withChannels ↔
    ReadApart start stop rows := by
  constructor
  · intro hapart
    refine ⟨fun day hday a ha b hb => ?_, fun day hday page hpage => ?_,
      (channels_apart_iff h).mpr hapart.channels⟩
    · obtain ⟨row, hrow, hread⟩ := (mem_site_iff h).mp ha
      obtain ⟨row', hrow', hread'⟩ := (mem_site_iff h).mp hb
      exact hapart.site row hrow row' hrow' day a b hday.1 hday.2 hread hread'
    · obtain ⟨hwith, row, hrow, hread⟩ := (mem_pages_iff h).mp hpage
      exact hapart.pages hwith row hrow day page hday.1 hday.2 hread
  · intro hapart
    refine ⟨fun row hrow row' hrow' day a b hstart hstop hread hread' => ?_,
      fun hwith row hrow day page hstart hstop hread =>
        ?_, (channels_apart_iff h).mp hapart.channels⟩
    · exact hapart.site day ⟨hstart, hstop⟩ a ((mem_site_iff h).mpr ⟨row, hrow, hread⟩) b
        ((mem_site_iff h).mpr ⟨row', hrow', hread'⟩)
    · exact hapart.pages day ⟨hstart, hstop⟩ page ((mem_pages_iff h).mpr ⟨hwith, row, hrow, hread⟩)

/-- The rows of a day whose page has a name are the ones that are merged. -/
theorem nameableRows_eq (h : ReadAs classes check reports withPages withChannels rows)
    (day : Date) :
    nameableRows classes check reports withPages day = ofDay day rows.pages.reduceOption := by
  have hread := h.pages
  unfold readPages at hread
  unfold nameableRows
  by_cases hwith : withPages = true
  · rw [if_pos hwith] at hread ⊢
    have hall := mapM_eq_ok_iff.mp hread
    clear h hread
    generalize reports.pages = items at hall ⊢
    generalize rows.pages = answers at hall ⊢
    induction hall with
    | nil => rfl
    | @cons row answer _ _ hrow _ ih =>
      rw [List.filterMap_cons, hrow]
      cases answer with
      | none =>
        rw [List.reduceOption_cons_of_none]
        exact ih
      | some pair =>
        rw [List.reduceOption_cons_of_some]
        obtain ⟨date, page⟩ := pair
        unfold ofDay at ih ⊢
        by_cases hday : date = day
        · simp only [if_pos hday, List.filter_cons, decide_eq_true hday, if_true, List.map_cons, ih]
        · simp only [if_neg hday, List.filter_cons, decide_eq_false hday, ih]
          rfl
  · rw [if_neg hwith] at hread ⊢
    rw [← Except.ok.inj hread]
    rfl

end Apart

section Promised

variable {classes : CharClasses} {check : NetlocCheck} {reports : Ga4Reports} {start stop : Date}
  {withPages withChannels : Bool} {rows rows' : ReadRows} {days : Dict Date DayReading}

theorem ReadAs.unique (h : ReadAs classes check reports withPages withChannels rows)
    (h' : ReadAs classes check reports withPages withChannels rows') : rows' = rows := by
  cases rows
  cases rows'
  congr 1
  · exact Except.ok.inj (h'.site.symm.trans h.site)
  · exact Except.ok.inj (h'.pages.symm.trans h.pages)
  · exact Except.ok.inj (h'.channels.symm.trans h.channels)

/-- The reading of a day of the range, where the range was collected. -/
theorem reading_of_collected
    (hok : collectRange classes check reports start stop withPages withChannels = .ok days)
    (hread : ReadAs classes check reports withPages withChannels rows) {day : Date}
    {reading : DayReading} :
    days.get? day = some reading ↔
      (start ≤ day ∧ day ≤ stop) ∧ reading = rows.reading withPages withChannels day := by
  obtain ⟨_, rows', hread', _, hdays⟩ := collectRange_eq_ok_iff.mp hok
  exact get?_days (hread.unique hread' ▸ hdays)

theorem storableRows_of_readApart (hapart : ReadApart start stop rows) {day : Date}
    (hday : start ≤ day ∧ day ≤ stop) : StorableRows (rows.reading withPages withChannels day) where
  paths := paths_mergePages
  channels := by
    have hstored := hapart.channels day hday
    apply List.Nodup.of_map (PyText.take 120)
    rw [List.map_map]
    exact hstored
  stored := hapart.channels day hday
  lengths row hrow := by
    obtain ⟨page, hpage, hpath⟩ := path_mergePages.mp ⟨row, hrow, rfl⟩
    rw [← hpath]
    exact hapart.pages day hday page hpage

/-- In another order, the rows are accepted as well, and each day has the same digest. -/
theorem collected_perm {reports' : Ga4Reports}
    (hok : collectRange classes check reports start stop withPages withChannels = .ok days)
    (hread : ReadAs classes check reports withPages withChannels rows)
    (hapart : ReadApart start stop rows)
    (hsame : SameRows reports reports') :
    ∃ days', collectRange classes check reports' start stop withPages withChannels = .ok days' ∧
      ∀ day reading, days.get? day = some reading →
        ∃ reading', days'.get? day = some reading' ∧ SameDigest reading reading' := by
  obtain ⟨rows', hread', hsite, hpages, hchannels⟩ := hread.of_perm hsame
  obtain ⟨hrange, rows₀, hread₀, hvalid, _⟩ := collectRange_eq_ok_iff.mp hok
  rw [hread.unique hread₀] at hvalid
  have hperm {day : Date} (hday : start ≤ day ∧ day ≤ stop) :=
    @reading_perm withPages withChannels rows rows' day hsite hpages hchannels
      (hapart.site day hday)
      (@storableRows_of_readApart start stop withPages withChannels rows hapart day hday).channels
  have hvalid' : ∀ day ∈ Date.eachDay start stop,
      (rows'.reading withPages withChannels day).objection = none := by
    intro day hday
    rw [(hperm (Date.mem_eachDay.mp hday)).1]
    exact hvalid day hday
  have hok' := collectRange_eq_ok_iff.mpr ⟨hrange, rows', hread', hvalid', rfl⟩
  refine ⟨_, hok', fun day reading hreading => ?_⟩
  obtain ⟨hday, rfl⟩ := (reading_of_collected hok hread).mp hreading
  refine ⟨_, (reading_of_collected hok' hread').mpr ⟨hday, rfl⟩, ?_⟩
  rw [sameDigest_iff, (hperm hday).2]

theorem publishableDays_of_readApart
    (hok : collectRange classes check reports start stop withPages withChannels = .ok days)
    (hread : ReadAs classes check reports withPages withChannels rows)
    (hapart : ReadApart start stop rows) :
    PublishableDays classes check reports start stop withPages withChannels days where
  storable day reading hreading := by
    obtain ⟨hday, rfl⟩ := (reading_of_collected hok hread).mp hreading
    exact storableRows_of_readApart hapart hday
  views day reading hreading := by
    obtain ⟨_, rfl⟩ := (reading_of_collected hok hread).mp hreading
    rw [nameableRows_eq hread]
    exact views_mergePages
  order _ hsame := collected_perm hok hread hapart hsame

/-- Any row of the site can come last, and then its figures count. -/
theorem exists_last (hread : ReadAs classes check reports withPages withChannels rows) {day : Date}
    {figures : SiteFigures} (hmem : figures ∈ ofDay day rows.site) :
    ∃ reports' rows', SameRows reports reports' ∧
    ReadAs classes check reports' withPages withChannels rows' ∧
      (rows'.reading withPages withChannels day).site = figures := by
  obtain ⟨row, hrow, hfigures⟩ := (mem_site_iff hread).mp hmem
  let others := reports.site.erase row
  have hfront : (row :: others).Perm reports.site := (List.perm_cons_erase hrow).symm
  obtain ⟨answers, hanswers, _⟩ := mapM_perm hfront hread.site
  rw [List.mapM_cons] at hanswers
  obtain ⟨_, _, hanswers⟩ := bind_eq_ok_iff.mp hanswers
  obtain ⟨site, hsite, _⟩ := bind_eq_ok_iff.mp hanswers
  refine ⟨⟨others ++ [row], reports.pages, reports.channels⟩,
    ⟨site ++ [(day, figures)], rows.pages, rows.channels⟩, ?_, ?_, ?_⟩
  · exact ⟨hfront.symm.trans (List.perm_append_singleton row others).symm, List.Perm.refl _,
      List.Perm.refl _⟩
  · refine ⟨mapM_eq_ok_iff.mpr ?_, hread.pages, hread.channels⟩
    exact List.rel_append (mapM_eq_ok_iff.mp hsite) (List.Forall₂.cons hfigures List.Forall₂.nil)
  · have hlast : ofDay day [(day, figures)] = [figures] := by
      simp [ofDay]
    show (ofDay day (site ++ [(day, figures)])).getLast?.getD noFigures = figures
    rw [ofDay_append, hlast, List.getLast?_append]
    rfl

theorem readApart_of_publishableDays
    (hok : collectRange classes check reports start stop withPages withChannels = .ok days)
    (hread : ReadAs classes check reports withPages withChannels rows)
    (hpublishable : PublishableDays classes check reports start stop withPages withChannels days) :
    ReadApart start stop rows := by
  have hreading {day : Date} (hday : start ≤ day ∧ day ≤ stop) :
      days.get? day = some (rows.reading withPages withChannels day) :=
    (reading_of_collected hok hread).mpr ⟨hday, rfl⟩
  -- whichever row of the site is put last, the figures of the day are its figures
  have hsite {day : Date} (hday : start ≤ day ∧ day ≤ stop) {figures : SiteFigures}
      (hmem : figures ∈ ofDay day rows.site) : (rows.reading withPages withChannels day).site =
        figures := by
    obtain ⟨reports', rows', hsame, hread', hlast⟩ := exists_last hread hmem
    obtain ⟨days', hok', hdigests⟩ := hpublishable.order reports' hsame
    obtain ⟨reading', hget', hdigest⟩ := hdigests day _ (hreading hday)
    obtain ⟨_, rfl⟩ := (reading_of_collected hok' hread').mp hget'
    exact hdigest.site.trans hlast
  refine ⟨fun day hday a ha b hb => ?_, fun day hday page hpage => ?_, fun day hday => ?_⟩
  · exact (hsite hday ha).symm.trans (hsite hday hb)
  · obtain ⟨row, hrow, hpath⟩ := path_mergePages.mpr ⟨page, hpage, rfl⟩
    rw [← hpath]
    exact (hpublishable.storable day _ (hreading hday)).lengths row hrow
  · exact (hpublishable.storable day _ (hreading hday)).stored

/-- The days of a range can be published in any order of the rows exactly when the rows of the site
agree on each day, the names of pages fit their column, and no day names a channel twice. -/
theorem collectRange_publishable_iff
    (hok : collectRange classes check reports start stop withPages withChannels = .ok days) :
    PublishableDays classes check reports start stop withPages withChannels days ↔
      RowsApart classes check reports start stop withPages withChannels := by
  obtain ⟨_, rows, hread, _, _⟩ := collectRange_eq_ok_iff.mp hok
  rw [rowsApart_iff hread]
  exact ⟨readApart_of_publishableDays hok hread, publishableDays_of_readApart hok hread⟩

end Promised

section Samples

def reportDay : Date := .of 2026 1 1

/-- One row for the site, two spellings of a page, and a row for each of some channels. -/
def reportsOf (channels : List String) : Ga4Reports where
  site := [⟨some [some "20260101"], some ((List.range 6).map fun n => .number n)⟩]
  pages := ["/uudised", "/uudised/"].map fun path =>
    ⟨some [some "20260101", some path], some [.number 4, .number 2, .blank]⟩
  channels := channels.map fun channel =>
    ⟨some [some "20260101", some channel], some [.number 3, .blank]⟩

/-- The rows of the sample are accepted, and their days can be published exactly when they are
apart. -/
theorem collectRange_publishable_direct :
    ∃ days, collectRange asciiClasses plainCheck (reportsOf ["Direct", "Referral"]) reportDay
      reportDay true true =
        .ok days ∧
      (PublishableDays asciiClasses plainCheck (reportsOf ["Direct", "Referral"]) reportDay
        reportDay true true days ↔
        RowsApart asciiClasses plainCheck (reportsOf ["Direct", "Referral"]) reportDay reportDay
          true true) := by
  have haccepted :
      (collectRange asciiClasses plainCheck (reportsOf ["Direct", "Referral"]) reportDay reportDay
      true true).toOption.isSome = true := by decide +kernel
  cases hok : collectRange asciiClasses plainCheck (reportsOf ["Direct", "Referral"]) reportDay
      reportDay true true with
  | error failure =>
    rw [hok] at haccepted
    cases haccepted
  | ok days => exact ⟨days, rfl, collectRange_publishable_iff hok⟩

/-- The channel without a name is filed under the name of another, which breaks the constraint. -/
theorem collectRange_relabels :
    ¬ ∀ (classes : CharClasses) (check : NetlocCheck) (reports : Ga4Reports) (start stop : Date)
      (withPages withChannels : Bool) (days : Dict Date DayReading), DistinctDimensions reports →
      collectRange classes check reports start stop withPages withChannels = .ok days →
        PublishableDays classes check reports start stop withPages withChannels days := by
  intro h
  let reports := reportsOf ["", "Unassigned"]
  have hdistinct : DistinctDimensions reports := ⟨by decide, by decide, by decide⟩
  have hnames :
      (collectRange asciiClasses plainCheck reports reportDay reportDay true true).toOption.map
      (fun days => (days.get? reportDay).map fun reading => reading.channels.map (·.channel)) =
        some (some ["Unassigned", "Unassigned"]) := by decide +kernel
  cases hok : collectRange asciiClasses plainCheck reports reportDay reportDay true true with
  | error failure =>
    rw [hok] at hnames
    cases hnames
  | ok days =>
    rw [hok] at hnames
    obtain ⟨reading, hreading, hchannels⟩ := Option.map_eq_some_iff.mp (Option.some.inj hnames)
    have hnodup :=
      ((h _ _ _ _ _ _ _ days hdistinct hok).storable reportDay reading hreading).channels
    rw [hchannels] at hnodup
    exact absurd hnodup (by decide)

end Samples

end Dashkoda.Visibility
