import Dashkoda.Visibility.Ga4History

/-!
# When a reconciliation arrives at what it read

A live run ends with every day of its window settled, or it stops at a day whose content an earlier
run has published already.
-/

open Lib

namespace Dashkoda.Visibility

open Core (ContentIdentity identityAccepted importedBefore)
open Sources (Registry)

/-! ## The chunks of a window -/

/-- The chunks lie between the cursor and the last day, one after the other. -/
structure Consecutive (cursor stop : Date) (yielded : List (Date × Date)) : Prop where
  within : ∀ chunk ∈ yielded, cursor ≤ chunk.1 ∧ chunk.2 ≤ stop
  ordered : yielded.Pairwise fun a b => a.2 < b.1

theorem chunksFrom_spec (size : Nat) (stop cursor : Date) :
    Consecutive cursor stop (chunksFrom size stop cursor).1 ∧
      ((chunksFrom size stop cursor).2 = none → ∀ day, cursor ≤ day → day ≤ stop →
        ∃ chunk ∈ (chunksFrom size stop cursor).1, chunk.1 ≤ day ∧ day ≤ chunk.2) := by
  fun_induction chunksFrom size stop cursor with
  | case1 cursor hle hreach =>
    exact ⟨⟨fun _ hchunk => (by cases hchunk), List.Pairwise.nil⟩, fun hnone => by cases hnone⟩
  | case2 cursor hle reached hreach hnext =>
    refine ⟨⟨fun chunk hchunk => ?_, List.pairwise_singleton _ _⟩, fun hnone => by cases hnone⟩
    rw [List.mem_singleton.mp hchunk]
    exact ⟨le_refl cursor, min_le_right reached stop⟩
  | case3 cursor hle reached hreach next hnext rest ih =>
    obtain ⟨hrest, hcover⟩ := ih
    have hcursor : cursor ≤ min reached stop := le_min (Date.le_addDays? hreach) hle
    have hcov := Date.covBy_next? hnext
    refine ⟨⟨fun chunk hchunk => ?_, ?_⟩, fun hnone day hfirst hlast => ?_⟩
    · cases List.mem_cons.mp hchunk with
      | inl heq =>
        rw [heq]
        exact ⟨le_refl cursor, min_le_right reached stop⟩
      | inr hin =>
        obtain ⟨hstart, hstop⟩ := hrest.within chunk hin
        exact ⟨(hcursor.trans hcov.lt.le).trans hstart, hstop⟩
    · refine List.pairwise_cons.mpr ⟨fun chunk hchunk => ?_, hrest.ordered⟩
      exact hcov.lt.trans_le (hrest.within chunk hchunk).1
    · by_cases hday : day ≤ min reached stop
      · exact ⟨_, List.mem_cons_self, hfirst, hday⟩
      · have hafter : next ≤ day := not_lt.mp fun hlt => hcov.2 (not_le.mp hday) hlt
        obtain ⟨chunk, hchunk, hin⟩ := hcover hnone day hafter hlast
        exact ⟨chunk, List.mem_cons_of_mem _ hchunk, hin⟩
  | case4 cursor hnot =>
    exact ⟨⟨fun _ hchunk => (by cases hchunk), List.Pairwise.nil⟩,
      fun _ day hfirst hlast => absurd (hfirst.trans hlast) hnot⟩

theorem chunks_spec (start stop : Date) (size : Int) :
    Consecutive start stop (chunks start stop size).1 ∧
      ((chunks start stop size).2 = none → ∀ day, start ≤ day → day ≤ stop →
        ∃ chunk ∈ (chunks start stop size).1, chunk.1 ≤ day ∧ day ≤ chunk.2) := by
  unfold chunks
  split
  · exact ⟨⟨fun _ hchunk => (by cases hchunk), List.Pairwise.nil⟩, fun hnone => by cases hnone⟩
  · exact chunksFrom_spec _ stop start

/-! ## Day after day -/

/-- Content stays acceptable if nothing with its checksum was registered since. -/
theorem identityAccepted_of_registered {r r' : Registry} {source : Nat} {identity : ContentIdentity}
    (hkept : r.artifacts <+: r'.artifacts)
    (hnew : ∀ artifact ∈ r'.artifacts, artifact.sha256 = identity.sha256 → artifact ∈ r.artifacts)
    (hhex : Sources.isSha256Hex identity.sha256 = true)
    (h : identityAccepted r' source identity = true) :
      identityAccepted r source identity = true := by
  have hcontent : Sources.hasContent r' source identity.sha256 =
      Sources.hasContent r source identity.sha256 := by
    rw [Bool.eq_iff_iff]
    unfold Sources.hasContent
    rw [List.any_eq_true, List.any_eq_true]
    constructor
    · rintro ⟨artifact, hin, hsame⟩
      have hsha := of_decide_eq_true (Bool.and_eq_true_iff.mp hsame).2
      exact ⟨artifact, hnew artifact hin hsha, hsame⟩
    · rintro ⟨artifact, hin, hsame⟩
      exact ⟨artifact, hkept.subset hin, hsame⟩
  unfold identityAccepted Sources.validateContentIdentity at h ⊢
  dsimp only at h ⊢
  rw [Core.strip_of_isSha256Hex hhex] at h ⊢
  rwa [hcontent] at h

section Progress

variable {setup : VisibilitySetup} {reading : Date → DayReading} {before db : VisibilityDb}

def Changes (setup : VisibilitySetup) (before : VisibilityDb) (reading : Date → DayReading)
    (day : Date) : Prop := ¬ Settled setup before (reading day)

/-- What keeps the window `P` from going through: a day that can neither stay nor be published, or
two days to publish under one key. -/
def Blocked (setup : VisibilitySetup) (before : VisibilityDb) (reading : Date → DayReading)
    (P : Date → Prop) : Prop :=
  (∃ day, P day ∧ Changes setup before reading day ∧ ¬ Publishable setup before (reading day)) ∨
    ∃ day day', P day ∧ P day' ∧ day ≠ day' ∧ Changes setup before reading day ∧
      Changes setup before reading day' ∧ dayKey setup (reading day) = dayKey setup (reading day')

/-- The store after the days `gone`, all of which went through. -/
structure Progress (setup : VisibilitySetup) (before : VisibilityDb) (reading : Date → DayReading)
    (gone : List Date) (db : VisibilityDb) : Prop extends Ga4Sound db where
  settled : ∀ day ∈ gone, Settled setup db (reading day)
  others : ∀ day ∉ gone, currentDay setup db day = currentDay setup before day
  clear : ∀ day ∈ gone, Changes setup before reading day → Publishable setup before (reading day)
  distinct : ∀ day ∈ gone, ∀ day' ∈ gone, Changes setup before reading day →
    Changes setup before reading day' → dayKey setup (reading day) = dayKey setup (reading day') →
    day = day'
  imported : ∀ key, importedBefore db.registry key = true ↔
    importedBefore before.registry key = true ∨
      ∃ day ∈ gone, Changes setup before reading day ∧ dayKey setup (reading day) = key
  artifacts : before.registry.artifacts <+: db.registry.artifacts
  registers : ∀ artifact ∈ db.registry.artifacts, artifact ∈ before.registry.artifacts ∨
    ∃ day ∈ gone, Changes setup before reading day ∧
      artifact.sha256 = ((reading day).canonicalDigest setup).sha256

theorem Progress.start (h : Ga4Sound db) : Progress setup db reading [] db where
  toGa4Sound := h
  settled _ hday := by cases hday
  others _ _ := rfl
  clear _ hday := by cases hday
  distinct _ hday := by cases hday
  imported key := ⟨Or.inl, fun h => h.resolve_right fun ⟨_, hday, _⟩ => by cases hday⟩
  artifacts := List.prefix_refl _
  registers _ hin := Or.inl hin

variable {gone : List Date} {day : Date}

theorem Progress.settled_iff (h : Progress setup before reading gone db) (hday : day ∉ gone)
    (hreport : (reading day).reportDate = day) :
    Settled setup db (reading day) ↔ Settled setup before (reading day) := by
  unfold Settled
  rw [hreport, h.others day hday]

theorem Progress.storable_iff (h : Progress setup before reading gone db) (hday : day ∉ gone)
    (hreport : (reading day).reportDate = day) :
    Storable setup db (reading day) ↔ Storable setup before (reading day) := by
  unfold Storable
  rw [hreport, h.others day hday]

/-- A day that can be published now could be published at the start, and shares its key with no day
that was. -/
theorem Progress.publishable (h : Progress setup before reading gone db) (hday : day ∉ gone)
    (hreport : (reading day).reportDate = day) (hnow : Publishable setup db (reading day)) :
    Publishable setup before (reading day) ∧ ∀ day' ∈ gone, Changes setup before reading day' →
      dayKey setup (reading day') ≠ dayKey setup (reading day) := by
  have hnot : ¬ (importedBefore before.registry (dayKey setup (reading day)) = true ∨
      ∃ day' ∈ gone, Changes setup before reading day' ∧
        dayKey setup (reading day') = dayKey setup (reading day)) := by
    rw [← h.imported, hnow.new]
    exact Bool.false_ne_true
  have hkeys : ∀ day' ∈ gone, Changes setup before reading day' →
      dayKey setup (reading day') ≠ dayKey setup (reading day) :=
    fun day' hgone hchanges hsame => hnot (Or.inr ⟨day', hgone, hchanges, hsame⟩)
  refine ⟨⟨?_, ?_, hnow.fits, Bool.eq_false_iff.mpr fun himported =>
    hnot (Or.inl himported)⟩, hkeys⟩
  · refine identityAccepted_of_registered h.artifacts ?_ (setup.digest_hex _) hnow.accepted
    intro artifact hin hsha
    refine (h.registers artifact hin).resolve_right ?_
    rintro ⟨day', hgone, hchanges, hother⟩
    refine hkeys day' hgone hchanges ?_
    unfold dayKey importKeyOf
    rw [← hother, hsha]
  · exact (h.storable_iff hday hreport).mp hnow.storable

/-- A day that cannot be published now is blocked from the start. -/
theorem Progress.blocked (h : Progress setup before reading gone db) (hday : day ∉ gone)
    (hreport : (reading day).reportDate = day) {P : Date → Prop} (hgone : ∀ day ∈ gone, P day)
    (hP : P day) (hchanges : Changes setup before reading day)
    (hnow : ¬ Publishable setup db (reading day)) : Blocked setup before reading P := by
  by_cases hpublishable : Publishable setup before (reading day)
  · right
    by_contra hnone
    refine hnow ⟨?_, (h.storable_iff hday hreport).mpr hpublishable.storable, hpublishable.fits, ?_⟩
    · exact Core.identityAccepted_of_prefix h.artifacts (setup.digest_hex _) hpublishable.accepted
    · rw [Bool.eq_false_iff]
      intro himported
      cases (h.imported _).mp himported with
      | inl hbefore =>
        rw [hpublishable.new] at hbefore
        cases hbefore
      | inr hother =>
        obtain ⟨day', hin, hchanges', hsame⟩ := hother
        exact hnone ⟨day', day, hgone day' hin, hP, fun heq =>
          hday (heq ▸ hin), hchanges', hchanges,
          hsame⟩
  · exact Or.inl ⟨day, hP, hchanges, hpublishable⟩

/-- A settled day changes nothing. -/
theorem Progress.keep (h : Progress setup before reading gone db) (hday : day ∉ gone)
    (hreport : (reading day).reportDate = day) (hsettled : Settled setup db (reading day)) :
    Progress setup before reading (gone ++ [day]) db := by
  have hstays : ¬ Changes setup before reading day :=
    fun hchanges => hchanges ((h.settled_iff hday hreport).mp hsettled)
  have hcases {day' : Date} (hin : day' ∈ gone ++ [day])
      (hchanges : Changes setup before reading day') :
      day' ∈ gone := by
    cases List.mem_append.mp hin with
    | inl hgone => exact hgone
    | inr hlast => exact absurd hchanges (List.mem_singleton.mp hlast ▸ hstays)
  refine
    { h with
      settled := ?_, others := ?_, clear := ?_, distinct := ?_, imported := ?_, registers := ?_ }
  · intro day' hin
    cases List.mem_append.mp hin with
    | inl hgone => exact h.settled day' hgone
    | inr hlast => exact List.mem_singleton.mp hlast ▸ hsettled
  · exact fun day' hnot => h.others day' fun hgone => hnot (List.mem_append_left _ hgone)
  · exact fun day' hin hchanges => h.clear day' (hcases hin hchanges) hchanges
  · exact fun day' hin day'' hin' hchanges hchanges' =>
      h.distinct day' (hcases hin hchanges) day'' (hcases hin' hchanges') hchanges hchanges'
  · intro key
    rw [h.imported key]
    apply or_congr_right
    constructor
    · exact fun ⟨day', hin, hrest⟩ => ⟨day', List.mem_append_left _ hin, hrest⟩
    · exact fun ⟨day', hin, hrest⟩ => ⟨day', hcases hin hrest.1, hrest⟩
  · intro artifact hin
    refine (h.registers artifact hin).imp id ?_
    exact fun ⟨day', hin', hrest⟩ => ⟨day', List.mem_append_left _ hin', hrest⟩

/-- A day that is published is the next one that went through. -/
theorem Progress.publish {db' : VisibilityDb} (h : Progress setup before reading gone db)
    (hday : day ∉ gone) (hreport : ∀ day, (reading day).reportDate = day)
    (hpublishable : Publishable setup db (reading day))
    (hpublished : DayPublished setup (reading day) db db') :
    Progress setup before reading (gone ++ [day]) db' := by
  have hchanges : Changes setup before reading day :=
    fun hsettled => hpublished.changed ((h.settled_iff hday (hreport day)).mpr hsettled)
  obtain ⟨hbefore, hkeys⟩ := h.publishable hday (hreport day) hpublishable
  obtain ⟨draft, hwritten⟩ := hpublished.written
  have hother {day' : Date} (hne : day' ≠ day) :
      currentDay setup db' day' = currentDay setup db day' :=
    hwritten.current_other h.snapshots ((hreport day).symm ▸ hne)
  refine ⟨⟨hpublished.registry.sound, hwritten.sound hpublished.changed h.snapshots⟩,
    ?_, ?_, ?_, ?_,
    ?_, h.artifacts.trans hpublished.registry.artifacts, ?_⟩
  · intro day' hin
    cases List.mem_append.mp hin with
    | inl hin' =>
      have hsettled := h.settled day' hin'
      unfold Settled at hsettled ⊢
      rw [hreport day'] at hsettled ⊢
      rwa [hother fun heq => hday (heq ▸ hin')]
    | inr hlast =>
      rw [List.mem_singleton.mp hlast]
      exact hwritten.settled hpublished.changed h.snapshots
  · intro day' hnot
    rw [List.mem_append, List.mem_singleton, not_or] at hnot
    exact (hother hnot.2).trans (h.others day' hnot.1)
  · intro day' hin hchanges'
    cases List.mem_append.mp hin with
    | inl hin' => exact h.clear day' hin' hchanges'
    | inr hlast => exact List.mem_singleton.mp hlast ▸ hbefore
  · intro day' hin day'' hin' hchanges' hchanges'' hsame
    cases List.mem_append.mp hin with
    | inl hin₁ =>
      cases List.mem_append.mp hin' with
      | inl hin₂ => exact h.distinct day' hin₁ day'' hin₂ hchanges' hchanges'' hsame
      | inr hlast =>
        rw [List.mem_singleton.mp hlast] at hsame
        exact absurd hsame (hkeys day' hin₁ hchanges')
    | inr hlast =>
      rw [List.mem_singleton.mp hlast] at hsame ⊢
      cases List.mem_append.mp hin' with
      | inl hin₂ => exact absurd hsame.symm (hkeys day'' hin₂ hchanges'')
      | inr hlast' => exact (List.mem_singleton.mp hlast').symm
  · intro key
    rw [hpublished.registry.importedBefore key, Bool.or_eq_true, h.imported key, decide_eq_true_iff,
      or_assoc]
    apply or_congr_right
    constructor
    · rintro (⟨day', hin, hrest⟩ | hsame)
      · exact ⟨day', List.mem_append_left _ hin, hrest⟩
      · exact ⟨day, List.mem_append_right _ (List.mem_singleton_self day), hchanges, hsame⟩
    · rintro ⟨day', hin, hchanges', hsame⟩
      cases List.mem_append.mp hin with
      | inl hin' => exact Or.inl ⟨day', hin', hchanges', hsame⟩
      | inr hlast => exact Or.inr (List.mem_singleton.mp hlast ▸ hsame)
  · intro artifact hin
    cases hpublished.registers artifact hin with
    | inl hold =>
      refine (h.registers artifact hold).imp id ?_
      exact fun ⟨day', hin', hrest⟩ => ⟨day', List.mem_append_left _ hin', hrest⟩
    | inr hsha =>
      exact Or.inr ⟨day, List.mem_append_right _ (List.mem_singleton_self day), hchanges, hsha⟩

/-! ## The loops -/

variable {P : Date → Prop}

/-- Where the loops over the days `days` end: past all of them, or blocked. -/
def Advances (setup : VisibilitySetup) (before : VisibilityDb) (reading : Date → DayReading)
    (P : Date → Prop) (days : List Date) (ended : SyncEnd) (db : VisibilityDb) : Prop :=
  match ended with
  | .done _ => Progress setup before reading days db
  | .failed _ _ => Blocked setup before reading P

theorem publishDay_progress (hreport : ∀ day, (reading day).reportDate = day)
    (h : Progress setup before reading gone db) (hday : day ∉ gone) (hgone : ∀ day ∈ gone, P day)
    (hP : P day) (counts : SyncCounts) :
    (publishDay setup .calm false counts (reading day)).wp
      (fun _ db' => Progress setup before reading (gone ++ [day]) db')
      (fun _ _ => Blocked setup before reading P) db := by
  apply Proc.wp_mono
    (Proc.wp_and (publishDay_ends h.registry counts) (publishDay_iff h.registry counts))
  · rintro _ db' ⟨hends, hiff⟩
    cases hends with
    | inl hsettled =>
      rw [hsettled.2]
      exact h.keep hday (hreport day) hsettled.1
    | inr hpublished =>
      exact h.publish hday hreport (hiff.resolve_left hpublished.changed) hpublished
  · rintro _ _ ⟨-, hunsettled, hnot⟩
    have hchanges : Changes setup before reading day :=
      fun hsettled => hunsettled ((h.settled_iff hday (hreport day)).mpr hsettled)
    exact h.blocked hday (hreport day) hgone hP hchanges hnot

theorem publishDays_progress (hreport : ∀ day, (reading day).reportDate = day) (days : List Date)
    (hnodup : days.Nodup) (hfresh : ∀ day ∈ days, day ∉ gone) (hgone : ∀ day ∈ gone, P day)
    (hP : ∀ day ∈ days, P day) (h : Progress setup before reading gone db) (report : SyncReport) :
    (publishDays setup .calm false report (days.map reading)).wp
      (Advances setup before reading P (gone ++ days)) (fun _ _ => Blocked setup before reading P)
      db := by
  induction days generalizing gone db report with
  | nil =>
    rw [List.append_nil]
    exact h
  | cons day rest ih =>
    rw [List.map_cons]
    unfold publishDays
    dsimp only
    rw [Proc.wp_bind, Proc.wp_tryCatch, Proc.wp_map]
    apply Proc.wp_mono (publishDay_progress hreport h (hfresh day List.mem_cons_self) hgone
      (hP day List.mem_cons_self) _)
    · intro published db' hprogress
      have hrest := @ih db' (gone ++ [day]) (List.nodup_cons.mp hnodup).2 ?_ ?_
        (fun day' hin => hP day' (List.mem_cons_of_mem _ hin)) hprogress
        ⟨published.1, report.days ++ [published.2]⟩
      · rw [List.append_assoc] at hrest
        exact hrest
      · intro day' hin hgone'
        cases List.mem_append.mp hgone' with
        | inl hold => exact hfresh day' (List.mem_cons_of_mem _ hin) hold
        | inr hlast => exact (List.nodup_cons.mp hnodup).1 (List.mem_singleton.mp hlast ▸ hin)
      · intro day' hin
        cases List.mem_append.mp hin with
        | inl hold => exact hgone day' hold
        | inr hlast => exact List.mem_singleton.mp hlast ▸ hP day List.mem_cons_self
    · intro error db' hblocked
      rw [Proc.wp_pure]
      cases error <;> exact hblocked

/-- The collection holds the readings of the chunk's days, and no others. -/
def RangeCollection.Reads (collection : RangeCollection) (reading : Date → DayReading)
    (chunk : Date × Date) : Prop :=
  ∀ day read, (day, read) ∈ collection.days.entries ↔
    chunk.1 ≤ day ∧ day ≤ chunk.2 ∧ read = reading day

/-- The days of a chunk, in order. -/
theorem RangeCollection.Reads.readings {collection : RangeCollection} {chunk : Date × Date}
    (h : collection.Reads reading chunk) : ∃ days : List Date, collection.readings =
      days.map reading ∧
      days.Nodup ∧ ∀ day, day ∈ days ↔ chunk.1 ≤ day ∧ day ≤ chunk.2 := by
  refine ⟨(sortOn (·.1) collection.days.entries).map (·.1), ?_, ?_, fun day => ?_⟩
  · unfold RangeCollection.readings
    rw [List.map_map]
    apply List.map_congr_left
    rintro ⟨day, read⟩ hentry
    exact ((h day read).mp (mem_sortOn.mp hentry)).2.2
  · exact ((perm_sortOn _ _).map _).nodup_iff.mpr collection.days.keys_nodup
  · rw [List.mem_map]
    constructor
    · rintro ⟨⟨day', read⟩, hentry, rfl⟩
      obtain ⟨hfirst, hlast, -⟩ := (h day' read).mp (mem_sortOn.mp hentry)
      exact ⟨hfirst, hlast⟩
    · rintro ⟨hfirst, hlast⟩
      exact ⟨(day, reading day), mem_sortOn.mpr ((h day _).mpr ⟨hfirst, hlast, rfl⟩), rfl⟩

/-- The day lies in one of the chunks. -/
def InChunks (yielded : List (Date × Date)) (day : Date) : Prop :=
  ∃ chunk ∈ yielded, chunk.1 ≤ day ∧ day ≤ chunk.2

/-- Where the loop over the chunks ends: past the days of `Q`, or blocked. -/
def Arrives (setup : VisibilitySetup) (before : VisibilityDb) (reading : Date → DayReading)
    (P Q : Date → Prop) (ended : SyncEnd) (db : VisibilityDb) : Prop :=
  match ended with
  | .done _ => ∃ days, (∀ day, day ∈ days ↔ Q day) ∧ Progress setup before reading days db
  | .failed _ _ => Blocked setup before reading P

theorem publishChunks_progress {request : Ga4Request} (hlive : request.dryRun = false)
    (hreport : ∀ day, (reading day).reportDate = day) (yielded : List (Date × Date))
    (hordered : yielded.Pairwise fun a b => a.2 < b.1)
    (hreads : ∀ chunk ∈ yielded, ∃ collection, request.collector.collectRange chunk.1 chunk.2
      request.withPages request.withChannels = .ok collection ∧ collection.Reads reading chunk)
    (hfresh : ∀ day ∈ gone, ¬ InChunks yielded day) (hgone : ∀ day ∈ gone, P day)
    (hP : ∀ day, InChunks yielded day → P day)
    (h : Progress setup before reading gone db) (report : SyncReport) :
    (publishChunks setup .calm request report yielded).wp
      (Arrives setup before reading P fun day => day ∈ gone ∨ InChunks yielded day)
      (fun _ _ => Blocked setup before reading P) db := by
  induction yielded generalizing gone db report with
  | nil =>
    refine ⟨gone, fun day => ⟨Or.inl, fun hin => hin.resolve_right ?_⟩, h⟩
    rintro ⟨_, hchunk, -⟩
    cases hchunk
  | cons chunk rest ih =>
    obtain ⟨hbefore, hordered⟩ := List.pairwise_cons.mp hordered
    obtain ⟨collection, hcollect, hcollection⟩ := hreads chunk List.mem_cons_self
    obtain ⟨days, hreadings, hnodup, hdays⟩ := hcollection.readings
    have hhead {day : Date} (hin : day ∈ days) : InChunks (chunk :: rest) day :=
      ⟨chunk, List.mem_cons_self, (hdays day).mp hin⟩
    have htail {day : Date} (hin : InChunks rest day) : InChunks (chunk :: rest) day := by
      obtain ⟨other, hother, hbounds⟩ := hin
      exact ⟨other, List.mem_cons_of_mem _ hother, hbounds⟩
    unfold publishChunks
    dsimp only
    rw [hcollect]
    dsimp only
    rw [hlive, hreadings, Proc.wp_bind]
    apply Proc.wp_mono (publishDays_progress hreport days hnodup
      (fun day hin hgone' => hfresh day hgone' (hhead hin)) hgone
      (fun day hin => hP day (hhead hin)) h _)
    · intro ended db' hadvances
      cases ended with
      | failed message report => exact hadvances
      | done report' =>
        have hrest := @ih db' (gone ++ days) hordered
          (fun chunk' hchunk => hreads chunk' (List.mem_cons_of_mem _ hchunk)) ?_ ?_
          (fun day hin => hP day (htail hin)) hadvances report'
        · apply Proc.wp_mono hrest
          · intro ended db'' harrives
            cases ended with
            | failed message report => exact harrives
            | done report'' =>
              obtain ⟨all, hall, hprogress⟩ := harrives
              refine ⟨all, fun day => (hall day).trans ?_, hprogress⟩
              beta_reduce
              rw [List.mem_append, hdays day, or_assoc]
              apply or_congr_right
              constructor
              · exact fun hin =>
                  hin.elim (fun hbounds => ⟨chunk, List.mem_cons_self, hbounds⟩) htail
              · rintro ⟨other, hother, hbounds⟩
                cases List.mem_cons.mp hother with
                | inl heq => exact Or.inl (heq ▸ hbounds)
                | inr hin => exact Or.inr ⟨other, hin, hbounds⟩
          · exact fun _ _ hblocked => hblocked
        · intro day hin hlater
          cases List.mem_append.mp hin with
          | inl hgone' => exact hfresh day hgone' (htail hlater)
          | inr hday =>
            obtain ⟨other, hother, hfirst, -⟩ := hlater
            exact absurd (((hdays day).mp hday).2.trans_lt (hbefore other hother))
              (not_lt.mpr hfirst)
        · intro day hin
          cases List.mem_append.mp hin with
          | inl hgone' => exact hgone day hgone'
          | inr hday => exact hP day (hhead hday)
    · exact fun _ _ hblocked => hblocked

end Progress

/-! ## A run -/

/-- The collector answers every chunk of the window with the readings of its days. -/
structure Ga4Request.Succeeds (request : Ga4Request) (reading : Date → DayReading) : Prop where
  ready : request.collector.ready = .ok ()
  reportDate : ∀ day, (reading day).reportDate = day
  reads : ∀ start stop, request.window = .ok (start, stop) →
    ∀ chunk ∈ (chunks start stop request.chunkDays).1, ∃ collection,
      request.collector.collectRange chunk.1 chunk.2 request.withPages request.withChannels =
        .ok collection ∧ collection.Reads reading chunk

/-- The window has no day, or each of its days is reached and either stays or can be published, no
two of them under one key. -/
def Ga4Request.Clear (request : Ga4Request) (setup : VisibilitySetup) (reading : Date → DayReading)
    (db : VisibilityDb) : Prop :=
  ∃ start stop, request.window = .ok (start, stop) ∧
    (stop < start ∨
      (chunks start stop request.chunkDays).2 = none ∧
        (∀ day, start ≤ day → day ≤ stop →
          Settled setup db (reading day) ∨ Publishable setup db (reading day)) ∧
        ∀ day day', start ≤ day → day ≤ stop → start ≤ day' → day' ≤ stop →
          ¬ Settled setup db (reading day) → ¬ Settled setup db (reading day') →
            dayKey setup (reading day) = dayKey setup (reading day') → day = day')

/-- The run does not fail, and leaves each day of the window with what was read of it, or with more
detail than was read. -/
def Ga4Request.Converges (request : Ga4Request) (setup : VisibilitySetup)
    (reading : Date → DayReading) (db : VisibilityDb) : Prop :=
  (synchronizeGa4 setup .calm request).wp
    (fun outcome db' => outcome.result ≠ .failed ∧
      ∀ start stop, request.window = .ok (start, stop) →
      ∀ day, start ≤ day → day ≤ stop → Settled setup db' (reading day))
    (fun _ _ => False) db

section Converges

variable {setup : VisibilitySetup} {reading : Date → DayReading} {request : Ga4Request}
  {start stop : Date} {db : VisibilityDb}

/-- In a window that is clear, nothing is blocked, and the other way around. -/
theorem not_clear_of_blocked (hwindow : request.window = .ok (start, stop)) (hdays : ¬ stop < start)
    (h : Blocked setup db reading fun day => start ≤ day ∧ day ≤ stop) :
    ¬ request.Clear setup reading db := by
  rintro ⟨start', stop', hwindow', hcause⟩
  rw [hwindow] at hwindow'
  cases hwindow'
  obtain ⟨-, hclear, hdistinct⟩ := hcause.resolve_left hdays
  cases h with
  | inl hday =>
    obtain ⟨day, ⟨hfirst, hlast⟩, hchanges, hnot⟩ := hday
    exact (hclear day hfirst hlast).elim hchanges hnot
  | inr htwo =>
    obtain ⟨day, day', hin, hin', hne, hchanges, hchanges', hsame⟩ := htwo
    exact hne (hdistinct day day' hin.1 hin.2 hin'.1 hin'.2 hchanges hchanges' hsame)

theorem clear_of_progress {days : List Date} {db' : VisibilityDb}
    (hwindow : request.window = .ok (start, stop))
    (hreached : (chunks start stop request.chunkDays).2 = none)
    (hdays : ∀ day, day ∈ days ↔ start ≤ day ∧ day ≤ stop)
    (h : Progress setup db reading days db') : request.Clear setup reading db := by
  refine ⟨start, stop, hwindow, Or.inr ⟨hreached, fun day hfirst hlast => ?_, ?_⟩⟩
  · by_cases hsettled : Settled setup db (reading day)
    · exact Or.inl hsettled
    · exact Or.inr (h.clear day ((hdays day).mpr ⟨hfirst, hlast⟩) hsettled)
  · exact fun day day' hfirst hlast hfirst' hlast' =>
      h.distinct day ((hdays day).mpr ⟨hfirst, hlast⟩)
      day' ((hdays day').mpr ⟨hfirst', hlast'⟩)

/-- How a run ends: with every day settled, which needs a clear window, or without. -/
def RunEnds (setup : VisibilitySetup) (reading : Date → DayReading) (request : Ga4Request)
    (db : VisibilityDb) (outcome : Ga4Outcome) (db' : VisibilityDb) : Prop :=
  if outcome.result = .failed then ¬ request.Clear setup reading db
  else request.Clear setup reading db ∧ ∀ start stop, request.window = .ok (start, stop) →
    ∀ day, start ≤ day → day ≤ stop → Settled setup db' (reading day)

theorem wp_modifyGa4State {f : DailyFeedState → DailyFeedState} {post : Unit → VisibilityDb → Prop}
    {raised : VisibilityExn → VisibilityDb → Prop} : (modifyGa4State f).wp post raised =
      fun db => post () { db with ga4 := { db.ga4 with state := f db.ga4.state } } := rfl

theorem recordGa4Failure_ends {message : String} {report : Option SyncReport} {db' : VisibilityDb}
    (h : ¬ request.Clear setup reading db) :
    (recordGa4Failure .calm message report).wp (RunEnds setup reading request db)
      (fun _ _ => ¬ request.Clear setup reading db) db' := by
  unfold recordGa4Failure
  rw [Proc.wp_bind, show Ga4Outage.calm.recordOutcome = none from rfl, wp_raiseIf_none,
    Proc.wp_bind,
    wp_modifyGa4State, Proc.wp_pure]
  exact (if_pos rfl).mpr h

theorem synchronizeGa4_ends (h : Ga4Sound db) (hlive : request.dryRun = false)
    (hsucceeds : request.Succeeds reading) :
    (synchronizeGa4 setup .calm request).wp (RunEnds setup reading request db)
      (fun _ _ => ¬ request.Clear setup reading db) db := by
  unfold synchronizeGa4
  cases hwindow : request.window with
  | error error =>
    rintro ⟨start, stop, hok, -⟩
    rw [hwindow] at hok
    cases hok
  | ok window =>
    obtain ⟨start, stop⟩ := window
    dsimp only
    rw [Proc.wp_ite]
    constructor
    · intro hempty
      rw [Proc.wp_pure]
      refine (if_neg fun hfailed => by cases hfailed).mpr
        ⟨⟨start, stop, hwindow, Or.inl hempty⟩, ?_⟩
      intro start' stop' hwindow' day hfirst hlast
      rw [hwindow] at hwindow'
      cases hwindow'
      exact absurd (hfirst.trans hlast) (not_le.mpr hempty)
    · intro hdays
      obtain ⟨hconsecutive, hcover⟩ := chunks_spec start stop request.chunkDays
      have hin (day : Date) (hday : InChunks (chunks start stop request.chunkDays).1 day) :
          start ≤ day ∧ day ≤ stop := by
        obtain ⟨chunk, hchunk, hfirst, hlast⟩ := hday
        obtain ⟨hstart, hstop⟩ := hconsecutive.within chunk hchunk
        exact ⟨hstart.trans hfirst, hlast.trans hstop⟩
      rw [Proc.wp_bind, show Ga4Outage.calm.touchChecked = none from rfl, wp_raiseIf_none,
        Proc.wp_bind,
        Proc.wp_get]
      dsimp only
      rw [Proc.wp_bind, wp_modifyGa4State, hsucceeds.ready]
      dsimp only
      rw [Proc.wp_bind]
      -- recording the check does not touch what the loops look at
      let checked : VisibilityDb := { db with
        ga4 := { db.ga4 with state :=
          { db.ga4.state with toFeedState := db.ga4.state.toFeedState.touchChecked db.clock } } }
      have hstart : Progress setup db reading [] checked :=
        { Progress.start h with toGa4Sound := ⟨h.registry, h.snapshots⟩ }
      have hchunks := @publishChunks_progress setup reading db checked []
        (fun day => start ≤ day ∧ day ≤ stop) request hlive hsucceeds.reportDate _
          hconsecutive.ordered
        (hsucceeds.reads start stop hwindow) (fun _ hnil => by cases hnil)
          (fun _ hnil => by cases hnil)
        hin hstart ⟨.zero, []⟩
      apply Proc.wp_mono hchunks
      · intro ended db' harrives
        cases ended with
        | failed message report =>
          exact recordGa4Failure_ends (not_clear_of_blocked hwindow hdays harrives)
        | done report =>
          obtain ⟨days, hall, hprogress⟩ := harrives
          dsimp only
          rw [Proc.wp_bind]
          cases hraised : (chunks start stop request.chunkDays).2 with
          | some error =>
            rintro ⟨start', stop', hwindow', hcause⟩
            rw [hwindow] at hwindow'
            cases hwindow'
            obtain ⟨hnone, -⟩ := hcause.resolve_left hdays
            rw [hraised] at hnone
            cases hnone
          | none =>
            have hreached (day : Date) : day ∈ days ↔ start ≤ day ∧ day ≤ stop := by
              rw [hall day]
              constructor
              · exact fun hday => hday.elim (fun hnil => by cases hnil) (hin day)
              · exact fun hbounds => Or.inr (hcover hraised day hbounds.1 hbounds.2)
            have hclear := clear_of_progress hwindow hraised hreached hprogress
            rw [wp_raiseIf_none, hlive, Bool.not_false, if_pos rfl, Proc.wp_bind]
            unfold recordGa4Outcome
            rw [Proc.wp_bind, show Ga4Outage.calm.recordOutcome = none from rfl, wp_raiseIf_none,
              Proc.wp_bind, Proc.wp_get]
            dsimp only
            rw [Proc.wp_bind, wp_modifyGa4State, wp_modifyGa4State, Proc.wp_pure]
            refine (if_neg ?_).mpr ⟨hclear, ?_⟩
            · dsimp only
              split
              · exact fun hfailed => by cases hfailed
              · exact fun hfailed => by cases hfailed
            · intro start' stop' hwindow' day hfirst hlast
              rw [hwindow] at hwindow'
              cases hwindow'
              exact hprogress.settled day ((hreached day).mpr ⟨hfirst, hlast⟩)
      · exact fun _ _ hblocked => not_clear_of_blocked hwindow hdays hblocked

/-- A live run arrives at what it read exactly if its window is clear in the store it starts
from. -/
theorem synchronize_converges_iff (setup : VisibilitySetup) (history : List Ga4Action)
    (request : Ga4Request) (reading : Date → DayReading) (hlive : request.dryRun = false)
    (hsucceeds : request.Succeeds reading) :
    request.Converges setup reading (ga4After setup history) ↔
      request.Clear setup reading (ga4After setup history) := by
  have hends := @synchronizeGa4_ends setup reading request _ (ga4After_sound setup history) hlive
    hsucceeds
  constructor
  · intro hconverges
    by_contra hblocked
    refine Proc.not_wp hends ?_ (fun _ _ _ hfalse => hfalse) hconverges
    intro outcome db' hrun hconverged
    exact hblocked ((if_neg hconverged.1).mp hrun).1
  · intro hclear
    apply Proc.wp_mono hends
    · intro outcome db' hrun
      by_cases hfailed : outcome.result = .failed
      · exact absurd hclear ((if_pos hfailed).mp hrun)
      · exact ⟨hfailed, ((if_neg hfailed).mp hrun).2⟩
    · exact fun _ _ hblocked => hblocked hclear

end Converges

/-! ## A day whose figures come back -/

def reportedDay : Date := .of 2026 3 1

def sessionsReading (sessions : Int) (day : Date) : DayReading :=
  ⟨day, ⟨some sessions, none, none, none, none, none⟩, [], [], true, true⟩

/-- A live run over the one day, the day after it. -/
def oneDayRequest (sessions : Int) : Ga4Request where
  dryRun := false
  collector := ⟨.ok (), fun _ _ _ _ => .ok ⟨⟨[(reportedDay, sessionsReading sessions reportedDay)],
    List.nodup_singleton _⟩, ⟨1, 0⟩⟩⟩
  start := some reportedDay
  stop := some reportedDay
  withPages := true
  withChannels := true
  chunkDays := BACKFILL_CHUNK_DAYS
  today := .of 2026 3 2

set_option maxRecDepth 20000 in
theorem oneDay_window (sessions : Int) :
    (oneDayRequest sessions).window = .ok (reportedDay, reportedDay) := rfl

set_option maxRecDepth 20000 in
theorem oneDay_chunks : chunks reportedDay reportedDay BACKFILL_CHUNK_DAYS =
    ([(reportedDay, reportedDay)], none) := by decide +kernel

theorem oneDay_succeeds (sessions : Int) :
    (oneDayRequest sessions).Succeeds (sessionsReading sessions) where
  ready := rfl
  reportDate _ := rfl
  reads := by
    intro start stop hwindow chunk hchunk
    rw [oneDay_window] at hwindow
    cases hwindow
    rw [show (oneDayRequest sessions).chunkDays = BACKFILL_CHUNK_DAYS from rfl,
      oneDay_chunks] at hchunk
    refine ⟨_, rfl, fun day read => ?_⟩
    rw [List.mem_singleton.mp hchunk]
    constructor
    · intro hentry
      cases List.mem_singleton.mp hentry
      exact ⟨le_refl reportedDay, le_refl reportedDay, rfl⟩
    · rintro ⟨hfirst, hlast, rfl⟩
      rw [le_antisymm hlast hfirst]
      exact List.mem_singleton_self _

/-- The first run over a day arrives. -/
theorem synchronize_converges_first : (oneDayRequest 100).Converges sampleSetup
    (sessionsReading 100)
    (ga4After sampleSetup []) := by
  refine (synchronize_converges_iff sampleSetup [] (oneDayRequest 100) (sessionsReading 100) rfl
    (oneDay_succeeds 100)).mpr ⟨reportedDay, reportedDay, oneDay_window 100, Or.inr ⟨?_, ?_, ?_⟩⟩
  · show (chunks reportedDay reportedDay BACKFILL_CHUNK_DAYS).2 = none
    rw [oneDay_chunks]
  · intro day hfirst hlast
    rw [le_antisymm hlast hfirst]
    refine Or.inr ⟨?_, ⟨_, rfl⟩, ⟨by decide, by decide, by decide⟩, rfl⟩
    exact Core.identityAccepted_of_size (sampleDigest_hex _) (by decide +kernel) (by decide +kernel)
  · intro day day' hfirst hlast hfirst' hlast' _ _ _
    rw [le_antisymm hlast hfirst, le_antisymm hlast' hfirst']

def changedDay : List Ga4Action :=
  [.synchronize .calm (oneDayRequest 100), .synchronize .calm (oneDayRequest 101)]

/-- When the day's figures come back, the run fails, and the changed figures stay current. -/
theorem changedBack_fails :
    (synchronizeGa4 sampleSetup .calm (oneDayRequest 100) (ga4After sampleSetup changedDay)).1.map
        (·.result) = .ok .failed ∧
      (currentDay sampleSetup (ga4After sampleSetup changedDay) reportedDay).map
        (·.content.site.sessions) =
        some (some 101) := by
  decide +kernel

end Dashkoda.Visibility
