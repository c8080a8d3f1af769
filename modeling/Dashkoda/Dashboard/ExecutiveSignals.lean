import Dashkoda.Lib.Calendar
import Dashkoda.Lib.Except
import Dashkoda.Lib.Quota
import Dashkoda.Lib.Ranking
import Mathlib.Data.Prod.Lex
import Mathlib.Data.String.Basic

/-!
# The attention list of the overview

What the domains flagged: collected as it comes, at most two of a domain, ordered, and cut to five.
-/

open Lib

namespace Dashkoda.Dashboard

inductive SignalPriority
  | critical
  | attention
  | notable
  deriving DecidableEq

/-- `PRIORITY_ORDER` -/
def SignalPriority.order : SignalPriority → Nat
  | critical => 0
  | attention => 1
  | notable => 2

inductive SignalDirection
  | up
  | down
  | flat
  | none
  deriving DecidableEq

inductive SignalTone
  | positive
  | neutral
  deriving DecidableEq

structure DomainSignal where
  key : String
  headline : String
  evidence : String
  priority : SignalPriority
  direction : SignalDirection
  tone : SignalTone
  href : String
  asOf : Option Date
  isDataQuality : Bool
  deriving DecidableEq

/-- What `collect_signals` is given of a domain. -/
structure SignalSource where
  domainKey : String
  domainLabel : String
  signals : List DomainSignal

structure ExecutiveSignal where
  signal : DomainSignal
  domainLabel : String
  domainKey : String
  deriving DecidableEq

def SIGNAL_LIMIT : Nat := 5

def PER_DOMAIN_LIMIT : Nat := 2

def DOMAIN_ORDER : List String := ["membership", "legal_work", "events", "website", "news", "shop"]

/-- `_DOMAIN_POSITION.get(key, len(DOMAIN_ORDER))` -/
def domainPosition (domainKey : String) : Nat := DOMAIN_ORDER.idxOf domainKey

namespace ExecutiveSignal

def key (entry : ExecutiveSignal) : String := entry.signal.key

/-- `_order` -/
def order (entry : ExecutiveSignal) : Nat ×ₗ Nat ×ₗ String :=
  toLex (entry.signal.priority.order, toLex (domainPosition entry.domainKey, entry.signal.key))

end ExecutiveSignal

open ExecutiveSignal (key order)

def SignalSource.entries (source : SignalSource) : List ExecutiveSignal :=
  source.signals.map fun signal => ⟨signal, source.domainLabel, source.domainKey⟩

def reported (sources : List SignalSource) : List ExecutiveSignal :=
  sources.flatMap SignalSource.entries

/-- The loops of `collect_signals`: `seen` and `per_domain` are the keys and the domains of what is
collected. -/
def collected (sources : List SignalSource) : List ExecutiveSignal :=
  Quota.select key ExecutiveSignal.domainKey PER_DOMAIN_LIMIT (reported sources)

/-- `collect_signals` -/
def collectSignals (sources : List SignalSource) : List ExecutiveSignal :=
  (sortOn order (collected sources)).take SIGNAL_LIMIT

/-! ## Orders of arrival -/

def SignalSource.Same (source source' : SignalSource) : Prop :=
  source.domainKey = source'.domainKey ∧ source.domainLabel = source'.domainLabel ∧
    source.signals.Perm source'.signals

/-- The same sources with the same signals, both in some order. -/
def Rearranged (sources sources' : List SignalSource) : Prop :=
  ∃ middle, sources.Perm middle ∧ List.Forall₂ SignalSource.Same middle sources'

theorem SignalSource.Same.refl (source : SignalSource) : source.Same source :=
  ⟨rfl, rfl, List.Perm.refl _⟩

theorem Rearranged.of_perm {sources sources' : List SignalSource} (h : sources.Perm sources') :
    Rearranged sources sources' := ⟨sources', h, List.forall₂_same.mpr fun source _ => .refl source⟩

theorem entries_perm {source source' : SignalSource} (h : source.Same source') :
    source.entries.Perm source'.entries := by
  obtain ⟨hkey, hlabel, hsignals⟩ := h
  unfold SignalSource.entries
  rw [hkey, hlabel]
  exact hsignals.map _

/-- What is reported is the same in every order of arrival. -/
theorem reported_perm {sources sources' : List SignalSource} (h : Rearranged sources sources') :
    (reported sources).Perm (reported sources') := by
  obtain ⟨middle, hperm, hsame⟩ := h
  refine (hperm.flatMap_right _).trans ?_
  unfold reported
  clear hperm
  induction hsame with
  | nil => exact List.Perm.refl _
  | cons hfirst _ ih =>
    rw [List.flatMap_cons, List.flatMap_cons]
    exact (entries_perm hfirst).append ih

theorem domainKey_of_mem_entries {source : SignalSource} {entry : ExecutiveSignal}
    (h : entry ∈ source.entries) :
    entry.domainKey = source.domainKey := by
  obtain ⟨signal, -, rfl⟩ := List.mem_map.mp h
  rfl

/-- Each source of another order of arrival is one of the sources. -/
theorem exists_same {sources sources' : List SignalSource} (h : Rearranged sources sources')
    {source' : SignalSource}
    (hsource : source' ∈ sources') : ∃ source ∈ sources, source.Same source' := by
  obtain ⟨middle, hperm, hsame⟩ := h
  obtain ⟨source, hmem, hsource⟩ := exists_of_mem_forall₂ hsame hsource
  exact ⟨source, hperm.mem_iff.mpr hmem, hsource⟩

/-! ## Signals that are taken in every order -/

def SignalSource.keys (source : SignalSource) : List String := source.entries.map key

/-- The other keys that can come before an entry of a source: those of the source, and those of the
sources of its domain that do not have the entry's key. -/
def rivals (sources : List SignalSource) (source : SignalSource) (entry : ExecutiveSignal) :
    List String :=
  (((sources.filter fun other => other.domainKey = entry.domainKey ∧ key entry ∉ other.keys).flatMap
    SignalSource.keys ++ source.keys).filter (· ≠ key entry)).dedup

/-- No other report has the key, and from no source of it do two other keys of its domain come
first. -/
structure Settled (sources : List SignalSource) (entry : ExecutiveSignal) : Prop where
  unique : ∀ other ∈ reported sources, key other = key entry → other = entry
  room : ∀ source ∈ sources, entry ∈ source.entries →
    (rivals sources source entry).length < PER_DOMAIN_LIMIT

theorem mem_rivals {sources : List SignalSource} {source : SignalSource} {entry : ExecutiveSignal}
    {k : String} :
    k ∈ rivals sources source entry ↔ k ≠ key entry ∧ (k ∈ source.keys ∨
      ∃ other ∈ sources, other.domainKey = entry.domainKey ∧ key entry ∉ other.keys ∧
      k ∈ other.keys) := by
  unfold rivals
  rw [List.mem_dedup, List.mem_filter, List.mem_append, List.mem_flatMap]
  constructor
  · rintro ⟨hmem, hne⟩
    refine ⟨of_decide_eq_true hne, ?_⟩
    cases hmem with
    | inl hother =>
      obtain ⟨other, hother, hk⟩ := hother
      obtain ⟨hmem, hp⟩ := List.mem_filter.mp hother
      obtain ⟨hdomain, hwithout⟩ := of_decide_eq_true hp
      exact Or.inr ⟨other, hmem, hdomain, hwithout, hk⟩
    | inr hsource => exact Or.inl hsource
  · rintro ⟨hne, hmem⟩
    refine ⟨?_, decide_eq_true hne⟩
    cases hmem with
    | inl hsource => exact Or.inr hsource
    | inr hother =>
      obtain ⟨other, hmem, hdomain, hwithout, hk⟩ := hother
      exact Or.inl ⟨other, List.mem_filter.mpr ⟨hmem, decide_eq_true ⟨hdomain, hwithout⟩⟩, hk⟩

theorem keys_perm {source source' : SignalSource} (h : source.Same source') :
    source.keys.Perm source'.keys :=
  (entries_perm h).map key

/-- A settled signal is taken in every order of arrival. -/
theorem Settled.mem_collected {sources sources' : List SignalSource} {entry : ExecutiveSignal}
    (h : Settled sources entry) (hentry : entry ∈ reported sources)
    (hr : Rearranged sources sources') :
    entry ∈ collected sources' := by
  have hreported : ∀ other, other ∈ reported sources' → other ∈ reported sources := fun other =>
    (reported_perm hr).mem_iff.mpr
  have hsome : ∃ source ∈ sources', entry ∈ source.entries :=
    List.mem_flatMap.mp ((reported_perm hr).mem_iff.mp hentry)
  obtain ⟨before, source, after, rfl, hsource, hbefore⟩ := exists_first hsome
  obtain ⟨earlier, x, later, hsplit, rfl, hearlier⟩ :=
    exists_first (p := (· = entry)) ⟨entry, hsource, rfl⟩
  have hwhole : reported (before ++ source :: after) =
      (before.flatMap SignalSource.entries ++ earlier) ++ x ::
        (later ++ after.flatMap SignalSource.entries) := by
    unfold reported
    rw [List.flatMap_append, List.flatMap_cons, hsplit]
    simp only [List.append_assoc, List.cons_append]
  -- nothing in front of it has its key
  have hfront : ∀ other ∈ before.flatMap SignalSource.entries ++ earlier, key other ≠ key x := by
    intro other hother heq
    have hmem : other ∈ reported (before ++ source :: after) :=
      hwhole ▸ List.mem_append_left _ hother
    have hsame : other = x := h.unique other (hreported other hmem) heq
    cases List.mem_append.mp hother with
    | inl hsources =>
      obtain ⟨first, hfirst, hin⟩ := List.mem_flatMap.mp hsources
      exact hbefore first hfirst (hsame ▸ hin)
    | inr hin => exact hearlier other hin hsame
  unfold collected
  rw [hwhole]
  apply Quota.mem_select_of_room
  · intro hmem
    obtain ⟨other, hother, heq⟩ := List.mem_map.mp hmem
    exact hfront other hother heq
  · obtain ⟨source₀, hsource₀, hsame₀⟩ :=
      exists_same hr (List.mem_append_right before List.mem_cons_self)
    refine lt_of_le_of_lt ?_ (h.room source₀ hsource₀ ((entries_perm hsame₀).mem_iff.mpr hsource))
    -- what its domain has got so far are different rivals
    rw [← List.length_map key]
    refine (List.subperm_of_subset ((Quota.nodup_keys _).sublist (List.filter_sublist.map key))
      ?_).length_le
    intro k hk
    obtain ⟨other, hother, rfl⟩ := List.mem_map.mp hk
    obtain ⟨htaken, hdomain⟩ := List.mem_filter.mp hother
    have hin := Quota.mem_of_mem_select htaken
    refine mem_rivals.mpr ⟨hfront other hin, ?_⟩
    cases List.mem_append.mp hin with
    | inl hsources =>
      obtain ⟨first, hfirst, hmem⟩ := List.mem_flatMap.mp hsources
      obtain ⟨first₀, hfirst₀, hsame⟩ := exists_same hr (List.mem_append_left _ hfirst)
      refine Or.inr ⟨first₀, hfirst₀, ?_, fun hkey => ?_, ?_⟩
      · rw [hsame.1, ← domainKey_of_mem_entries hmem]
        exact of_decide_eq_true hdomain
      · obtain ⟨twin, htwin, heq⟩ := List.mem_map.mp hkey
        have hreport : twin ∈ reported sources := List.mem_flatMap.mpr ⟨first₀, hfirst₀, htwin⟩
        exact hbefore first hfirst
          ((h.unique twin hreport heq) ▸ (entries_perm hsame).mem_iff.mp htwin)
      · exact (keys_perm hsame).mem_iff.mpr (List.mem_map_of_mem hmem)
    | inr hmem =>
      refine Or.inl ((keys_perm hsame₀).mem_iff.mpr (List.mem_map_of_mem ?_))
      rw [hsplit]
      exact List.mem_append_left _ hmem

/-! ## Signals that an order of arrival leaves out -/

/-- Every signal is taken where it comes first. -/
theorem exists_order_with {sources : List SignalSource} {entry : ExecutiveSignal}
    (h : entry ∈ reported sources) :
    ∃ sources', Rearranged sources sources' ∧ entry ∈ collected sources' := by
  obtain ⟨source, hsource, hentry⟩ := List.mem_flatMap.mp h
  obtain ⟨before, after, rfl⟩ := List.append_of_mem hsource
  obtain ⟨signal, hsignal, rfl⟩ := List.mem_map.mp hentry
  obtain ⟨earlier, later, hsplit⟩ := List.append_of_mem hsignal
  refine ⟨{ source with signals := signal :: (earlier ++ later) } :: (before ++ after),
    ⟨source :: (before ++ after), List.perm_middle, List.Forall₂.cons ⟨rfl, rfl, ?_⟩
      (List.forall₂_same.mpr fun source _ => .refl source)⟩, ?_⟩
  · rw [hsplit]
    exact List.perm_middle
  · show _ ∈ Quota.select _ _ _ ([] ++ _ :: _)
    exact Quota.mem_select_of_room List.not_mem_nil Nat.zero_lt_two

/-- A signal whose domain can be filled without it is left out in some order. -/
theorem exists_order_without {sources : List SignalSource} {source : SignalSource}
    {entry : ExecutiveSignal} (hsource : source ∈ sources) (hentry : entry ∈ source.entries)
    (hmany : PER_DOMAIN_LIMIT ≤ (rivals sources source entry).length) :
    ∃ sources', Rearranged sources sources' ∧ entry ∉ collected sources' := by
  obtain ⟨before, after, rfl⟩ := List.append_of_mem hsource
  -- the sources of its domain without its key come first, then its own source, its key last
  let p : SignalSource → Bool := fun other => other.domainKey = entry.domainKey ∧
    key entry ∉ other.keys
  let q : DomainSignal → Bool := fun signal => signal.key ≠ key entry
  let without := (before ++ after).filter p
  let rest := (before ++ after).filter fun other => !p other
  let reordered : SignalSource :=
    { source with
      signals := source.signals.filter q ++ source.signals.filter fun signal => !q signal }
  have hdomain : entry.domainKey = source.domainKey := domainKey_of_mem_entries hentry
  have hkey : key entry ∈ source.keys := List.mem_map_of_mem hentry
  refine ⟨without ++ reordered :: rest, ⟨without ++ source :: rest, ?_, ?_⟩, ?_⟩
  · refine List.perm_middle.trans (List.Perm.trans ?_ List.perm_middle.symm)
    exact (List.filter_append_perm p (before ++ after)).symm.cons source
  · have hsame : ∀ l : List SignalSource, List.Forall₂ SignalSource.Same l l := fun l =>
      List.forall₂_same.mpr fun source _ => .refl source
    exact List.rel_append (hsame without)
      (List.Forall₂.cons ⟨rfl, rfl, (List.filter_append_perm q source.signals).symm⟩ (hsame rest))
  · let front : List ExecutiveSignal := without.flatMap SignalSource.entries ++
      (source.signals.filter q).map fun signal => ⟨signal, source.domainLabel, source.domainKey⟩
    let back : List ExecutiveSignal :=
      ((source.signals.filter fun signal => !q signal).map fun signal =>
        ⟨signal, source.domainLabel, source.domainKey⟩) ++ rest.flatMap SignalSource.entries
    have hwhole : reported (without ++ reordered :: rest) = front ++ back := by
      have hassoc : ∀ a b c d : List ExecutiveSignal, a ++ ((b ++ c) ++ d) =
          (a ++ b) ++ (c ++ d) := by
        intro a b c d
        rw [List.append_assoc, List.append_assoc]
      unfold reported
      rw [List.flatMap_append, List.flatMap_cons]
      show _ ++
        ((source.signals.filter q ++ source.signals.filter fun signal => !q signal).map _ ++ _) = _
      rw [List.map_append]
      exact hassoc _ _ _ _
    have hfront : ∀ other ∈ front, other.domainKey = entry.domainKey ∧ key other ≠ key entry := by
      intro other hother
      cases List.mem_append.mp hother with
      | inl hsources =>
        obtain ⟨first, hfirst, hin⟩ := List.mem_flatMap.mp hsources
        have hp : p first = true := List.of_mem_filter hfirst
        obtain ⟨hdomain', hwithout⟩ := of_decide_eq_true hp
        refine ⟨(domainKey_of_mem_entries hin).trans hdomain', fun heq =>
          hwithout (heq ▸ List.mem_map_of_mem hin)⟩
      | inr hown =>
        obtain ⟨signal, hsignal, rfl⟩ := List.mem_map.mp hown
        have hq : q signal = true := List.of_mem_filter hsignal
        exact ⟨hdomain.symm, of_decide_eq_true hq⟩
    have hkeys : ∀ k ∈ rivals (before ++ source :: after) source entry, k ∈ front.map key := by
      intro k hk
      obtain ⟨hne, hmem⟩ := mem_rivals.mp hk
      rw [List.map_append]
      cases hmem with
      | inl hown =>
        obtain ⟨other, hother, rfl⟩ := List.mem_map.mp hown
        obtain ⟨signal, hsignal, rfl⟩ := List.mem_map.mp hother
        exact List.mem_append_right _ (List.mem_map_of_mem (List.mem_map_of_mem
          (List.mem_filter.mpr ⟨hsignal, decide_eq_true hne⟩)))
      | inr hother =>
        obtain ⟨other, hmem, hdomain', hwithout, hkother⟩ := hother
        obtain ⟨twin, htwin, rfl⟩ := List.mem_map.mp hkother
        have hrest : other ∈ before ++ after := by
          cases List.mem_append.mp hmem with
          | inl hbefore => exact List.mem_append_left _ hbefore
          | inr hafter =>
            cases List.mem_cons.mp hafter with
            | inl heq => exact absurd hkey (heq ▸ hwithout)
            | inr hafter => exact List.mem_append_right _ hafter
        exact List.mem_append_left _ (List.mem_map_of_mem (List.mem_flatMap.mpr
          ⟨other, List.mem_filter.mpr ⟨hrest, decide_eq_true ⟨hdomain', hwithout⟩⟩, htwin⟩))
    have hfull : PER_DOMAIN_LIMIT ≤ (Quota.inGroup ExecutiveSignal.domainKey
        (Quota.select key ExecutiveSignal.domainKey PER_DOMAIN_LIMIT front)
          entry.domainKey).length :=
      Quota.full_of_keys (fun other hother => (hfront other hother).1)
        (List.nodup_dedup _) hkeys hmany
    unfold collected
    rw [hwhole]
    exact Quota.not_mem_select_of_full
      (fun hmem => (hfront entry (Quota.mem_of_mem_select hmem)).2 rfl) hfull

/-! ## The list keeps the most urgent -/

/-- At most five signals with distinct keys, at most two of a domain, in the page's order, the same
in every order of arrival, and nothing more urgent of a listed signal's domain is left out. -/
structure KeepsMostUrgent (sources : List SignalSource) : Prop where
  bounded : (collectSignals sources).length ≤ SIGNAL_LIMIT
  distinct : ((collectSignals sources).map key).Nodup
  perDomain : ∀ domainKey, ((collectSignals sources).filter (·.domainKey = domainKey)).length ≤
    PER_DOMAIN_LIMIT
  sorted : (collectSignals sources).Pairwise (order · ≤ order ·)
  unordered : ∀ sources', Rearranged sources sources' →
    collectSignals sources' = collectSignals sources
  urgent : ∀ entry ∈ reported sources, entry ∉ collectSignals sources →
    ∀ listed ∈ collectSignals sources,
    listed.domainKey = entry.domainKey →
    ¬ entry.signal.priority.order < listed.signal.priority.order

theorem order_injective_key {a b : ExecutiveSignal} (h : order a = order b) : key a = key b := by
  have hpair := congrArg (fun x : Nat ×ₗ Nat ×ₗ String => (ofLex (ofLex x).2).2) h
  exact hpair

theorem nodup_order (sources : List SignalSource) : ((collected sources).map order).Nodup :=
  nodup_map_of_finer (Quota.nodup_keys _) fun _ _ => order_injective_key

theorem order_lt_of_priority_lt {a b : ExecutiveSignal}
    (h : a.signal.priority.order < b.signal.priority.order) :
    order a < order b := Prod.Lex.toLex_lt_toLex.mpr (Or.inl h)

/-- A foremost signal that is taken is listed. -/
theorem mem_collectSignals_of_foremost {sources : List SignalSource} {entry : ExecutiveSignal}
    (hforemost : Foremost order SIGNAL_LIMIT (reported sources).dedup entry)
    (h : entry ∈ collected sources) :
    entry ∈ collectSignals sources := by
  have hsub : ∀ x ∈ collected sources, x ∈ (reported sources).dedup := fun x hx =>
    List.mem_dedup.mpr (Quota.mem_of_mem_select hx)
  refine (mem_take_sortOn_iff (Quota.nodup_keys _).of_map (nodup_order sources)
    (fun _ hx => hx) fun x hx => hx.1).mpr
    ⟨h, lt_of_le_of_lt ?_ hforemost.2⟩
  exact (List.subperm_of_subset ((Quota.nodup_keys _).of_map.filter _) fun x hx =>
    List.mem_filter.mpr ⟨hsub x (List.mem_of_mem_filter hx), List.of_mem_filter hx⟩).length_le

/-- Where the foremost signals are settled, the list is made of them in every order of arrival. -/
theorem mem_collectSignals_iff {sources sources' : List SignalSource}
    (hr : Rearranged sources sources')
    (h : ∀ entry, Foremost order SIGNAL_LIMIT (reported sources).dedup entry →
      Settled sources entry)
    {entry : ExecutiveSignal} :
    entry ∈ collectSignals sources' ↔
    Foremost order SIGNAL_LIMIT (reported sources).dedup entry := by
  refine mem_take_sortOn_iff (List.nodup_dedup _) (nodup_order sources')
    (fun x hx => ?_) fun x hx => ?_
  · exact List.mem_dedup.mpr ((reported_perm hr).mem_iff.mpr (Quota.mem_of_mem_select hx))
  · exact (h x hx).mem_collected (List.mem_dedup.mp hx.1) hr

theorem pairwise_collectSignals (sources : List SignalSource) :
    (collectSignals sources).Pairwise (order · ≤ order ·) :=
  (pairwise_sortOn order (collected sources)).sublist (List.take_sublist _ _)

theorem collectSignals_subperm (sources : List SignalSource) :
    (collectSignals sources).Subperm (collected sources) :=
  (List.take_sublist _ _).subperm.trans (perm_sortOn order (collected sources)).subperm

theorem nodup_collectSignals (sources : List SignalSource) :
    ((collectSignals sources).map key).Nodup :=
  (((perm_sortOn order (collected sources)).map key).nodup_iff.mpr (Quota.nodup_keys _)).sublist
    ((List.take_sublist _ _).map key)

/-- The attention list keeps the most urgent signals exactly where each of the five foremost
reported signals is the only one of its key, and its domain cannot be filled without it. -/
theorem keepsMostUrgent_iff (sources : List SignalSource) : KeepsMostUrgent sources ↔
    ∀ entry, Foremost order SIGNAL_LIMIT (reported sources).dedup entry →
    Settled sources entry := by
  constructor
  · intro h entry hforemost
    have hreported : entry ∈ reported sources := List.mem_dedup.mp hforemost.1
    -- it is listed where it comes first, so it is listed in every order
    have hlisted : ∀ sources', Rearranged sources sources' → entry ∈ collected sources' := by
      intro sources' hr
      obtain ⟨first, hfirst, htaken⟩ := exists_order_with hreported
      have hthere := mem_collectSignals_of_foremost
        (hforemost.perm (reported_perm hfirst).dedup) htaken
      rw [h.unordered first hfirst, ← h.unordered sources' hr] at hthere
      exact (collectSignals_subperm sources').subset hthere
    refine ⟨fun other hother hkey => ?_, fun source hsource hentry => ?_⟩
    · obtain ⟨first, hfirst, htaken⟩ := exists_order_with hother
      exact List.inj_on_of_nodup_map (Quota.nodup_keys _) htaken (hlisted first hfirst) hkey
    · apply Nat.lt_of_not_le
      intro hmany
      obtain ⟨without, hwithout, hleft⟩ := exists_order_without hsource hentry hmany
      exact hleft (hlisted without hwithout)
  · intro h
    have hself : Rearranged sources sources := .of_perm (List.Perm.refl _)
    have hmem : ∀ {entry}, entry ∈ collectSignals sources ↔
      Foremost order SIGNAL_LIMIT (reported sources).dedup entry := mem_collectSignals_iff hself h
    refine ⟨List.length_take_le _ _, nodup_collectSignals sources, fun domainKey =>
      ?_, pairwise_collectSignals sources,
      fun sources' hr => ?_, fun entry hentry hnot listed hlisted hdomain hlt =>
        hnot (hmem.mpr ⟨List.mem_dedup.mpr hentry, ?_⟩)⟩
    · exact ((collectSignals_subperm sources).filter _).length_le.trans
        (Quota.length_inGroup_le _ domainKey)
    · refine List.Perm.eq_of_pairwise (fun a b ha hb hab hba => ?_)
        (pairwise_collectSignals sources')
        (pairwise_collectSignals sources) ?_
      · have hkey : key a = key b := order_injective_key (le_antisymm hab hba)
        have hb' := (mem_collectSignals_iff hr h).mpr (hmem.mp hb)
        exact List.inj_on_of_nodup_map (nodup_collectSignals sources') ha hb' hkey
      · refine (List.perm_ext_iff_of_nodup (nodup_collectSignals sources').of_map
          (nodup_collectSignals sources).of_map).mpr
          fun x => ?_
        rw [mem_collectSignals_iff hr h, hmem]
    · exact lt_of_le_of_lt (length_ahead_le_of_le (order_lt_of_priority_lt hlt).le)
        (hmem.mp hlisted).2

def flagged (key : String) (priority : SignalPriority) : DomainSignal where
  key := key
  headline := "H " ++ key
  evidence := "E " ++ key
  priority := priority
  direction := .none
  tone := .neutral
  href := ""
  asOf := none
  isDataQuality := false

/-- Two notable signals before a critical one. -/
def lateCritical : List SignalSource :=
  [⟨"legal_work", "Õigusloome",
    [flagged "a" .notable, flagged "b" .notable, flagged "c" .critical]⟩]

/-- The third signal of a domain is left out, however urgent it is. -/
theorem lateCritical_left_out : ¬ KeepsMostUrgent lateCritical := by
  intro h
  refine h.urgent ⟨flagged "c" .critical, "Õigusloome", "legal_work"⟩ ?_ ?_
    ⟨flagged "a" .notable, "Õigusloome", "legal_work"⟩ ?_ rfl (by decide)
  · decide +kernel
  · decide +kernel
  · decide +kernel

end Dashkoda.Dashboard
