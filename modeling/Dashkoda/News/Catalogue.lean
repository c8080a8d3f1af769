import Dashkoda.Core.StructuredData
import Dashkoda.Lib.Ranking
import Dashkoda.News.Models

/-!
# The durable catalogue

One row for each path and for each address, as the table's unique columns have it.  The two
backfills ask it opposite questions: which paths it does not know, and which of its rows have no
date.
-/

open Lib

namespace Dashkoda.News

open Core (Uncaught)

structure Catalogue where
  rows : List NewsResource
  onePath : (rows.map (·.path)).Nodup
  oneUrl : (rows.map (·.canonicalUrl)).Nodup

namespace Catalogue

def paths (catalogue : Catalogue) : List String := catalogue.rows.map (·.path)

def urls (catalogue : Catalogue) : List String := catalogue.rows.map (·.canonicalUrl)

/-- Whether the columns hold the texts: two of 500 characters, and no NUL in a text. -/
def fits (path url title : String) : Bool :=
  path.length ≤ 500 && url.length ≤ 500 && title.toList.all fun c => c.toNat ≠ 0

theorem nodup_append {α : Type} {key : NewsResource → α} {rows : List NewsResource}
    {resource : NewsResource} (h : (rows.map key).Nodup)
    (hnew : key resource ∉ rows.map key) :
      ((rows ++ [resource]).map key).Nodup := by
  rw [List.map_append]
  refine List.Nodup.append h (List.nodup_singleton _) fun x hx hmem => ?_
  rw [List.map_singleton, List.mem_singleton] at hmem
  exact hnew (hmem ▸ hx)

/-- `objects.create` -/
def create (resource : NewsResource) (catalogue : Catalogue) : Except Uncaught Catalogue :=
  if fits resource.path resource.canonicalUrl resource.title then
    if h : resource.path ∉ catalogue.paths ∧ resource.canonicalUrl ∉ catalogue.urls then
      .ok ⟨catalogue.rows ++ [resource], nodup_append catalogue.onePath h.1,
        nodup_append catalogue.oneUrl h.2⟩
    else .error .integrityError
  else .error .dataError

/-- `objects.get_or_create`, by path. -/
def getOrCreate (resource : NewsResource) (catalogue : Catalogue) : Except Uncaught Catalogue :=
  if resource.path ∈ catalogue.paths then .ok catalogue else create resource catalogue

def dated (path : String) (moment : Moment) (resource : NewsResource) : NewsResource :=
  if resource.path = path ∧ resource.publishedAt = none then
    { resource with publishedAt := some moment }
  else resource

@[simp] theorem dated_path (path : String) (moment : Moment) (resource : NewsResource) :
    (dated path moment resource).path = resource.path := by
  unfold dated
  split <;> rfl

@[simp] theorem dated_canonicalUrl (path : String) (moment : Moment) (resource : NewsResource) :
    (dated path moment resource).canonicalUrl = resource.canonicalUrl := by
  unfold dated
  split <;> rfl

@[simp] theorem dated_title (path : String) (moment : Moment) (resource : NewsResource) :
    (dated path moment resource).title = resource.title := by
  unfold dated
  split <;> rfl

/-- Only what has no date is dated. -/
theorem dated_of_publishedAt {path : String} {moment : Moment} {resource : NewsResource}
    (h : resource.publishedAt ≠ none) : dated path moment resource = resource :=
      if_neg fun hnone => h hnone.2

theorem dated_publishedAt_eq_none_iff {path : String} {moment : Moment} {resource : NewsResource} :
    (dated path moment resource).publishedAt = none ↔ resource.publishedAt = none ∧
    resource.path ≠ path := by
  unfold dated
  by_cases h : resource.path = path ∧ resource.publishedAt = none
  · rw [if_pos h]
    simp [h.1]
  · rw [if_neg h]
    exact ⟨fun hnone => ⟨hnone, fun heq => h ⟨heq, hnone⟩⟩, fun hnone => hnone.1⟩

theorem dated_of_ne {path : String} {moment : Moment} {resource : NewsResource}
    (h : resource.path ≠ path) :
    dated path moment resource = resource := if_neg fun heq => h heq.1

/-- `resource.save(update_fields=["published_at", "last_seen_at"])` -/
def saveDate (path : String) (moment : Moment) (catalogue : Catalogue) : Catalogue where
  rows := catalogue.rows.map (dated path moment)
  onePath := by
    rw [List.map_map, show (fun row : NewsResource => row.path) ∘ dated path moment = (·.path) from
      funext fun row => dated_path path moment row]
    exact catalogue.onePath
  oneUrl := by
    rw [List.map_map, show (fun row : NewsResource => row.canonicalUrl) ∘ dated path moment =
      (·.canonicalUrl) from
      funext fun row => dated_canonicalUrl path moment row]
    exact catalogue.oneUrl

/-- `uncatalogued_paths` -/
def uncataloguedPaths (catalogue : Catalogue) (paths : List String) : List String :=
  (paths.filter (· ≠ "")).filter (· ∉ catalogue.paths)

section Undated

variable {κ : Type} [LinearOrder κ] (collate : String → κ)

/-- `order_by("-first_seen_at", "path")` -/
def discoveryKey (resource : NewsResource) : Intᵒᵈ ×ₗ κ :=
  toLex (OrderDual.toDual resource.firstSeenAt, collate resource.path)

def undated (catalogue : Catalogue) : List String :=
  (sortOn (discoveryKey collate) (catalogue.rows.filter (·.publishedAt = none))).map (·.path)

/-- `undated_paths` -/
def undatedPaths (catalogue : Catalogue) (limit : Nat) : List String :=
  (catalogue.undated collate).take limit

theorem mem_undated {catalogue : Catalogue} {path : String} :
    path ∈ catalogue.undated collate ↔ ∃ row ∈ catalogue.rows, row.publishedAt = none ∧
    row.path = path := by
  unfold undated
  rw [List.mem_map]
  simp only [mem_sortOn, List.mem_filter, decide_eq_true_eq, and_assoc]

theorem nodup_undated (catalogue : Catalogue) : (catalogue.undated collate).Nodup := by
  unfold undated
  refine ((perm_sortOn _ _).map _).nodup_iff.mpr ?_
  exact catalogue.onePath.sublist (List.filter_sublist.map _)

/-- A date takes its row off the list, and changes nothing else of it. -/
theorem undated_saveDate (catalogue : Catalogue) (path : String) (moment : Moment) :
    (catalogue.saveDate path moment).undated collate = (catalogue.undated collate).filter
      (· ≠ path) := by
  have hrows : (catalogue.rows.map (dated path moment)).filter (·.publishedAt = none) =
      (catalogue.rows.filter (·.publishedAt = none)).filter (·.path ≠ path) := by
    induction catalogue.rows with
    | nil => rfl
    | cons row rest ih =>
      rw [List.map_cons]
      by_cases hnone : row.publishedAt = none
      · by_cases hpath : row.path = path
        · have hdated : ¬ (dated path moment row).publishedAt = none := fun h =>
            (dated_publishedAt_eq_none_iff.mp h).2 hpath
          rw [List.filter_cons_of_neg (by simpa using hdated),
            List.filter_cons_of_pos (by simpa using hnone),
            List.filter_cons_of_neg (by simpa using hpath), ih]
        · rw [dated_of_ne hpath, List.filter_cons_of_pos (by simpa using hnone),
            List.filter_cons_of_pos (by simpa using hnone),
            List.filter_cons_of_pos (by simpa using hpath), ih]
      · rw [dated_of_publishedAt hnone, List.filter_cons_of_neg (by simpa using hnone),
          List.filter_cons_of_neg (by simpa using hnone), ih]
  unfold undated
  rw [show (catalogue.saveDate path moment).rows =
    catalogue.rows.map (dated path moment) from rfl, hrows,
    ← filter_sortOn, List.filter_map]
  rfl

end Undated

/-! ## What a write keeps -/

/-- Every row is still there, with its title, and with its date if it had one. -/
def Keeps (before after : Catalogue) : Prop :=
  ∀ row ∈ before.rows, ∃ row' ∈ after.rows, row'.path = row.path ∧ row'.title = row.title ∧
    (row.publishedAt ≠ none → row'.publishedAt = row.publishedAt)

theorem Keeps.refl (catalogue : Catalogue) : Keeps catalogue catalogue :=
  fun row hrow => ⟨row, hrow, rfl, rfl, fun _ => rfl⟩

theorem Keeps.trans {first second third : Catalogue} (h : Keeps first second)
    (h' : Keeps second third) :
    Keeps first third := by
  intro row hrow
  obtain ⟨row', hrow', hpath, htitle, hdate⟩ := h row hrow
  obtain ⟨row'', hrow'', hpath', htitle', hdate'⟩ := h' row' hrow'
  refine ⟨row'', hrow'', hpath'.trans hpath, htitle'.trans htitle, fun hsome => ?_⟩
  have hkept := hdate hsome
  exact (hdate' (hkept ▸ hsome)).trans hkept

theorem create_eq_ok {resource : NewsResource} {catalogue catalogue' : Catalogue}
    (h : create resource catalogue = .ok catalogue') :
      catalogue'.rows = catalogue.rows ++ [resource] := by
  unfold create at h
  split at h
  · split at h
    · cases h
      rfl
    · cases h
  · cases h

/-- A row that fits, with a path and an address of its own, is added. -/
theorem exists_create {resource : NewsResource} {catalogue : Catalogue}
    (hfits : fits resource.path resource.canonicalUrl resource.title = true)
    (hnew : resource.path ∉ catalogue.paths ∧ resource.canonicalUrl ∉ catalogue.urls) :
    ∃ catalogue', create resource catalogue = .ok catalogue' := by
  unfold create
  rw [if_pos hfits, dif_pos hnew]
  exact ⟨_, rfl⟩

theorem create_raises {resource : NewsResource} {catalogue : Catalogue}
    (h : ¬ (fits resource.path resource.canonicalUrl resource.title = true ∧
      resource.canonicalUrl ∉ catalogue.urls)) : ∃ exn, create resource catalogue = .error exn := by
  unfold create
  by_cases hfits : fits resource.path resource.canonicalUrl resource.title = true
  · rw [if_pos hfits, dif_neg fun hnew => h ⟨hfits, hnew.2⟩]
    exact ⟨_, rfl⟩
  · rw [if_neg hfits]
    exact ⟨_, rfl⟩

theorem getOrCreate_keeps {resource : NewsResource} {catalogue catalogue' : Catalogue}
    (h : getOrCreate resource catalogue = .ok catalogue') : Keeps catalogue catalogue' := by
  unfold getOrCreate at h
  split at h
  · cases h
    exact Keeps.refl _
  · intro row hrow
    refine ⟨row, ?_, rfl, rfl, fun _ => rfl⟩
    rw [create_eq_ok h]
    exact List.mem_append_left _ hrow

theorem saveDate_keeps (path : String) (moment : Moment) (catalogue : Catalogue) :
    Keeps catalogue (catalogue.saveDate path moment) := by
  intro row hrow
  refine ⟨dated path moment row, List.mem_map_of_mem hrow, dated_path .., dated_title ..,
    fun hsome => ?_⟩
  rw [dated_of_publishedAt hsome]

end Catalogue

end Dashkoda.News
