import Dashkoda.Lib.Runs
import Dashkoda.Shop.ProductPages
import Mathlib.Data.List.Induction

/-!
# Imports one after another

What the tables hold after any sequence of imports, what an import that returns has published, and
when the pages of the next package can be written.
-/

open Lib

namespace Dashkoda.Shop

/-! ## What a package guarantees -/

structure Accepted (package : ParsedPackage) : Prop where
  productIds : (package.products.map (·.sourceProductId)).Nodup
  factKeys : (package.dailyFacts.map fun row => (row.reportDate, row.sourceProductId,
    row.memberStatus, row.paymentClass, row.currency)).Nodup
  orderKeys : (package.dailyOrders.map fun row => (row.reportDate, row.productType)).Nodup
  roles : (package.productPaths.map fun row => (row.sourceProductId, row.pageRole)).Nodup
  pathProducts : ∀ row ∈ package.productPaths, row.sourceProductId ∈
    package.products.map (·.sourceProductId)

theorem Accepted.of_accepted {package : ParsedPackage} (h : package.accepted = true) :
    Accepted package := by
  unfold ParsedPackage.accepted at h
  simp only [Bool.and_eq_true, decide_eq_true_eq, List.all_eq_true] at h
  obtain ⟨⟨⟨⟨⟨⟨⟨hids, -⟩, hfacts⟩, horders⟩, hroles⟩, hknown⟩, -⟩, -⟩ := h
  exact ⟨hids, hfacts, horders, hroles, fun row hrow =>
    hknown _ (List.mem_append_right _ (List.mem_map_of_mem hrow))⟩

abbrev AcceptedPackage := { package : ParsedPackage // package.accepted = true }

/-! ## What the tables state -/

/-- How the figures a row holds agree with the figures that were stated. -/
structure Agreement where
  snapshot : SnapshotFields → SnapshotFields → Prop
  fact : FactFields → FactFields → Prop
  orders : Nat → Nat → Prop

/-- The very figures. -/
def Agreement.exact : Agreement := ⟨(· = ·), (· = ·), (· = ·)⟩

/-- The figures as their columns keep them. -/
def Agreement.stored : Agreement :=
  ⟨fun stated kept => stated.columns = .ok kept, fun stated kept => stated.columns = .ok kept,
    fun stated kept => summaryColumns stated = .ok kept⟩

/-- Exactly one row of the key is current, and its figures agree with the stated ones. -/
def CurrentRow {κ φ : Type} [DecidableEq κ] (agrees : φ → φ → Prop) (rows : List (RevisedRow κ φ))
    (key : κ) (fields : φ) : Prop :=
  ∃ row, (Lineage.history key rows).filter (·.isCurrent) = [row] ∧ agrees fields row.fields

/-- Everything the package states is current. -/
structure States (agreement : Agreement) (package : ParsedPackage) (db : ShopDb) : Prop where
  products : ∀ row ∈ package.products, ∃ product ∈ db.products,
    product.sourceProductId = row.sourceProductId ∧
    CurrentRow agreement.snapshot db.snapshots (product.pk, row.observedOn) row.fields
  facts : ∀ row ∈ package.dailyFacts, ∃ product ∈ db.products,
    product.sourceProductId = row.sourceProductId ∧
    CurrentRow agreement.fact db.facts (row.key product.pk) row.fields
  orders : ∀ row ∈ package.dailyOrders,
    CurrentRow agreement.orders db.summaries (row.reportDate, row.productType)
      row.distinctOrderCount

/-- Every stated figure fits the width and the scale of its column. -/
structure Exact (package : ParsedPackage) : Prop where
  products : ∀ row ∈ package.products, row.fields.columns = .ok row.fields
  facts : ∀ row ∈ package.dailyFacts, row.fields.columns = .ok row.fields
  orders : ∀ row ∈ package.dailyOrders,
    summaryColumns row.distinctOrderCount = .ok row.distinctOrderCount

/-- The package is published: its rows are current, the rows they replaced are kept and named, and
the current state carries its checksum. -/
structure Publishes (digestBytes : List UInt8 → String) (package : ParsedPackage)
    (before after : ShopDb) : Prop where
  states : States .exact package after
  snapshotsKept : ∀ row ∈ before.snapshots, RowKept after.snapshots row
  factsKept : ∀ row ∈ before.facts, RowKept after.facts row
  summariesKept : ∀ row ∈ before.summaries, RowKept after.summaries row
  state : ∃ state, after.states.filter (·.isCurrent) = [state] ∧
    state.contentChecksum = contentChecksum digestBytes package

/-! ## The tables are sound -/

structure ShopDb.Sound (source : Nat) (db : ShopDb) : Prop where
  products : ProductsSound db.products
  pages : PagesSound db.pages
  snapshots : Lineage.Sound Names db.snapshots
  facts : Lineage.Sound Names db.facts
  summaries : Lineage.Sound Names db.summaries
  snapshotsStored : Stored SnapshotFields.columns db.snapshots
  factsStored : Stored FactFields.columns db.facts
  summariesStored : Stored summaryColumns db.summaries
  stateSource : ∀ state ∈ db.states, state.source = source
  oneState : db.states.filter (·.isCurrent) = (currentState db).toList

theorem ShopDb.sound_empty (source : Nat) : ShopDb.empty.Sound source :=
  ⟨⟨List.nodup_nil, List.nodup_nil⟩, pagesSound_nil, Lineage.sound_nil, Lineage.sound_nil,
    Lineage.sound_nil, fun _ h => absurd h List.not_mem_nil, fun _ h => absurd h List.not_mem_nil,
    fun _ h => absurd h List.not_mem_nil, fun _ h => absurd h List.not_mem_nil, rfl⟩

section Write

variable {source run : Nat} {checksum : String} {package : ParsedPackage} {db db' : ShopDb}

theorem writeState_currents (hsource : ∀ state ∈ db.states, state.source = source) :
    (writeState source run checksum package db.states).filter (·.isCurrent) =
      [⟨Table.nextPk db.states, source, run, package.manifest, checksum, package.products.length,
        package.dailyFacts.length, package.productPaths.length, true⟩] := by
  have hnone :
      (Table.updateWhere (fun state => state.source = source && state.isCurrent) retireState
      db.states).filter (·.isCurrent) = [] := by
    apply List.filter_eq_nil_iff.mpr
    intro state hstate
    obtain ⟨old, hold, rfl⟩ := Table.mem_updateWhere.mp hstate
    rw [decide_eq_true (hsource old hold), Bool.true_and]
    cases hcurrent : old.isCurrent with
    | true => exact Bool.false_ne_true
    | false =>
      rw [if_neg Bool.false_ne_true, hcurrent]
      exact Bool.false_ne_true
  unfold writeState
  rw [List.filter_append, hnone, List.nil_append]
  rfl

/-- What the publishing transaction leaves. -/
structure Written (checksum : String) (package : ParsedPackage) (source : Nat) (db db' : ShopDb) :
    Prop where
  sound : db'.Sound source
  states : States .stored package db'
  snapshotsKept : ∀ row ∈ db.snapshots, RowKept db'.snapshots row
  factsKept : ∀ row ∈ db.facts, RowKept db'.facts row
  summariesKept : ∀ row ∈ db.summaries, RowKept db'.summaries row
  state : ∃ state, db'.states.filter (·.isCurrent) = [state] ∧ state.contentChecksum = checksum
  productsKept : ∀ product ∈ db.products, ∃ product' ∈ db'.products,
    identity product' = identity product
  pagesKept : ∀ page ∈ db.pages, ∃ page' ∈ db'.pages, address page' = address page

theorem writePackage_written {rowsAdded : Nat} (haccepted : Accepted package) (h : db.Sound source)
    (hok : writePackage source run checksum package db = .ok (db', rowsAdded)) :
    Written checksum package source db db' := by
  unfold writePackage at hok
  obtain ⟨products, hproducts, hok⟩ := bind_eq_ok_iff.mp hok
  obtain ⟨⟨snapshots, snapshotCount⟩, hsnapshots, hok⟩ := bind_eq_ok_iff.mp hok
  obtain ⟨⟨pages, pageCount⟩, hpages, hok⟩ := bind_eq_ok_iff.mp hok
  obtain ⟨⟨facts, factCount⟩, hfacts, hok⟩ := bind_eq_ok_iff.mp hok
  obtain ⟨⟨summaries, summaryCount⟩, hsummaries, hok⟩ := bind_eq_ok_iff.mp hok
  cases hok
  have hwritten := writeProducts_writes haccepted.productIds h.products hproducts
  -- the three revised tables
  obtain ⟨statedSnapshots, hstated, hsnapshots⟩ := bind_eq_ok_iff.mp hsnapshots
  obtain ⟨hsnapshotKeys, hsnapshotRows⟩ :=
    statedSnapshots_spec hwritten.sound haccepted.productIds hstated
  have hsnapshots := reviseRows_revises hsnapshotKeys h.snapshots h.snapshotsStored
    snapshotColumns_idempotent hsnapshots
  obtain ⟨statedFacts, hstated, hfacts⟩ := bind_eq_ok_iff.mp hfacts
  obtain ⟨hfactKeys, hfactRows⟩ := statedFacts_spec hwritten.sound haccepted.factKeys hstated
  have hfacts := reviseRows_revises hfactKeys h.facts h.factsStored factColumns_idempotent hfacts
  have horderKeys : ((statedSummaries package).map Prod.fst).Nodup := by
    unfold statedSummaries
    rw [List.map_map]
    exact haccepted.orderKeys
  have hsummaries := reviseRows_revises horderKeys h.summaries h.summariesStored
    summaryColumns_idempotent hsummaries
  -- the pages
  obtain ⟨wanted, hwanted, -⟩ := bind_eq_ok_iff.mp hpages
  obtain ⟨-, hpagesSound, hpagesKept⟩ :=
    writePaths_sound hwritten.sound h.pages haccepted.roles hwanted hpages
  have hcurrents : (writeState source run checksum package db.states).filter (·.isCurrent) = _ :=
    writeState_currents h.stateSource
  refine ⟨⟨hwritten.sound, hpagesSound, hsnapshots.sound, hfacts.sound, hsummaries.sound,
    hsnapshots.stored, hfacts.stored, hsummaries.stored, ?_, ?_⟩, ⟨?_, ?_, ?_⟩, hsnapshots.kept,
    hfacts.kept, hsummaries.kept, ⟨_, hcurrents, rfl⟩, hwritten.kept, hpagesKept⟩
  · intro state hstate
    cases List.mem_append.mp hstate with
    | inl hold =>
      obtain ⟨old, hmem, rfl⟩ := Table.mem_updateWhere.mp hold
      have hsame : (if (old.source = source && old.isCurrent) = true then retireState old
          else old).source = old.source := by
        split <;> rfl
      rw [hsame]
      exact h.stateSource old hmem
    | inr hnew =>
      rw [List.mem_singleton.mp hnew]
  · show (writeState source run checksum package db.states).filter (·.isCurrent) =
      ((writeState source run checksum package db.states).find? (·.isCurrent)).toList
    rw [← List.head?_filter, hcurrents]
    rfl
  · intro row hrow
    obtain ⟨product, hproduct, hid, hitem⟩ := hsnapshotRows row hrow
    exact ⟨product, hproduct, hid, hsnapshots.states _ hitem⟩
  · intro row hrow
    obtain ⟨product, hproduct, hid, hitem⟩ := hfactRows row hrow
    exact ⟨product, hproduct, hid, hfacts.states _ hitem⟩
  · intro row hrow
    exact hsummaries.states _ (List.mem_map_of_mem hrow)

end Write

/-! ## One import -/

/-- Nothing but the registry and the clock differs. -/
structure SameTables (db db' : ShopDb) : Prop where
  products : db'.products = db.products
  snapshots : db'.snapshots = db.snapshots
  pages : db'.pages = db.pages
  facts : db'.facts = db.facts
  summaries : db'.summaries = db.summaries
  states : db'.states = db.states

section Same

variable {source : Nat} {db db' : ShopDb}

theorem SameTables.refl (db : ShopDb) : SameTables db db := ⟨rfl, rfl, rfl, rfl, rfl, rfl⟩

theorem SameTables.currentState (h : SameTables db db') : currentState db' = currentState db := by
  unfold Shop.currentState
  rw [h.states]

theorem SameTables.sound (h : SameTables db db') (hsound : db.Sound source) : db'.Sound source := by
  obtain ⟨h1, h2, h3, h4, h5, h6, h7, h8, h9, h10⟩ := hsound
  have hcurrent := h.currentState
  obtain ⟨e1, e2, e3, e4, e5, e6⟩ := h
  exact ⟨e1 ▸ h1, e3 ▸ h2, e2 ▸ h3, e4 ▸ h4, e5 ▸ h5, e2 ▸ h6, e4 ▸ h7, e5 ▸ h8, e6 ▸ h9,
    by rw [e6, hcurrent, h10]⟩

theorem SameTables.stated (h : SameTables db db') {agreement : Agreement} {package : ParsedPackage}
    (hstates : States agreement package db) : States agreement package db' := by
  obtain ⟨h1, h2, h3⟩ := hstates
  obtain ⟨e1, e2, e3, e4, e5, e6⟩ := h
  exact ⟨by rw [e1, e2]; exact h1, by rw [e1, e4]; exact h2, by rw [e5]; exact h3⟩

/-- What was written, whatever the registry and the clock say. -/
theorem Written.of_same {checksum : String} {package : ParsedPackage} {before : ShopDb}
    (h : Written checksum package source before db) (hsame : SameTables db db') :
    Written checksum package source before db' := by
  refine ⟨hsame.sound h.sound, hsame.stated h.states, ?_, ?_, ?_, ?_, ?_, ?_⟩
  · rw [hsame.snapshots]; exact h.snapshotsKept
  · rw [hsame.facts]; exact h.factsKept
  · rw [hsame.summaries]; exact h.summariesKept
  · rw [hsame.states]; exact h.state
  · rw [hsame.products]; exact h.productsKept
  · rw [hsame.pages]; exact h.pagesKept

theorem Written.from_same {checksum : String} {package : ParsedPackage} {after : ShopDb}
    (h : Written checksum package source db' after) (hsame : SameTables db db') :
    Written checksum package source db after :=
  ⟨h.sound, h.states, hsame.snapshots ▸ h.snapshotsKept, hsame.facts ▸ h.factsKept,
    hsame.summaries ▸ h.summariesKept, h.state, hsame.products ▸ h.productsKept,
    hsame.pages ▸ h.pagesKept⟩

end Same

section Import

variable {digestBytes : List UInt8 → String} {source : Nat} {db : ShopDb} {package : ParsedPackage}

theorem wp_onRegistry {α : Type} {call : Proc Sources.Exn Sources.Registry α}
    {post : α → ShopDb → Prop} {raised : ShopExn → ShopDb → Prop}
    (hpost : ∀ a registry, post a { db with registry })
    (hraised : ∀ e registry, raised e { db with registry }) :
    (onRegistry call).wp post raised db := by
  unfold onRegistry
  rw [Proc.wp_onPart]
  exact Proc.wp_of_forall (fun a r => hpost a r) fun e r => hraised (.registry e) r

/-- Under a run, the transaction writes the package or nothing. -/
theorem publishPackage_written (haccepted : Accepted package) (h : db.Sound source)
    (run : Sources.ImportRun) (checksum : String) :
    (publishPackage source run checksum package).wp
      (fun _ db' => Written checksum package source db db') (fun _ db' => db' = db) db := by
  unfold publishPackage
  rw [Proc.wp_atomically]
  beta_reduce
  rw [Proc.wp_bind]
  apply Proc.wp_service
  · intro db' rowsAdded hok
    have hwritten := writePackage_written haccepted h hok
    rw [Proc.wp_bind, Proc.wp_get]
    exact wp_onRegistry (fun _ _ => hwritten.of_same ⟨rfl, rfl, rfl, rfl, rfl, rfl⟩) fun _ _ => rfl
  · exact fun _ _ => rfl

/-- A run of the importer writes the package, or changes no table. -/
theorem runImport_writes (haccepted : Accepted package) (h : db.Sound source) (dryRun : Bool) :
    (runImport digestBytes source package dryRun).wp
      (fun result db' => result.unchanged = false ∧
        (dryRun = false → Written (contentChecksum digestBytes package) package source db db') ∧
        (dryRun = true → SameTables db db'))
      (fun _ db' => SameTables db db') db := by
  have hrecorded (run : Sources.ImportRun) (e : ShopExn) {db' : ShopDb}
      (hsame : SameTables db db') :
      (do onRegistry (Core.failPublication run db.clock [sanitized e])
          throw (.importError e.message) : ShopRun ShopImportResult).wp
        (fun result db' => result.unchanged = false ∧
          (dryRun = false → Written (contentChecksum digestBytes package) package source db db') ∧
          (dryRun = true → SameTables db db'))
        (fun _ db' => SameTables db db') db' := by
    rw [Proc.wp_bind]
    apply wp_onRegistry
    · intro _ registry
      rw [Proc.wp_throw]
      exact ⟨hsame.products, hsame.snapshots, hsame.pages, hsame.facts, hsame.summaries,
        hsame.states⟩
    · intro _ registry
      exact ⟨hsame.products, hsame.snapshots, hsame.pages, hsame.facts, hsame.summaries,
        hsame.states⟩
  unfold runImport
  rw [Proc.wp_bind, Proc.wp_get]
  dsimp only
  rw [Proc.wp_bind]
  apply wp_onRegistry
  swap
  · exact fun _ _ => ⟨rfl, rfl, rfl, rfl, rfl, rfl⟩
  rintro ⟨-, run⟩ registry
  have hsame : SameTables db { db with registry } := ⟨rfl, rfl, rfl, rfl, rfl, rfl⟩
  dsimp only
  rw [Proc.wp_tryCatch]
  cases dryRun with
  | true =>
    rw [if_pos rfl, Proc.wp_bind]
    apply wp_onRegistry
    · intro _ registry'
      rw [Proc.wp_pure]
      exact ⟨rfl, fun hlive => (by cases hlive), fun _ => ⟨rfl, rfl, rfl, rfl, rfl, rfl⟩⟩
    · exact fun e registry' => hrecorded run e ⟨rfl, rfl, rfl, rfl, rfl, rfl⟩
  | false =>
    rw [if_neg Bool.false_ne_true, Proc.wp_bind]
    apply Proc.wp_mono (publishPackage_written haccepted (hsame.sound h) run _)
    · intro _ db' hwritten
      rw [Proc.wp_pure]
      exact ⟨rfl, fun _ => hwritten.from_same hsame, fun hdry => (by cases hdry)⟩
    · rintro e db' rfl
      exact hrecorded run e hsame

/-- How an import ends: unchanged, with the package written, or without a change to a table. -/
theorem importShopPackage_writes (haccepted : Accepted package) (h : db.Sound source)
    (dryRun : Bool) :
    (importShopPackage digestBytes source package dryRun).wp
      (fun _ db' =>
        (dryRun = false ∧ (unchangedRun digestBytes db package).isSome ∧ db' = db) ∨
        (dryRun = false ∧ unchangedRun digestBytes db package = none ∧
          Written (contentChecksum digestBytes package) package source db db') ∨
        (dryRun = true ∧ SameTables db db'))
      (fun _ db' => SameTables db db') db := by
  unfold importShopPackage
  rw [Proc.wp_bind, Proc.wp_get]
  dsimp only
  have hrun := @runImport_writes digestBytes source db package haccepted h dryRun
  cases dryRun with
  | true =>
    rw [if_pos rfl]
    exact Proc.wp_mono hrun (fun _ _ hpost => Or.inr (Or.inr ⟨rfl, hpost.2.2 rfl⟩))
      fun _ _ hsame => hsame
  | false =>
    rw [if_neg Bool.false_ne_true]
    cases hunchanged : unchangedRun digestBytes db package with
    | some run =>
      dsimp only
      rw [Proc.wp_pure]
      exact Or.inl ⟨rfl, rfl, rfl⟩
    | none =>
      exact Proc.wp_mono hrun (fun _ _ hpost => Or.inr (Or.inl ⟨rfl, rfl, hpost.2.1 rfl⟩))
        fun _ _ hsame => hsame

end Import

/-! ## Imports one after another -/

inductive ShopAction
  | importPackage (package : AcceptedPackage) (dryRun : Bool)
  | elapse (duration : Sources.Time)

section History

variable (digestBytes : List UInt8 → String) (source : Nat)

def shopStep (db : ShopDb) : ShopAction → ShopDb
  | .importPackage package dryRun => (importShopPackage digestBytes source package.1 dryRun db).2
  | .elapse duration => { db with clock := db.clock + duration }

/-- The tables after a history that started on empty ones. -/
def shopAfter (history : List ShopAction) : ShopDb :=
  run (shopStep digestBytes source) ShopDb.empty history

def packagesOf (history : List ShopAction) : List ParsedPackage :=
  history.filterMap fun
    | .importPackage package _ => some package.1
    | .elapse _ => none

variable {digestBytes source}

/-- What the tables say belongs to one package the history was given. -/
structure Traced (digestBytes : List UInt8 → String) (source : Nat) (history : List ShopAction)
    (db : ShopDb) : Prop where
  sound : db.Sound source
  origin : ∀ state ∈ db.states.filter (·.isCurrent), ∃ package ∈ packagesOf history,
    state.contentChecksum = contentChecksum digestBytes package ∧ States .stored package db

theorem Traced.of_same {history : List ShopAction} {db db' : ShopDb}
    (h : Traced digestBytes source history db) (hsame : SameTables db db') (act : ShopAction) :
    Traced digestBytes source (history ++ [act]) db' := by
  refine ⟨hsame.sound h.sound, fun state hstate => ?_⟩
  rw [hsame.states] at hstate
  obtain ⟨package, hpackage, hchecksum, hstates⟩ := h.origin state hstate
  have hmem : package ∈ packagesOf (history ++ [act]) := by
    unfold packagesOf
    rw [List.filterMap_append]
    exact List.mem_append_left _ hpackage
  exact ⟨package, hmem, hchecksum, hsame.stated hstates⟩

theorem shopStep_traced {history : List ShopAction} {db : ShopDb}
    (h : Traced digestBytes source history db) (act : ShopAction) :
    Traced digestBytes source (history ++ [act]) (shopStep digestBytes source db act) := by
  cases act with
  | elapse duration =>
    have hsame : SameTables db (shopStep digestBytes source db (.elapse duration)) :=
      ⟨rfl, rfl, rfl, rfl, rfl, rfl⟩
    exact h.of_same hsame _
  | importPackage package dryRun =>
    have hwrites := @importShopPackage_writes digestBytes source db package.1
      (.of_accepted package.2) h.sound dryRun
    refine Proc.wp.left (Proc.wp_mono hwrites ?_ fun _ db' hsame => h.of_same hsame _)
    intro _ db' hpost
    rcases hpost with ⟨-, -, rfl⟩ | ⟨-, -, hwritten⟩ | ⟨-, hsame⟩
    · exact h.of_same (.refl _) _
    · refine ⟨hwritten.sound, fun state hstate => ?_⟩
      obtain ⟨written, hcurrents, hchecksum⟩ := hwritten.state
      rw [hcurrents] at hstate
      have hmem : package.1 ∈ packagesOf (history ++ [.importPackage package dryRun]) := by
        unfold packagesOf
        rw [List.filterMap_append]
        exact List.mem_append_right _ (List.mem_singleton_self _)
      exact ⟨package.1, hmem, List.mem_singleton.mp hstate ▸ hchecksum, hwritten.states⟩
    · exact h.of_same hsame _

theorem shopAfter_traced (history : List ShopAction) :
    Traced digestBytes source history (shopAfter digestBytes source history) := by
  induction history using List.reverseRecOn with
  | nil => exact ⟨ShopDb.sound_empty source, fun state hstate => by cases hstate⟩
  | append_singleton history act ih =>
    unfold shopAfter
    rw [run_append]
    exact shopStep_traced ih act

end History

/-! ## What the last import published -/

section Publishes

variable {digestBytes : List UInt8 → String} {source : Nat} {package other : ParsedPackage}
  {db db' : ShopDb}

/-- Packages of one content state the same. -/
theorem States.of_content {agreement : Agreement} (h : States agreement other db)
    (hcontent : other.content = package.content) : States agreement package db := by
  obtain ⟨-, hproducts, hfacts, horders, -⟩ := PackageContent.mk.inj hcontent
  refine ⟨fun row hrow => h.products row ?_, fun row hrow => h.facts row ?_,
    fun row hrow => h.orders row ?_⟩
  · exact mem_sortOn.mp (hproducts ▸ mem_sortOn.mpr hrow)
  · exact mem_sortOn.mp (hfacts ▸ mem_sortOn.mpr hrow)
  · exact mem_sortOn.mp (horders ▸ mem_sortOn.mpr hrow)

theorem CurrentRow.mono {κ φ : Type} [DecidableEq κ] {agrees agrees' : φ → φ → Prop}
    {rows : List (RevisedRow κ φ)} {key : κ} {fields : φ} (h : CurrentRow agrees rows key fields)
    (himp : ∀ row ∈ rows, agrees fields row.fields → agrees' fields row.fields) :
    CurrentRow agrees' rows key fields := by
  obtain ⟨row, hone, hagrees⟩ := h
  have hmem : row ∈ (Lineage.history key rows).filter (·.isCurrent) :=
    hone ▸ List.mem_singleton_self row
  exact ⟨row, hone, himp row (Lineage.mem_history.mp (List.mem_filter.mp hmem).1).1 hagrees⟩

/-- Stored figures that fit their columns are the stated ones. -/
theorem States.exact_of_stored (h : States .stored package db) (hexact : Exact package) :
    States .exact package db := by
  have hsame {φ : Type} {columns : φ → Except ShopExn φ} {stated kept : φ}
      (hfits : columns stated = .ok stated) (hkept : columns stated = .ok kept) : stated = kept :=
    Except.ok.inj (hfits.symm.trans hkept)
  refine ⟨fun row hrow => ?_, fun row hrow => ?_, fun row hrow => ?_⟩
  · obtain ⟨product, hproduct, hid, hcurrent⟩ := h.products row hrow
    exact ⟨product, hproduct, hid, hcurrent.mono fun _ _ => hsame (hexact.products row hrow)⟩
  · obtain ⟨product, hproduct, hid, hcurrent⟩ := h.facts row hrow
    exact ⟨product, hproduct, hid, hcurrent.mono fun _ _ => hsame (hexact.facts row hrow)⟩
  · exact (h.orders row hrow).mono fun _ _ => hsame (hexact.orders row hrow)

/-- What is in force exactly fits its columns. -/
theorem States.exact_fits (h : States .exact package db) (hsound : db.Sound source) :
    Exact package := by
  have hfits {κ φ : Type} [DecidableEq κ] {columns : φ → Except ShopExn φ}
      {rows : List (RevisedRow κ φ)} {key : κ} {fields : φ} (hstored : Stored columns rows)
      (hcurrent : CurrentRow (· = ·) rows key fields) : columns fields = .ok fields := by
    obtain ⟨row, hone, rfl⟩ := hcurrent
    have hmem : row ∈ (Lineage.history key rows).filter (·.isCurrent) :=
      hone ▸ List.mem_singleton_self row
    exact hstored row (Lineage.mem_history.mp (List.mem_filter.mp hmem).1).1
  refine ⟨fun row hrow => ?_, fun row hrow => ?_, fun row hrow => ?_⟩
  · obtain ⟨product, -, -, hcurrent⟩ := h.products row hrow
    exact hfits hsound.snapshotsStored hcurrent
  · obtain ⟨product, -, -, hcurrent⟩ := h.facts row hrow
    exact hfits hsound.factsStored hcurrent
  · exact hfits hsound.summariesStored (h.orders row hrow)

def currentChecksum (db : ShopDb) : Option String := (currentState db).map (·.contentChecksum)

theorem currentChecksum_eq_some_iff (hsound : db.Sound source) {checksum : String} :
    currentChecksum db = some checksum ↔
      ∃ state, db.states.filter (·.isCurrent) = [state] ∧ state.contentChecksum = checksum := by
  unfold currentChecksum
  rw [hsound.oneState, Option.map_eq_some_iff]
  cases currentState db with
  | none => exact ⟨fun ⟨_, h, _⟩ => (by cases h), fun ⟨_, h, _⟩ => (by cases h)⟩
  | some current =>
    constructor
    · rintro ⟨state, h, hchecksum⟩
      cases h
      exact ⟨current, rfl, hchecksum⟩
    · rintro ⟨state, h, hchecksum⟩
      cases h
      exact ⟨current, rfl, hchecksum⟩

/-- An import that finds nothing to publish has its archive imported before, or its content in
force. -/
theorem unchangedRun_isSome_iff : (unchangedRun digestBytes db package).isSome = true ↔
    (existingSuccessfulRun db (importKey digestBytes package)).isSome = true ∨
      currentChecksum db = some (contentChecksum digestBytes package) := by
  unfold unchangedRun currentChecksum
  cases existingSuccessfulRun db (importKey digestBytes package) with
  | some found => exact ⟨fun _ => Or.inl rfl, fun _ => rfl⟩
  | none =>
    cases currentState db with
    | none => exact ⟨fun h => (by cases h), fun h => (by rcases h with h | h <;> cases h)⟩
    | some state =>
      dsimp only
      rw [Option.map_some, Option.some.injEq]
      split
      · rename_i hsame
        exact ⟨fun _ => Or.inr hsame, fun _ => rfl⟩
      · rename_i hother
        exact ⟨fun h => (by cases h), fun h => absurd (h.resolve_left Bool.false_ne_true) hother⟩

theorem importShopPackage_unchanged {importRun : Nat}
    (h : unchangedRun digestBytes db package = some importRun) :
    importShopPackage digestBytes source package false db =
      (.ok ⟨importRun, false, true, contentChecksum digestBytes package⟩, db) := by
  unfold importShopPackage
  rw [Proc.get_bind, if_neg Bool.false_ne_true, h]
  rfl

/-- The archive has not been imported yet, or what is in force is its content. -/
def Recognised (digestBytes : List UInt8 → String) (package : ParsedPackage) (db : ShopDb) : Prop :=
  (existingSuccessfulRun db (importKey digestBytes package)).isSome = true →
    currentChecksum db = some (contentChecksum digestBytes package)

/-- **An import publishes its package** exactly where every figure fits its column and an archive
imported before is the one in force. -/
theorem import_publishes_iff (digestBytes : List UInt8 → String) (source : Nat)
    (history : List ShopAction) (package : AcceptedPackage)
    (hapart : ∀ other ∈ packagesOf history, contentChecksum digestBytes other =
      contentChecksum digestBytes package.1 → other.content = package.1.content)
    {result : ShopImportResult} {db' : ShopDb}
    (hreturned : importShopPackage digestBytes source package.1 false
      (shopAfter digestBytes source history) = (.ok result, db')) :
    Publishes digestBytes package.1 (shopAfter digestBytes source history) db' ↔
      Exact package.1 ∧ Recognised digestBytes package.1
        (shopAfter digestBytes source history) := by
  have htraced := @shopAfter_traced digestBytes source history
  generalize shopAfter digestBytes source history = db at hreturned htraced ⊢
  have hends := (@importShopPackage_writes digestBytes source db package.1
    (.of_accepted package.2) htraced.sound false).ok hreturned
  rcases hends with ⟨-, hunchanged, rfl⟩ | ⟨-, hnew, hwritten⟩ | ⟨hdry, -⟩
  · -- nothing was published, so what is in force decides
    constructor
    · intro h
      exact ⟨h.states.exact_fits htraced.sound,
        fun _ => (currentChecksum_eq_some_iff htraced.sound).mpr h.state⟩
    · rintro ⟨hexact, hrecognised⟩
      have hcurrent : currentChecksum db' = some (contentChecksum digestBytes package.1) :=
        (unchangedRun_isSome_iff.mp hunchanged).elim hrecognised id
      obtain ⟨state, hone, hchecksum⟩ := (currentChecksum_eq_some_iff htraced.sound).mp hcurrent
      obtain ⟨other, hother, hsame, hstates⟩ :=
        htraced.origin state (hone ▸ List.mem_singleton_self state)
      have hcontent := hapart other hother (hsame.symm.trans hchecksum)
      exact ⟨(hstates.of_content hcontent).exact_of_stored hexact, fun _ => Or.inl,
        fun _ => Or.inl, fun _ => Or.inl, state, hone, hchecksum⟩
  · -- the package was written
    constructor
    · intro h
      refine ⟨h.states.exact_fits hwritten.sound, fun hexisting => ?_⟩
      have hsome := unchangedRun_isSome_iff.mpr (Or.inl hexisting)
      rw [hnew] at hsome
      cases hsome
    · rintro ⟨hexact, -⟩
      exact ⟨hwritten.states.exact_of_stored hexact, hwritten.snapshotsKept, hwritten.factsKept,
        hwritten.summariesKept, hwritten.state⟩
  · cases hdry

end Publishes

/-! ## The addresses a product has had -/

section Addresses

variable {digestBytes : List UInt8 → String} {source : Nat}

/-- The address is stored for the product, in the role. -/
def Stores (products : List ShopProduct) (pages : List ShopProductPage) (sourceProductId : Nat)
    (role : PageRole) (path : String) : Prop :=
  ∃ product ∈ products, product.sourceProductId = sourceProductId ∧
    ∃ page ∈ pages, address page = (product.pk, role, path)

theorem Stores.mono {products products' : List ShopProduct} {pages pages' : List ShopProductPage}
    {sourceProductId : Nat} {role : PageRole} {path : String}
    (h : Stores products pages sourceProductId role path)
    (hproducts : ∀ product ∈ products, ∃ product' ∈ products', identity product' = identity product)
    (hpages : ∀ page ∈ pages, ∃ page' ∈ pages', address page' = address page) :
    Stores products' pages' sourceProductId role path := by
  obtain ⟨product, hproduct, rfl, page, hpage, hat⟩ := h
  obtain ⟨product', hproduct', hsame⟩ := hproducts product hproduct
  obtain ⟨hpk, hid⟩ := Prod.mk.inj hsame
  obtain ⟨page', hpage', hat'⟩ := hpages page hpage
  exact ⟨product', hproduct', hid, page', hpage', by rw [hat', hat, hpk]⟩

theorem shopStep_stores {db : ShopDb} (hsound : db.Sound source) (act : ShopAction)
    {sourceProductId : Nat} {role : PageRole} {path : String}
    (h : Stores db.products db.pages sourceProductId role path) :
    Stores (shopStep digestBytes source db act).products (shopStep digestBytes source db act).pages
      sourceProductId role path := by
  cases act with
  | elapse duration => exact h
  | importPackage package dryRun =>
    have hsame {db' : ShopDb} (hsame : SameTables db db') :
        Stores db'.products db'.pages sourceProductId role path := by
      rw [hsame.products, hsame.pages]
      exact h
    have hwrites := @importShopPackage_writes digestBytes source db package.1
      (.of_accepted package.2) hsound dryRun
    refine @Proc.wp.left _ _ _ _ _
      (fun db' => Stores db'.products db'.pages sourceProductId role path)
      (Proc.wp_mono hwrites ?_ fun _ db' => hsame)
    intro _ db' hpost
    rcases hpost with ⟨-, -, rfl⟩ | ⟨-, -, hwritten⟩ | ⟨-, hdry⟩
    · exact h
    · exact h.mono hwritten.productsKept hwritten.pagesKept
    · exact hsame hdry

/-- An address once stored stays stored. -/
theorem shopAfter_stores {earlier later : List ShopAction} {sourceProductId : Nat} {role : PageRole}
    {path : String} (h : Stores (shopAfter digestBytes source earlier).products
      (shopAfter digestBytes source earlier).pages sourceProductId role path) :
    Stores (shopAfter digestBytes source (earlier ++ later)).products
      (shopAfter digestBytes source (earlier ++ later)).pages sourceProductId role path := by
  induction later using List.reverseRecOn with
  | nil =>
    rw [List.append_nil]
    exact h
  | append_singleton later act ih =>
    have hstep : shopAfter digestBytes source (earlier ++ (later ++ [act])) =
        shopStep digestBytes source (shopAfter digestBytes source (earlier ++ later)) act := by
      unfold shopAfter
      rw [← List.append_assoc, run_append]
      rfl
    rw [hstep]
    exact shopStep_stores (shopAfter_traced _).sound act ih

/-- Every role the package states is held by one current page, of the stated path. -/
def Mapped (package : ParsedPackage) (products : List ShopProduct) (pages : List ShopProductPage) :
    Prop :=
  ∀ row ∈ package.productPaths, ∃ product ∈ products,
    product.sourceProductId = row.sourceProductId ∧ MapsTo pages product.pk row.pageRole row.path

/-- Every path fits its column, and none is an address that was retired. -/
def Mappable (package : ParsedPackage) (products : List ShopProduct)
    (pages : List ShopProductPage) :
    Prop :=
  ∀ row ∈ package.productPaths, FitsColumn row.path ∧ ∀ product ∈ products,
    product.sourceProductId = row.sourceProductId → ¬ Retired pages (product.pk, row)

theorem wantedPaths_returns {package : ParsedPackage} {products : List ShopProduct}
    (hproducts : ProductsSound products)
    (hknown : ∀ row ∈ package.productPaths, ∃ product ∈ products,
      product.sourceProductId = row.sourceProductId) :
    ∃ wanted, wantedPaths package products = .ok wanted := by
  apply exists_mapM_eq_ok
  intro row hrow
  obtain ⟨product, hproduct, hid⟩ := hknown row hrow
  exact ⟨_, bind_eq_ok_iff.mpr
    ⟨product.pk, (productPk_eq_ok_iff hproducts).mpr ⟨product, hproduct, hid, rfl⟩, rfl⟩⟩

/-- **A package's pages are mapped** exactly where none of its paths returns to a retired
address. -/
theorem writePaths_maps_iff (digestBytes : List UInt8 → String) (source : Nat)
    (history : List ShopAction) (package : AcceptedPackage) (importRun : Nat)
    {products : List ShopProduct}
    (hproducts : writeProducts package.1 (shopAfter digestBytes source history).products =
      .ok products) :
    (∃ pages count, writePaths package.1 products importRun
          (shopAfter digestBytes source history).pages = .ok (pages, count) ∧
        Mapped package.1 products pages ∧
        ∀ earlier later, history = earlier ++ later → ∀ sourceProductId role path,
          Stores (shopAfter digestBytes source earlier).products
            (shopAfter digestBytes source earlier).pages sourceProductId role path →
          Stores products pages sourceProductId role path) ↔
      Mappable package.1 products (shopAfter digestBytes source history).pages := by
  have haccepted := Accepted.of_accepted package.2
  have hsound := (@shopAfter_traced digestBytes source history).sound
  have hwritten := writeProducts_writes haccepted.productIds hsound.products hproducts
  have hknown : ∀ row ∈ package.1.productPaths, ∃ product ∈ products,
      product.sourceProductId = row.sourceProductId := by
    intro row hrow
    obtain ⟨stated, hstated, hid⟩ := List.mem_map.mp (haccepted.pathProducts row hrow)
    exact hid ▸ hwritten.stated stated hstated
  obtain ⟨wanted, hwanted⟩ := wantedPaths_returns hwritten.sound hknown
  obtain ⟨-, hstated, horigin⟩ := wantedPaths_spec hwritten.sound haccepted.roles hwanted
  have hwritable : Mappable package.1 products (shopAfter digestBytes source history).pages ↔
      Writable (shopAfter digestBytes source history).pages wanted := by
    constructor
    · rintro hmappable ⟨pk, row⟩ hitem
      obtain ⟨hrow, product, hproduct, hid, rfl⟩ := horigin _ hitem
      exact ⟨(hmappable row hrow).2 product hproduct hid, (hmappable row hrow).1⟩
    · intro hwritable row hrow
      obtain ⟨product, hproduct, hid, hitem⟩ := hstated row hrow
      refine ⟨(hwritable _ hitem).2, fun other hother hid' => ?_⟩
      have hone : other = product :=
        List.inj_on_of_nodup_map hwritten.sound.ids hother hproduct (hid'.trans hid.symm)
      exact hone ▸ (hwritable _ hitem).1
  rw [hwritable]
  constructor
  · rintro ⟨pages, count, hok, hmapped, -⟩ item hitem
    obtain ⟨hfresh, hpages, -⟩ :=
      writePaths_sound hwritten.sound hsound.pages haccepted.roles hwanted hok
    obtain ⟨hrow, -⟩ := horigin item hitem
    obtain ⟨_, -, -, hmaps⟩ := hmapped item.2 hrow
    exact ⟨hfresh item hitem, hmaps.fits hpages⟩
  · intro h
    obtain ⟨pages, count, hok, hmaps⟩ := @writePaths_maps package.1 products importRun _ wanted
      hwritten.sound hsound.pages haccepted.roles hwanted h
    obtain ⟨-, -, hkept⟩ :=
      writePaths_sound hwritten.sound hsound.pages haccepted.roles hwanted hok
    refine ⟨pages, count, hok, fun row hrow =>
      ?_, fun earlier later hsplit id role path hstores => ?_⟩
    · obtain ⟨product, hproduct, hid, hitem⟩ := hstated row hrow
      exact ⟨product, hproduct, hid, hmaps _ hitem⟩
    · have hbefore := @shopAfter_stores digestBytes source earlier later _ _ _ hstores
      rw [← hsplit] at hbefore
      exact hbefore.mono hwritten.kept hkept

end Addresses

/-! ## An archive that comes back, and an address that does -/

/-- The sum of the first bytes of a text, in place of a digest. -/
def sampleDigest (bytes : List UInt8) : String :=
  toString ((bytes.take 64).foldl (fun sum byte => sum + byte.toNat) 0)

def sampleDay : Date := .of 2026 3 1

/-- One document, sold once on the day, with a product page. -/
def samplePackage (sha : Char) (units : Nat) (path : String) : ParsedPackage where
  packageSha256 := String.ofList (List.replicate 64 sha)
  packageSizeBytes := 1000
  manifest := ⟨sampleDay, sampleDay, sampleDay, true, true⟩
  products :=
    [⟨7, .document, "Juhend", none, "", some true, none, some ⟨false, 1000, -2⟩, none, none, none,
    sampleDay⟩]
  dailyFacts :=
    [⟨sampleDay, 7, .member, .invoice, 1, ⟨false, units, 0⟩, ⟨false, 1000, -2⟩, "EUR", none, none⟩]
  productPaths := [⟨7, .product, path, sampleDay⟩]
  dailyOrders := [⟨sampleDay, none, 1⟩]

def firstPackage : AcceptedPackage := ⟨samplePackage 'a' 1 "/a", by decide +kernel⟩

def secondPackage : AcceptedPackage := ⟨samplePackage 'b' 20 "/b", by decide +kernel⟩

/-- The figures of the second package, at the address of the first. -/
def thirdPackage : AcceptedPackage := ⟨samplePackage 'c' 20 "/a", by decide +kernel⟩

def firstImport : Except ShopExn ShopImportResult × ShopDb :=
  importShopPackage sampleDigest 1 firstPackage.1 false (shopAfter sampleDigest 1 [])

theorem firstImport_eq : importShopPackage sampleDigest 1 firstPackage.1 false
    (shopAfter sampleDigest 1 []) = (firstImport.1, firstImport.2) := by
  unfold firstImport
  exact Prod.mk.eta.symm

theorem first_package_published :
    Publishes sampleDigest firstPackage.1 (shopAfter sampleDigest 1 []) firstImport.2 := by
  have hexact : Exact firstPackage.1 := ⟨by decide +kernel, by decide +kernel, by decide +kernel⟩
  have hok : firstImport.1.isOk = true := by decide +kernel
  cases hresult : firstImport.1 with
  | error e =>
    rw [hresult] at hok
    cases hok
  | ok result =>
    have hreturned := firstImport_eq
    rw [hresult] at hreturned
    refine (import_publishes_iff sampleDigest 1 [] firstPackage (fun _ hother => ?_) hreturned).mpr
      ⟨hexact, fun hexisting => ?_⟩
    · cases hother
    · exact absurd hexisting Bool.false_ne_true

/-- The store after the first package and then the second. -/
def afterSecond : ShopDb :=
  shopAfter sampleDigest 1 [.importPackage firstPackage false, .importPackage secondPackage false]

theorem afterSecond_facts :
    unchangedRun sampleDigest afterSecond firstPackage.1 = some 1 ∧
      currentChecksum afterSecond ≠ some (contentChecksum sampleDigest firstPackage.1) ∧
      afterSecond.products = [⟨1, 7, .document, sampleDay, sampleDay⟩] ∧
      afterSecond.pages = [⟨1, 1, .product, "/a", sampleDay, sampleDay, false, 1⟩,
        ⟨2, 1, .product, "/b", sampleDay, sampleDay, true, 2⟩] := by
  decide +kernel

/-- The first archive comes back: the import is answered with its old run, and the second package
stays in force. -/
theorem returning_archive_not_published :
    ∃ result, importShopPackage sampleDigest 1 firstPackage.1 false
        (shopAfter sampleDigest 1
          [.importPackage firstPackage false, .importPackage secondPackage false]) =
        (.ok result, afterSecond) ∧
      result.unchanged = true ∧ ¬ Publishes sampleDigest firstPackage.1 afterSecond
        afterSecond := by
  obtain ⟨hunchanged, hcurrent, -, -⟩ := afterSecond_facts
  have hsound : afterSecond.Sound 1 := (shopAfter_traced _).sound
  refine ⟨⟨1, false, true, contentChecksum sampleDigest firstPackage.1⟩, ?_, rfl,
    fun hpublishes => ?_⟩
  · show importShopPackage sampleDigest 1 firstPackage.1 false afterSecond = _
    exact importShopPackage_unchanged hunchanged
  · exact hcurrent ((currentChecksum_eq_some_iff hsound).mpr hpublishes.state)

theorem first_package_mapped : ∃ pages count,
    writePaths firstPackage.1 [⟨1, 7, .document, sampleDay, sampleDay⟩] 1 [] = .ok (pages, count) ∧
      Mapped firstPackage.1 [⟨1, 7, .document, sampleDay, sampleDay⟩] pages := by
  have hproducts : writeProducts firstPackage.1 (shopAfter sampleDigest 1 []).products =
      .ok [⟨1, 7, .document, sampleDay, sampleDay⟩] := by decide +kernel
  have hmappable : Mappable firstPackage.1 [⟨1, 7, .document, sampleDay, sampleDay⟩]
      (shopAfter sampleDigest 1 []).pages := by
    intro row hrow
    refine ⟨?_, fun _ _ _ hretired => ?_⟩
    · rw [List.mem_singleton.mp hrow]
      unfold FitsColumn
      decide +kernel
    · obtain ⟨page, hpage, -⟩ := hretired
      cases hpage
  obtain ⟨pages, count, hok, hmapped, -⟩ :=
    (writePaths_maps_iff sampleDigest 1 [] firstPackage 1 hproducts).mpr hmappable
  exact ⟨pages, count, hok, hmapped⟩

/-- The third package names the first address again, while the second one is in force. -/
theorem returning_address_refused : ∃ products,
    writeProducts thirdPackage.1 (shopAfter sampleDigest 1
        [.importPackage firstPackage false, .importPackage secondPackage false]).products =
        .ok products ∧
      writePaths thirdPackage.1 products 3 (shopAfter sampleDigest 1
        [.importPackage firstPackage false, .importPackage secondPackage false]).pages =
        .error (.integrityError "shopproductpage_one_current_per_role") := by
  obtain ⟨-, -, hproducts, hpages⟩ := afterSecond_facts
  refine ⟨[⟨1, 7, .document, sampleDay, sampleDay⟩], ?_, ?_⟩
  · show writeProducts thirdPackage.1 afterSecond.products = _
    rw [hproducts]
    decide +kernel
  · show writePaths thirdPackage.1 _ 3 afterSecond.pages = _
    rw [hpages]
    decide +kernel

end Dashkoda.Shop
