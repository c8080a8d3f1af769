import Dashkoda.Lib.IsoText
import Dashkoda.Lib.JsonCanonical
import Dashkoda.Shop.History

/-!
# What the content checksum identifies

The checksum of a package is a digest of its rows, sorted and with their decimals as texts.  It
tells two packages apart exactly when their rows differ, and rows that state the same figures may
differ in how the decimals are written.
-/

open Lib

namespace Dashkoda.Shop

/-! ## Stating the same -/

section Stating

def ProductRow.stated (row : ProductRow) : Nat × ProductType × SnapshotFields × Date :=
  (row.sourceProductId, row.productType, row.fields, row.observedOn)

def DailyFactRow.stated (row : DailyFactRow) : FactKey × FactFields :=
  (row.key row.sourceProductId, row.fields)

/-- The same coverage and flags, and the same rows as values in some order. -/
structure SameFacts (a b : ParsedPackage) : Prop where
  manifest : a.manifest = b.manifest
  products : (a.products.map ProductRow.stated).Perm (b.products.map ProductRow.stated)
  facts : (a.dailyFacts.map DailyFactRow.stated).Perm (b.dailyFacts.map DailyFactRow.stated)
  orders : a.dailyOrders.Perm b.dailyOrders
  paths : a.productPaths.Perm b.productPaths

/-- How the decimals of a row are written, their values apart. -/
def ProductRow.writings (row : ProductRow) : List (Option (Bool × Int)) :=
  [row.listPriceCurrentNet, row.memberPriceCurrentNet].map (Option.map SignedDecimal.writing)

def DailyFactRow.writings (row : DailyFactRow) : List (Option (Bool × Int)) :=
  [some row.units, some row.orderedValueNet, row.freeUnits, row.paidUnits].map
    (Option.map SignedDecimal.writing)

/-- Rows of one key have their decimals written with the same places, and their zeros with the same
sign. -/
structure WrittenAlike (a b : ParsedPackage) : Prop where
  products : ∀ row ∈ a.products, ∀ row' ∈ b.products, row.sourceProductId = row'.sourceProductId →
    row.writings = row'.writings
  facts : ∀ row ∈ a.dailyFacts, ∀ row' ∈ b.dailyFacts,
    row.key row.sourceProductId = row'.key row'.sourceProductId → row.writings = row'.writings

theorem eq_of_map_writing_eq {x y : Option SignedDecimal}
    (hwriting : x.map SignedDecimal.writing = y.map SignedDecimal.writing)
    (hvalue : x.map SignedDecimal.toRat = y.map SignedDecimal.toRat) : x = y := by
  cases x with
  | none =>
    cases y with
    | none => rfl
    | some y => cases hvalue
  | some x =>
    cases y with
    | none => cases hvalue
    | some y =>
      exact congrArg some
        (SignedDecimal.eq_of_writing_eq (Option.some.inj hwriting) (Option.some.inj hvalue))

/-- A product is what it states, and how. -/
theorem ProductRow.eq_of_stated {row row' : ProductRow} (hstated : row.stated = row'.stated)
    (hwritings : row.writings = row'.writings) : row = row' := by
  unfold ProductRow.stated ProductRow.fields at hstated
  unfold ProductRow.writings at hwritings
  simp only [Prod.mk.injEq, SnapshotFields.mk.injEq] at hstated
  simp only [List.map_cons, List.map_nil, List.cons.injEq] at hwritings
  obtain ⟨hid, htype, ⟨htitle, hterm, hname, hpublished, hlisted, hmembers, hlist, hmember, hnode⟩,
    hday⟩ := hstated
  have hlistPrice := eq_of_map_writing_eq hwritings.1 hlist
  have hmemberPrice := eq_of_map_writing_eq hwritings.2.1 hmember
  cases row
  cases row'
  simp_all only

theorem DailyFactRow.eq_of_stated {row row' : DailyFactRow} (hstated : row.stated = row'.stated)
    (hwritings : row.writings = row'.writings) : row = row' := by
  unfold DailyFactRow.stated DailyFactRow.key DailyFactRow.fields at hstated
  unfold DailyFactRow.writings at hwritings
  simp only [Prod.mk.injEq, FactKey.mk.injEq, FactFields.mk.injEq] at hstated
  simp only [List.map_cons, List.map_nil, List.cons.injEq, Option.map_some,
    Option.some.injEq] at hwritings
  obtain ⟨⟨hid, hday, hmember, hpayment, hcurrency⟩, horders, hunits, hvalue, hfree, hpaid,
    hunknown⟩ := hstated
  have hunits' := SignedDecimal.eq_of_writing_eq hwritings.1 hunits
  have hvalue' := SignedDecimal.eq_of_writing_eq hwritings.2.1 hvalue
  have hfree' := eq_of_map_writing_eq hwritings.2.2.1 hfree
  have hpaid' := eq_of_map_writing_eq hwritings.2.2.2.1 hpaid
  cases row
  cases row'
  simp_all only

end Stating

/-! ## The same rows in some order -/

section Content

variable {a b : ParsedPackage}

structure SameRowsExactly (a b : ParsedPackage) : Prop where
  manifest : a.manifest = b.manifest
  products : a.products.Perm b.products
  facts : a.dailyFacts.Perm b.dailyFacts
  orders : a.dailyOrders.Perm b.dailyOrders
  paths : a.productPaths.Perm b.productPaths

theorem MemberStatus.value_injective : Function.Injective MemberStatus.value := by
  intro a b
  cases a <;> cases b <;> first | exact fun _ => rfl | exact fun h => absurd h (by decide)

theorem PaymentClass.value_injective : Function.Injective PaymentClass.value := by
  intro a b
  cases a <;> cases b <;> first | exact fun _ => rfl | exact fun h => absurd h (by decide)

theorem PageRole.value_injective : Function.Injective PageRole.value := by
  intro a b
  cases a <;> cases b <;> first | exact fun _ => rfl | exact fun h => absurd h (by decide)

theorem ProductType.value_injective : Function.Injective ProductType.value := by
  intro a b
  cases a <;> cases b <;> first | exact fun _ => rfl | exact fun h => absurd h (by decide)

/-- The blank type is no type's name. -/
theorem typeText_injective :
    Function.Injective fun productType : Option ProductType =>
      (productType.map ProductType.value).getD "" := by
  intro a b heq
  cases a with
  | none =>
    cases b with
    | none => rfl
    | some y => cases y <;> exact absurd heq (by decide)
  | some x =>
    cases b with
    | none => cases x <;> exact absurd heq (by decide)
    | some y => exact congrArg some (ProductType.value_injective heq)

/-- Under the reader's keys, packages of the same rows have the same content and no others. -/
theorem content_eq_iff (ha : Accepted a) : a.content = b.content ↔ SameRowsExactly a b := by
  have hproducts := @sortOn_eq_iff_perm _ _ _ (·.sourceProductId) a.products b.products
    ha.productIds
  have hfacts := @sortOn_eq_iff_perm _ _ _ (fun row : DailyFactRow => toLex (row.reportDate,
    toLex (row.sourceProductId,
      toLex (row.memberStatus.value, toLex (row.paymentClass.value, row.currency)))))
    a.dailyFacts b.dailyFacts (nodup_map_of_finer ha.factKeys fun x y heq => by
      simp only [EmbeddingLike.apply_eq_iff_eq, Prod.mk.injEq, MemberStatus.value_injective.eq_iff,
        PaymentClass.value_injective.eq_iff] at heq ⊢
      exact heq)
  have horders := @sortOn_eq_iff_perm _ _ _ (fun row : DailyOrderRow => toLex (row.reportDate,
    (row.productType.map ProductType.value).getD "")) a.dailyOrders b.dailyOrders
    (nodup_map_of_finer ha.orderKeys fun x y heq => by
      simp only [EmbeddingLike.apply_eq_iff_eq, Prod.mk.injEq] at heq ⊢
      exact ⟨heq.1, typeText_injective heq.2⟩)
  have hpaths := @sortOn_eq_iff_perm _ _ _ (fun row : ProductPathRow => toLex (row.sourceProductId,
    toLex (row.pageRole.value, row.path))) a.productPaths b.productPaths
    (nodup_map_of_finer ha.roles fun x y heq => by
      simp only [EmbeddingLike.apply_eq_iff_eq, Prod.mk.injEq,
        PageRole.value_injective.eq_iff] at heq ⊢
      exact ⟨heq.1, heq.2.1⟩)
  unfold ParsedPackage.content
  rw [PackageContent.mk.injEq, hproducts, hfacts, horders, hpaths]
  exact ⟨fun h => ⟨h.1, h.2.1, h.2.2.1, h.2.2.2.1, h.2.2.2.2⟩,
    fun h => ⟨h.manifest, h.products, h.facts, h.orders, h.paths⟩⟩

/-- Lists whose items agree up to `f` have the same items where `f` tells them apart. -/
theorem perm_of_map_perm {α β : Type} {f : α → β} {l l' : List α} (h : (l.map f).Perm (l'.map f))
    (hsame : ∀ x ∈ l, ∀ y ∈ l', f x = f y → x = y) : l.Perm l' := by
  classical
  induction l generalizing l' with
  | nil => exact (List.map_eq_nil_iff.mp h.symm.eq_nil) ▸ List.Perm.nil
  | cons x l ih =>
    obtain ⟨y, hy, hfy⟩ := List.mem_map.mp (h.mem_iff.mp (List.mem_map_of_mem List.mem_cons_self))
    have hx : x = y := hsame x List.mem_cons_self y hy hfy.symm
    have hsplit : l'.Perm (x :: l'.erase x) := List.perm_cons_erase (hx ▸ hy)
    have hrest : (l.map f).Perm ((l'.erase x).map f) :=
      (List.perm_cons (f x)).mp (h.trans (hsplit.map f))
    have htail := ih hrest fun z hz w hw =>
      hsame z (List.mem_cons_of_mem _ hz) w (List.mem_of_mem_erase hw)
    exact (htail.cons x).trans hsplit.symm

theorem SameRowsExactly.sameFacts (h : SameRowsExactly a b) : SameFacts a b :=
  ⟨h.manifest, h.products.map _, h.facts.map _, h.orders, h.paths⟩

theorem SameRowsExactly.writtenAlike (ha : Accepted a) (h : SameRowsExactly a b) :
    WrittenAlike a b where
  products row hrow row' hrow' hkey :=
    congrArg _ (List.inj_on_of_nodup_map ha.productIds hrow (h.products.mem_iff.mpr hrow') hkey)
  facts row hrow row' hrow' hkey := by
    have hkeys : (a.dailyFacts.map fun row => row.key row.sourceProductId).Nodup :=
      nodup_map_of_finer ha.factKeys fun x y heq => by
        unfold DailyFactRow.key at heq
        simp only [FactKey.mk.injEq, Prod.mk.injEq] at heq ⊢
        exact ⟨heq.2.1, heq.1, heq.2.2⟩
    exact congrArg _ (List.inj_on_of_nodup_map hkeys hrow (h.facts.mem_iff.mpr hrow') hkey)

theorem SameFacts.exactly (h : SameFacts a b) (hwritten : WrittenAlike a b) :
    SameRowsExactly a b where
  manifest := h.manifest
  products := perm_of_map_perm h.products fun row hrow row' hrow' hstated =>
    ProductRow.eq_of_stated hstated (hwritten.products row hrow row' hrow' (congrArg (·.1) hstated))
  facts := perm_of_map_perm h.facts fun row hrow row' hrow' hstated =>
    DailyFactRow.eq_of_stated hstated (hwritten.facts row hrow row' hrow' (congrArg (·.1) hstated))
  orders := h.orders
  paths := h.paths

end Content

/-! ## The text that is digested -/

section Canonical

variable {a b : ParsedPackage}

theorem canon_jsonDate_eq_iff {x y : Date} : (jsonDate x).canon = (jsonDate y).canon ↔ x = y :=
  Json.canon_str_eq_iff.trans Date.isoformat_injective.eq_iff

theorem canon_jsonDecimal_eq_iff {x y : Option SignedDecimal} :
    (jsonDecimal x).canon = (jsonDecimal y).canon ↔ x = y :=
  Json.canon_ofOption_eq_iff
    (fun _ _ => Json.canon_str_eq_iff.trans SignedDecimal.str_injective.eq_iff) fun _ h =>
      (by cases h)

theorem canon_manifest_eq_iff {x y : PackageManifest} : x.json.canon = y.json.canon ↔ x = y := by
  unfold PackageManifest.json
  refine Iff.trans
    (Json.canon_obj_eq_iff ["source_as_of", "coverage_start", "coverage_end", "money_basis",
    "order_state_filter", "timezone", "member_semantics_verified",
    "public_listing_semantics_verified"]
    (by decide) rfl rfl) ?_
  simp only [List.map_cons, List.map_nil, Json.canonField, List.cons.injEq, Prod.mk.injEq,
    true_and, and_true,
    canon_jsonDate_eq_iff, Json.canon_bool_eq_iff]
  exact PackageManifest.mk.injEq .. |>.to_iff.symm

theorem ProductRow.canon_json_eq_iff {x y : ProductRow} : x.json.canon = y.json.canon ↔ x = y := by
  unfold ProductRow.json
  rw [Json.canon_arr_eq_iff]
  simp only [List.map_cons, List.map_nil, List.cons.injEq, and_true, Json.canon_int_eq_iff,
    Int.ofNat_inj,
    Json.canon_str_eq_iff, ProductType.value_injective.eq_iff, Json.canon_ofOption_int_eq_iff,
    Json.canon_ofOption_bool_eq_iff, canon_jsonDecimal_eq_iff, canon_jsonDate_eq_iff]
  exact ProductRow.mk.injEq .. |>.to_iff.symm

theorem DailyFactRow.canon_json_eq_iff {x y : DailyFactRow} :
    x.json.canon = y.json.canon ↔ x = y := by
  unfold DailyFactRow.json
  rw [Json.canon_arr_eq_iff]
  simp only [List.map_cons, List.map_nil, List.cons.injEq, and_true, Json.canon_int_eq_iff,
    Int.ofNat_inj,
    Json.canon_str_eq_iff, MemberStatus.value_injective.eq_iff, PaymentClass.value_injective.eq_iff,
    SignedDecimal.str_injective.eq_iff, canon_jsonDecimal_eq_iff, canon_jsonDate_eq_iff]
  exact DailyFactRow.mk.injEq .. |>.to_iff.symm

theorem DailyOrderRow.canon_json_eq_iff {x y : DailyOrderRow} :
    x.json.canon = y.json.canon ↔ x = y := by
  unfold DailyOrderRow.json
  rw [Json.canon_arr_eq_iff]
  simp only [List.map_cons, List.map_nil, List.cons.injEq, and_true, Json.canon_int_eq_iff,
    Int.ofNat_inj,
    Json.canon_str_eq_iff, typeText_injective.eq_iff, canon_jsonDate_eq_iff]
  exact DailyOrderRow.mk.injEq .. |>.to_iff.symm

theorem ProductPathRow.canon_json_eq_iff {x y : ProductPathRow} :
    x.json.canon = y.json.canon ↔ x = y := by
  unfold ProductPathRow.json
  rw [Json.canon_arr_eq_iff]
  simp only [List.map_cons, List.map_nil, List.cons.injEq, and_true, Json.canon_int_eq_iff,
    Int.ofNat_inj,
    Json.canon_str_eq_iff, PageRole.value_injective.eq_iff, canon_jsonDate_eq_iff]
  exact ProductPathRow.mk.injEq .. |>.to_iff.symm

/-- A table is read back row by row. -/
theorem canon_table_eq_iff {α : Type} {write : α → Json}
    (hwrite : ∀ x y, (write x).canon = (write y).canon → x = y) {rows rows' : List α} :
    (Json.arr (rows.map write)).canon = (Json.arr (rows'.map write)).canon ↔ rows = rows' := by
  rw [Json.canon_arr_eq_iff, List.map_map, List.map_map]
  constructor
  · exact fun h => List.map_injective_iff.mpr (fun x y heq => hwrite x y heq) h
  · intro h
    rw [h]

theorem canon_content_eq_iff {x y : PackageContent} :
    x.canonical.canon = y.canonical.canon ↔ x = y := by
  unfold PackageContent.canonical
  refine Iff.trans (Json.canon_obj_eq_iff ["schema_version", "manifest", "products", "daily_facts",
    "daily_orders", "product_paths"] (by decide) rfl rfl) ?_
  simp only [List.map_cons, List.map_nil, Json.canonField, List.cons.injEq, Prod.mk.injEq,
    true_and, and_true,
    canon_manifest_eq_iff, canon_table_eq_iff fun _ _ => ProductRow.canon_json_eq_iff.mp,
    canon_table_eq_iff fun _ _ => DailyFactRow.canon_json_eq_iff.mp,
    canon_table_eq_iff fun _ _ => DailyOrderRow.canon_json_eq_iff.mp,
    canon_table_eq_iff fun _ _ => ProductPathRow.canon_json_eq_iff.mp]
  exact PackageContent.mk.injEq .. |>.to_iff.symm

/-- With a hash without collisions, the checksum is the rows, decimals and all. -/
theorem contentChecksum_eq_iff {digestBytes : List UInt8 → String}
    (hdigest : Function.Injective digestBytes)
    (ha : Accepted a) : contentChecksum digestBytes a = contentChecksum digestBytes b ↔
    SameRowsExactly a b := by
  rw [← content_eq_iff ha, ← canon_content_eq_iff, ← Json.chars_eq_iff]
  unfold contentChecksum Core.canonicalChecksum
  exact hdigest.eq_iff.trans flatMap_utf8EncodeChar_injective.eq_iff

end Canonical

/-! ## When the checksum identifies the facts -/

section Identifying

variable {digestBytes : List UInt8 → String} {a b : ParsedPackage}

/-- An import of the package leaves the tables as they are. -/
def ImportsNothing (digestBytes : List UInt8 → String) (source : Nat) (package : ParsedPackage)
    (db : ShopDb) : Prop :=
  ∃ result, importShopPackage digestBytes source package false db = (.ok result, db) ∧
    result.unchanged = true

/-- Two packages have one checksum exactly when they state the same, and where one of them is in
force the other is not published under the same checksum. -/
structure Identifies (digestBytes : List UInt8 → String) (a b : ParsedPackage) : Prop where
  checksum : contentChecksum digestBytes a = contentChecksum digestBytes b ↔ SameFacts a b
  unchanged : ∀ source db, currentChecksum db = some (contentChecksum digestBytes a) →
    contentChecksum digestBytes b = contentChecksum digestBytes a →
    ImportsNothing digestBytes source b db

theorem importsNothing_of_checksum {source : Nat} {db : ShopDb}
    (h : currentChecksum db = some (contentChecksum digestBytes a)) :
    ImportsNothing digestBytes source a db := by
  obtain ⟨run, hrun⟩ := Option.isSome_iff_exists.mp (unchangedRun_isSome_iff.mpr (Or.inr h))
  exact ⟨⟨run, false, true, contentChecksum digestBytes a⟩, importShopPackage_unchanged hrun, rfl⟩

/-- The checksum identifies the facts of two packages exactly when, if they state the same facts,
they write the decimals alike. -/
theorem contentChecksum_identifies_iff (hdigest : Function.Injective digestBytes)
    (a b : AcceptedPackage) :
    Identifies digestBytes a.1 b.1 ↔ (SameFacts a.1 b.1 → WrittenAlike a.1 b.1) := by
  have ha := Accepted.of_accepted a.2
  have hchecksum := @contentChecksum_eq_iff a.1 b.1 digestBytes hdigest ha
  constructor
  · intro h hsame
    exact (hchecksum.mp (h.checksum.mpr hsame)).writtenAlike ha
  · intro h
    refine ⟨⟨fun heq => (hchecksum.mp heq).sameFacts, fun hsame =>
      hchecksum.mpr (hsame.exactly (h hsame))⟩, ?_⟩
    intro source db hcurrent heq
    exact importsNothing_of_checksum (hcurrent.trans (congrArg some heq.symm))

/-- The first package, read from a file that writes its prices and values with other zeros. -/
def rewritten (price : SignedDecimal) : AcceptedPackage :=
  ⟨{ samplePackage 'b' 1 "/a" with
    products :=
      [⟨7, .document, "Juhend", none, "", some true, none, some price, none, none, none, sampleDay⟩]
        },
    by simp [ParsedPackage.accepted, samplePackage]⟩

theorem contentChecksum_identifies_sample :
    Identifies spelledOut firstPackage.1 (rewritten ⟨false, 1000, -2⟩).1 ↔
      (SameFacts firstPackage.1 (rewritten ⟨false, 1000, -2⟩).1 →
        WrittenAlike firstPackage.1 (rewritten ⟨false, 1000, -2⟩).1) :=
  contentChecksum_identifies_iff spelledOut_injective _ _

/-- A price of `10.00` and a price of `10.0` are the same price under two checksums. -/
theorem trailingZero_not_identified :
    ¬ ∀ (digestBytes : List UInt8 → String), Function.Injective digestBytes →
      ∀ a b : AcceptedPackage, Identifies digestBytes a.1 b.1 := by
  intro h
  let other := rewritten ⟨false, 100, -1⟩
  have hsame : SameFacts firstPackage.1 other.1 := by
    refine ⟨rfl, ?_, List.Perm.refl _, List.Perm.refl _, List.Perm.refl _⟩
    have hstated : firstPackage.1.products.map ProductRow.stated =
        other.1.products.map ProductRow.stated := by
      decide +kernel
    rw [hstated]
  have hchecksum := (h spelledOut spelledOut_injective firstPackage other).checksum.mpr hsame
  have hexactly :=
    (contentChecksum_eq_iff spelledOut_injective (.of_accepted firstPackage.2)).mp hchecksum
  exact absurd (hexactly.products.mem_iff.mp List.mem_cons_self) (by decide +kernel)

end Identifying

end Dashkoda.Shop
