import Dashkoda.Shop.PackageTables

/-!
# Which packages are refused by contract

The reader raises `PackageContractError` and nothing else exactly where every value it reaches is of
the kind it takes for granted.
-/

open Lib

namespace Dashkoda.Shop.Package

open Core (Uncaught JsonValue JsonDict Loaded)
open Reading (Contracted Reaches)
open Visibility (canonicalPath)

/-! ## The archive -/

theorem contracted_zipRead_iff {α : Type} {read : Except ZipExn α} :
    Contracted (zipRead read) ↔ ∀ exn, read = .error exn → exn = .badZipFile := by
  match read with
  | .ok a => exact ⟨fun _ _ h => (by cases h), fun _ => Reading.contracted_ok a⟩
  | .error .badZipFile =>
    exact ⟨fun _ exn h => (by cases h; rfl), fun _ => Reading.contracted_refuse _⟩
  | .error .other =>
    exact ⟨fun h => absurd h (Reading.not_contracted_escape _), fun h => by cases h _ rfl⟩

theorem contracted_safeRelativeName (rawName : String) : Contracted (safeRelativeName rawName) := by
  unfold safeRelativeName
  split
  · exact Reading.contracted_ok _
  · split
    · exact Reading.contracted_refuse _
    · exact Reading.contracted_ok _

theorem contracted_checkSizes (limits : PackageLimits) (info : ZipInfo) :
    Contracted (checkSizes limits info) :=
  (Reading.contracted_require _ _).bind fun _ _ => Reading.contracted_require _ _

theorem contracted_nameMember (limits : PackageLimits) (named : Dict String ZipInfo)
    (info : ZipInfo) :
    Contracted (nameMember limits named info) := by
  refine (Reading.contracted_require _ _).bind fun _ _ => ?_
  refine (contracted_safeRelativeName _).bind fun name _ => ?_
  cases name with
  | none => exact Reading.contracted_pure _
  | some name => exact (contracted_checkSizes limits info).bind fun _ _ => Reading.contracted_pure _

theorem contracted_stripRoot (names : List String) : Contracted (stripRoot names) := by
  unfold stripRoot
  split
  · exact Reading.contracted_ok _
  · split
    · exact Reading.contracted_ok _
    · exact Reading.contracted_refuse _

theorem contracted_nameMembers (limits : PackageLimits) (infos : List ZipInfo) :
    Contracted (nameMembers limits infos) := by
  refine (Reading.contracted_require _ _).bind fun _ _ => ?_
  refine (Reading.contracted_foldlM (contracted_nameMember limits) infos _).bind fun named _ => ?_
  refine (Reading.contracted_require _ _).bind fun _ _ => ?_
  exact (contracted_stripRoot _).bind fun _ _ => Reading.contracted_pure _

/-- What is left to do with a member once it is read. -/
theorem contracted_require_pure {α : Type} (condition : Prop) [Decidable condition]
    (message : String) (a : α) :
    Contracted (do Reading.require condition message; return a : Reading α) :=
  (Reading.contracted_require _ _).bind fun _ _ => Reading.contracted_pure a

/-- Reading a member under the root raises nothing but `BadZipFile`. -/
def MemberReads (root : String) (member : String × ZipInfo) : Prop :=
  root.toList <+: member.1.toList → ∀ exn, member.2.content = .error exn → exn = .badZipFile

theorem contracted_extract_iff {limits : PackageLimits} {root : String} {extracted : Extracted}
    {member : String × ZipInfo} : Contracted (extract limits root extracted member) ↔
    MemberReads root member := by
  unfold extract MemberReads
  rw [Reading.contracted_bind_of_contracted (Reading.contracted_require _ _)]
  rw [Reading.contracted_bind_of_forall, contracted_zipRead_iff]
  · simp only [Reading.require_eq_ok_iff]
    exact ⟨fun h hroot => h () hroot, fun h _ hroot => h hroot⟩
  · intro payload
    exact (Reading.contracted_require _ _).bind fun _ _ => contracted_require_pure _ _ _

def MembersRead (limits : PackageLimits) (infos : List ZipInfo) : Prop :=
  ∀ named root, nameMembers limits infos = .ok (named, root) →
    ∀ extracted member, Reaches (extract limits root) named.entries ⟨Dict.empty, 0⟩
      extracted member →
      MemberReads root member

theorem contracted_readMembers_iff {limits : PackageLimits} {infos : List ZipInfo} :
    Contracted (readMembers limits infos) ↔ MembersRead limits infos := by
  unfold readMembers MembersRead
  rw [Reading.contracted_bind_of_contracted (contracted_nameMembers limits infos)]
  constructor
  · intro h named root hnamed
    have hloop := Reading.contracted_bind_of_forall (fun _ => Reading.contracted_pure _) |>.mp
      (h (named, root) hnamed)
    intro extracted member hreach
    exact contracted_extract_iff.mp (Reading.contracted_foldlM_iff.mp hloop extracted member hreach)
  · rintro h ⟨named, root⟩ hnamed
    refine Reading.Contracted.bind ?_ fun _ _ => Reading.contracted_pure _
    exact Reading.contracted_foldlM_iff.mpr fun extracted member hreach =>
      contracted_extract_iff.mpr (h named root hnamed extracted member hreach)

/-! ## The manifest -/

section Manifest

variable {libraries : Libraries} {payloads : Dict String Bytes}

/-- The manifest is JSON, or `json.loads` says that it is not. -/
def ManifestParses (libraries : Libraries) (payloads : Dict String Bytes) : Prop :=
  ∀ payload text exn, payloads.get? MANIFEST_NAME = some payload →
    decodeUtf8Sig payload = some text →
    libraries.loads text ≠ .raised exn

theorem contracted_manifestValue_iff :
    Contracted (manifestValue libraries payloads) ↔ ManifestParses libraries payloads := by
  unfold manifestValue ManifestParses
  cases payloads.get? MANIFEST_NAME with
  | none => exact ⟨fun _ _ _ _ h => (by cases h), fun _ => Reading.contracted_refuse _⟩
  | some payload =>
    dsimp only
    cases htext : decodeUtf8Sig payload with
    | none =>
      refine ⟨fun _ payload' text exn h hdecode => ?_, fun _ => Reading.contracted_refuse _⟩
      cases h
      rw [htext] at hdecode
      cases hdecode
    | some text =>
      dsimp only [Option.map]
      cases hloads : libraries.loads text with
      | value value =>
        refine ⟨fun _ payload' text' exn h hdecode heq => ?_, fun _ => Reading.contracted_ok _⟩
        cases h
        rw [htext] at hdecode
        cases hdecode
        rw [hloads] at heq
        cases heq
      | raised exn =>
        refine ⟨fun h => absurd h (Reading.not_contracted_escape _), fun h =>
          absurd hloads (h payload text exn rfl htext)⟩
      | _ =>
        refine ⟨fun _ payload' text' exn h hdecode heq => ?_, fun _ => Reading.contracted_refuse _⟩
        cases h
        rw [htext] at hdecode
        cases hdecode
        rw [hloads] at heq
        cases heq

def IsObject (value : JsonValue) : Prop := ∃ fields, value = .dict fields

theorem contracted_manifestFields_iff {value : JsonValue} : Contracted (manifestFields value) ↔
    IsObject value := by
  unfold manifestFields IsObject
  split
  · rename_i fields
    exact ⟨fun _ => ⟨fields, rfl⟩, fun _ => Reading.contracted_ok _⟩
  · rename_i hnot
    exact ⟨fun h => absurd h (Reading.not_contracted_escape _), fun ⟨fields, h⟩ =>
      absurd h (hnot fields)⟩

theorem contracted_manifestDate (fields : JsonDict) (key : String) :
    Contracted (manifestDate libraries fields key) := by
  unfold manifestDate
  dsimp only
  split
  · exact Reading.contracted_refuse _
  · split
    · exact Reading.contracted_ok _
    · exact Reading.contracted_refuse _

theorem contracted_manifestHead (fields : JsonDict) :
    Contracted (manifestHead libraries fields) := by
  refine (Reading.contracted_require _ _).bind fun _ _ => ?_
  refine (Reading.contracted_require _ _).bind fun _ _ => ?_
  refine (Reading.contracted_require _ _).bind fun _ _ => ?_
  refine (Reading.contracted_require _ _).bind fun _ _ => ?_
  refine (contracted_manifestDate fields _).bind fun _ _ => ?_
  refine (contracted_manifestDate fields _).bind fun _ _ => ?_
  refine (contracted_manifestDate fields _).bind fun _ _ => ?_
  exact (Reading.contracted_require _ _).bind fun _ _ => contracted_require_pure _ _ _

theorem contracted_fileEntries (fields : JsonDict) : Contracted (fileEntries fields) := by
  unfold fileEntries
  split
  · exact Reading.contracted_ok _
  · exact Reading.contracted_refuse _

/-- A text, or a value that counts as none. -/
def TextOrNothing (value : JsonValue) : Prop := value.truthy = true → ∃ s, value = .str s

theorem contracted_jsonText_iff {value : JsonValue} : Contracted (jsonText value) ↔
    TextOrNothing value := by
  unfold jsonText TextOrNothing
  split
  · rename_i s
    exact ⟨fun _ _ => ⟨s, rfl⟩, fun _ => Reading.contracted_ok _⟩
  · rename_i hnot
    by_cases htruthy : value.truthy = true
    · rw [if_pos htruthy]
      refine ⟨fun h => absurd h (Reading.not_contracted_escape _), fun h => ?_⟩
      obtain ⟨s, hs⟩ := h htruthy
      exact absurd hs (hnot s)
    · rw [if_neg htruthy]
      exact ⟨fun _ h => absurd h htruthy, fun _ => Reading.contracted_ok _⟩

/-- The field of an entry, where the entry is an object. -/
def FieldReads (key : String) (entry : JsonValue) : Prop :=
  ∀ fields : JsonDict, entry = .dict fields → TextOrNothing (fields.getD key .null)

theorem contracted_listFile_iff {listed : Listed} {entry : JsonValue} :
    Contracted (listFile listed entry) ↔ FieldReads "path" entry := by
  unfold listFile entryFields FieldReads
  split
  · rename_i fields
    show Contracted (jsonText _ >>= _) ↔ _
    rw [Reading.contracted_bind_of_forall fun path =>
      contracted_require_pure _ _ _, contracted_jsonText_iff]
    refine ⟨fun h fields' heq => ?_, fun h => h fields rfl⟩
    cases heq
    exact h
  · rename_i hnot
    exact ⟨fun _ fields heq => absurd heq (hnot fields), fun _ => (Reading.contracted_refuse _).bind
      fun _ h => by cases h⟩

/-- The manifest of the members: JSON, an object, with texts for the paths of the files that are
reached. -/
structure ManifestReads (libraries : Libraries) (payloads : Dict String Bytes) : Prop where
  parses : ManifestParses libraries payloads
  object : ∀ raw, manifestValue libraries payloads = .ok raw → IsObject raw
  paths : ∀ fields manifest entries, manifestValue libraries payloads = .ok (.dict fields) →
    manifestHead libraries fields = .ok manifest → fileEntries fields = .ok entries →
    ∀ listed entry, Reaches listFile entries [] listed entry → FieldReads "path" entry

theorem contracted_loadManifest_iff :
    Contracted (loadManifest libraries payloads) ↔ ManifestReads libraries payloads := by
  unfold loadManifest
  rw [Reading.contracted_bind_iff, contracted_manifestValue_iff]
  constructor
  · rintro ⟨hparses, hrest⟩
    refine ⟨hparses, fun raw hraw =>
      ?_, fun fields manifest entries hraw hhead hentries listed entry hreach => ?_⟩
    · exact contracted_manifestFields_iff.mp (Reading.contracted_bind_iff.mp (hrest raw hraw)).1
    · have hbody := (Reading.contracted_bind_iff.mp (hrest _ hraw)).2 fields rfl
      have hloop :=
        (Reading.contracted_bind_iff.mp
          ((Reading.contracted_bind_iff.mp hbody).2 manifest hhead)).2 entries
        hentries
      rw [Reading.contracted_bind_of_forall fun _ => Reading.contracted_pure _] at hloop
      exact contracted_listFile_iff.mp (Reading.contracted_foldlM_iff.mp hloop listed entry hreach)
  · intro h
    refine ⟨h.parses, fun raw hraw =>
      (contracted_manifestFields_iff.mpr (h.object raw hraw)).bind fun fields hfields => ?_⟩
    refine (contracted_manifestHead fields).bind fun manifest hhead => ?_
    refine (contracted_fileEntries fields).bind fun entries hentries => ?_
    refine Reading.Contracted.bind ?_ fun _ _ => Reading.contracted_pure _
    obtain ⟨fields', rfl⟩ := h.object raw hraw
    cases hfields
    exact Reading.contracted_foldlM_iff.mpr fun listed entry hreach =>
      contracted_listFile_iff.mpr
        (h.paths _ manifest entries hraw hhead hentries listed entry hreach)

/-- The check sums that are reached are texts. -/
def ChecksumsRead (libraries : Libraries) (payloads : Dict String Bytes) (listed : Listed) : Prop :=
  ∀ entry, Reaches (verifyFile libraries payloads) listed () () entry →
    ∀ payload, payloads.get? entry.1 = some payload →
    hasSize payload (entry.2.getD "size_bytes" .null) = true →
      TextOrNothing (entry.2.getD "sha256" .null)

theorem contracted_listedPayload (path : String) : Contracted (listedPayload payloads path) := by
  unfold listedPayload
  split
  · exact Reading.contracted_refuse _
  · exact Reading.contracted_ok _

theorem listedPayload_eq_ok_iff {path : String} {payload : Bytes} :
    listedPayload payloads path = .ok payload ↔ payloads.get? path = some payload := by
  unfold listedPayload
  cases payloads.get? path with
  | none => exact ⟨fun h => (by cases h), fun h => by cases h⟩
  | some found => exact ⟨fun h => by cases h; rfl, fun h => by cases h; rfl⟩

theorem contracted_verifyFile_iff {entry : String × JsonDict} :
    Contracted (verifyFile libraries payloads () entry) ↔
      ∀ payload, payloads.get? entry.1 = some payload →
      hasSize payload (entry.2.getD "size_bytes" .null) = true →
        TextOrNothing (entry.2.getD "sha256" .null) := by
  unfold verifyFile
  rw [Reading.contracted_bind_of_contracted (contracted_listedPayload entry.1)]
  refine forall_congr' fun payload => ?_
  rw [listedPayload_eq_ok_iff, Reading.contracted_bind_of_contracted
    (Reading.contracted_require _ _)]
  rw [Reading.contracted_bind_of_forall fun _ =>
    Reading.contracted_require _ _, contracted_jsonText_iff]
  simp only [Reading.require_eq_ok_iff]
  exact ⟨fun h hget hsize => h hget () hsize, fun h hget _ hsize => h hget hsize⟩

theorem contracted_verifyPresence (listed : Listed) (version : String) :
    Contracted (verifyPresence payloads listed version) := by
  refine (Reading.contracted_require _ _).bind fun _ _ => ?_
  split
  · exact Reading.contracted_pure _
  · exact Reading.contracted_refuse _

theorem contracted_verifyManifest_iff {listed : Listed} {version : String} :
    Contracted (verifyManifest libraries payloads listed version) ↔
    ChecksumsRead libraries payloads listed := by
  unfold verifyManifest ChecksumsRead
  rw [Reading.contracted_bind_of_forall fun _ => contracted_verifyPresence listed version]
  rw [Reading.contracted_foldlM_iff]
  exact ⟨fun h entry hreach => contracted_verifyFile_iff.mp (h () entry hreach),
    fun h _ entry hreach => contracted_verifyFile_iff.mpr (h entry hreach)⟩

end Manifest

/-! ## The tables -/

theorem contracted_choice {α : Type} (found : Option α) (message : String) :
    Contracted (choice found message) := by
  cases found with
  | none => exact Reading.contracted_refuse message
  | some a => exact Reading.contracted_ok a

section Tables

variable {libraries : Libraries} {manifest : LoadedManifest}

theorem contracted_productHead (rows : List ProductRow) (row : TableRow) (productId : Nat) :
    Contracted (productHead libraries manifest rows row productId) := by
  refine (Reading.contracted_require _ _).bind fun _ _ => ?_
  refine contracted_requiredText.bind fun _ _ => ?_
  refine (contracted_choice _ _).bind fun _ _ => ?_
  refine contracted_requiredDate.bind fun _ _ => ?_
  refine (Reading.contracted_require _ _).bind fun _ _ => ?_
  refine contracted_optionalDecimal.bind fun listPrice _ => ?_
  refine contracted_optionalDecimal.bind fun memberPrice _ => ?_
  refine (contracted_checkedPrice listPrice).bind fun _ _ => ?_
  refine (contracted_checkedPrice memberPrice).bind fun _ _ => ?_
  exact contracted_requiredText.bind fun _ _ => Reading.contracted_pure _

theorem contracted_productFlags (row : TableRow) : Contracted (productFlags libraries row) := by
  refine contracted_optionalBool.bind fun _ _ => ?_
  refine contracted_optionalBool.bind fun _ _ => ?_
  exact contracted_optionalBool.bind fun _ _ => Reading.contracted_pure _

theorem contracted_factDay (row : TableRow) : Contracted (factDay manifest row) := by
  refine contracted_requiredText.bind fun _ _ => ?_
  refine (Reading.contracted_require _ _).bind fun _ _ => ?_
  refine contracted_requiredDate.bind fun _ _ => ?_
  exact (Reading.contracted_require _ _).bind fun _ _ => contracted_require_pure _ _ _

theorem contracted_factClass (rows : List DailyFactRow) (row : TableRow) (reportDate : Date)
    (productId : Nat) :
    Contracted (factClass libraries rows row reportDate productId) := by
  refine contracted_requiredText.bind fun _ _ => ?_
  refine (contracted_choice _ _).bind fun _ _ => ?_
  refine contracted_requiredText.bind fun _ _ => ?_
  refine (contracted_choice _ _).bind fun _ _ => ?_
  refine contracted_requiredText.bind fun _ _ => ?_
  exact (Reading.contracted_require _ _).bind fun _ _ => contracted_require_pure _ _ _

theorem contracted_factSplit (row : TableRow) (reportDate : Date) (productId : Nat)
    (units : SignedDecimal) :
    Contracted (factSplit libraries manifest row reportDate productId units) := by
  unfold factSplit
  split
  · refine contracted_figure.bind fun _ _ => ?_
    exact contracted_figure.bind fun _ _ => contracted_require_pure _ _ _
  · exact Reading.contracted_ok _

theorem contracted_factRow (rows : List DailyFactRow) (row : TableRow) (reportDate : Date)
    (productId : Nat) (fact : FactClass)
    (orderCount : Int) :
    Contracted (factRow libraries manifest rows row reportDate productId fact orderCount) := by
  refine (Reading.contracted_require _ _).bind fun _ _ => ?_
  refine contracted_figure.bind fun units _ => ?_
  refine (contracted_factSplit row reportDate productId units).bind fun _ _ => ?_
  exact contracted_figure.bind fun _ _ => Reading.contracted_pure _

theorem contracted_summaryType (value : String) : Contracted (summaryType value) := by
  unfold summaryType choice
  split
  · exact Reading.contracted_ok _
  · cases typeOf? value with
    | none => exact Reading.contracted_refuse _
    | some productType => exact Reading.contracted_ok _

theorem contracted_orderKey (rows : List DailyOrderRow) (row : TableRow) :
    Contracted (orderKey manifest rows row) := by
  refine contracted_requiredDate.bind fun _ _ => ?_
  refine (Reading.contracted_require _ _).bind fun _ _ => ?_
  refine (contracted_summaryType _).bind fun _ _ => ?_
  exact contracted_require_pure _ _ _

theorem contracted_checkDay (rows : List DailyOrderRow) (u : Unit) (reportDate : Date) :
    Contracted (checkDay rows u reportDate) := by
  unfold checkDay
  dsimp only
  split
  · exact Reading.contracted_refuse _
  · exact Reading.contracted_require _ _

theorem contracted_pageAddress (row : TableRow) : Contracted (pageAddress row) := by
  refine contracted_requiredText.bind fun _ _ => ?_
  refine (contracted_choice _ _).bind fun _ _ => ?_
  exact contracted_requiredText.bind fun _ _ => Reading.contracted_pure _

theorem contracted_pageRow (rows : List ProductPathRow) (row : TableRow) (productId : Nat)
    (address : PageRole × String)
    (path : String) : Contracted (pageRow libraries manifest rows row productId address path) := by
  refine (Reading.contracted_require _ _).bind fun _ _ => ?_
  refine (Reading.contracted_require _ _).bind fun _ _ => ?_
  refine contracted_requiredDate.bind fun _ _ => ?_
  exact contracted_require_pure _ _ _

/-- `urlsplit` takes the address. -/
def AddressReads (libraries : Libraries) (supplied : String) : Prop :=
  (canonicalPath libraries.netlocCheck supplied.toList).isSome = true

theorem contracted_canonical_iff {supplied : String} :
    Contracted (canonical libraries supplied) ↔ AddressReads libraries supplied := by
  unfold canonical AddressReads
  cases canonicalPath libraries.netlocCheck supplied.toList with
  | none => exact ⟨fun h => absurd h (Reading.not_contracted_escape _), fun h => by cases h⟩
  | some path => exact ⟨fun _ => rfl, fun _ => Reading.contracted_ok _⟩

/-! ### Rows -/

/-- The numbers of a product, each where the row is read that far. -/
structure ProductReads (libraries : Libraries) (manifest : LoadedManifest) (rows : List ProductRow)
    (row : TableRow) :
    Prop where
  id : ReadsAsInt libraries.tables (row.cell "source_product_id")
  category : ∀ productId head, positiveId libraries.tables
      (row.cell "source_product_id") "source_product_id" =
      .ok productId → productHead libraries manifest rows row productId = .ok head →
    ReadsAsInt libraries.tables (row.cell "category_term_id")
  node : ∀ productId head category flags,
      positiveId libraries.tables (row.cell "source_product_id") "source_product_id" =
        .ok productId →
      productHead libraries manifest rows row productId = .ok head →
      optionalInt libraries.tables (row.cell "category_term_id") "category_term_id" = .ok category →
      productFlags libraries row = .ok flags →
    ReadsAsInt libraries.tables (row.cell "connected_event_node_id")

theorem contracted_productStep_iff {rows : List ProductRow} {row : TableRow} :
    Contracted (productStep libraries manifest rows row) ↔
    ProductReads libraries manifest rows row := by
  unfold productStep
  rw [Reading.contracted_bind_iff, contracted_positiveId_iff]
  constructor
  · rintro ⟨hid, hrest⟩
    have hcategory := fun productId head hproduct hhead =>
      Reading.contracted_bind_iff.mp
        ((Reading.contracted_bind_iff.mp (hrest productId hproduct)).2 head hhead)
    refine ⟨hid, fun productId head hproduct hhead =>
      ?_, fun productId head category flags hproduct hhead hcat hflags => ?_⟩
    · exact contracted_optionalInt_iff.mp (hcategory productId head hproduct hhead).1
    · have hnode :=
        (Reading.contracted_bind_iff.mp
          ((hcategory productId head hproduct hhead).2 category hcat)).2 flags
        hflags
      exact contracted_optionalInt_iff.mp (Reading.contracted_bind_iff.mp hnode).1
  · intro h
    refine ⟨h.id, fun productId hproduct => ?_⟩
    refine (contracted_productHead rows row productId).bind fun head hhead => ?_
    refine (contracted_optionalInt_iff.mpr (h.category productId head hproduct hhead)).bind
      fun category hcat => ?_
    refine (contracted_productFlags row).bind fun flags hflags => ?_
    exact (contracted_optionalInt_iff.mpr
      (h.node productId head category flags hproduct hhead hcat hflags)).bind
      fun _ _ => Reading.contracted_pure _

structure FactReads (libraries : Libraries) (manifest : LoadedManifest) (rows : List DailyFactRow)
    (row : TableRow) :
    Prop where
  id : ∀ reportDate, factDay manifest row = .ok reportDate →
    ReadsAsInt libraries.tables (row.cell "source_product_id")
  count : ∀ reportDate productId fact, factDay manifest row = .ok reportDate →
      positiveId libraries.tables (row.cell "source_product_id") "source_product_id" =
        .ok productId →
      factClass libraries rows row reportDate productId = .ok fact →
    ReadsAsInt libraries.tables (row.cell "order_count")

theorem contracted_factStep_iff {rows : List DailyFactRow} {row : TableRow} :
    Contracted (factStep libraries manifest rows row) ↔ FactReads libraries manifest rows row := by
  unfold factStep
  rw [Reading.contracted_bind_of_contracted (contracted_factDay row)]
  constructor
  · intro h
    have hid := fun reportDate hday => Reading.contracted_bind_iff.mp (h reportDate hday)
    refine ⟨fun reportDate hday => contracted_positiveId_iff.mp (hid reportDate hday).1,
      fun reportDate productId fact hday hproduct hfact => ?_⟩
    have hcount :=
      (Reading.contracted_bind_iff.mp ((hid reportDate hday).2 productId hproduct)).2 fact hfact
    exact contracted_requiredInt_iff.mp (Reading.contracted_bind_iff.mp hcount).1
  · intro h reportDate hday
    refine (contracted_positiveId_iff.mpr (h.id reportDate hday)).bind fun productId hproduct => ?_
    refine (contracted_factClass rows row reportDate productId).bind fun fact hfact => ?_
    refine (contracted_requiredInt_iff.mpr
      (h.count reportDate productId fact hday hproduct hfact)).bind fun count _ => ?_
    exact contracted_factRow rows row reportDate productId fact count

def OrderReads (libraries : Libraries) (manifest : LoadedManifest) (rows : List DailyOrderRow)
    (row : TableRow) : Prop :=
  ∀ key, orderKey manifest rows row = .ok key →
    ReadsAsInt libraries.tables (row.cell "distinct_order_count")

theorem contracted_orderStep_iff {rows : List DailyOrderRow} {row : TableRow} :
    Contracted (orderStep libraries manifest rows row) ↔
    OrderReads libraries manifest rows row := by
  unfold orderStep OrderReads
  rw [Reading.contracted_bind_of_contracted (contracted_orderKey rows row)]
  refine forall_congr' fun key => forall_congr' fun _ => ?_
  rw [Reading.contracted_bind_of_forall fun _ =>
    contracted_require_pure _ _ _, contracted_requiredInt_iff]

structure PageReads (libraries : Libraries) (row : TableRow) : Prop where
  id : ReadsAsInt libraries.tables (row.cell "source_product_id")
  address : ∀ productId address,
      positiveId libraries.tables (row.cell "source_product_id") "source_product_id" =
        .ok productId →
      pageAddress row = .ok address →
    AddressReads libraries address.2

theorem contracted_pageStep_iff {rows : List ProductPathRow} {row : TableRow} :
    Contracted (pageStep libraries manifest rows row) ↔ PageReads libraries row := by
  unfold pageStep
  rw [Reading.contracted_bind_iff, contracted_positiveId_iff]
  constructor
  · rintro ⟨hid, hrest⟩
    refine ⟨hid, fun productId address hproduct haddress => ?_⟩
    have hpath := (Reading.contracted_bind_iff.mp (hrest productId hproduct)).2 address haddress
    exact contracted_canonical_iff.mp (Reading.contracted_bind_iff.mp hpath).1
  · intro h
    refine ⟨h.id, fun productId hproduct =>
      (contracted_pageAddress row).bind fun address haddress => ?_⟩
    refine (contracted_canonical_iff.mpr (h.address productId address hproduct haddress)).bind
      fun path _ => ?_
    exact contracted_pageRow rows row productId address path

end Tables

/-! ### Whole tables -/

section TableReads

variable {libraries : Libraries} {payload : Bytes} {name : String} {header : List String}

/-- `csv` raises neither at the header nor behind rows that all went through, and each row that is
reached reads. -/
structure TableReads {σ : Type} (libraries : Libraries) (payload : Bytes) (name : String)
    (header : List String) (step : σ → TableRow → Reading σ) (start : σ)
    (RowReads : σ → TableRow → Prop) : Prop where
  opens : ∀ content, decodeUtf8Sig payload = some content → (libraries.csv content).raises = true →
    (libraries.csv content).rows ≠ []
  rows : ∀ stream, tableStream libraries payload name header = .ok stream →
    ∀ state row, Reaches step (dataRows header stream) start state row → RowReads state row
  stop : ∀ stream stop, tableStream libraries payload name header = .ok stream →
    (dataRows header stream).foldlM step start = .ok stop → stream.raises = false

theorem contracted_tableStream_iff : Contracted (tableStream libraries payload name header) ↔
    ∀ content, decodeUtf8Sig payload = some content → (libraries.csv content).raises = true →
      (libraries.csv content).rows ≠ [] := by
  unfold tableStream
  cases decodeUtf8Sig payload with
  | none => exact ⟨fun _ _ h => (by cases h), fun _ => Reading.contracted_refuse _⟩
  | some content =>
    dsimp only
    by_cases hraises : (libraries.csv content).rows = [] ∧ (libraries.csv content).raises = true
    · rw [if_pos hraises]
      exact ⟨fun h => absurd h (Reading.not_contracted_escape _), fun h =>
        absurd hraises.1 (h content rfl hraises.2)⟩
    · rw [if_neg hraises]
      refine ⟨fun _ content' heq hstop hempty => ?_, fun _ => ?_⟩
      · cases heq
        exact hraises ⟨hempty, hstop⟩
      · split
        · exact Reading.contracted_ok _
        · split
          · exact Reading.contracted_refuse _
          · exact Reading.contracted_refuse _

theorem contracted_forRows_iff {σ : Type} {step : σ → TableRow → Reading σ} {stream : CsvStream}
    {start : σ} :
    Contracted (forRows step header stream start) ↔
      (∀ state row, Reaches step (dataRows header stream) start state row →
        Contracted (step state row)) ∧
      ∀ stop, (dataRows header stream).foldlM step start = .ok stop → stream.raises = false := by
  unfold forRows
  rw [Reading.contracted_bind_iff, Reading.contracted_foldlM_iff]
  refine and_congr_right fun _ => forall_congr' fun stop => imp_congr_right fun _ => ?_
  cases stream.raises with
  | true => exact ⟨fun h => absurd h (Reading.not_contracted_escape _), fun h => by cases h⟩
  | false => exact ⟨fun _ => rfl, fun _ => Reading.contracted_ok stop⟩

/-- A table is read row by row; what follows the rows cannot let anything escape. -/
theorem contracted_table_iff {σ β : Type} {step : σ → TableRow → Reading σ} {start : σ}
    {RowReads : σ → TableRow → Prop}
    (hrow : ∀ state row, Contracted (step state row) ↔ RowReads state row) {finish : σ → Reading β}
    (hfinish : ∀ stop, Contracted (finish stop)) :
    Contracted (do
      let stream ← tableStream libraries payload name header
      let stop ← forRows step header stream start
      finish stop) ↔ TableReads libraries payload name header step start RowReads := by
  rw [Reading.contracted_bind_iff, contracted_tableStream_iff]
  constructor
  · rintro ⟨hopens, hrest⟩
    have hrows := fun stream hstream =>
      contracted_forRows_iff.mp (Reading.contracted_bind_iff.mp (hrest stream hstream)).1
    exact ⟨hopens, fun stream hstream state row hreach =>
      (hrow state row).mp ((hrows stream hstream).1 state row hreach),
      fun stream stop hstream hstop => (hrows stream hstream).2 stop hstop⟩
  · intro h
    refine ⟨h.opens, fun stream hstream => Reading.Contracted.bind ?_ fun stop _ => hfinish stop⟩
    exact contracted_forRows_iff.mpr
      ⟨fun state row hreach => (hrow state row).mpr (h.rows stream hstream state row hreach),
      fun stop hstop => h.stop stream stop hstream hstop⟩

end TableReads

/-! ## The package -/

section Package

variable {libraries : Libraries} {limits : PackageLimits} {manifest : LoadedManifest}
  {payload : Bytes}

theorem contracted_parseProducts_iff : Contracted (parseProducts libraries manifest payload) ↔
    TableReads libraries payload PRODUCTS_NAME PRODUCTS_HEADER (productStep libraries manifest) []
      (ProductReads libraries manifest) :=
  contracted_table_iff (fun _ _ => contracted_productStep_iff) fun _ =>
    contracted_require_pure _ _ _

theorem contracted_parseDailyFacts_iff : Contracted (parseDailyFacts libraries manifest payload) ↔
    TableReads libraries payload DAILY_FACTS_NAME (factsHeader manifest)
      (factStep libraries manifest) []
      (FactReads libraries manifest) := by
  rw [← contracted_table_iff (fun _ _ => contracted_factStep_iff) fun rows =>
    Reading.contracted_pure rows]
  simp only [bind_pure]
  rfl

theorem contracted_parseDailyOrders_iff : Contracted (parseDailyOrders libraries manifest payload) ↔
    TableReads libraries payload DAILY_ORDERS_NAME DAILY_ORDERS_HEADER_V2
      (orderStep libraries manifest) []
      (OrderReads libraries manifest) := by
  refine contracted_table_iff (fun _ _ => contracted_orderStep_iff) fun rows => ?_
  exact (Reading.contracted_foldlM (contracted_checkDay rows) _ _).bind fun _ _ =>
    Reading.contracted_pure rows

theorem contracted_parseProductPaths_iff :
    Contracted (parseProductPaths libraries manifest payload) ↔
    TableReads libraries payload PRODUCT_PATHS_NAME PRODUCT_PATHS_HEADER
      (pageStep libraries manifest) []
      (fun _ => PageReads libraries) := by
  rw [← contracted_table_iff (fun _ _ => contracted_pageStep_iff) fun rows =>
    Reading.contracted_pure rows]
  simp only [bind_pure]
  rfl

/-- The tables, each where those before it went through. -/
structure TablesRead (libraries : Libraries) (payloads : Dict String Bytes)
    (manifest : LoadedManifest) : Prop where
  products : TableReads libraries (payloadOf payloads PRODUCTS_NAME) PRODUCTS_NAME PRODUCTS_HEADER
    (productStep libraries manifest) [] (ProductReads libraries manifest)
  facts : ∀ products, parseProducts libraries manifest (payloadOf payloads PRODUCTS_NAME) =
    .ok products →
    TableReads libraries (payloadOf payloads DAILY_FACTS_NAME) DAILY_FACTS_NAME
      (factsHeader manifest)
      (factStep libraries manifest) [] (FactReads libraries manifest)
  pages : ∀ products facts, parseProducts libraries manifest (payloadOf payloads PRODUCTS_NAME) =
    .ok products →
    parseDailyFacts libraries manifest (payloadOf payloads DAILY_FACTS_NAME) = .ok facts →
    TableReads libraries (payloadOf payloads PRODUCT_PATHS_NAME) PRODUCT_PATHS_NAME
      PRODUCT_PATHS_HEADER
      (pageStep libraries manifest) [] fun _ => PageReads libraries
  orders : ∀ products facts pages payload,
    parseProducts libraries manifest (payloadOf payloads PRODUCTS_NAME) = .ok products →
    parseDailyFacts libraries manifest (payloadOf payloads DAILY_FACTS_NAME) = .ok facts →
    parseProductPaths libraries manifest (payloadOf payloads PRODUCT_PATHS_NAME) = .ok pages →
    payloads.get? DAILY_ORDERS_NAME = some payload →
    TableReads libraries payload DAILY_ORDERS_NAME DAILY_ORDERS_HEADER_V2
      (orderStep libraries manifest) []
      (OrderReads libraries manifest)

theorem contracted_optionalOrders_iff {payloads : Dict String Bytes} :
    Contracted (optionalOrders libraries manifest payloads) ↔
      ∀ payload, payloads.get? DAILY_ORDERS_NAME = some payload →
        TableReads libraries payload DAILY_ORDERS_NAME DAILY_ORDERS_HEADER_V2
          (orderStep libraries manifest) []
          (OrderReads libraries manifest) := by
  unfold optionalOrders
  cases payloads.get? DAILY_ORDERS_NAME with
  | none => exact ⟨fun _ _ h => (by cases h), fun _ => Reading.contracted_ok _⟩
  | some payload =>
    refine contracted_parseDailyOrders_iff.trans ⟨fun h payload' heq => ?_, fun h => h payload rfl⟩
    cases heq
    exact h

theorem contracted_readTables_iff {file : Bytes} {payloads : Dict String Bytes} :
    Contracted (readTables libraries file payloads manifest) ↔
    TablesRead libraries payloads manifest := by
  unfold readTables
  rw [Reading.contracted_bind_iff, contracted_parseProducts_iff]
  constructor
  · rintro ⟨hproducts, hrest⟩
    have hfacts := fun products hp => Reading.contracted_bind_iff.mp (hrest products hp)
    have hpages := fun products facts hp hf =>
      Reading.contracted_bind_iff.mp ((hfacts products hp).2 facts hf)
    have horders := fun products facts pages hp hf hg =>
      Reading.contracted_bind_iff.mp ((hpages products facts hp hf).2 pages hg)
    exact ⟨hproducts, fun products hp => contracted_parseDailyFacts_iff.mp (hfacts products hp).1,
      fun products facts hp hf => contracted_parseProductPaths_iff.mp
        (hpages products facts hp hf).1,
      fun products facts pages payload hp hf hg =>
        contracted_optionalOrders_iff.mp (horders products facts pages hp hf hg).1 payload⟩
  · intro h
    refine ⟨h.products, fun products hp => ?_⟩
    refine (contracted_parseDailyFacts_iff.mpr (h.facts products hp)).bind fun facts hf => ?_
    refine (contracted_parseProductPaths_iff.mpr (h.pages products facts hp hf)).bind
      fun pages hg => ?_
    refine (contracted_optionalOrders_iff.mpr fun payload =>
      h.orders products facts pages payload hp hf hg).bind
      fun _ _ => Reading.contracted_pure _

theorem contracted_checkReferences (package : ParsedPackage) :
    Contracted (checkReferences package) := by
  have hknown : ∀ known message (u : Unit) productId,
      Contracted (checkKnown known message u productId) :=
    fun known message u productId => Reading.contracted_require _ _
  have hrole : ∀ roles page, Contracted (checkRole roles page) :=
    fun roles page => contracted_require_pure _ _ _
  refine (Reading.contracted_foldlM (hknown _ _) _ _).bind fun _ _ => ?_
  refine (Reading.contracted_foldlM (hknown _ _) _ _).bind fun _ _ => ?_
  exact (Reading.contracted_foldlM hrole _ _).bind fun _ _ => Reading.contracted_pure ()

theorem contracted_checkFile (file : Bytes) : Contracted (checkFile libraries limits file) := by
  refine (Reading.contracted_require _ _).bind fun _ _ => ?_
  exact (Reading.contracted_require _ _).bind fun _ _ => Reading.contracted_require _ _

def opened (libraries : Libraries) (limits : PackageLimits) (file : Bytes) :
    Reading (List ZipInfo) := do
  checkFile libraries limits file
  zipRead (libraries.infolist file)

/-- Everything the reader reaches is of the kind it takes for granted: `zipfile` raises nothing but
`BadZipFile`, the manifest is a JSON object with texts for its paths and check sums, `csv` reads
each table, a number that passes the digit test is one to `int`, and `urlsplit` takes each
address. -/
structure ReadsByContract (libraries : Libraries) (limits : PackageLimits)
    (file : Bytes) : Prop where
  archive : checkFile libraries limits file = .ok () → ∀ exn, libraries.infolist file = .error exn →
    exn = .badZipFile
  members : ∀ infos, opened libraries limits file = .ok infos → MembersRead limits infos
  manifest : ∀ infos payloads, opened libraries limits file = .ok infos →
    readMembers limits infos = .ok payloads →
    ManifestReads libraries payloads
  checksums : ∀ infos payloads manifest listed, opened libraries limits file = .ok infos →
    readMembers limits infos = .ok payloads →
    loadManifest libraries payloads = .ok (manifest, listed) →
    ChecksumsRead libraries payloads listed
  tables : ∀ infos payloads manifest listed, opened libraries limits file = .ok infos →
    readMembers limits infos = .ok payloads →
    loadManifest libraries payloads = .ok (manifest, listed) →
    verifyManifest libraries payloads listed manifest.schemaVersion = .ok () →
    TablesRead libraries payloads manifest

theorem readPackage_eq (file : Bytes) : readPackage libraries limits file = (do
    let infos ← opened libraries limits file
    let payloads ← readMembers limits infos
    let (manifest, listed) ← loadManifest libraries payloads
    verifyManifest libraries payloads listed manifest.schemaVersion
    let parsed ← readTables libraries file payloads manifest
    checkReferences parsed
    return parsed) := by
  unfold readPackage opened
  rw [bind_assoc]

theorem contracted_opened_iff {file : Bytes} : Contracted (opened libraries limits file) ↔
    (checkFile libraries limits file = .ok () → ∀ exn, libraries.infolist file = .error exn →
      exn = .badZipFile) := by
  unfold opened
  rw [Reading.contracted_bind_of_contracted (contracted_checkFile file)]
  exact ⟨fun h hfile => contracted_zipRead_iff.mp (h () hfile), fun h _ hfile =>
    contracted_zipRead_iff.mpr (h hfile)⟩

/-- The package is read or refused by contract exactly where everything the reader reaches is of the
kind it takes for granted. -/
theorem readPackage_contracted_iff (libraries : Libraries) (limits : PackageLimits) (file : Bytes) :
    Contracted (readPackage libraries limits file) ↔ ReadsByContract libraries limits file := by
  rw [readPackage_eq, Reading.contracted_bind_iff, contracted_opened_iff]
  constructor
  · rintro ⟨harchive, hrest⟩
    have hmembers := fun infos ho => Reading.contracted_bind_iff.mp (hrest infos ho)
    have hmanifest := fun infos payloads ho hm =>
      Reading.contracted_bind_iff.mp ((hmembers infos ho).2 payloads hm)
    have hverify := fun infos payloads manifest listed ho hm hl =>
      Reading.contracted_bind_iff.mp ((hmanifest infos payloads ho hm).2 (manifest, listed) hl)
    refine ⟨harchive, fun infos ho => contracted_readMembers_iff.mp (hmembers infos ho).1,
      fun infos payloads ho hm => contracted_loadManifest_iff.mp (hmanifest infos payloads ho hm).1,
      fun infos payloads manifest listed ho hm hl =>
        contracted_verifyManifest_iff.mp (hverify infos payloads manifest listed ho hm hl).1,
      fun infos payloads manifest listed ho hm hl hv => ?_⟩
    exact contracted_readTables_iff.mp
      (Reading.contracted_bind_iff.mp ((hverify infos payloads manifest listed ho hm hl).2 () hv)).1
  · intro h
    refine ⟨h.archive, fun infos ho =>
      (contracted_readMembers_iff.mpr (h.members infos ho)).bind fun payloads hm => ?_⟩
    refine (contracted_loadManifest_iff.mpr (h.manifest infos payloads ho hm)).bind
      fun loaded hl => ?_
    obtain ⟨manifest, listed⟩ := loaded
    refine (contracted_verifyManifest_iff.mpr
      (h.checksums infos payloads manifest listed ho hm hl)).bind fun _ hv => ?_
    refine (contracted_readTables_iff.mpr
      (h.tables infos payloads manifest listed ho hm hl hv)).bind fun parsed _ => ?_
    exact (contracted_checkReferences parsed).bind fun _ _ => Reading.contracted_pure parsed

/-! ### A manifest that is a list -/

def sampleTables : TextTables where
  classes := asciiClasses
  isdigit := Char.isDigit
  upper s := String.ofList (s.toList.map Char.toUpper)
  repr s := "'" ++ s ++ "'"

def hostCheck : NetlocCheck where
  accepts _ := true
  plain _ _ := rfl

def utf8 (content : String) : Bytes := content.toUTF8.data.toList

def littleEndian (width n : Nat) : Bytes := (List.range width).map fun i =>
    UInt8.ofNat (n / 256 ^ i)

/-- A text that is stored in an archive without compression. -/
structure StoredMember where
  name : String
  crc : Bytes
  content : String

def StoredMember.info (member : StoredMember) : ZipInfo :=
  ⟨member.name, 0x1800000, (utf8 member.content).length, (utf8 member.content).length,
    .ok (utf8 member.content)⟩

/-- What the two headers of a member share. -/
def StoredMember.fields (member : StoredMember) : Bytes :=
  [20, 0, 0, 0, 0, 0, 0, 0, 33, 0] ++ member.crc ++ littleEndian 4 (utf8 member.content).length ++
    littleEndian 4 (utf8 member.content).length ++ littleEndian 2
      (utf8 member.name).length ++ [0, 0]

def StoredMember.stored (member : StoredMember) : Bytes :=
  [80, 75, 3, 4] ++ member.fields ++ utf8 member.name ++ utf8 member.content

/-- The central directory, of members that are stored from the offset on. -/
def centralDirectory (offset : Nat) : List StoredMember → Bytes
  | [] => []
  | member :: rest => [80, 75, 1, 2, 20, 3] ++ member.fields ++ [0, 0, 0, 0, 0, 0, 0, 0, 128, 1] ++
      littleEndian 4 offset ++ utf8 member.name ++ centralDirectory
        (offset + member.stored.length) rest

def storedZip (members : List StoredMember) : Bytes :=
  let stored := members.flatMap StoredMember.stored
  let central := centralDirectory 0 members
  stored ++ central ++ [80, 75, 5, 6, 0, 0, 0, 0] ++ littleEndian 2 members.length ++ littleEndian 2
    members.length ++
    littleEndian 4 central.length ++ littleEndian 4 stored.length ++ [0, 0]

/-- An archive whose only member is `manifest.json`, and that is `[]`. -/
def listMembers : List StoredMember := [⟨"manifest.json", [41, 187, 76, 13], "[]"⟩]

def listLibraries : Libraries where
  isZipfile file := file = storedZip listMembers
  infolist file := if file = storedZip listMembers then .ok (listMembers.map StoredMember.info) else
    .error .badZipFile
  sha256 _ := "a496e0ef34a91dc6054aa069072bc82e12782f570888c783737d9914165cf215"
  loads content := if content = "[]" then .value (.list []) else .jsonDecodeError
  repr _ := "[]"
  csv _ := ⟨[], false⟩
  tables := sampleTables
  netlocCheck := hostCheck

/-- `raw.get` of a list raises `AttributeError`. -/
theorem listManifest_escapes :
    ¬ Contracted (readPackage listLibraries defaultLimits (storedZip listMembers)) := by
  decide +kernel

end Package

end Dashkoda.Shop.Package
