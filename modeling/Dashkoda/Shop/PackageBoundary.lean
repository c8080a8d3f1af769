import Dashkoda.Lib.Except
import Dashkoda.Shop.PackageContract

/-!
# The privacy boundary of the commerce package

What an accepted archive holds besides the agreed columns: nothing, unless a row is longer than its
header, two members have one name, the manifest lists a file that is no table, or a directory
carries bytes.
-/

open Lib

namespace Dashkoda.Shop.Package

open Core (JsonDict JsonValue)

/-! ## The members that are read -/

def fileName (info : ZipInfo) : Option String :=
  if isDirectory info.filename then none else some (joinedParts info.filename)

/-- A name without the root of the archive. -/
def relativeName (root name : String) : String := String.ofList (name.toList.drop root.length)

def memberName (root : String) (info : ZipInfo) : Option String :=
  (fileName info).map (relativeName root)

def bytesOf (info : ZipInfo) : Bytes := info.content.toOption.getD []

/-- The files of the archive by their normalised names. -/
def filesOf (infos : List ZipInfo) : List (String × ZipInfo) :=
  infos.filterMap fun info => (fileName info).map fun name => (name, info)

theorem map_fst_filesOf (infos : List ZipInfo) :
    (filesOf infos).map Prod.fst = infos.filterMap fileName := by
  unfold filesOf
  rw [List.map_filterMap]
  congr 1
  funext info
  cases fileName info with
  | none => rfl
  | some name => rfl

theorem mem_filesOf {infos : List ZipInfo} {name : String} {info : ZipInfo} :
    (name, info) ∈ filesOf infos ↔ info ∈ infos ∧ fileName info = some name := by
  unfold filesOf
  rw [List.mem_filterMap]
  constructor
  · rintro ⟨other, hother, heq⟩
    obtain ⟨found, hfound, hpair⟩ := Option.map_eq_some_iff.mp heq
    cases hpair
    exact ⟨hother, hfound⟩
  · intro ⟨hinfo, hname⟩
    exact ⟨info, hinfo, by rw [hname]; rfl⟩

theorem safeRelativeName_eq_ok {rawName : String} {name : Option String}
    (h : safeRelativeName rawName = .ok name) :
    name = if isDirectory rawName then none else some (joinedParts rawName) := by
  unfold safeRelativeName at h
  split at h
  · rename_i hdir
    cases h
    rw [if_pos hdir]
  · rename_i hdir
    split at h
    · cases h
    · cases h
      rw [if_neg hdir]

/-- A member that is admitted is kept under its name, over one of the same name. -/
def keep (named : Dict String ZipInfo) (info : ZipInfo) : Dict String ZipInfo :=
  match fileName info with
  | none => named
  | some name => named.set name info

theorem nameMember_eq_ok {limits : PackageLimits} {named named' : Dict String ZipInfo}
    {info : ZipInfo}
    (h : nameMember limits named info = .ok named') : named' = keep named info := by
  unfold nameMember at h
  obtain ⟨_, -, h⟩ := bind_eq_ok_iff.mp h
  obtain ⟨name, hname, h⟩ := bind_eq_ok_iff.mp h
  have hfile : fileName info = name := (safeRelativeName_eq_ok hname).symm
  unfold keep
  rw [hfile]
  cases name with
  | none =>
    cases h
    rfl
  | some name =>
    obtain ⟨_, -, h⟩ := bind_eq_ok_iff.mp h
    cases h
    rfl

theorem foldl_keep (infos : List ZipInfo) (named : Dict String ZipInfo) :
    infos.foldl keep named = (filesOf infos).foldl (fun d pair => d.set pair.1 pair.2) named := by
  induction infos generalizing named with
  | nil => rfl
  | cons info infos ih =>
    rw [List.foldl_cons, ih]
    unfold keep filesOf
    rw [List.filterMap_cons]
    cases fileName info with
    | none => rfl
    | some name => rfl

/-- The members the archive is read from. -/
theorem nameMembers_eq_ok {limits : PackageLimits} {infos : List ZipInfo}
    {named : Dict String ZipInfo} {root : String}
    (h : nameMembers limits infos = .ok (named, root)) : named = Dict.ofList (filesOf infos) := by
  unfold nameMembers at h
  obtain ⟨_, -, h⟩ := bind_eq_ok_iff.mp h
  obtain ⟨found, hfound, h⟩ := bind_eq_ok_iff.mp h
  obtain ⟨_, -, h⟩ := bind_eq_ok_iff.mp h
  obtain ⟨_, -, h⟩ := bind_eq_ok_iff.mp h
  cases h
  rw [Reading.foldlM_eq_foldl (fun _ _ _ => nameMember_eq_ok) hfound, foldl_keep]
  rfl

/-- One turn of the second loop, of a member that goes through. -/
def taken (root : String) (extracted : Extracted) (member : String × ZipInfo) : Extracted :=
  ⟨extracted.payloads.set (relativeName root member.1) (bytesOf member.2),
    extracted.total + (bytesOf member.2).length⟩

theorem extract_eq_ok {limits : PackageLimits} {root : String} {extracted extracted' : Extracted}
    {member : String × ZipInfo} (h : extract limits root extracted member = .ok extracted') :
    root.toList <+: member.1.toList ∧ extracted' = taken root extracted member := by
  unfold extract at h
  obtain ⟨_, hroot, h⟩ := bind_eq_ok_iff.mp h
  obtain ⟨payload, hpayload, h⟩ := bind_eq_ok_iff.mp h
  obtain ⟨_, -, h⟩ := bind_eq_ok_iff.mp h
  obtain ⟨_, -, h⟩ := bind_eq_ok_iff.mp h
  cases h
  refine ⟨Reading.require_eq_ok_iff.mp hroot, ?_⟩
  have hbytes : bytesOf member.2 = payload := by
    unfold bytesOf
    unfold zipRead at hpayload
    split at hpayload
    · rename_i content hcontent
      cases hpayload
      rw [hcontent]
      rfl
    · cases hpayload
    · cases hpayload
  unfold taken
  rw [hbytes]
  rfl

theorem relativeName_injective {root name name' : String} (hname : root.toList <+: name.toList)
    (hname' : root.toList <+: name'.toList) (h : relativeName root name = relativeName root name') :
      name = name' := by
  obtain ⟨rest, hrest⟩ := hname
  obtain ⟨rest', hrest'⟩ := hname'
  have hdrop : ∀ {name : String} {rest : List Char}, root.toList ++ rest = name.toList →
      (relativeName root name).toList = rest := by
    intro name rest heq
    unfold relativeName
    rw [String.toList_ofList, ← heq, ← String.length_toList, List.drop_left]
  have hsame : rest = rest' := by rw [← hdrop hrest, ← hdrop hrest', h]
  apply String.toList_inj.mp
  rw [← hrest, ← hrest', hsame]

theorem payloads_foldl_taken (root : String) (members : List (String × ZipInfo))
    (extracted : Extracted) :
    (members.foldl (taken root) extracted).payloads =
      (members.map fun member => (relativeName root member.1, bytesOf member.2)).foldl
        (fun d pair => d.set pair.1 pair.2) extracted.payloads := by
  induction members generalizing extracted with
  | nil => rfl
  | cons member members ih =>
    rw [List.foldl_cons, ih]
    rfl

/-- What the archive is read into: the bytes of each member under its name without the root. -/
theorem readMembers_eq_ok {limits : PackageLimits} {infos : List ZipInfo}
    {named : Dict String ZipInfo} {root : String} {payloads : Dict String Bytes}
    (hnamed : nameMembers limits infos = .ok (named, root))
    (h : readMembers limits infos = .ok payloads) :
    payloads.entries = named.entries.map fun member =>
      (relativeName root member.1, bytesOf member.2) := by
  unfold readMembers at h
  obtain ⟨found, hfound, h⟩ := bind_eq_ok_iff.mp h
  rw [hnamed] at hfound
  cases hfound
  obtain ⟨extracted, hextracted, h⟩ := bind_eq_ok_iff.mp h
  cases h
  have hroot : ∀ member ∈ named.entries, root.toList <+: member.1.toList := by
    intro member hmember
    obtain ⟨state, state', hstep⟩ := Reading.exists_step_of_mem hextracted hmember
    exact (extract_eq_ok hstep).1
  rw [Reading.foldlM_eq_foldl (fun _ _ _ hstep => (extract_eq_ok hstep).2) hextracted,
    payloads_foldl_taken]
  apply Dict.entries_ofList
  rw [List.map_map]
  apply List.Nodup.map_on _ (List.Nodup.of_map _ named.keys_nodup)
  intro member hmember member' hmember' heq
  have hfst : member.1 = member'.1 :=
    relativeName_injective (hroot member hmember) (hroot member' hmember') heq
  exact List.inj_on_of_nodup_map named.keys_nodup hmember hmember' hfst

section Members

variable {limits : PackageLimits} {infos : List ZipInfo} {named : Dict String ZipInfo}
  {root : String}
  {payloads : Dict String Bytes}

/-- Every file of the archive has its name among those that are read. -/
theorem mem_keys_of_memberName (hnamed : nameMembers limits infos = .ok (named, root))
    (hread : readMembers limits infos = .ok payloads) {info : ZipInfo} (hinfo : info ∈ infos)
    {name : String}
    (hname : memberName root info = some name) : name ∈ payloads.keys := by
  obtain ⟨whole, hwhole, rfl⟩ := Option.map_eq_some_iff.mp hname
  have hkey : whole ∈ named.keys := by
    rw [nameMembers_eq_ok hnamed, Dict.mem_keys_ofList, map_fst_filesOf]
    exact List.mem_filterMap.mpr ⟨info, hinfo, hwhole⟩
  obtain ⟨kept, hkept⟩ := Dict.mem_keys.mp hkey
  refine Dict.mem_keys.mpr ⟨bytesOf kept, ?_⟩
  rw [readMembers_eq_ok hnamed hread]
  exact List.mem_map.mpr ⟨(whole, kept), hkept, rfl⟩

/-- What is read under a name comes from a file of that name. -/
theorem exists_member_of_get? (hnamed : nameMembers limits infos = .ok (named, root))
    (hread : readMembers limits infos = .ok payloads) {name : String} {payload : Bytes}
    (hget : payloads.get? name = some payload) :
    ∃ info ∈ infos, memberName root info = some name ∧ bytesOf info = payload := by
  have hentry := Dict.get?_eq_some_iff.mp hget
  rw [readMembers_eq_ok hnamed hread] at hentry
  obtain ⟨⟨whole, info⟩, hmember, heq⟩ := List.mem_map.mp hentry
  cases heq
  rw [nameMembers_eq_ok hnamed] at hmember
  obtain ⟨hinfo, hwhole⟩ := mem_filesOf.mp (Dict.mem_of_mem_ofList hmember)
  exact ⟨info, hinfo, by unfold memberName; rw [hwhole]; rfl, rfl⟩

/-- Where no two files share a name, every file is the one that is read under its name. -/
theorem get?_of_memberName (hnamed : nameMembers limits infos = .ok (named, root))
    (hread : readMembers limits infos = .ok payloads) (hdistinct : (infos.filterMap fileName).Nodup)
    {info : ZipInfo} (hinfo : info ∈ infos) {name : String}
    (hname : memberName root info = some name) :
    payloads.get? name = some (bytesOf info) := by
  obtain ⟨whole, hwhole, rfl⟩ := Option.map_eq_some_iff.mp hname
  have hentry : (whole, info) ∈ named.entries := by
    rw [nameMembers_eq_ok hnamed, Dict.entries_ofList]
    · exact mem_filesOf.mpr ⟨hinfo, hwhole⟩
    · rw [map_fst_filesOf]
      exact hdistinct
  apply Dict.get?_eq_some_iff.mpr
  rw [readMembers_eq_ok hnamed hread]
  exact List.mem_map.mpr ⟨(whole, info), hentry, rfl⟩

end Members

/-! ## The cells that are there -/

section Cells

variable {tables : TextTables} {value : Option String} {column : String}

theorem text_ne_of_requiredDate {date : Date} (h : requiredDate value column = .ok date) :
    text value ≠ "" := by
  obtain ⟨raw, hraw, -⟩ := bind_eq_ok_iff.mp h
  exact (requiredText_eq_ok_iff.mp hraw).1

theorem text_ne_of_requiredInt {n : Int} (h : requiredInt tables value column = .ok n) :
    text value ≠ "" := by
  intro hempty
  obtain ⟨found, hfound, h⟩ := bind_eq_ok_iff.mp h
  unfold optionalInt at hfound
  rw [if_pos hempty] at hfound
  cases hfound
  cases h

theorem text_ne_of_figure {figure' : SignedDecimal} (h : figure tables value column = .ok figure') :
    text value ≠ "" := by
  intro hempty
  obtain ⟨decimal, hdecimal, -⟩ := bind_eq_ok_iff.mp h
  obtain ⟨found, hfound, hdecimal⟩ := bind_eq_ok_iff.mp hdecimal
  unfold optionalDecimal at hfound
  rw [if_pos hempty] at hfound
  cases hfound
  cases hdecimal

/-- A cell with a text stands in the row. -/
theorem idxOf_lt_of_text_ne {row : TableRow} (h : text (row.cell column) ≠ "") :
    row.header.idxOf column < row.cells.length := by
  apply Nat.lt_of_not_le
  intro hle
  apply h
  unfold TableRow.cell
  rw [List.getElem?_eq_none hle]
  rfl

end Cells

section Steps

variable {libraries : Libraries} {manifest : LoadedManifest} {row : TableRow}

/-- The last column of each table is required: a row that goes through has a cell in it. -/
theorem productStep_last {rows rows' : List ProductRow}
    (h : productStep libraries manifest rows row = .ok rows') :
    text (row.cell "observed_on") ≠ "" := by
  obtain ⟨_, -, h⟩ := bind_eq_ok_iff.mp h
  obtain ⟨head, hhead, -⟩ := bind_eq_ok_iff.mp h
  obtain ⟨_, -, hhead⟩ := bind_eq_ok_iff.mp hhead
  obtain ⟨_, -, hhead⟩ := bind_eq_ok_iff.mp hhead
  obtain ⟨_, -, hhead⟩ := bind_eq_ok_iff.mp hhead
  obtain ⟨_, hdate, -⟩ := bind_eq_ok_iff.mp hhead
  exact text_ne_of_requiredDate hdate

theorem factStep_currency {rows rows' : List DailyFactRow}
    (h : factStep libraries manifest rows row = .ok rows') :
    text (row.cell "currency") ≠ "" := by
  obtain ⟨_, -, h⟩ := bind_eq_ok_iff.mp h
  obtain ⟨_, -, h⟩ := bind_eq_ok_iff.mp h
  obtain ⟨_, hfact, -⟩ := bind_eq_ok_iff.mp h
  obtain ⟨_, -, hfact⟩ := bind_eq_ok_iff.mp hfact
  obtain ⟨_, -, hfact⟩ := bind_eq_ok_iff.mp hfact
  obtain ⟨_, -, hfact⟩ := bind_eq_ok_iff.mp hfact
  obtain ⟨_, -, hfact⟩ := bind_eq_ok_iff.mp hfact
  obtain ⟨_, hcurrency, -⟩ := bind_eq_ok_iff.mp hfact
  exact (requiredText_eq_ok_iff.mp hcurrency).1

theorem factStep_paidUnits {rows rows' : List DailyFactRow}
    (hversion : manifest.schemaVersion = SPLIT_FROM_VERSION)
    (h : factStep libraries manifest rows row = .ok rows') : text (row.cell "paid_units") ≠ "" := by
  obtain ⟨_, -, h⟩ := bind_eq_ok_iff.mp h
  obtain ⟨_, -, h⟩ := bind_eq_ok_iff.mp h
  obtain ⟨_, -, h⟩ := bind_eq_ok_iff.mp h
  obtain ⟨_, -, h⟩ := bind_eq_ok_iff.mp h
  obtain ⟨_, -, h⟩ := bind_eq_ok_iff.mp h
  obtain ⟨_, -, h⟩ := bind_eq_ok_iff.mp h
  obtain ⟨_, hsplit, -⟩ := bind_eq_ok_iff.mp h
  unfold factSplit at hsplit
  rw [if_pos hversion] at hsplit
  obtain ⟨_, -, hsplit⟩ := bind_eq_ok_iff.mp hsplit
  obtain ⟨_, hpaid, -⟩ := bind_eq_ok_iff.mp hsplit
  exact text_ne_of_figure hpaid

theorem orderStep_last {rows rows' : List DailyOrderRow}
    (h : orderStep libraries manifest rows row = .ok rows') :
    text (row.cell "distinct_order_count") ≠ "" := by
  obtain ⟨_, -, h⟩ := bind_eq_ok_iff.mp h
  obtain ⟨_, hcount, -⟩ := bind_eq_ok_iff.mp h
  exact text_ne_of_requiredInt hcount

theorem pageStep_last {rows rows' : List ProductPathRow}
    (h : pageStep libraries manifest rows row = .ok rows') :
    text (row.cell "observed_on") ≠ "" := by
  obtain ⟨_, -, h⟩ := bind_eq_ok_iff.mp h
  obtain ⟨_, -, h⟩ := bind_eq_ok_iff.mp h
  obtain ⟨_, -, h⟩ := bind_eq_ok_iff.mp h
  obtain ⟨_, -, h⟩ := bind_eq_ok_iff.mp h
  obtain ⟨_, -, h⟩ := bind_eq_ok_iff.mp h
  obtain ⟨_, hdate, -⟩ := bind_eq_ok_iff.mp h
  exact text_ne_of_requiredDate hdate

end Steps

/-! ## The tables that are read -/

/-- The payload is a table with the header, and no row of it is too short. -/
def Fits (libraries : Libraries) (payload : Bytes) (header : List String) : Prop :=
  ∃ content, decodeUtf8Sig payload = some content ∧
    (libraries.csv content).rows.head? = some header ∧
    ∀ row ∈ dataRows header (libraries.csv content), header.length ≤ row.cells.length

section Fits

variable {libraries : Libraries} {payload : Bytes} {name : String} {header : List String}

theorem tableStream_eq_ok {stream : CsvStream} (hheader : header ≠ [])
    (h : tableStream libraries payload name header = .ok stream) :
    ∃ content, decodeUtf8Sig payload = some content ∧ libraries.csv content = stream ∧
      stream.rows.head? = some header := by
  unfold tableStream at h
  split at h
  · cases h
  · rename_i content hcontent
    refine ⟨content, hcontent, ?_⟩
    dsimp only at h
    split at h
    · cases h
    · split at h
      · rename_i hactual
        cases h
        refine ⟨rfl, ?_⟩
        cases hrows : (libraries.csv content).rows with
        | nil =>
          rw [hrows] at hactual
          exact absurd hactual.symm hheader
        | cons first rest =>
          rw [hrows] at hactual
          rw [List.head?_cons]
          exact congrArg some hactual
      · split at h
        · cases h
        · cases h

theorem header_of_mem_dataRows {stream : CsvStream} {row : TableRow}
    (h : row ∈ dataRows header stream) :
    row.header = header := by
  obtain ⟨cells, -, rfl⟩ := List.mem_map.mp h
  rfl

/-- A table whose rows all go through has a cell for its last column in each of them. -/
theorem fits_of_forRows {σ : Type} {step : σ → TableRow → Reading σ} {start stop : σ}
    {stream : CsvStream} (last : String) (hheader : header ≠ [])
    (hlast : header.idxOf last + 1 = header.length)
    (hstep : ∀ state row state', step state row = .ok state' → text (row.cell last) ≠ "")
    (hstream : tableStream libraries payload name header = .ok stream)
    (hrows : forRows step header stream start = .ok stop) : Fits libraries payload header := by
  obtain ⟨content, hcontent, rfl, hfirst⟩ := tableStream_eq_ok hheader hstream
  refine ⟨content, hcontent, hfirst, fun row hrow => ?_⟩
  obtain ⟨stop', hloop, -⟩ := bind_eq_ok_iff.mp hrows
  obtain ⟨state, state', hok⟩ := Reading.exists_step_of_mem hloop hrow
  have hlt := idxOf_lt_of_text_ne (hstep state row state' hok)
  rw [header_of_mem_dataRows hrow] at hlt
  omega

variable {manifest : LoadedManifest}

theorem parseProducts_fits {rows : List ProductRow}
    (h : parseProducts libraries manifest payload = .ok rows) :
    Fits libraries payload PRODUCTS_HEADER := by
  obtain ⟨stream, hstream, h⟩ := bind_eq_ok_iff.mp h
  obtain ⟨_, hrows, -⟩ := bind_eq_ok_iff.mp h
  exact fits_of_forRows "observed_on" (by decide) (by decide)
    (fun _ _ _ => productStep_last) hstream hrows

theorem parseDailyFacts_fits {rows : List DailyFactRow}
    (h : parseDailyFacts libraries manifest payload = .ok rows) :
    Fits libraries payload (factsHeader manifest) := by
  obtain ⟨stream, hstream, hrows⟩ := bind_eq_ok_iff.mp h
  by_cases hversion : manifest.schemaVersion = SPLIT_FROM_VERSION
  · have hheader : factsHeader manifest = DAILY_FACTS_HEADER_V2 := if_pos hversion
    rw [hheader] at hstream hrows ⊢
    exact fits_of_forRows "paid_units" (by decide) (by decide)
      (fun _ _ _ => factStep_paidUnits hversion)
      hstream hrows
  · have hheader : factsHeader manifest = DAILY_FACTS_HEADER := if_neg hversion
    rw [hheader] at hstream hrows ⊢
    exact fits_of_forRows "currency" (by decide) (by decide)
      (fun _ _ _ => factStep_currency) hstream hrows

theorem parseDailyOrders_fits {rows : List DailyOrderRow}
    (h : parseDailyOrders libraries manifest payload = .ok rows) :
    Fits libraries payload DAILY_ORDERS_HEADER_V2 := by
  obtain ⟨stream, hstream, h⟩ := bind_eq_ok_iff.mp h
  obtain ⟨_, hrows, -⟩ := bind_eq_ok_iff.mp h
  exact fits_of_forRows "distinct_order_count" (by decide) (by decide)
    (fun _ _ _ => orderStep_last) hstream
    hrows

theorem parseProductPaths_fits {rows : List ProductPathRow}
    (h : parseProductPaths libraries manifest payload = .ok rows) :
    Fits libraries payload PRODUCT_PATHS_HEADER := by
  obtain ⟨stream, hstream, hrows⟩ := bind_eq_ok_iff.mp h
  exact fits_of_forRows "observed_on" (by decide) (by decide)
    (fun _ _ _ => pageStep_last) hstream hrows

/-- Every table of an accepted package has the agreed header and no row that is too short. -/
theorem readTables_fits {file : Bytes} {payloads : Dict String Bytes} {parsed : ParsedPackage}
    (h : readTables libraries file payloads manifest = .ok parsed)
    (hheader : headersFor name manifest.schemaVersion = some header)
    (hget : payloads.get? name = some payload) :
    Fits libraries payload header := by
  obtain ⟨_, hproducts, h⟩ := bind_eq_ok_iff.mp h
  obtain ⟨_, hfacts, h⟩ := bind_eq_ok_iff.mp h
  obtain ⟨_, hpaths, h⟩ := bind_eq_ok_iff.mp h
  obtain ⟨_, horders, -⟩ := bind_eq_ok_iff.mp h
  have hpayload : payloadOf payloads name = payload := by
    unfold payloadOf
    rw [hget]
    rfl
  unfold headersFor at hheader
  split at hheader
  · rename_i hname
    cases hheader
    rw [← hpayload, hname]
    exact parseProducts_fits hproducts
  · split at hheader
    · rename_i hname
      cases hheader
      rw [← hpayload, hname]
      exact parseDailyFacts_fits hfacts
    · split at hheader
      · rename_i hname
        cases hheader
        rw [← hpayload, hname]
        exact parseProductPaths_fits hpaths
      · split at hheader
        · rename_i hname
          cases hheader
          unfold optionalOrders at horders
          rw [← hname, hget] at horders
          exact parseDailyOrders_fits horders
        · cases hheader

end Fits

/-! ## Accepted packages -/

/-- A package the reader accepts, with all that it read of it. -/
structure Accepted (libraries : Libraries) (limits : PackageLimits) (file : Bytes) where
  infos : List ZipInfo
  named : Dict String ZipInfo
  root : String
  payloads : Dict String Bytes
  manifest : LoadedManifest
  listed : Listed
  parsed : ParsedPackage
  infolist : libraries.infolist file = .ok infos
  names : nameMembers limits infos = .ok (named, root)
  reads : readMembers limits infos = .ok payloads
  loads : loadManifest libraries payloads = .ok (manifest, listed)
  verifies : verifyManifest libraries payloads listed manifest.schemaVersion = .ok ()
  tables : readTables libraries file payloads manifest = .ok parsed
  accepted : readPackage libraries limits file = .ok parsed

section Boundary

variable {libraries : Libraries} {limits : PackageLimits} {file : Bytes}

/-- Whatever `read_package` returns was accepted. -/
theorem exists_accepted {parsed : ParsedPackage}
    (h : readPackage libraries limits file = .ok parsed) :
    ∃ package : Accepted libraries limits file, package.parsed = parsed := by
  have haccepted := h
  unfold readPackage at h
  obtain ⟨_, -, h⟩ := bind_eq_ok_iff.mp h
  obtain ⟨infos, hzip, h⟩ := bind_eq_ok_iff.mp h
  obtain ⟨payloads, hreads, h⟩ := bind_eq_ok_iff.mp h
  obtain ⟨⟨manifest, listed⟩, hloads, h⟩ := bind_eq_ok_iff.mp h
  obtain ⟨_, hverifies, h⟩ := bind_eq_ok_iff.mp h
  obtain ⟨read, htables, h⟩ := bind_eq_ok_iff.mp h
  obtain ⟨_, -, h⟩ := bind_eq_ok_iff.mp h
  cases h
  have hinfolist : libraries.infolist file = .ok infos := by
    unfold zipRead at hzip
    split at hzip
    · rename_i found hfound
      cases hzip
      exact hfound
    · cases hzip
    · cases hzip
  obtain ⟨⟨named, root⟩, hnames, -⟩ := bind_eq_ok_iff.mp hreads
  exact ⟨⟨infos, named, root, payloads, manifest, listed, parsed, hinfolist, hnames, hreads, hloads,
    hverifies, htables,
    haccepted⟩, rfl⟩

/-- A table of the agreed columns: the exact header, and in every row one cell for each of its
columns. -/
def Agreed (libraries : Libraries) (payload : Bytes) (name version : String) : Prop :=
  ∃ header content, headersFor name version = some header ∧ decodeUtf8Sig payload = some content ∧
    (libraries.csv content).rows.head? = some header ∧
    ∀ row ∈ dataRows header (libraries.csv content), row.cells.length = header.length

/-- Nothing beside the agreed columns: every member that holds anything is the manifest or listed in
it, no member is shadowed by another of its name, and every one but the manifest is a table of the
agreed columns. -/
structure Accepted.Sealed (package : Accepted libraries limits file) : Prop where
  listed : ∀ info ∈ package.infos, (isDirectory info.filename = true ∧ bytesOf info = []) ∨
    ∃ name, memberName package.root info = some name ∧
    (name = MANIFEST_NAME ∨ name ∈ package.listed.map Prod.fst)
  unshadowed : (package.infos.filterMap fileName).Nodup
  cells : ∀ info ∈ package.infos, ∀ name, memberName package.root info = some name →
    name ≠ MANIFEST_NAME →
    Agreed libraries (bytesOf info) name package.manifest.schemaVersion

/-- What the reader does not look for: a directory with bytes, a second member of one name, a listed
file that is no table, and a row with more cells than its header. -/
structure Accepted.Plain (package : Accepted libraries limits file) : Prop where
  directories : ∀ info ∈ package.infos, isDirectory info.filename = true → bytesOf info = []
  distinct : (package.infos.filterMap fileName).Nodup
  tables : ∀ path ∈ package.listed.map Prod.fst, path = MANIFEST_NAME ∨
    (headersFor path package.manifest.schemaVersion).isSome = true
  rows : ∀ info ∈ package.infos, ∀ name header content, memberName package.root info = some name →
    headersFor name package.manifest.schemaVersion = some header →
    decodeUtf8Sig (bytesOf info) = some content →
    ∀ row ∈ dataRows header (libraries.csv content), row.cells.length ≤ header.length

namespace Accepted

variable (package : Accepted libraries limits file)

/-- Every file that is read is the manifest or listed in it. -/
theorem listed_of_mem_keys {name : String} (h : name ∈ package.payloads.keys) :
    name = MANIFEST_NAME ∨ name ∈ package.listed.map Prod.fst := by
  obtain ⟨_, -, hpresence⟩ := bind_eq_ok_iff.mp package.verifies
  obtain ⟨_, hall, -⟩ := bind_eq_ok_iff.mp hpresence
  have hname := List.all_eq_true.mp (Reading.require_eq_ok_iff.mp hall) name h
  exact (of_decide_eq_true hname).symm

/-- Every listed file is read. -/
theorem exists_payload {path : String} (h : path ∈ package.listed.map Prod.fst) :
    ∃ payload, package.payloads.get? path = some payload := by
  obtain ⟨entry, hentry, rfl⟩ := List.mem_map.mp h
  obtain ⟨_, hfiles, -⟩ := bind_eq_ok_iff.mp package.verifies
  obtain ⟨state, state', hok⟩ := Reading.exists_step_of_mem hfiles hentry
  obtain ⟨payload, hpayload, -⟩ := bind_eq_ok_iff.mp hok
  exact ⟨payload, listedPayload_eq_ok_iff.mp hpayload⟩

theorem memberName_eq_none {info : ZipInfo} (hdir : isDirectory info.filename = true)
    (root : String) :
    memberName root info = none := by
  unfold memberName fileName
  rw [if_pos hdir]
  rfl

theorem Sealed.plain {package : Accepted libraries limits file} (h : package.Sealed) :
    package.Plain where
  directories := by
    intro info hinfo hdir
    cases h.listed info hinfo with
    | inl hempty => exact hempty.2
    | inr hlisted =>
      obtain ⟨name, hname, -⟩ := hlisted
      rw [memberName_eq_none hdir] at hname
      cases hname
  distinct := h.unshadowed
  tables := by
    intro path hpath
    obtain ⟨payload, hpayload⟩ := package.exists_payload hpath
    obtain ⟨info, hinfo, hname, -⟩ := exists_member_of_get? package.names package.reads hpayload
    by_cases hmanifest : path = MANIFEST_NAME
    · exact Or.inl hmanifest
    · obtain ⟨header, content, hheader, -⟩ := h.cells info hinfo path hname hmanifest
      rw [hheader]
      exact Or.inr rfl
  rows := by
    intro info hinfo name header content hname hheader hcontent row hrow
    have hmanifest : name ≠ MANIFEST_NAME := by
      rintro rfl
      cases hheader
    obtain ⟨header', content', hheader', hcontent', -, hcells⟩ :=
      h.cells info hinfo name hname hmanifest
    rw [hheader] at hheader'
    rw [hcontent] at hcontent'
    cases hheader'
    cases hcontent'
    exact le_of_eq (hcells row hrow)

theorem Plain.sealed {package : Accepted libraries limits file} (h : package.Plain) :
    package.Sealed := by
  have hread : ∀ info ∈ package.infos, ∀ name, memberName package.root info = some name →
      name = MANIFEST_NAME ∨ name ∈ package.listed.map Prod.fst := fun info hinfo name hname =>
    package.listed_of_mem_keys (mem_keys_of_memberName package.names package.reads hinfo hname)
  refine ⟨fun info hinfo => ?_, h.distinct, fun info hinfo name hname hmanifest => ?_⟩
  · by_cases hdir : isDirectory info.filename = true
    · exact Or.inl ⟨hdir, h.directories info hinfo hdir⟩
    · have hname : memberName package.root info =
          some (relativeName package.root (joinedParts info.filename)) := by
        unfold memberName fileName
        rw [if_neg hdir]
        rfl
      exact Or.inr ⟨_, hname, hread info hinfo _ hname⟩
  · obtain ⟨header, hheader⟩ := Option.isSome_iff_exists.mp
      ((h.tables name ((hread info hinfo name hname).resolve_left hmanifest)).resolve_left
        hmanifest)
    have hget := get?_of_memberName package.names package.reads h.distinct hinfo hname
    obtain ⟨content, hcontent, hfirst, hlong⟩ := readTables_fits package.tables hheader hget
    refine ⟨header, content, hheader, hcontent, hfirst, fun row hrow => ?_⟩
    exact le_antisymm (h.rows info hinfo name header content hname hheader hcontent row hrow)
      (hlong row hrow)

end Accepted

/-- An accepted package holds nothing beside the agreed columns exactly where it has nothing that
the reader does not look for. -/
theorem sealed_iff_plain (libraries : Libraries) (limits : PackageLimits) (file : Bytes)
    (package : Accepted libraries limits file) : package.Sealed ↔ package.Plain :=
  ⟨Accepted.Sealed.plain, Accepted.Plain.sealed⟩

end Boundary

/-! ### A row with an address behind its last column -/

def leakingRow : List String :=
  ["1", "document", "Raport", "", "", "", "", "", "", "", "", "2026-01-31", "mari@example.ee"]

def leakingProducts : String :=
  PyText.join "," PRODUCTS_HEADER ++ "\n" ++ PyText.join "," leakingRow

def emptyFacts : String := PyText.join "," DAILY_FACTS_HEADER

def emptyPaths : String := PyText.join "," PRODUCT_PATHS_HEADER

def listedFile (path : String) (size : Nat) (sha256 : String) : JsonValue :=
  .dict [("path", .str path), ("size_bytes", .int size), ("sha256", .str sha256)]

def leakingManifest : JsonValue :=
  .dict [("schema_version", .str "1.0"), ("money_basis", .str "net_ex_vat"),
  ("order_state_filter", .str "completed"), ("timezone", .str "Europe/Tallinn"),
    ("source_as_of", .str "2026-01-31"),
  ("coverage_start", .str "2026-01-01"), ("coverage_end", .str "2026-01-31"), ("files", .list [
    listedFile "products.csv" 243
      "af7db1b4a437b78b668e8fb037a490a8c6923223432085c026e9ef391076fbfe",
    listedFile "daily_facts.csv" 117
      "7f978ecc3dfc5c22d12819aed482174ad1be2d2d190c123861c1603d0d937d52",
    listedFile "product_paths.csv" 54
      "65aa990dcf2a085f351395af992eabdcdde0ba7c10cd66bfd2f52a0b3a0c196c"])]

def listedText (path size sha256 : String) : String :=
  "\x7b\"path\":\"" ++ path ++ "\",\"size_bytes\":" ++ size ++ ",\"sha256\":\"" ++
    sha256 ++ "\"\x7d"

def leakingManifestText : String :=
  "\x7b\"schema_version\":\"1.0\",\"money_basis\":\"net_ex_vat\"," ++
    "\"order_state_filter\":\"completed\",\"timezone\":\"Europe/Tallinn\"," ++
    "\"source_as_of\":\"2026-01-31\",\"coverage_start\":\"2026-01-01\"," ++
    "\"coverage_end\":\"2026-01-31\",\"files\":[" ++
    listedText "products.csv" "243"
      "af7db1b4a437b78b668e8fb037a490a8c6923223432085c026e9ef391076fbfe" ++ "," ++
    listedText "daily_facts.csv" "117"
      "7f978ecc3dfc5c22d12819aed482174ad1be2d2d190c123861c1603d0d937d52" ++ "," ++
    listedText "product_paths.csv" "54"
      "65aa990dcf2a085f351395af992eabdcdde0ba7c10cd66bfd2f52a0b3a0c196c" ++ "]\x7d"

def leakingMembers : List StoredMember :=
  [⟨"manifest.json", [58, 12, 155, 29], leakingManifestText⟩,
    ⟨"products.csv", [229, 20, 8, 188], leakingProducts⟩,
    ⟨"daily_facts.csv", [249, 194, 211, 42], emptyFacts⟩,
    ⟨"product_paths.csv", [136, 9, 237, 202], emptyPaths⟩]

/-- What the libraries answer for the members, which are told apart by their sizes. -/
def leakingLibraries : Libraries where
  isZipfile file := file = storedZip leakingMembers
  infolist file := if file = storedZip leakingMembers then
    .ok (leakingMembers.map StoredMember.info)
    else .error .badZipFile
  sha256 payload :=
    if payload.length = 243 then "af7db1b4a437b78b668e8fb037a490a8c6923223432085c026e9ef391076fbfe"
    else if payload.length = 117 then
      "7f978ecc3dfc5c22d12819aed482174ad1be2d2d190c123861c1603d0d937d52"
    else if payload.length = 54 then
      "65aa990dcf2a085f351395af992eabdcdde0ba7c10cd66bfd2f52a0b3a0c196c"
    else "cddaeeae75d399e52155d52fbe0b0e43aef9ba08f9d66098040092e5ac00f67b"
  loads content := if content.utf8ByteSize = 566 then .value leakingManifest else .jsonDecodeError
  repr _ := "-"
  csv content :=
    if content.utf8ByteSize = 243 then ⟨[PRODUCTS_HEADER, leakingRow], false⟩
    else if content.utf8ByteSize = 117 then ⟨[DAILY_FACTS_HEADER], false⟩
    else ⟨[PRODUCT_PATHS_HEADER], false⟩
  tables := sampleTables
  netlocCheck := hostCheck

theorem infolist_leaking : leakingLibraries.infolist (storedZip leakingMembers) =
    .ok (leakingMembers.map StoredMember.info) := by
  have hinfolist : ∀ file, leakingLibraries.infolist file = if file = storedZip leakingMembers then
      .ok (leakingMembers.map StoredMember.info) else .error .badZipFile := fun _ => rfl
  rw [hinfolist, if_pos rfl]

/-- Decoding what was encoded, where it does not start with a byte order mark. -/
theorem decodeUtf8Sig_utf8 {content : String} (hmark : ¬ [0xef, 0xbb, 0xbf] <+: utf8 content) :
    decodeUtf8Sig (utf8 content) = some content := by
  unfold decodeUtf8Sig
  rw [if_neg hmark]
  exact dif_pos content.isValidUTF8

/-- The members have different names, and their contents have no byte order mark. -/
theorem leakingMembers_facts : ((leakingMembers.map (·.name)).Nodup ∧
      ∀ member ∈ leakingMembers, ¬ [0xef, 0xbb, 0xbf] <+: utf8 member.content) ∧
    leakingMembers.map (fun member => (utf8 member.name).length) = [13, 12, 15, 17] ∧
    leakingMembers.map (fun member => (utf8 member.content).length) = [566, 243, 117, 54] := by
  decide +kernel

theorem decode_leaking {name content : String} {crc : Bytes}
    (h : ⟨name, crc, content⟩ ∈ leakingMembers) :
    decodeUtf8Sig (utf8 content) = some content :=
  decodeUtf8Sig_utf8 (leakingMembers_facts.1.2 _ h)

def leakingPayloads : Dict String Bytes :=
  Dict.ofList (leakingMembers.map fun member => (member.name, utf8 member.content))

theorem get?_leakingPayloads {name content : String} {crc : Bytes}
    (h : ⟨name, crc, content⟩ ∈ leakingMembers) :
    leakingPayloads.get? name = some (utf8 content) := by
  apply Dict.get?_eq_some_iff.mpr
  unfold leakingPayloads
  rw [Dict.entries_ofList (by rw [List.map_map]; exact leakingMembers_facts.1.1)]
  exact List.mem_map.mpr ⟨⟨name, crc, content⟩, h, rfl⟩

/-- The members are read under their own names. -/
theorem readMembers_leaking :
    (readMembers defaultLimits (leakingMembers.map StoredMember.info)).toOption =
      some leakingPayloads ∧
      (nameMembers defaultLimits (leakingMembers.map StoredMember.info)).toOption.map
        Prod.snd = some "" ∧
      leakingMembers.map (fun member => memberName "" member.info) =
        leakingMembers.map fun member => some member.name := by
  decide +kernel

theorem length_utf8 (content : String) : (utf8 content).length = content.utf8ByteSize := rfl

theorem length_littleEndian (width n : Nat) : (littleEndian width n).length = width := by
  unfold littleEndian
  rw [List.length_map, List.length_range]

theorem length_storedZip_leaking : (storedZip leakingMembers).length = 1420 := by
  have hnames := leakingMembers_facts.2.1
  have hcontents := leakingMembers_facts.2.2
  simp only [leakingMembers, List.map_cons, List.map_nil, List.cons.injEq,
    and_true] at hnames hcontents
  simp only [storedZip, leakingMembers, List.flatMap_cons, List.flatMap_nil, StoredMember.stored,
    StoredMember.fields,
    centralDirectory, List.length_append, List.length_cons, List.length_nil, length_littleEndian,
    hnames, hcontents]

theorem sizes_leaking : leakingManifestText.utf8ByteSize = 566 ∧
    leakingProducts.utf8ByteSize = 243 ∧
    emptyFacts.utf8ByteSize = 117 ∧ emptyPaths.utf8ByteSize = 54 := by
  have hcontents := leakingMembers_facts.2.2
  simp only [leakingMembers, List.map_cons, List.map_nil, List.cons.injEq, and_true,
    length_utf8] at hcontents
  exact hcontents

theorem checkFile_leaking : checkFile leakingLibraries defaultLimits (storedZip leakingMembers) =
    .ok () := by
  have hzip : ∀ file, leakingLibraries.isZipfile file = decide (file = storedZip leakingMembers) :=
    fun _ => rfl
  unfold checkFile
  rw [hzip, length_storedZip_leaking, decide_eq_true rfl]
  rfl

theorem payloadOf_leaking {name content : String} {crc : Bytes}
    (h : ⟨name, crc, content⟩ ∈ leakingMembers) :
    payloadOf leakingPayloads name = utf8 content := by
  unfold payloadOf
  rw [get?_leakingPayloads h]
  rfl

theorem manifestValue_of_loads {libraries : Libraries} {payloads : Dict String Bytes}
    {payload : Bytes} {content : String} {value : JsonValue}
    (hget : payloads.get? MANIFEST_NAME = some payload)
    (hdecode : decodeUtf8Sig payload = some content)
    (hloads : libraries.loads content = .value value) :
      manifestValue libraries payloads = .ok value := by
  unfold manifestValue
  rw [hget]
  dsimp only
  rw [hdecode, Option.map_some, hloads]

theorem tableStream_of_csv {libraries : Libraries} {payload : Bytes} {content name : String}
    {header : List String} {rows : List (List String)}
    (hdecode : decodeUtf8Sig payload = some content)
    (hcsv : libraries.csv content = ⟨header :: rows, false⟩) :
    tableStream libraries payload name header = .ok ⟨header :: rows, false⟩ := by
  unfold tableStream
  rw [hdecode]
  dsimp only
  rw [hcsv, if_neg (by rintro ⟨hempty, -⟩; cases hempty)]
  exact if_pos rfl

theorem manifestValue_leaking : manifestValue leakingLibraries leakingPayloads =
    .ok leakingManifest := by
  have hloads : ∀ content, leakingLibraries.loads content =
      if content.utf8ByteSize = 566 then .value leakingManifest else .jsonDecodeError :=
        fun _ => rfl
  refine manifestValue_of_loads (get?_leakingPayloads List.mem_cons_self)
    (decode_leaking List.mem_cons_self) ?_
  rw [hloads, if_pos sizes_leaking.1]

theorem csv_leaking (content : String) : leakingLibraries.csv content =
    if content.utf8ByteSize = 243 then ⟨[PRODUCTS_HEADER, leakingRow], false⟩
    else if content.utf8ByteSize = 117 then ⟨[DAILY_FACTS_HEADER], false⟩
    else ⟨[PRODUCT_PATHS_HEADER], false⟩ := rfl

theorem products_leaking :
    tableStream leakingLibraries (payloadOf leakingPayloads PRODUCTS_NAME) PRODUCTS_NAME
      PRODUCTS_HEADER =
      .ok ⟨[PRODUCTS_HEADER, leakingRow], false⟩ := by
  rw [show PRODUCTS_NAME = "products.csv" from rfl,
    payloadOf_leaking (List.mem_cons_of_mem _ List.mem_cons_self)]
  apply tableStream_of_csv (decode_leaking (List.mem_cons_of_mem _ List.mem_cons_self))
  rw [csv_leaking, if_pos sizes_leaking.2.1]

theorem facts_leaking :
    tableStream leakingLibraries (payloadOf leakingPayloads DAILY_FACTS_NAME) DAILY_FACTS_NAME
      DAILY_FACTS_HEADER =
      .ok ⟨[DAILY_FACTS_HEADER], false⟩ := by
  rw [show DAILY_FACTS_NAME = "daily_facts.csv" from rfl,
    payloadOf_leaking (List.mem_cons_of_mem _ (List.mem_cons_of_mem _ List.mem_cons_self))]
  apply tableStream_of_csv
    (decode_leaking (List.mem_cons_of_mem _ (List.mem_cons_of_mem _ List.mem_cons_self)))
  rw [csv_leaking, sizes_leaking.2.2.1, if_neg (by decide), if_pos rfl]

theorem paths_leaking :
    tableStream leakingLibraries (payloadOf leakingPayloads PRODUCT_PATHS_NAME) PRODUCT_PATHS_NAME
      PRODUCT_PATHS_HEADER =
      .ok ⟨[PRODUCT_PATHS_HEADER], false⟩ := by
  rw [show PRODUCT_PATHS_NAME = "product_paths.csv" from rfl,
    payloadOf_leaking
      (List.mem_cons_of_mem _ (List.mem_cons_of_mem _ (List.mem_cons_of_mem _ List.mem_cons_self)))]
  apply tableStream_of_csv (decode_leaking
    (List.mem_cons_of_mem _ (List.mem_cons_of_mem _ (List.mem_cons_of_mem _ List.mem_cons_self))))
  rw [csv_leaking, sizes_leaking.2.2.2, if_neg (by decide), if_neg (by decide)]

def leakingLoaded : LoadedManifest where
  schemaVersion := "1.0"
  sourceName := ""
  exportedAt := ""
  timezone := REQUIRED_TIMEZONE
  moneyBasis := REQUIRED_MONEY_BASIS
  orderStateFilter := REQUIRED_ORDER_STATE
  dates := ⟨.of 2026 1 31, .of 2026 1 1,
    .of 2026 1 31, false, false⟩

theorem verifyManifest_leaking : (do
    let loaded ← loadManifest leakingLibraries leakingPayloads
    verifyManifest leakingLibraries leakingPayloads loaded.2 loaded.1.schemaVersion
    return loaded.1).toOption = some leakingLoaded := by
  unfold loadManifest
  rw [manifestValue_leaking]
  decide +kernel

theorem readTables_leaking : (do
    let parsed ← readTables leakingLibraries (storedZip leakingMembers) leakingPayloads
      leakingLoaded
    checkReferences parsed).toOption = some () := by
  have hheader : factsHeader leakingLoaded = DAILY_FACTS_HEADER := if_neg (by decide)
  unfold readTables parseProducts parseDailyFacts parseProductPaths
  rw [hheader, products_leaking, facts_leaking, paths_leaking]
  decide +kernel

theorem readPackage_leaking :
    ∃ parsed, readPackage leakingLibraries defaultLimits (storedZip leakingMembers) =
      .ok parsed := by
  obtain ⟨⟨manifest, listed⟩, hload, hverified⟩ :=
    bind_eq_ok_iff.mp (toOption_eq_some_iff.mp verifyManifest_leaking)
  obtain ⟨parsed, htables, hreferences⟩ :=
    bind_eq_ok_iff.mp (toOption_eq_some_iff.mp readTables_leaking)
  obtain ⟨⟨⟩, hverify, hmanifest⟩ := bind_eq_ok_iff.mp hverified
  cases Except.ok.inj hmanifest
  refine ⟨parsed, ?_⟩
  unfold readPackage
  refine bind_eq_ok_iff.mpr
    ⟨(), checkFile_leaking, bind_eq_ok_iff.mpr ⟨_, by rw [infolist_leaking]; rfl, ?_⟩⟩
  refine bind_eq_ok_iff.mpr ⟨leakingPayloads, toOption_eq_some_iff.mp readMembers_leaking.1, ?_⟩
  refine bind_eq_ok_iff.mpr ⟨(_, listed), hload, bind_eq_ok_iff.mpr ⟨(), hverify, ?_⟩⟩
  exact bind_eq_ok_iff.mpr ⟨parsed, htables, bind_eq_ok_iff.mpr ⟨(), hreferences, rfl⟩⟩

/-- The products of an accepted package carry an e-mail address that no column of the header is
for. -/
theorem leakingRow_accepted :
    ∃ package : Accepted leakingLibraries defaultLimits (storedZip leakingMembers),
      ¬ package.Sealed := by
  have hroot := readMembers_leaking.2.1
  obtain ⟨parsed, hparsed⟩ := readPackage_leaking
  obtain ⟨package, -⟩ := exists_accepted hparsed
  refine ⟨package, fun hsealed => ?_⟩
  have hinfos : package.infos = leakingMembers.map StoredMember.info :=
    Except.ok.inj (package.infolist.symm.trans infolist_leaking)
  have hnames := package.names
  rw [hinfos] at hnames
  rw [hnames] at hroot
  have hempty : package.root = "" := Option.some.inj hroot
  have hproducts : (⟨"products.csv", [229, 20, 8, 188], leakingProducts⟩ : StoredMember).info ∈
      package.infos := by
    rw [hinfos]
    exact List.mem_map_of_mem (List.mem_cons_of_mem _ List.mem_cons_self)
  have hnamed := (List.cons.inj (List.cons.inj readMembers_leaking.2.2).2).1
  obtain ⟨header, content, hheader, hdecoded, -, hcells⟩ := hsealed.cells _ hproducts "products.csv"
    (by rw [hempty]; exact hnamed) (by decide)
  cases hheader
  cases (decode_leaking (List.mem_cons_of_mem _ List.mem_cons_self)).symm.trans hdecoded
  have hlong := hcells ⟨PRODUCTS_HEADER, leakingRow⟩ (by
    rw [csv_leaking, if_pos sizes_leaking.2.1]
    exact List.mem_singleton_self _)
  cases hlong

end Dashkoda.Shop.Package
