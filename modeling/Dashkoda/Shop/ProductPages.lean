import Dashkoda.Shop.Writers

/-!
# The page mapping

Which page a product has in which role.  The writer keeps every address, and it maps a role to the
stated path as long as no package goes back to an address it retired.
-/

open Lib

namespace Dashkoda.Shop

instance : Revised ShopProductPage (Nat × PageRole) where
  pk := ShopProductPage.pk
  key page := (page.product, page.pageRole)
  isCurrent := ShopProductPage.isCurrent
  setCurrent flag page := { page with isCurrent := flag }
  pk_setCurrent _ _ := rfl
  key_setCurrent _ _ := rfl
  isCurrent_setCurrent _ _ := rfl

def address (page : ShopProductPage) : Nat × PageRole × String :=
  (page.product, page.pageRole, page.path)

/-- Nothing is asked of consecutive pages of a role. -/
def AnyPage : Option ShopProductPage → ShopProductPage → Prop := fun _ _ => True

/-- The column keeps the path as it is. -/
def FitsColumn (path : String) : Prop := path.length ≤ 500 ∧ '\x00' ∉ path.toList

/-- Each role of each product with pages has one current page, and no address is stored twice. -/
structure PagesSound (pages : List ShopProductPage) : Prop where
  lines : Lineage.Sound AnyPage pages
  addresses : (pages.map address).Nodup
  widths : ∀ page ∈ pages, FitsColumn page.path

theorem pagesSound_nil : PagesSound [] :=
  ⟨Lineage.sound_nil, List.nodup_nil, fun _ h => absurd h List.not_mem_nil⟩

/-- The one current page of the role has the path. -/
def MapsTo (pages : List ShopProductPage) (product : Nat) (role : PageRole)
    (path : String) : Prop :=
  ∃ page, pages.filter (holdsRole product role) = [page] ∧ page.path = path

/-- The address is stored for the role, which another address holds now. -/
def Retired (pages : List ShopProductPage) (wanted : Nat × ProductPathRow) : Prop :=
  ∃ page ∈ pages, address page = (wanted.1, wanted.2.pageRole, wanted.2.path) ∧
    page.isCurrent = false

/-! ## One path -/

/-- What the loop of the writer does not change of a page. -/
def mapping (page : ShopProductPage) : Nat × (Nat × PageRole × String) × Bool :=
  (page.pk, address page, page.isCurrent)

section Loop

variable {pages : List ShopProductPage} {work work' : PathWork} {wanted : Nat × ProductPathRow}

def pageAt? (pages : List ShopProductPage) (wanted : Nat × ProductPathRow) :
    Option ShopProductPage :=
  pages.find? fun page =>
    page.product = wanted.1 && page.pageRole = wanted.2.pageRole && page.path = wanted.2.path

theorem pageAt?_eq (pages : List ShopProductPage) (wanted : Nat × ProductPathRow) :
    pageAt? pages wanted =
      pages.find? (address · = (wanted.1, wanted.2.pageRole, wanted.2.path)) := by
  unfold pageAt? address
  congr 1
  funext page
  simp only [Prod.mk.injEq, Bool.decide_and, Bool.and_assoc]

theorem pageAt?_of_mem (haddresses : (pages.map address).Nodup) {page : ShopProductPage}
    (hpage : page ∈ pages) (hat : address page = (wanted.1, wanted.2.pageRole, wanted.2.path)) :
    pageAt? pages wanted = some page := by
  rw [pageAt?_eq, ← hat]
  exact find?_key_of_mem address haddresses hpage

theorem mem_of_pageAt? {page : ShopProductPage} (h : pageAt? pages wanted = some page) :
    page ∈ pages ∧ address page = (wanted.1, wanted.2.pageRole, wanted.2.path) := by
  rw [pageAt?_eq] at h
  have hat := List.find?_some h
  exact ⟨List.mem_of_find?_eq_some h, of_decide_eq_true hat⟩

/-- The pages of two tables that map alike. -/
theorem exists_of_mapped {pages' : List ShopProductPage}
    (hmapped : pages'.map mapping = pages.map mapping) {page : ShopProductPage}
    (hpage : page ∈ pages) : ∃ page' ∈ pages', mapping page' = mapping page := by
  have hmem : mapping page ∈ pages'.map mapping := hmapped ▸ List.mem_map_of_mem hpage
  obtain ⟨page', hpage', hsame⟩ := List.mem_map.mp hmem
  exact ⟨page', hpage', hsame⟩

theorem pk_of_mapping {page page' : ShopProductPage} (h : mapping page = mapping page') :
    page.pk = page'.pk := congrArg Prod.fst h

theorem address_of_mapping {page page' : ShopProductPage} (h : mapping page = mapping page') :
    address page = address page' := congrArg (·.2.1) h

theorem isCurrent_of_mapping {page page' : ShopProductPage} (h : mapping page = mapping page') :
    page.isCurrent = page'.isCurrent := congrArg (·.2.2) h

theorem holdsRole_iff {product : Nat} {role : PageRole} {page : ShopProductPage} :
    holdsRole product role page = true ↔
      Revised.key page = (product, role) ∧ page.isCurrent = true := by
  unfold holdsRole
  rw [Bool.and_eq_true, Bool.and_eq_true, decide_eq_true_iff, decide_eq_true_iff]
  exact and_congr_left' Prod.mk_inj.symm

theorem key_of_address {page : ShopProductPage}
    (h : address page = (wanted.1, wanted.2.pageRole, wanted.2.path)) :
    Revised.key page = (wanted.1, wanted.2.pageRole) := by
  obtain ⟨hproduct, hrest⟩ := Prod.mk.inj h
  exact congrArg₂ Prod.mk hproduct (Prod.mk.inj hrest).1

theorem holdsRole_of_mapping {product : Nat} {role : PageRole} {page page' : ShopProductPage}
    (h : mapping page = mapping page') (hholds : holdsRole product role page' = true) :
    holdsRole product role page = true := by
  obtain ⟨hkey, hcurrent⟩ := holdsRole_iff.mp hholds
  refine holdsRole_iff.mpr ⟨?_, (isCurrent_of_mapping h).trans hcurrent⟩
  obtain ⟨hproduct, hrest⟩ := Prod.mk.inj (address_of_mapping h)
  exact (congrArg₂ Prod.mk hproduct (Prod.mk.inj hrest).1).trans hkey

/-- The loop so far: only dates were saved, and what it has to retire and create is noted. -/
structure Looped (pages : List ShopProductPage) (gone : List (Nat × ProductPathRow))
    (work : PathWork) : Prop where
  mapped : work.pages.map mapping = pages.map mapping
  created : work.created = gone.filter fun item => (pageAt? pages item).isNone
  retired : ∀ pk, pk ∈ work.retired ↔ ∃ item ∈ work.created, ∃ page ∈ pages,
    holdsRole item.1 item.2.pageRole page = true ∧ page.pk = pk

theorem Looped.keys {gone : List (Nat × ProductPathRow)} (h : Looped pages gone work)
    (hsound : PagesSound pages) : Table.UniqueKeys work.pages := by
  have hpks := congrArg (List.map Prod.fst) h.mapped
  rw [List.map_map, List.map_map] at hpks
  show (work.pages.map (Prod.fst ∘ mapping)).Nodup
  rw [hpks]
  exact hsound.lines.keys

theorem Looped.addresses {gone : List (Nat × ProductPathRow)} (h : Looped pages gone work)
    (hsound : PagesSound pages) : (work.pages.map address).Nodup := by
  have haddresses := congrArg (List.map (·.2.1)) h.mapped
  rw [List.map_map, List.map_map] at haddresses
  show (work.pages.map ((·.2.1) ∘ mapping)).Nodup
  rw [haddresses]
  exact hsound.addresses

theorem savePage_ok {saved : ShopProductPage}
    (hnone : ∀ other ∈ work.pages, holdsRole saved.product saved.pageRole other = true →
      other.pk = saved.pk) : savePage work.pages saved = .ok (Table.save work.pages saved) := by
  unfold savePage
  rw [if_neg]
  rw [Bool.and_eq_true, List.any_eq_true]
  rintro ⟨-, other, hother, hboth⟩
  rw [Bool.and_eq_true, bne_iff_ne] at hboth
  exact hboth.2 (hnone other hother hboth.1)

theorem savePage_refuses {saved other : ShopProductPage} (hcurrent : saved.isCurrent = true)
    (hother : other ∈ work.pages) (hholds : holdsRole saved.product saved.pageRole other = true)
    (hne : other.pk ≠ saved.pk) :
    savePage work.pages saved = .error
      (.integrityError "shopproductpage_one_current_per_role") := by
  unfold savePage
  rw [if_pos]
  rw [Bool.and_eq_true, List.any_eq_true]
  exact ⟨hcurrent, other, hother, by rw [Bool.and_eq_true, bne_iff_ne]; exact ⟨hholds, hne⟩⟩

theorem writePath_loops (hsound : PagesSound pages) {gone : List (Nat × ProductPathRow)}
    (h : Looped pages gone work) (hfresh : ¬ Retired pages wanted) :
    ∃ work', writePath work wanted = .ok work' ∧ Looped pages (gone ++ [wanted]) work' := by
  have hfind : work.pages.find? (fun page => page.product = wanted.1 &&
      page.pageRole = wanted.2.pageRole && page.path = wanted.2.path) =
        pageAt? work.pages wanted := rfl
  unfold writePath
  dsimp only
  rw [hfind]
  cases hfound : pageAt? work.pages wanted with
  | some found =>
    obtain ⟨hmem, hat⟩ := mem_of_pageAt? hfound
    obtain ⟨stored, hstored, hsame⟩ := exists_of_mapped h.mapped.symm hmem
    have hknown : pageAt? pages wanted = some stored :=
      pageAt?_of_mem hsound.addresses hstored ((address_of_mapping hsame).trans hat)
    have hcurrent : stored.isCurrent = true := by
      rw [← Bool.not_eq_false]
      exact fun hretired => hfresh ⟨stored, hstored, (address_of_mapping hsame).trans hat, hretired⟩
    have hcreated : gone.filter (fun item => (pageAt? pages item).isNone) =
        (gone ++ [wanted]).filter fun item => (pageAt? pages item).isNone := by
      rw [List.filter_append, List.filter_cons_of_neg (by rw [hknown]; exact Bool.false_ne_true),
        List.filter_nil, List.append_nil]
    have hkept {pages' : List ShopProductPage}
        (hmapped : pages'.map mapping = work.pages.map mapping) :
        Looped pages (gone ++ [wanted]) { work with pages := pages' } :=
      ⟨hmapped.trans h.mapped, h.created.trans hcreated, h.retired⟩
    dsimp only
    split
    · -- the page in force, seen again
      let saved : ShopProductPage := { found with
        isCurrent := true
        lastSeenOn := max found.lastSeenOn wanted.2.observedOn }
      have hsave : savePage work.pages saved = .ok (Table.save work.pages saved) := by
        apply savePage_ok
        intro other hother hholds
        obtain ⟨holder, hholder, hsame'⟩ := exists_of_mapped h.mapped.symm hother
        have hholds' := holdsRole_iff.mp (holdsRole_of_mapping hsame' hholds)
        have hkey : Revised.key stored = Revised.key holder := by
          rw [hholds'.1, key_of_address ((address_of_mapping hsame).trans hat)]
          exact (key_of_address hat).symm
        have hone := hsound.lines.eq_of_current hstored hholder hcurrent hholds'.2 hkey
        have hpk : stored.pk = found.pk := pk_of_mapping hsame
        exact (pk_of_mapping hsame').symm.trans ((congrArg _ hone.symm).trans hpk)
      have hflag : found.isCurrent = true := (isCurrent_of_mapping hsame).symm.trans hcurrent
      refine ⟨_, map_eq_ok_iff.mpr ⟨_, hsave, rfl⟩, hkept ?_⟩
      refine Table.map_save mapping (h.keys hsound) hmem rfl ?_
      show (found.pk, address found, true) = _
      rw [← hflag]
      rfl
    · exact ⟨work, rfl, hkept rfl⟩
  | none =>
    have hunknown : pageAt? pages wanted = none := by
      cases hstored : pageAt? pages wanted with
      | none => rfl
      | some stored =>
        obtain ⟨hmem, hat⟩ := mem_of_pageAt? hstored
        obtain ⟨page, hpage, hsame⟩ := exists_of_mapped h.mapped hmem
        rw [pageAt?_of_mem (h.addresses hsound) hpage
          ((address_of_mapping hsame).trans hat)] at hfound
        cases hfound
    refine ⟨_, rfl, h.mapped, ?_, ?_⟩
    · show work.created ++ [wanted] = _
      have hnew : (pageAt? pages wanted).isNone = true := by
        rw [hunknown]
        rfl
      rw [h.created, List.filter_append, List.filter_singleton, hnew]
      rfl
    · intro pk
      show pk ∈ work.retired ++ _ ↔ ∃ item ∈ work.created ++ [wanted], _
      rw [List.mem_append, h.retired, List.mem_map]
      constructor
      · rintro (⟨item, hitem, page, hpage, hholds, hpk⟩ | ⟨page, hpage, hpk⟩)
        · exact ⟨item, List.mem_append_left _ hitem, page, hpage, hholds, hpk⟩
        · obtain ⟨hpage, hholds⟩ := List.mem_filter.mp hpage
          obtain ⟨page', hpage', hsame⟩ := exists_of_mapped h.mapped.symm hpage
          exact ⟨wanted, List.mem_append_right _ (List.mem_singleton_self _), page', hpage',
            holdsRole_of_mapping hsame hholds, (pk_of_mapping hsame).trans hpk⟩
      · rintro ⟨item, hitem, page, hpage, hholds, hpk⟩
        cases List.mem_append.mp hitem with
        | inl hold => exact Or.inl ⟨item, hold, page, hpage, hholds, hpk⟩
        | inr hnew =>
          rw [List.mem_singleton.mp hnew] at hholds
          obtain ⟨page', hpage', hsame⟩ := exists_of_mapped h.mapped hpage
          exact Or.inr ⟨page', List.mem_filter.mpr ⟨hpage', holdsRole_of_mapping hsame hholds⟩,
            (pk_of_mapping hsame).trans hpk⟩

theorem writePath_refuses (hsound : PagesSound pages) {gone : List (Nat × ProductPathRow)}
    (h : Looped pages gone work) (hretired : Retired pages wanted) :
    writePath work wanted = .error (.integrityError "shopproductpage_one_current_per_role") := by
  obtain ⟨stored, hstored, hat, hflag⟩ := hretired
  obtain ⟨found, hfound, hsame⟩ := exists_of_mapped h.mapped hstored
  -- another page of the role is current
  obtain ⟨holder, hholder⟩ := hsound.lines.exists_current hstored
  obtain ⟨hmem, hkey, hcurrent⟩ := Lineage.mem_of_current? hholder
  obtain ⟨other, hother, hsame'⟩ := exists_of_mapped h.mapped hmem
  have hlookup : work.pages.find? (fun page => page.product = wanted.1 &&
      page.pageRole = wanted.2.pageRole && page.path = wanted.2.path) = some found :=
    pageAt?_of_mem (h.addresses hsound) hfound ((address_of_mapping hsame).trans hat)
  have hfoundFlag : found.isCurrent = false := (isCurrent_of_mapping hsame).trans hflag
  have hfoundAt := (address_of_mapping hsame).trans hat
  unfold writePath
  dsimp only
  rw [hlookup]
  dsimp only
  rw [hfoundFlag, Bool.not_false, Bool.true_or, if_pos rfl]
  rw [savePage_refuses rfl hother _ _]
  · rfl
  · show holdsRole found.product found.pageRole other = true
    apply holdsRole_of_mapping hsame'
    refine holdsRole_iff.mpr ⟨?_, hcurrent⟩
    rw [hkey, key_of_address hat]
    exact (key_of_address hfoundAt).symm
  · show other.pk ≠ found.pk
    intro hpk
    have hone : holder = stored := Table.eq_of_pk_eq hsound.lines.keys hmem hstored
      ((pk_of_mapping hsame').symm.trans (hpk.trans (pk_of_mapping hsame)))
    have hflag' : stored.isCurrent = true := hone ▸ hcurrent
    rw [hflag] at hflag'
    cases hflag'

/-- **The loop ends without violating the constraint exactly when no path returns.** -/
theorem loop_eq_ok (hsound : PagesSound pages) (rest : List (Nat × ProductPathRow))
    {gone : List (Nat × ProductPathRow)} (h : Looped pages gone work) :
    (∀ work', rest.foldlM writePath work = .ok work' →
      (∀ item ∈ rest, ¬ Retired pages item) ∧ Looped pages (gone ++ rest) work') ∧
    ((∀ item ∈ rest, ¬ Retired pages item) → ∃ work', rest.foldlM writePath work = .ok work') := by
  induction rest generalizing work gone with
  | nil =>
    refine ⟨fun work' hok => ?_, fun _ => ⟨work, rfl⟩⟩
    cases hok
    rw [List.append_nil]
    exact ⟨fun _ hitem => absurd hitem List.not_mem_nil, h⟩
  | cons item rest ih =>
    simp only [List.foldlM_cons]
    by_cases hretired : Retired pages item
    · rw [writePath_refuses hsound h hretired]
      exact ⟨fun work' hok => (by cases hok),
        fun hnone => absurd hretired (hnone item List.mem_cons_self)⟩
    · obtain ⟨middle, hmiddle, hlooped⟩ := writePath_loops hsound h hretired
      obtain ⟨hok, hexists⟩ := ih hlooped
      rw [hmiddle]
      constructor
      · intro work' hrest
        obtain ⟨hnone, hdone⟩ := hok work' hrest
        rw [List.append_assoc] at hdone
        exact ⟨List.forall_mem_cons.mpr ⟨hretired, hnone⟩, hdone⟩
      · exact fun hnone => hexists fun item' hitem' => hnone item' (List.mem_cons_of_mem _ hitem')

/-- What the loop leaves is sound as it was. -/
theorem Looped.sound {gone : List (Nat × ProductPathRow)} (h : Looped pages gone work)
    (hsound : PagesSound pages) : PagesSound work.pages := by
  refine ⟨hsound.lines.congr h.mapped (fun _ _ => pk_of_mapping) ?_
    (fun _ _ => isCurrent_of_mapping)
    (fun _ _ _ _ _ _ _ => trivial), h.addresses hsound, ?_⟩
  · intro a b hab
    obtain ⟨hproduct, hrest⟩ := Prod.mk.inj (address_of_mapping hab)
    exact congrArg₂ Prod.mk hproduct (Prod.mk.inj hrest).1
  · intro page hpage
    obtain ⟨stored, hstored, hsame⟩ := exists_of_mapped h.mapped.symm hpage
    have hpath : stored.path = page.path := congrArg (·.2.2) (address_of_mapping hsame)
    rw [← hpath]
    exact hsound.widths stored hstored

end Loop

/-! ## All paths of a package -/

/-- The wanted pages can be written as stated: no address returns and every path fits its column. -/
def Writable (pages : List ShopProductPage) (wanted : List (Nat × ProductPathRow)) : Prop :=
  ∀ item ∈ wanted, ¬ Retired pages item ∧ FitsColumn item.2.path

theorem storePath_eq_ok {item stored : Nat × ProductPathRow} (h : storePath item = .ok stored) :
    (stored.1, stored.2.pageRole) = (item.1, item.2.pageRole) ∧ FitsColumn stored.2.path := by
  obtain ⟨path, hpath, heq⟩ := bind_eq_ok_iff.mp h
  cases heq
  obtain ⟨hnul, hlength⟩ := Column.fits_of_varchar (textValue_eq_ok_iff.mp hpath)
  exact ⟨rfl, hlength, hnul⟩

theorem storePath_of_fits {item : Nat × ProductPathRow} (h : FitsColumn item.2.path) :
    storePath item = .ok item :=
  bind_eq_ok_iff.mpr ⟨item.2.path,
    textValue_eq_ok_iff.mpr (Column.varchar_of_fits h.2 h.1), rfl⟩

section Stored

variable {created stored : List (Nat × ProductPathRow)}

theorem stored_roles (h : created.mapM storePath = .ok stored) :
    (stored.map fun item => (item.1, item.2.pageRole)) =
      created.map fun item => (item.1, item.2.pageRole) := by
  have hall := forall₂_of_mapM_eq_ok h
  clear h
  induction hall with
  | nil => rfl
  | cons hhead _ ih => rw [List.map_cons, List.map_cons, (storePath_eq_ok hhead).1, ih]

theorem stored_fits (h : created.mapM storePath = .ok stored) :
    ∀ item ∈ stored, FitsColumn item.2.path := by
  intro item hitem
  obtain ⟨_, -, hstore⟩ := exists_of_mem_forall₂ (forall₂_of_mapM_eq_ok h) hitem
  exact (storePath_eq_ok hstore).2

theorem stored_of_fits (h : ∀ item ∈ created, FitsColumn item.2.path) :
    created.mapM storePath = .ok created :=
  mapM_eq_ok_iff.mpr (List.forall₂_same.mpr fun item hitem => storePath_of_fits (h item hitem))

end Stored

section Create

variable {pages : List ShopProductPage} {work : PathWork}
  {wanted stored : List (Nat × ProductPathRow)}
  {run : Nat}

theorem mem_created (h : Looped pages wanted work) {item : Nat × ProductPathRow} :
    item ∈ work.created ↔ item ∈ wanted ∧ pageAt? pages item = none := by
  rw [h.created, List.mem_filter, Option.isNone_iff_eq_none]

/-- The pages to create are a revision of what the loop left. -/
theorem Looped.revision (h : Looped pages wanted work) (hsound : PagesSound pages)
    (hroles : (wanted.map fun item => (item.1, item.2.pageRole)).Nodup)
    (hstored : (stored.map fun item => (item.1, item.2.pageRole)) =
      work.created.map fun item => (item.1, item.2.pageRole)) :
    Lineage.Revision AnyPage work.pages work.retired
      (stored.mapIdx fun i item => newPage run (Table.nextPk work.pages + i) item) := by
  have hkeys : (stored.mapIdx fun i item =>
      newPage run (Table.nextPk work.pages + i) item).map Revised.key =
        work.created.map fun item => (item.1, item.2.pageRole) := by
    rw [← hstored]
    exact Table.map_mapIdx fun _ _ => rfl
  refine ⟨?_, ?_, ?_, fun _ _ => trivial, ?_⟩
  · exact Table.uniqueKeys_append_mapIdx (h.keys hsound) stored (newPage run)
      (fun _ _ => rfl) fun _ hr => Table.pk_lt_nextPk hr
  · rw [hkeys, h.created]
    exact hroles.sublist (List.filter_sublist.map _)
  · intro page hpage
    obtain ⟨i, hi, rfl⟩ := List.mem_mapIdx.mp hpage
    rfl
  · intro page hpage hcurrent
    rw [hkeys, h.retired, List.mem_map]
    constructor
    · rintro ⟨item, hitem, stored, hstored, hholds, hpk⟩
      obtain ⟨page', hpage', hsame⟩ := exists_of_mapped h.mapped hstored
      have hone : page' = page := Table.eq_of_pk_eq (h.keys hsound) hpage' hpage
        ((pk_of_mapping hsame).trans hpk)
      have hkey := (holdsRole_iff.mp (holdsRole_of_mapping hsame hholds)).1
      exact ⟨item, hitem, hone ▸ hkey.symm⟩
    · rintro ⟨item, hitem, hkey⟩
      obtain ⟨stored, hstored, hsame⟩ := exists_of_mapped h.mapped.symm hpage
      refine ⟨item, hitem, stored, hstored, ?_, pk_of_mapping hsame⟩
      exact holdsRole_of_mapping hsame (holdsRole_iff.mpr ⟨hkey.symm, hcurrent⟩)

/-- The table right after `bulk_create`. -/
def createdPages (run : Nat) (work : PathWork) (stored : List (Nat × ProductPathRow)) :
    List ShopProductPage :=
  Lineage.revise work.retired
    (stored.mapIdx fun i item => newPage run (Table.nextPk work.pages + i) item) work.pages

theorem mem_createdPages {page : ShopProductPage} : page ∈ createdPages run work stored ↔
    (∃ old ∈ work.pages, (if old.pk ∈ work.retired then retirePage old else old) = page) ∨
      page ∈ stored.mapIdx fun i item => newPage run (Table.nextPk work.pages + i) item :=
  Lineage.mem_revise

/-- Retiring a page leaves its address. -/
theorem address_ite_retirePage {retired : Prop} [Decidable retired] (page : ShopProductPage) :
    address (if retired then retirePage page else page) = address page := by
  split <;> rfl

theorem address_createdPages : (createdPages run work stored).map address =
    work.pages.map address ++
    stored.map fun item => (item.1, item.2.pageRole, item.2.path) := by
  unfold createdPages Lineage.revise Table.updateWhere
  rw [List.map_append, List.map_map]
  congr 1
  · exact List.map_congr_left fun page _ => address_ite_retirePage page
  · exact Table.map_mapIdx fun _ _ => rfl

theorem nextPk_updateWhere (retired : List Nat) (pages : List ShopProductPage) :
    Table.nextPk (Table.updateWhere (·.pk ∈ retired) retirePage pages) = Table.nextPk pages := by
  have hpks : (Table.updateWhere (·.pk ∈ retired) retirePage pages).map Row.pk =
      pages.map Row.pk := by
    unfold Table.updateWhere
    rw [List.map_map]
    apply List.map_congr_left
    intro page _
    rw [Function.comp]
    split <;> rfl
  unfold Table.nextPk
  rw [hpks]

/-- What `bulk_create` leaves when it returns: no address twice. -/
theorem createPages_eq_ok {pages' : List ShopProductPage}
    (hok : createPages run work.created
      (Table.updateWhere (·.pk ∈ work.retired) retirePage work.pages) = .ok pages') :
    ∃ stored, work.created.mapM storePath = .ok stored ∧ pages' = createdPages run work stored ∧
      (pages'.map address).Nodup := by
  unfold createPages at hok
  obtain ⟨stored, hstored, hrest⟩ := bind_eq_ok_iff.mp hok
  rw [nextPk_updateWhere] at hrest
  dsimp only at hrest
  split at hrest
  · cases hrest
  · rename_i haddresses
    split at hrest
    · cases hrest
    · cases hrest
      exact ⟨stored, hstored, rfl, not_not.mp haddresses⟩

theorem createPages_returns (h : Looped pages wanted work) (hsound : PagesSound pages)
    (hroles : (wanted.map fun item => (item.1, item.2.pageRole)).Nodup)
    (hfits : ∀ item ∈ work.created, FitsColumn item.2.path) :
    createPages run work.created (Table.updateWhere (·.pk ∈ work.retired) retirePage work.pages) =
      .ok (createdPages run work work.created) := by
  have hlines : Lineage.Sound AnyPage (createdPages run work work.created) :=
    (h.sound hsound).lines.revise (fun _ _ _ _ _ => trivial) (h.revision hsound hroles rfl)
  have haddresses : ((createdPages run work work.created).map address).Nodup := by
    rw [address_createdPages, List.nodup_append]
    refine ⟨h.addresses hsound, ?_, ?_⟩
    · rw [h.created]
      apply List.Nodup.of_map fun at' : Nat × PageRole × String => (at'.1, at'.2.1)
      rw [List.map_map]
      exact hroles.sublist (List.filter_sublist.map _)
    · intro a ha b hb heq
      obtain ⟨page, hpage, rfl⟩ := List.mem_map.mp ha
      obtain ⟨item, hitem, rfl⟩ := List.mem_map.mp hb
      obtain ⟨old, hold, hsame⟩ := exists_of_mapped h.mapped.symm hpage
      have hknown := pageAt?_of_mem hsound.addresses hold ((address_of_mapping hsame).trans heq)
      rw [((mem_created h).mp hitem).2] at hknown
      cases hknown
  unfold createPages
  rw [stored_of_fits hfits, nextPk_updateWhere]
  show (if ¬ ((createdPages run work work.created).map address).Nodup then _ else
    if ¬ (((createdPages run work work.created).filter Revised.isCurrent).map Revised.key).Nodup
      then _ else _) = _
  rw [if_neg (not_not.mpr haddresses), if_neg (not_not.mpr hlines.nodup_currents)]
  rfl

theorem createdPages_sound (h : Looped pages wanted work) (hsound : PagesSound pages)
    (hroles : (wanted.map fun item => (item.1, item.2.pageRole)).Nodup)
    (hstored : work.created.mapM storePath = .ok stored)
    (haddresses : ((createdPages run work stored).map address).Nodup) :
    PagesSound (createdPages run work stored) := by
  refine ⟨(h.sound hsound).lines.revise (fun _ _ _ _ _ => trivial)
    (h.revision hsound hroles (stored_roles hstored)), haddresses, ?_⟩
  intro page hpage
  cases mem_createdPages.mp hpage with
  | inl hold =>
    obtain ⟨old, hold, rfl⟩ := hold
    have hpath : (if old.pk ∈ work.retired then retirePage old else old).path = old.path :=
      congrArg (·.2.2) (address_ite_retirePage old)
    rw [hpath]
    exact (h.sound hsound).widths old hold
  | inr hnew =>
    obtain ⟨i, hi, rfl⟩ := List.mem_mapIdx.mp hnew
    exact stored_fits hstored _ (List.getElem_mem hi)

theorem createdPages_kept (h : Looped pages wanted work) :
    ∀ page ∈ pages, ∃ page' ∈ createdPages run work stored, address page' = address page := by
  intro page hpage
  obtain ⟨page', hpage', hsame⟩ := exists_of_mapped h.mapped hpage
  exact ⟨_, mem_createdPages.mpr (Or.inl ⟨page', hpage', rfl⟩),
    (address_ite_retirePage page').trans (address_of_mapping hsame)⟩

/-- Stored as they are stated, the pages map every role. -/
theorem createdPages_maps (h : Looped pages wanted work) (hsound : PagesSound pages)
    (hroles : (wanted.map fun item => (item.1, item.2.pageRole)).Nodup)
    (hwritable : Writable pages wanted) :
    ∀ item ∈ wanted,
      MapsTo (createdPages run work work.created) item.1 item.2.pageRole item.2.path := by
  have hlines : Lineage.Sound AnyPage (createdPages run work work.created) :=
    (h.sound hsound).lines.revise (fun _ _ _ _ _ => trivial) (h.revision hsound hroles rfl)
  -- a page at a stated address that is current alone holds the role
  have hmaps {item : Nat × ProductPathRow} {page : ShopProductPage}
      (hpage : page ∈ createdPages run work work.created) (hcurrent : page.isCurrent = true)
      (hat : address page = (item.1, item.2.pageRole, item.2.path)) :
      MapsTo (createdPages run work work.created) item.1 item.2.pageRole item.2.path := by
    have hone := hlines.currents_eq_singleton hpage hcurrent
    rw [key_of_address hat] at hone
    refine ⟨page, ?_, congrArg (·.2.2) hat⟩
    rw [← hone]
    unfold Lineage.history
    rw [List.filter_filter]
    apply List.filter_congr
    intro other _
    rw [Bool.eq_iff_iff, holdsRole_iff, Bool.and_eq_true, decide_eq_true_iff]
    exact And.comm
  intro item hitem
  cases hknown : pageAt? pages item with
  | none =>
    -- created
    have hnew : item ∈ work.created := (mem_created h).mpr ⟨hitem, hknown⟩
    obtain ⟨i, hi, rfl⟩ := List.getElem_of_mem hnew
    exact hmaps (mem_createdPages.mpr (Or.inr (List.mem_mapIdx.mpr ⟨i, hi, rfl⟩))) rfl rfl
  | some stored =>
    -- in force already, and no new page takes the role over
    obtain ⟨hstored, hat⟩ := mem_of_pageAt? hknown
    obtain ⟨page, hpage, hsame⟩ := exists_of_mapped h.mapped hstored
    have hcurrent : stored.isCurrent = true := by
      rw [← Bool.not_eq_false]
      exact fun hretired => (hwritable item hitem).1 ⟨stored, hstored, hat, hretired⟩
    have hcurrent' := (isCurrent_of_mapping hsame).trans hcurrent
    have hat' := (address_of_mapping hsame).trans hat
    have hkept : ¬ page.pk ∈ work.retired := by
      intro hretired
      obtain ⟨item', hitem', holder, hholder, hholds, hpk⟩ := (h.retired _).mp hretired
      have hone : holder = stored := Table.eq_of_pk_eq hsound.lines.keys hholder hstored
        (hpk.trans (pk_of_mapping hsame))
      have hkey := (holdsRole_iff.mp hholds).1
      rw [hone, key_of_address hat] at hkey
      obtain ⟨hwanted, hunknown⟩ := (mem_created h).mp hitem'
      have hitems : item' = item := List.inj_on_of_nodup_map hroles hwanted hitem hkey.symm
      rw [hitems, hknown] at hunknown
      cases hunknown
    exact hmaps (mem_createdPages.mpr (Or.inl ⟨page, hpage, if_neg hkept⟩)) hcurrent' hat'

end Create

section Write

variable {package : ParsedPackage} {products : List ShopProduct} {run : Nat}
  {pages : List ShopProductPage} {wanted : List (Nat × ProductPathRow)}

theorem looped_nil (pages : List ShopProductPage) : Looped pages [] ⟨pages, [], []⟩ :=
  ⟨rfl, rfl, fun _ => ⟨fun h => absurd h List.not_mem_nil,
    fun ⟨_, h, _⟩ => absurd h List.not_mem_nil⟩⟩

/-- A write of the paths that returns met no retired address, and it keeps the pages sound and every
address stored. -/
theorem writePaths_sound {pages' : List ShopProductPage} {count : Nat}
    (hproducts : ProductsSound products) (hsound : PagesSound pages)
    (hroles : (package.productPaths.map fun row => (row.sourceProductId, row.pageRole)).Nodup)
    (hwanted : wantedPaths package products = .ok wanted)
    (hok : writePaths package products run pages = .ok (pages', count)) :
    (∀ item ∈ wanted, ¬ Retired pages item) ∧ PagesSound pages' ∧
      ∀ page ∈ pages, ∃ page' ∈ pages', address page' = address page := by
  obtain ⟨hkeys, -, -⟩ := wantedPaths_spec hproducts hroles hwanted
  unfold writePaths at hok
  obtain ⟨stated, hstated, hok⟩ := bind_eq_ok_iff.mp hok
  rw [hwanted] at hstated
  cases hstated
  obtain ⟨work, hloop, hok⟩ := bind_eq_ok_iff.mp hok
  obtain ⟨hfresh, hlooped⟩ := (loop_eq_ok hsound wanted (looped_nil pages)).1 work hloop
  rw [List.nil_append] at hlooped
  obtain ⟨created, hcreate, hok⟩ := bind_eq_ok_iff.mp hok
  cases hok
  obtain ⟨stored, hstored, rfl, haddresses⟩ := createPages_eq_ok hcreate
  exact ⟨hfresh, createdPages_sound hlooped hsound hkeys hstored haddresses,
    createdPages_kept hlooped⟩

/-- Writable paths are written, and every role is mapped as stated. -/
theorem writePaths_maps (hproducts : ProductsSound products) (hsound : PagesSound pages)
    (hroles : (package.productPaths.map fun row => (row.sourceProductId, row.pageRole)).Nodup)
    (hwanted : wantedPaths package products = .ok wanted) (hwritable : Writable pages wanted) :
    ∃ pages' count, writePaths package products run pages = .ok (pages', count) ∧
      ∀ item ∈ wanted, MapsTo pages' item.1 item.2.pageRole item.2.path := by
  obtain ⟨hkeys, -, -⟩ := wantedPaths_spec hproducts hroles hwanted
  obtain ⟨work, hloop⟩ := (loop_eq_ok hsound wanted (looped_nil pages)).2
    fun item hitem => (hwritable item hitem).1
  obtain ⟨-, hlooped⟩ := (loop_eq_ok hsound wanted (looped_nil pages)).1 work hloop
  rw [List.nil_append] at hlooped
  have hcreate := @createPages_returns pages work wanted run hlooped hsound hkeys
    fun item hitem => (hwritable item ((mem_created hlooped).mp hitem).1).2
  refine ⟨createdPages run work work.created, wanted.length, ?_,
    createdPages_maps hlooped hsound hkeys hwritable⟩
  exact bind_eq_ok_iff.mpr ⟨wanted, hwanted, bind_eq_ok_iff.mpr
    ⟨work, hloop, bind_eq_ok_iff.mpr ⟨_, hcreate, rfl⟩⟩⟩

/-- What a sound table maps a role to fits its column. -/
theorem MapsTo.fits {product : Nat} {role : PageRole} {path : String} (hsound : PagesSound pages)
    (h : MapsTo pages product role path) : FitsColumn path := by
  obtain ⟨page, hpages, rfl⟩ := h
  exact hsound.widths page (List.mem_of_mem_filter (hpages ▸ List.mem_singleton_self page))

end Write

end Dashkoda.Shop
