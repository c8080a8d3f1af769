import Dashkoda.Lib.Dict
import Dashkoda.Lib.Tally
import Mathlib.Algebra.Order.Group.Nat
import Mathlib.Data.List.Dedup

/-!
# Counting by key and by band

Rows are counted for every key they have, or for every band of a table their value falls into;
either way each row is counted once.
-/

namespace Lib

variable {α κ : Type*} [DecidableEq κ]

theorem total_one (rows : List α) : total (fun _ => 1) rows = rows.length := by
  induction rows with
  | nil => rfl
  | cons row rest ih => rw [total_cons, ih, List.length_cons, add_comm]

/-! ## Rows by key -/

theorem totalAt_one (key : α → κ) (rows : List α) (k : κ) :
    totalAt key (fun _ => 1) rows k = rows.countP fun row => key row = k := by
  unfold totalAt
  rw [total_one, List.countP_eq_length_filter]

/-- Over distinct keys, the rows that have one of them are counted once. -/
theorem total_countP (key : α → κ) (rows : List α) {keys : List κ} (hkeys : keys.Nodup) :
    total (fun k => rows.countP fun row => key row = k) keys = rows.countP fun row =>
      key row ∈ keys := by
  rw [total_congr fun k _ => (totalAt_one key rows k).symm,
    total_totalAt key _ rows hkeys, total_one,
    List.countP_eq_length_filter]

/-- Where every row has one of the keys, all are counted. -/
theorem total_countP_of_mem (key : α → κ) {rows : List α} {keys : List κ} (hkeys : keys.Nodup)
    (hall : ∀ row ∈ rows, key row ∈ keys) :
      total (fun k => rows.countP fun row => key row = k) keys = rows.length := by
  rw [total_countP key rows hkeys, List.countP_eq_length]
  exact fun row hrow => decide_eq_true (hall row hrow)

/-- `.values(key).annotate(count=Count("id"))`: the keys, and how many rows have each. -/
def countBy (key : α → κ) (rows : List α) : List (κ × Nat) :=
  (rows.map key).dedup.map fun k => (k, rows.countP fun row => key row = k)

theorem mem_countBy {key : α → κ} {rows : List α} {x : κ × Nat} :
    x ∈ countBy key rows ↔ x.1 ∈ rows.map key ∧ x.2 = rows.countP fun row => key row = x.1 := by
  unfold countBy
  rw [List.mem_map]
  constructor
  · rintro ⟨k, hk, rfl⟩
    exact ⟨List.mem_dedup.mp hk, rfl⟩
  · rintro ⟨hk, hcount⟩
    exact ⟨x.1, List.mem_dedup.mpr hk, Prod.ext rfl hcount.symm⟩

theorem keys_countBy (key : α → κ) (rows : List α) :
    (countBy key rows).map Prod.fst = (rows.map key).dedup := by
  unfold countBy
  rw [List.map_map]
  exact List.map_id _

/-- Every row is counted under its key. -/
theorem total_countBy (key : α → κ) (rows : List α) :
    total Prod.snd (countBy key rows) = rows.length := by
  unfold countBy
  rw [total_map]
  exact total_countP_of_mem key (List.nodup_dedup _) fun row hrow =>
    List.mem_dedup.mpr (List.mem_map_of_mem hrow)

theorem countP_key_eq_zero {key : α → κ} {rows : List α} {k : κ} (hk : k ∉ rows.map key) :
    (rows.countP fun row => key row = k) = 0 := by
  apply List.countP_eq_zero.mpr
  intro row hrow heq
  exact hk (of_decide_eq_true heq ▸ List.mem_map_of_mem hrow)

/-- Counting the counts again. -/
theorem totalAt_countBy (key : α → κ) (rows : List α) (k : κ) :
    totalAt Prod.fst Prod.snd (countBy key rows) k = rows.countP fun row => key row = k := by
  unfold totalAt countBy
  rw [total_filter, total_map]
  have hsingle : total (fun other => if k = other then rows.countP fun row => key row = k else 0)
      (rows.map key).dedup =
      if k ∈ (rows.map key).dedup then rows.countP fun row => key row = k else 0 :=
    total_ite_single (List.nodup_dedup _) k _
  have hterms : total (fun other => if decide (other = k) = true then rows.countP fun row =>
      key row = other else 0)
      (rows.map key).dedup = if k ∈ (rows.map key).dedup then rows.countP fun row =>
          key row = k else 0 := by
    rw [← hsingle]
    apply total_congr
    intro other _
    by_cases h : other = k
    · rw [h, if_pos (decide_eq_true rfl), if_pos rfl]
    · rw [if_neg (by simpa using h), if_neg (Ne.symm h)]
  refine hterms.trans ?_
  by_cases hk : k ∈ rows.map key
  · rw [if_pos (List.mem_dedup.mpr hk)]
  · rw [if_neg (mt List.mem_dedup.mp hk), countP_key_eq_zero hk]

/-- The count of a key is found in any order of the counts. -/
theorem find?_countBy {key : α → κ} {rows : List α} {counts : List (κ × Nat)}
    (hperm : counts.Perm (countBy key rows))
    (k : κ) : ((counts.find? (·.1 = k)).map Prod.snd).getD 0 = rows.countP fun row =>
      key row = k := by
  cases hfind : counts.find? (·.1 = k) with
  | none =>
    have hnone : k ∉ rows.map key := by
      intro hk
      have hmem := hperm.mem_iff.mpr (mem_countBy.mpr (⟨hk, rfl⟩ :
        (k, rows.countP fun row => key row = k).1 ∈ rows.map key ∧ _))
      simpa using List.find?_eq_none.mp hfind _ hmem
    exact (countP_key_eq_zero hnone).symm
  | some count =>
    have hkey : count.1 = k := by simpa using List.find?_some hfind
    have hcount := (mem_countBy.mp (hperm.mem_iff.mp (List.mem_of_find?_eq_some hfind))).2
    rw [hkey] at hcount
    exact hcount

namespace Dict

/-- What stands under a key is what was counted. -/
theorem get?_countBy (key : α → κ) (rows : List α) (k : κ) :
    ((ofList (countBy key rows)).get? k).getD 0 = rows.countP fun row => key row = k := by
  by_cases hk : k ∈ rows.map key
  · rw [show countBy key rows = (rows.map key).dedup.map fun k =>
      (k, rows.countP fun row => key row = k) from rfl,
      get?_ofList_map (List.nodup_dedup _) _ (List.mem_dedup.mpr hk)]
    rfl
  · have hnone : k ∉ (ofList (countBy key rows)).keys := by
      rw [mem_keys_ofList, keys_countBy, List.mem_dedup]
      exact hk
    rw [get?_eq_none_of_not_mem_keys hnone]
    exact (countP_key_eq_zero hk).symm

/-- `counts[key] = counts.get(key, 0) + n` -/
def countUp (d : Dict κ Nat) (key : κ) (n : Nat) : Dict κ Nat := d.set key ((d.get? key).getD 0 + n)

theorem get?_countUp (d : Dict κ Nat) (key other : κ) (n : Nat) :
    ((d.countUp key n).get? other).getD 0 = (d.get? other).getD 0 + if key = other then
      n else 0 := by
  unfold countUp
  by_cases h : key = other
  · rw [← h, get?_set_self, if_pos rfl]
    rfl
  · rw [get?_set_ne _ _ (Ne.symm h), if_neg h, add_zero]

/-- One pair after another is added to its key. -/
theorem get?_foldl_countUp (pairs : List (κ × Nat)) (d : Dict κ Nat) (key : κ) :
    ((pairs.foldl (fun d pair => d.countUp pair.1 pair.2) d).get? key).getD 0 =
      (d.get? key).getD 0 + totalAt Prod.fst Prod.snd pairs key := by
  induction pairs generalizing d with
  | nil => exact (add_zero _).symm
  | cons pair rest ih =>
    rw [List.foldl_cons, ih, get?_countUp, totalAt_cons, add_assoc]

theorem total_setEntries (f : α → Nat) (entries : List (κ × α)) (key : κ) (value : α) :
    total (fun entry => f entry.2) (setEntries entries key value) +
        ((entries.find? (·.1 = key)).map fun entry => f entry.2).getD 0 =
      total (fun entry => f entry.2) entries + f value := by
  induction entries with
  | nil => simp [setEntries]
  | cons entry rest ih =>
    unfold setEntries
    by_cases hkey : entry.1 = key
    · rw [if_pos hkey, List.find?_cons_of_pos (by simpa using hkey), total_cons, total_cons]
      exact (by omega : ∀ a b c : Nat, a + b + c = c + b + a) _ _ _
    · rw [if_neg hkey, List.find?_cons_of_neg (by simpa using hkey), total_cons, total_cons,
        add_assoc, ih, add_assoc]

/-- A value set under a key takes the place of the one that stood there. -/
theorem total_set (f : α → Nat) (d : Dict κ α) (key : κ) (value : α) :
    total (fun entry => f entry.2) (d.set key value).entries + ((d.get? key).map f).getD 0 =
      total (fun entry => f entry.2) d.entries + f value := by
  rw [← total_setEntries f d.entries key value]
  unfold get?
  rw [Option.map_map]
  rfl

end Dict

/-! ## Values by band -/

/-- A label and the values it stands for; the last band of a table has no upper end. -/
structure Band where
  label : String
  low : Int
  high : Option Int
  deriving DecidableEq

/-- A table of bands, one after another from its first value on. -/
structure Bands where
  list : List Band
  nonempty : list ≠ []
  labels_nodup : (list.map (·.label)).Nodup

def Band.Contains (band : Band) (value : Int) : Prop :=
  band.low ≤ value ∧ ∀ high, band.high = some high → value ≤ high

instance (band : Band) (value : Int) : Decidable (band.Contains value) :=
  decidable_of_iff (band.low ≤ value ∧ band.high.all (value ≤ ·)) (by
    unfold Band.Contains
    cases band.high with
    | none => simp
    | some high => simp)

namespace Bands

variable (bands : Bands)

def labels : List String := bands.list.map (·.label)

/-- The first band that contains a value, or the last one. -/
def labelFor (value : Int) : String :=
  ((bands.list.find? fun band => band.Contains value).getD
    (bands.list.getLast bands.nonempty)).label

theorem labelFor_mem (value : Int) : bands.labelFor value ∈ bands.labels := by
  unfold labelFor labels
  apply List.mem_map_of_mem
  cases hfind : bands.list.find? fun band => band.Contains value with
  | none => exact List.getLast_mem bands.nonempty
  | some band => exact List.mem_of_find?_eq_some hfind

/-- `counts[label] += 1` for every value, from a table of zeros. -/
def counts (values : List Int) : Dict String Nat :=
  values.foldl (fun d value => d.countUp (bands.labelFor value) 1)
    (Dict.ofList (bands.labels.map fun label => (label, 0)))

/-- The bands in their order, with what was counted. -/
def counted (values : List Int) : List (String × Nat) :=
  bands.labels.map fun label => (label, ((bands.counts values).get? label).getD 0)

/-- A band counts the values that fall into it. -/
theorem get?_counts (values : List Int) {label : String} (hlabel : label ∈ bands.labels) :
    ((bands.counts values).get? label).getD 0 = values.countP fun value =>
      bands.labelFor value = label := by
  have hzero :
      ((Dict.ofList (bands.labels.map fun label => (label, 0))).get? label).getD 0 = 0 := by
    have hnodup : bands.labels.Nodup := bands.labels_nodup
    rw [Dict.get?_ofList_map hnodup (fun _ => 0) hlabel]
    rfl
  have hfold : bands.counts values = (values.map fun value => (bands.labelFor value, 1)).foldl
      (fun d pair => d.countUp pair.1 pair.2)
        (Dict.ofList (bands.labels.map fun label => (label, 0))) := by
    rw [List.foldl_map]
    rfl
  rw [hfold, Dict.get?_foldl_countUp, hzero, zero_add]
  unfold totalAt
  rw [List.filter_map, total_map, List.countP_eq_length_filter, ← total_one]
  rfl

/-- Every value falls into one band. -/
theorem total_counted (values : List Int) : total Prod.snd (bands.counted values) =
    values.length := by
  unfold counted
  rw [total_map, total_congr fun label hlabel => bands.get?_counts values hlabel]
  exact total_countP_of_mem _ bands.labels_nodup fun value _ => bands.labelFor_mem value

end Bands

/-- A changed row is counted anew. -/
theorem countP_modify {α : Type*} {rows : List α} {index : Nat} {row : α} (f : α → α) (p : α → Bool)
    (h : rows[index]? = some row) :
    (rows.modify index f).countP p + (if p row then 1 else 0) = rows.countP p + if p (f row) then
      1 else 0 := by
  induction rows generalizing index with
  | nil => cases h
  | cons first rest ih =>
    cases index with
    | zero =>
      cases h
      rw [List.modify_zero_cons, List.countP_cons, List.countP_cons]
      omega
    | succ index =>
      rw [List.modify_succ_cons, List.countP_cons, List.countP_cons]
      have hrest := ih h
      omega

end Lib
