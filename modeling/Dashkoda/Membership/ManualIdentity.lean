import Dashkoda.Lib.DecimalText
import Dashkoda.Lib.IsoText
import Dashkoda.Lib.JsonCanonical
import Dashkoda.Membership.Manual

/-!
# When two typed reports are the same report

The identity of a report is the digest of its canonical text.  With a digest that tells texts apart
it tells two reports apart exactly when they say different things: surrounding blanks, the scale of
an amount and the order the fields arrived in do not matter, nor does the tick that confirms a date
change.
-/

open Lib

namespace Dashkoda.Membership

/-! ## Saying the same -/

/-- The same amount, in whatever scale. -/
def SameAmount (a b : Option Decimal) : Prop := a.map Decimal.toRat = b.map Decimal.toRat

structure SameFacts (a b : MetricFacts) : Prop where
  totalMembers : a.totalMembers = b.totalMembers
  paidMembers : a.paidMembers = b.paidMembers
  membershipFeesReceivedEur : SameAmount a.membershipFeesReceivedEur b.membershipFeesReceivedEur
  membershipFeeBudgetEur : SameAmount a.membershipFeeBudgetEur b.membershipFeeBudgetEur
  membershipFeeCollectionPctReported :
    SameAmount a.membershipFeeCollectionPctReported b.membershipFeeCollectionPctReported
  newMembersYtd : a.newMembersYtd = b.newMembersYtd
  suspendedMembers : a.suspendedMembers = b.suspendedMembers
  removedMembersYtd : a.removedMembersYtd = b.removedMembersYtd

/-- Two tables with the same count under every key. -/
def SameTable {κ : Type} [DecidableEq κ] (a b : Dict κ Nat) : Prop := ∀ key, a.get? key = b.get? key

structure SameReport (a b : ManualReport) : Prop where
  observationDate : a.observationDate = b.observationDate
  reportedYear : a.reportedYear = b.reportedYear
  documentTitle : PyText.strip a.documentTitle = PyText.strip b.documentTitle
  sourceNote : PyText.strip a.sourceNote = PyText.strip b.sourceNote
  facts : SameFacts a.facts b.facts
  monthlyYear : a.monthlyYear = b.monthlyYear
  monthlyNewMembers : SameTable a.monthlyNewMembers b.monthlyNewMembers
  joinedByBand : SameTable a.joinedByBand b.joinedByBand
  removedByBand : SameTable a.removedByBand b.removedByBand
  sizeTableComplete : a.sizeTableComplete = b.sizeTableComplete
  removalReasons : SameTable a.removalReasons b.removalReasons
  otherReasonLabel : PyText.strip a.otherReasonLabel = PyText.strip b.otherReasonLabel
  otherReasonCount : a.otherReasonCount = b.otherReasonCount
  reasonsComplete : a.reasonsComplete = b.reasonsComplete
  supersedesId : a.supersedesId = b.supersedesId

def MetricFacts.amounts (facts : MetricFacts) : List Decimal :=
  facts.membershipFeesReceivedEur.toList ++ facts.membershipFeeBudgetEur.toList ++
    facts.membershipFeeCollectionPctReported.toList

/-- Amounts with no more digits than the context keeps; the form takes at most 14. -/
def AmountsFit (report : ManualReport) : Prop :=
  ∀ amount ∈ report.facts.amounts, amount.WithinPrecision

instance (report : ManualReport) : Decidable (AmountsFit report) :=
  inferInstanceAs (Decidable (∀ amount ∈ report.facts.amounts, amount.WithinPrecision))

/-! ## The parts of the canonical text -/

section Parts

theorem canon_jsonNat_eq_iff {m n : Nat} : (jsonNat m).canon = (jsonNat n).canon ↔ m = n :=
  Json.canon_int_eq_iff.trans Int.ofNat_inj

theorem canon_ofOption_jsonNat_eq_iff {a b : Option Nat} :
    (Json.ofOption jsonNat a).canon = (Json.ofOption jsonNat b).canon ↔ a = b :=
  Json.canon_ofOption_eq_iff (fun _ _ => canon_jsonNat_eq_iff) fun _ h => (by cases h)

theorem canon_decimalText_eq_iff {a b : Option Decimal} (ha : ∀ d ∈ a, d.WithinPrecision)
    (hb : ∀ d ∈ b, d.WithinPrecision) : (decimalText a).canon = (decimalText b).canon ↔
    SameAmount a b := by
  unfold SameAmount
  cases a with
  | none =>
    cases b with
    | none => exact ⟨fun _ => rfl, fun _ => rfl⟩
    | some d' => exact ⟨fun h => (by cases h), fun h => (by cases h)⟩
  | some d =>
    cases b with
    | none => exact ⟨fun h => (by cases h), fun h => (by cases h)⟩
    | some d' =>
      have hnormal := Decimal.normalize_eq_iff (ha d rfl) (hb d' rfl)
      constructor
      · intro h
        exact congrArg some (hnormal.mp (Decimal.str_injective (Json.str.inj h)))
      · intro h
        have hsame := hnormal.mpr (Option.some.inj h)
        show (Json.str d.normalize.str).canon = (Json.str d'.normalize.str).canon
        rw [hsame]

theorem canon_jsonNat_inj (a b : Nat) (h : (jsonNat a).canon = (jsonNat b).canon) : a = b :=
  canon_jsonNat_eq_iff.mp h

theorem toString_nat_injective : Function.Injective fun n : Nat => toString n := by
  intro a b heq
  have hlist : Nat.toDigits 10 a = Nat.toDigits 10 b := by
    rw [← Nat.toList_repr, ← Nat.toList_repr]
    exact congrArg String.toList heq
  rw [← @Nat.ofDigitChars_ten_toDigits a, hlist, Nat.ofDigitChars_ten_toDigits]

theorem sizeBand_value_injective : Function.Injective SizeBand.value := by
  intro a b
  cases a <;> cases b <;> first | exact fun _ => rfl | exact fun h => absurd h (by decide)

theorem removalReasonKey_value_injective : Function.Injective RemovalReasonKey.value := by
  intro a b
  cases a <;> cases b <;> first | exact fun _ => rfl | exact fun h => absurd h (by decide)

end Parts

/-! ## The date -/

section IsoDate

theorem twoDigits_toList (n : Nat) : ∃ zeros, (twoDigits n).toList = padded zeros n := by
  unfold twoDigits
  split
  · exact ⟨1, by rw [String.toList_append]; exact congrArg _ Nat.toList_repr⟩
  · exact ⟨0, Nat.toList_repr⟩

theorem isoDate_injective : Function.Injective isoDate := by
  have htext (date : Date) : ∃ y m d, (isoDate date).toList =
      padded y date.year ++ '-' :: (padded m date.month ++ '-' :: padded d date.day) := by
    obtain ⟨m, hm⟩ := twoDigits_toList date.month
    obtain ⟨d, hd⟩ := twoDigits_toList date.day
    refine ⟨4 - (toString date.year).length, m, d, ?_⟩
    unfold isoDate
    rw [String.toList_append, String.toList_append, String.toList_append, String.toList_append,
      String.toList_append, String.toList_ofList, hm, hd,
      show (toString date.year).toList = Nat.toDigits 10 date.year from Nat.toList_repr]
    show (padded _ _ ++ ['-'] ++ padded _ _ ++ ['-']) ++ padded _ _ = _
    simp
  intro a b heq
  obtain ⟨y, m, d, ha⟩ := htext a
  obtain ⟨y', m', d', hb⟩ := htext b
  have hchars := congrArg String.toList heq
  rw [ha, hb] at hchars
  exact Date.eq_of_padded_eq hchars

end IsoDate

/-! ## The canonical text -/

section Canonical

variable {a b : ManualReport}

def factsPayload (facts : MetricFacts) : Json :=
  .obj
    [("total_members", Json.ofOption jsonNat facts.totalMembers),
      ("paid_members", Json.ofOption jsonNat facts.paidMembers),
      ("membership_fees_received_eur", decimalText facts.membershipFeesReceivedEur),
      ("membership_fee_budget_eur", decimalText facts.membershipFeeBudgetEur),
      ("membership_fee_collection_pct_reported",
        decimalText facts.membershipFeeCollectionPctReported),
      ("new_members_ytd", Json.ofOption jsonNat facts.newMembersYtd),
      ("suspended_members", Json.ofOption jsonNat facts.suspendedMembers),
      ("removed_members_ytd", Json.ofOption jsonNat facts.removedMembersYtd)]

theorem canon_factsPayload_eq_iff (ha : AmountsFit a) (hb : AmountsFit b) :
    (factsPayload a.facts).canon = (factsPayload b.facts).canon ↔ SameFacts a.facts b.facts := by
  have hfees {report : ManualReport} (h : AmountsFit report) :
      ∀ d ∈ report.facts.membershipFeesReceivedEur, d.WithinPrecision := fun d hd =>
    h d (List.mem_append_left _ (List.mem_append_left _ (Option.mem_toList.mpr hd)))
  have hbudget {report : ManualReport} (h : AmountsFit report) :
      ∀ d ∈ report.facts.membershipFeeBudgetEur, d.WithinPrecision := fun d hd =>
    h d (List.mem_append_left _ (List.mem_append_right _ (Option.mem_toList.mpr hd)))
  have hpct {report : ManualReport} (h : AmountsFit report) :
      ∀ d ∈ report.facts.membershipFeeCollectionPctReported, d.WithinPrecision := fun d hd =>
    h d (List.mem_append_right _ (Option.mem_toList.mpr hd))
  unfold factsPayload
  refine Iff.trans
    (Json.canon_obj_eq_iff ["total_members", "paid_members", "membership_fees_received_eur",
    "membership_fee_budget_eur", "membership_fee_collection_pct_reported", "new_members_ytd",
    "suspended_members",
    "removed_members_ytd"] (by decide) rfl rfl) ?_
  simp only [List.map_cons, List.map_nil, Json.canonField, List.cons.injEq, Prod.mk.injEq,
    true_and, and_true,
    canon_ofOption_jsonNat_eq_iff, canon_decimalText_eq_iff (hfees ha) (hfees hb),
    canon_decimalText_eq_iff (hbudget ha) (hbudget hb),
    canon_decimalText_eq_iff (hpct ha) (hpct hb)]
  constructor
  · rintro ⟨h₁, h₂, h₃, h₄, h₅, h₆, h₇, h₈⟩
    exact ⟨h₁, h₂, h₃, h₄, h₅, h₆, h₇, h₈⟩
  · rintro ⟨h₁, h₂, h₃, h₄, h₅, h₆, h₇, h₈⟩
    exact ⟨h₁, h₂, h₃, h₄, h₅, h₆, h₇, h₈⟩

theorem canon_canonicalPayload_eq_iff (ha : AmountsFit a) (hb : AmountsFit b) :
    (canonicalPayload a).canon = (canonicalPayload b).canon ↔ SameReport a b := by
  unfold canonicalPayload
  refine Iff.trans
    (Json.canon_obj_eq_iff ["schema", "observation_date", "reported_year", "document_title",
    "source_note", "facts", "monthly_year", "monthly_new_members", "joined_by_band",
    "removed_by_band",
    "size_table_complete", "removal_reasons", "other_reason_label", "other_reason_count",
    "reasons_complete",
    "supersedes_id"] (by decide) rfl rfl) ?_
  have hfacts := canon_factsPayload_eq_iff ha hb
  unfold factsPayload at hfacts
  simp only [List.map_cons, List.map_nil, Json.canonField, List.cons.injEq, Prod.mk.injEq,
    true_and, and_true,
    canon_ofOption_jsonNat_eq_iff, Json.canon_str_eq_iff, Json.canon_bool_eq_iff, hfacts,
    Json.canon_obj_dict_eq_iff toString_nat_injective canon_jsonNat_inj,
    Json.canon_obj_dict_eq_iff sizeBand_value_injective canon_jsonNat_inj,
    Json.canon_obj_dict_eq_iff removalReasonKey_value_injective canon_jsonNat_inj,
    isoDate_injective.eq_iff]
  constructor
  · rintro ⟨h₁, h₂, h₃, h₄, h₅, h₆, h₇, h₈, h₉, h₁₀, h₁₁, h₁₂, h₁₃, h₁₄, h₁₅⟩
    exact ⟨h₁, h₂, h₃, h₄, h₅, h₆, h₇, h₈, h₉, h₁₀, h₁₁, h₁₂, h₁₃, h₁₄, h₁₅⟩
  · rintro ⟨h₁, h₂, h₃, h₄, h₅, h₆, h₇, h₈, h₉, h₁₀, h₁₁, h₁₂, h₁₃, h₁₄, h₁₅⟩
    exact ⟨h₁, h₂, h₃, h₄, h₅, h₆, h₇, h₈, h₉, h₁₀, h₁₁, h₁₂, h₁₃, h₁₄, h₁₅⟩

/-- The identity of a report is what it says. -/
theorem canonicalSha256_eq_iff {sha256 : String → String} (hsha : Function.Injective sha256)
    (ha : AmountsFit a) (hb : AmountsFit b) :
    canonicalSha256 sha256 a = canonicalSha256 sha256 b ↔ SameReport a b := by
  unfold canonicalSha256 canonicalJson
  rw [hsha.eq_iff, String.ofList_inj, Json.chars_eq_iff, canon_canonicalPayload_eq_iff ha hb]

end Canonical

end Dashkoda.Membership
