import Dashkoda.Lib.Dict
import Dashkoda.Lib.Json
import Dashkoda.Membership.Publishing

/-!
# Entering one board report by hand

The canonical identity of a report, the preview that blocks or warns, and the publication that
writes the report in one transaction.
-/

open Lib

namespace Dashkoda.Membership

open Sources (Time Registry SourceArtifact ImportRun)

def importerName : String := "membership_manual_entry"

def manualSchemaVersion : String := "1.0"

/-- `SUBSTANTIAL_CHANGE_RATIO` -/
def substantialChangeRatio : ℚ := 15 / 100

structure ManualReport where
  observationDate : Date
  reportedYear : Option Nat
  documentTitle : String
  sourceNote : String
  facts : MetricFacts
  monthlyYear : Option Nat
  monthlyNewMembers : Dict Nat Nat
  joinedByBand : Dict SizeBand Nat
  removedByBand : Dict SizeBand Nat
  sizeTableComplete : Bool
  removalReasons : Dict RemovalReasonKey Nat
  otherReasonLabel : String
  otherReasonCount : Option Nat
  reasonsComplete : Bool
  supersedesId : Option Nat
  confirmDateChange : Bool

/-! ## The canonical identity -/

/-- Decimal text with at least two digits. -/
def twoDigits (n : Nat) : String := if n < 10 then "0" ++ toString n else toString n

def isoDate (date : Date) : String :=
  String.ofList (List.replicate (4 - (toString date.year).length) '0') ++ toString date.year ++
    "-" ++ twoDigits date.month ++ "-" ++ twoDigits date.day

/-- `_decimal_text` -/
def decimalText (value : Option Decimal) : Json :=
  Json.ofOption (fun d => .str d.normalize.str) value

def jsonNat (n : Nat) : Json := .int n

def canonicalPayload (report : ManualReport) : Json :=
  .obj
    [("schema", .str manualSchemaVersion),
      ("observation_date", .str (isoDate report.observationDate)),
      ("reported_year", Json.ofOption jsonNat report.reportedYear),
      ("document_title", .str (PyText.strip report.documentTitle)),
      ("source_note", .str (PyText.strip report.sourceNote)),
      ("facts", .obj
        [("total_members", Json.ofOption jsonNat report.facts.totalMembers),
          ("paid_members", Json.ofOption jsonNat report.facts.paidMembers),
          ("membership_fees_received_eur", decimalText report.facts.membershipFeesReceivedEur),
          ("membership_fee_budget_eur", decimalText report.facts.membershipFeeBudgetEur),
          ("membership_fee_collection_pct_reported",
            decimalText report.facts.membershipFeeCollectionPctReported),
          ("new_members_ytd", Json.ofOption jsonNat report.facts.newMembersYtd),
          ("suspended_members", Json.ofOption jsonNat report.facts.suspendedMembers),
          ("removed_members_ytd", Json.ofOption jsonNat report.facts.removedMembersYtd)]),
      ("monthly_year", Json.ofOption jsonNat report.monthlyYear),
      ("monthly_new_members", .obj (report.monthlyNewMembers.entries.map fun entry =>
        (toString entry.1, jsonNat entry.2))),
      ("joined_by_band", .obj (report.joinedByBand.entries.map fun entry =>
        (entry.1.value, jsonNat entry.2))),
      ("removed_by_band", .obj (report.removedByBand.entries.map fun entry =>
        (entry.1.value, jsonNat entry.2))),
      ("size_table_complete", .bool report.sizeTableComplete),
      ("removal_reasons", .obj (report.removalReasons.entries.map fun entry =>
        (entry.1.value, jsonNat entry.2))),
      ("other_reason_label", .str (PyText.strip report.otherReasonLabel)),
      ("other_reason_count", Json.ofOption jsonNat report.otherReasonCount),
      ("reasons_complete", .bool report.reasonsComplete),
      ("supersedes_id", Json.ofOption jsonNat report.supersedesId)]

def canonicalJson (report : ManualReport) : List Char := (canonicalPayload report).chars

/-- `len(text.encode("utf-8"))` -/
def utf8Length (text : List Char) : Nat := (text.map Char.utf8Size).sum

def canonicalSha256 (sha256 : String → String) (report : ManualReport) : String :=
  sha256 (String.ofList (canonicalJson report))

/-! ## Validation and preview -/

structure ManualPreview where
  computedCollectionPct : Option ℚ
  reportedCollectionPct : Option Decimal
  collectionDifference : Option ℚ
  monthlySumToObservationMonth : Option Nat
  monthlyVsNewMembersYtd : Option Int
  joinedTotal : Option Nat
  removedTotal : Option Nat
  reasonTotal : Option Nat
  paidMemberSharePct : Option ℚ
  warnings : List String
  errors : List String
  supersededObservation : Option Observation
  qualityStatus : QualityStatus
  withheldMetrics : List MetricField

/-- `_sum_or_none` -/
def sumOrNone : List Nat → Option Nat
  | [] => none
  | values => some values.sum

/-- The newest row among those that pass `p`, by observation date. -/
def newestBy (p : Observation → Bool) (rows : List Observation) : Option Observation :=
  minOn? (fun row => OrderDual.toDual row.observationDate) (rows.filter p)

def latestPreferred (rows : List Observation) (source : Nat) : Option Observation :=
  newestBy (fun row => row.source = source && row.isPreferredForDate) rows

/-- `_previous_preferred` -/
def previousPreferred (rows : List Observation) (source : Nat) (date : Date) :
    Option Observation :=
  newestBy
    (fun row => row.source = source && row.isPreferredForDate && row.observationDate < date) rows

/-- `message` when two stated totals differ. -/
def totalMismatch (checked : Bool) (total stated : Option Nat) (message : String) : List String :=
  match checked, total, stated with
  | true, some total, some stated => if total ≠ stated then [message] else []
  | _, _, _ => []

def futureMonthErrors (report : ManualReport) : List String :=
  match report.monthlyYear with
  | none => []
  | some year =>
    (report.monthlyNewMembers.keys.filter fun month =>
      report.observationDate.year < year ||
        (year = report.observationDate.year && report.observationDate.month < month)).map
      fun month => "Vaatluse kuupäevast hilisemat kuud ei saa täita: " ++ toString year ++ "-" ++
        twoDigits month ++ "."

def reasonTotal (report : ManualReport) : Option Nat :=
  sumOrNone (report.removalReasons.values ++ report.otherReasonCount.toList)

/-- The errors about the report on its own, in the order the form shows them. -/
def reportErrors (report : ManualReport) : List String :=
  (match report.facts.paidMembers, report.facts.totalMembers with
    | some paid, some total =>
      if total < paid then ["Tasunud liikmeid ei saa olla rohkem kui liikmeid kokku."] else []
    | _, _ => []) ++
  futureMonthErrors report ++
  totalMismatch report.sizeTableComplete (sumOrNone report.joinedByBand.values)
    report.facts.newMembersYtd
    "Täidetud suurusklasside liitunute summa ei klapi uute liikmete arvuga." ++
  totalMismatch report.sizeTableComplete (sumOrNone report.removedByBand.values)
    report.facts.removedMembersYtd
    "Täidetud suurusklasside lahkunute summa ei klapi väljaarvatute arvuga." ++
  totalMismatch report.reasonsComplete (reasonTotal report) report.facts.removedMembersYtd
    "Lahkumise põhjuste summa ei klapi väljaarvatute arvuga."

def correctedRow (rows : List Observation) (source : Nat) (report : ManualReport) :
    Option Observation :=
  report.supersedesId.bind fun pk =>
    (Table.get? rows pk).filter fun row => row.source = source

def correctionErrors (rows : List Observation) (source : Nat) (report : ManualReport) :
    List String :=
  match report.supersedesId, correctedRow rows source report with
  | none, _ => []
  | some _, none => ["Parandatavat vaatlust ei leitud."]
  | some _, some row =>
    if row.observationDate ≠ report.observationDate && !report.confirmDateChange then
      ["Parandatava vaatluse kuupäev erineb sisestatust. Kinnita kuupäeva muutmine eraldi."]
    else []

def correctionWarnings (rows : List Observation) (source : Nat) (report : ManualReport) :
    List String :=
  match correctedRow rows source report with
  | none => []
  | some row =>
    if row.observationDate ≠ report.observationDate && report.confirmDateChange then
      ["Parandus salvestatakse asendatavast erinevale kuupäevale."]
    else []

def collectionWarnings (facts : MetricFacts) : List String :=
  match collectionIsConsistent facts.membershipFeeCollectionPctReported
      facts.membershipFeesReceivedEur facts.membershipFeeBudgetEur,
    facts.membershipFeeCollectionPctReported with
  | some false, _ =>
    ["Raporteeritud laekumise protsent erineb laekunud summa ja eelarve suhtest."]
  | _, some reported =>
    if 100 < reported.toRat then
      ["Laekumise protsent on üle 100. See on lubatud, kui laekumine ületab eelarvet."]
    else []
  | _, none => []

def monthlySumToObservationMonth (report : ManualReport) : Option Nat :=
  if report.monthlyYear = some report.observationDate.year then
    sumOrNone ((report.monthlyNewMembers.entries.filter fun entry =>
      entry.1 ≤ report.observationDate.month).map (·.2))
  else none

def monthlyGap (report : ManualReport) : Option Int :=
  match monthlySumToObservationMonth report, report.facts.newMembersYtd with
  | some total, some stated => some (total - stated)
  | _, _ => none

def substantialChange (rows : List Observation) (source : Nat) (report : ManualReport) : Bool :=
  match previousPreferred rows source report.observationDate, report.facts.totalMembers with
  | some previous, some total =>
    match previous.facts.totalMembers with
    | some before =>
      0 < before && decide (substantialChangeRatio <
        Decimal.div |Decimal.sub total before| before)
    | none => false
  | _, _ => false

def warn (condition : Bool) (message : String) : List String := if condition then [message] else []

def previewWarnings (rows : List Observation) (source : Nat) (report : ManualReport) :
    List String :=
  collectionWarnings report.facts ++
  warn (monthlyGap report ≠ none && monthlyGap report ≠ some 0)
    "Kuude summa erineb aasta algusest lisandunute arvust." ++
  warn ((latestPreferred rows source).any fun latest =>
      report.observationDate < latest.observationDate)
    "Lisatav aruanne on vanem kui viimane olemasolev vaatlus." ++
  warn (substantialChange rows source report)
    "Liikmete arv erineb eelmisest vaatlusest märkimisväärselt." ++
  warn (report.joinedByBand.isEmpty && report.removedByBand.isEmpty)
    "Suurusklasside jaotus jäi täitmata." ++
  warn (report.removalReasons.isEmpty && report.otherReasonCount.isNone)
    "Lahkumise põhjused jäid täitmata." ++
  correctionWarnings rows source report

/-- A value the preview rounds to cents; a result too long for the context raises. -/
def cents : Option ℚ → Except MembershipError (Option ℚ)
  | none => .ok none
  | some q =>
    match Decimal.quantizeCents q with
    | none => .error .invalidOperation
    | some rounded => .ok (some rounded)

def paidShare (facts : MetricFacts) : Option ℚ :=
  match facts.totalMembers, facts.paidMembers with
  | some total, some paid =>
    if 0 < total then some (Decimal.mul (Decimal.div paid total) 100) else none
  | _, _ => none

def collectionGap (facts : MetricFacts) : Option ℚ :=
  match computedCollectionPct facts.membershipFeesReceivedEur facts.membershipFeeBudgetEur,
    facts.membershipFeeCollectionPctReported with
  | some computed, some reported => some (Decimal.sub reported.toRat computed)
  | _, _ => none

def buildPreview (rows : List Observation) (source : Nat) (report : ManualReport) :
    Except MembershipError ManualPreview :=
  match cents (collectionGap report.facts) with
  | .error e => .error e
  | .ok difference =>
    match cents (paidShare report.facts) with
    | .error e => .error e
    | .ok share =>
      let assessment := assess report.facts [] false []
      .ok
        { computedCollectionPct := computedCollectionPct report.facts.membershipFeesReceivedEur
            report.facts.membershipFeeBudgetEur
          reportedCollectionPct := report.facts.membershipFeeCollectionPctReported
          collectionDifference := difference
          monthlySumToObservationMonth := monthlySumToObservationMonth report
          monthlyVsNewMembersYtd := monthlyGap report
          joinedTotal := sumOrNone report.joinedByBand.values
          removedTotal := sumOrNone report.removedByBand.values
          reasonTotal := reasonTotal report
          paidMemberSharePct := share
          warnings := previewWarnings rows source report
          errors := reportErrors report ++ correctionErrors rows source report
          supersededObservation := correctedRow rows source report
          qualityStatus := assessment.qualityStatus
          withheldMetrics := assessment.withheldMetrics }

/-! ## Publication -/

/-- `_existing_observation` -/
def existingObservation (db : MembershipDb) (source : Nat) (contentSha256 : String) :
    Option Observation :=
  -- the table's default order: newest date first, then highest key
  minOn? (fun row => toLex (OrderDual.toDual row.observationDate, OrderDual.toDual row.pk))
    (db.observations.filter fun row =>
      row.source = source &&
        (Table.get? db.registry.artifacts row.artifact).any fun artifact =>
          artifact.sha256 = contentSha256)

/-- The artifact that carries this content identity, registered when it is new. -/
def artifactFor (registry : Registry) (source : Nat) (contentSha256 : String) (sizeBytes : Nat) :
    Except MembershipError (Registry × SourceArtifact) :=
  match registry.artifacts.find? fun a => a.source = source && a.sha256 = contentSha256 with
  | some artifact => .ok (registry, artifact)
  | none =>
    (Sources.registerExternalReference registry source contentSha256 sizeBytes).mapError .registry

/-- `_document_for` -/
def documentFor (documents : List SourceDocument) (report : ManualReport) (source : Nat)
    (importRun : Nat) : Option SourceDocument :=
  let title := PyText.strip report.documentTitle
  if title = "" then none
  else some
    { pk := Table.nextPk documents
      source := source
      importRun := importRun
      documentTitle := PyText.take 400 title
      extractionStatus := "manual"
      observationDate := some report.observationDate
      dateSource := "manual_entry"
      dateConfidence := .manualVerified
      documentYearClaim := report.reportedYear }

def movementsFor (observation : Nat) (direction : MovementDirection) (byBand : Dict SizeBand Nat) :
    List SizeMovement :=
  (sortOn (·.1.value) byBand.entries).map fun entry =>
    { observation := observation
      direction := direction
      sizeBandKey := entry.1
      sizeBandLabelRaw := entry.1.label
      memberCount := some entry.2
      totalReported := sumOrNone byBand.values
      extractionConfidence := .manualVerified }

def reasonsFor (observation : Nat) (report : ManualReport) : List RemovalReason :=
  ((sortOn (·.1.value) report.removalReasons.entries).map fun entry =>
    { observation := observation
      reasonKey := entry.1
      reasonLabelRaw := entry.1.label
      memberCount := some entry.2
      removedTotalReported := report.facts.removedMembersYtd
      extractionConfidence := .manualVerified }) ++
  report.otherReasonCount.toList.map fun count =>
    { observation := observation
      reasonKey := .other
      reasonLabelRaw := PyText.take 300 (PyText.strip report.otherReasonLabel)
      memberCount := some count
      removedTotalReported := report.facts.removedMembersYtd
      extractionConfidence := .manualVerified }

/-- `_write_children`; the count of rows written is their number. -/
def writeChildren (db : MembershipDb) (observation : Nat) (report : ManualReport) :
    Except MembershipError (MembershipDb × Nat) :=
  let movements := movementsFor observation .joined report.joinedByBand ++
    movementsFor observation .removed report.removedByBand
  let reasons := reasonsFor observation report
  if (reasons.map fun reason => (reason.reasonKey, reason.reasonLabelRaw)).Nodup then
    .ok ({ db with
      sizeMovements := db.sizeMovements ++ movements
      removalReasons := db.removalReasons ++ reasons }, movements.length + reasons.length)
  else .error (.integrity "membershipremovalreason_unique_reason_per_observation")

/-- One month of `_write_monthly`. -/
def writeMonth (source importRun year : Nat) (values : List MonthlyValue) (entry : Nat × Nat) :
    Except MembershipError (List MonthlyValue) :=
  let value : MonthlyValue :=
    { pk := Table.nextPk values
      source := source
      importRun := importRun
      calendarYear := year
      calendarMonth := entry.1
      newMembers := some entry.2
      valueStatus := .manualVerified
      sourceCount := 1
      isCurrentForMonth := false }
  match value.brokenCheck with
  | some constraint => .error (.integrity constraint)
  | none => .ok (publishMonthlyValue (values ++ [value]) value)

/-- `_write_monthly` -/
def writeMonthly (values : List MonthlyValue) (report : ManualReport) (source importRun : Nat) :
    Except MembershipError (List MonthlyValue × Nat) :=
  match report.monthlyYear with
  | none => .ok (values, 0)
  | some year =>
    let months := sortOn (·.1) report.monthlyNewMembers.entries
    match months.foldlM (writeMonth source importRun year) values with
    | .error e => .error e
    | .ok values' => .ok (values', months.length)

def observationFor (rows : List Observation) (report : ManualReport)
    (source artifact importRun : Nat) (document : Option SourceDocument)
    (superseded : Option Observation) (now : Time) :
    Observation :=
  let assessment := assess report.facts [] false []
  { pk := Table.nextPk rows
    source := source
    artifact := artifact
    importRun := importRun
    observationDate := report.observationDate
    sourceKind := .manual
    reportedYear := some ((report.reportedYear.filter (· ≠ 0)).getD report.observationDate.year)
    facts := report.facts
    extractionConfidence := .manualVerified
    qualityStatus := assessment.qualityStatus
    isPreferredForDate := false
    supersedes := superseded.map (·.pk)
    sourceDocument := document.map (·.pk)
    sourceNote := PyText.strip report.sourceNote
    warningCodes := assessment.warningCodes
    publishedAt := some now }

/-- The rows of one accepted report, from its opened run to its completed one. -/
def writeReport (db : MembershipDb) (source : Nat) (report : ManualReport)
    (superseded : Option Observation) (artifact : SourceArtifact) (run : ImportRun) (now : Time) :
    Except MembershipError (MembershipDb × Nat) :=
  let document := documentFor db.documents report source run.pk
  let observation := observationFor db.observations report source artifact.pk run.pk document
    superseded now
  match observation.brokenCheck with
  | some constraint => .error (.integrity constraint)
  | none =>
    let db₁ := { db with
      documents := db.documents ++ document.toList
      observations := db.observations ++ [observation] }
    match writeChildren db₁ observation.pk report with
    | .error e => .error e
    | .ok (db₂, childRows) =>
      match writeMonthly db₂.monthlyValues report source run.pk with
      | .error e => .error e
      | .ok (values, monthlyRows) =>
        match publishObservation db₂.observations observation.pk (superseded.map (·.pk)) now with
        | .error e => .error e
        | .ok rows =>
          match Sources.completeRun db₂.registry run now
              ⟨1 + childRows + monthlyRows, 0, 0, []⟩ with
          | .error e => .error (.registry e)
          | .ok registry =>
            .ok ({ db₂ with registry := registry, observations := rows, monthlyValues := values },
              observation.pk)

/-- `publish_manual_report`, in its own transaction, with the key of the observation it returns. -/
def publishManualReport (sha256 : String → String) (source : Nat) (db : MembershipDb)
    (report : ManualReport) (now : Time) : Except MembershipError (MembershipDb × Nat) :=
  match buildPreview db.observations source report with
  | .error e => .error e
  | .ok preview =>
    match preview.errors with
    | message :: _ => .error (.manualEntry message)
    | [] =>
      let contentSha256 := canonicalSha256 sha256 report
      match existingObservation db source contentSha256 with
      | some duplicate => .ok (db, duplicate.pk)
      | none =>
        match artifactFor db.registry source contentSha256 (utf8Length (canonicalJson report)) with
        | .error e => .error e
        | .ok (registry, artifact) =>
          match Sources.buildImportRun sha256 registry artifact importerName manualSchemaVersion
              false with
          | .error e => .error (.registry e)
          | .ok (registry, run) =>
            match Sources.startRun registry run now with
            | .error e => .error (.registry e)
            | .ok (registry, run) =>
              writeReport { db with registry := registry } source report
                preview.supersededObservation artifact run now

end Dashkoda.Membership
