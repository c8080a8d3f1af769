import Dashkoda.Lib.Dict
import Dashkoda.Lib.JsonText
import Dashkoda.Visibility.Models
import Mathlib.Algebra.Ring.Int.Defs
import Mathlib.Data.List.Infix

/-!
# Which segments make up which newsletter

A registry names the segments of each newsletter by id, with a token that their names still have to
contain.  A newsletter with a part that is missing or renamed has no figure.
-/

open Lib

namespace Dashkoda.Visibility

open Core (ContentIdentity)

def SMAILY_SCHEMA_VERSION : String := "1.0"

/-! ## A reading -/

structure SegmentReading where
  observedOn : Date
  segments : List SegmentRow
  deriving DecidableEq

def SegmentRow.payload (row : SegmentRow) : Json :=
  .obj [("segment_id", .int row.segmentId), ("name", .str row.name),
    ("subscribers", .int row.subscribers)]

namespace SegmentReading

/-- `by_id` -/
def byId (reading : SegmentReading) : Dict Int SegmentRow :=
  Dict.ofList (reading.segments.map fun row => (row.segmentId, row))

def canonicalPayload (reading : SegmentReading) : Json :=
  .obj [("schema", .str SMAILY_SCHEMA_VERSION), ("kind", .str "segments"),
    ("observed_on", .str reading.observedOn.isoformat),
    ("segments", .arr ((sortOn (·.segmentId) reading.segments).map SegmentRow.payload))]

def canonicalBytes (reading : SegmentReading) : List UInt8 :=
  reading.canonicalPayload.chars.flatMap String.utf8EncodeChar

/-- `canonical_digest`, with the length of the canonical form. -/
def canonicalDigest (setup : VisibilitySetup) (reading : SegmentReading) : ContentIdentity :=
  ⟨setup.digestBytes reading.canonicalBytes, reading.canonicalBytes.length⟩

end SegmentReading

/-! ## The registry -/

structure NewsletterSegment where
  segmentId : Int
  expectedName : String
  nameToken : String
  audience : String
  deriving DecidableEq, Repr

/-- `matches`: the token is a substring of the name in lower case. -/
def NewsletterSegment.matchesRow (casefold : String → String) (segment : NewsletterSegment)
    (row : SegmentRow) : Bool :=
  decide (segment.nameToken.toList <:+: (casefold row.name).toList)

structure NewsletterSpec where
  metric : VisibilityMetric
  segments : List NewsletterSegment
  deriving DecidableEq, Repr

def AUDIENCE_MEMBERS : String := "Liikmed"

def AUDIENCE_NON_MEMBERS : String := "Mitteliikmed"

def AUDIENCE_ALL : String := ""

def NEWSLETTERS : List NewsletterSpec :=
  [⟨.newsletterEteataja,
      [⟨2690, "E-teataja list", "e-teataja", AUDIENCE_MEMBERS⟩,
        ⟨2691, "E-teataja list mitteliikmed", "e-teataja", AUDIENCE_NON_MEMBERS⟩]⟩,
    ⟨.newsletterEnews, [⟨2711, "E-News list", "e-news", AUDIENCE_ALL⟩]⟩,
    ⟨.newsletterEvestnik,
      [⟨2692, "E-vestnik list - liikmed ja mitteliikmed koos", "e-vestnik", AUDIENCE_ALL⟩]⟩]

/-- No metric has two newsletters, and each belongs to the mailing platform. -/
theorem newsletters_metrics : (NEWSLETTERS.map (·.metric)).Nodup ∧
    ∀ spec ∈ NEWSLETTERS, spec.metric.sourceSlug = .smaily := by decide

/-! ## Resolving a reading -/

structure SegmentPart where
  segment : NewsletterSegment
  subscribers : Option Int
  withheldReason : String
  deriving DecidableEq, Repr

def SegmentPart.isAvailable (part : SegmentPart) : Bool :=
  part.subscribers.isSome && part.withheldReason = ""

structure NewsletterAudience where
  spec : NewsletterSpec
  parts : List SegmentPart
  deriving DecidableEq, Repr

namespace NewsletterAudience

def metric (audience : NewsletterAudience) : VisibilityMetric := audience.spec.metric

def isAvailable (audience : NewsletterAudience) : Bool :=
  !audience.parts.isEmpty && audience.parts.all (·.isAvailable)

def total (audience : NewsletterAudience) : Option Int :=
  if audience.isAvailable then some (audience.parts.map fun part => part.subscribers.getD 0).sum
  else none

def withheldReason (audience : NewsletterAudience) : String :=
  ((audience.parts.find? (·.withheldReason ≠ "")).map (·.withheldReason)).getD ""

end NewsletterAudience

section Resolve

variable (casefold : String → String)

/-- One turn of the loop of `resolve_audience`. -/
def resolvePart (rows : Dict Int SegmentRow) (segment : NewsletterSegment) : SegmentPart :=
  match rows.get? segment.segmentId with
  | none =>
    ⟨segment, none, "Smaily ei tagastanud segmenti " ++ toString segment.segmentId ++ " (" ++
      segment.expectedName ++ ")."⟩
  | some row =>
    if segment.matchesRow casefold row then ⟨segment, some row.subscribers, ""⟩
    else
      ⟨segment, none, "Segmendi " ++ toString
        segment.segmentId ++ " nimi ei vasta enam ootusele „" ++
      segment.expectedName ++ "“. Kontrolli Smaily seadistust."⟩

def resolveAudience (spec : NewsletterSpec) (reading : SegmentReading) : NewsletterAudience :=
  ⟨spec, spec.segments.map (resolvePart casefold reading.byId)⟩

def resolveAll (reading : SegmentReading) : List NewsletterAudience :=
  NEWSLETTERS.map (resolveAudience casefold · reading)

/-- The figures of the newsletters that have one. -/
def availableTotals (reading : SegmentReading) : List (VisibilityMetric × Int) :=
  (resolveAll casefold reading).filterMap fun audience =>
    audience.total.map fun total => (audience.metric, total)

end Resolve

/-! ## What the canonical text says -/

/-- The fields in the order of their names. -/
theorem SegmentRow.payload_chars (row : SegmentRow) : row.payload.chars =
    '\x7b' :: (Json.quote "name" ++ ':' :: (Json.quote row.name ++
      ',' :: (Json.quote "segment_id" ++ ':' :: ((toString row.segmentId).toList ++
        ',' :: (Json.quote "subscribers" ++ ':' :: ((toString row.subscribers).toList ++
          ['\x7d'])))))) := by
  simp [payload, Json.chars, Json.fieldsChars, sortOn, List.insertionSort, List.orderedInsert,
    List.intercalate, List.intersperse]

theorem SegmentReading.canonicalPayload_chars (reading : SegmentReading) :
    reading.canonicalPayload.chars =
      '\x7b' :: (Json.quote "kind" ++ ':' :: (Json.quote "segments" ++
        ',' :: (Json.quote "observed_on" ++ ':' :: (Json.quote reading.observedOn.isoformat ++
          ',' :: (Json.quote "schema" ++ ':' :: (Json.quote SMAILY_SCHEMA_VERSION ++
            ',' :: (Json.quote "segments" ++ ':' :: (arrayText (fun row => row.payload.chars)
              (sortOn (·.segmentId) reading.segments) ++ ['\x7d'])))))))) := by
  rw [← Json.chars_arr_map]
  simp [canonicalPayload, Json.chars, Json.fieldsChars, sortOn, List.insertionSort,
    List.orderedInsert, List.intercalate, List.intersperse]

theorem readable_payload : Readable fun row : SegmentRow => row.payload.chars := by
  intro a b rest rest' hrest hrest' heq
  beta_reduce at heq
  rw [SegmentRow.payload_chars, SegmentRow.payload_chars] at heq
  simp only [List.cons_append, List.append_assoc, List.nil_append, List.cons.injEq, true_and,
    List.append_cancel_left_eq] at heq
  -- each value ends at a comma or at the brace
  obtain ⟨hname, heq⟩ := Json.readable_quote (ends_comma _) (ends_comma _) heq
  simp only [List.cons.injEq, true_and, List.append_cancel_left_eq] at heq
  obtain ⟨hsegment, heq⟩ := readable_int (ends_comma _) (ends_comma _) heq
  simp only [List.cons.injEq, true_and, List.append_cancel_left_eq] at heq
  obtain ⟨hsubscribers, heq⟩ := readable_int (ends_brace _) (ends_brace _) heq
  refine ⟨?_, (List.cons.inj heq).2⟩
  cases a
  cases b
  simp_all

/-- Readings with one canonical form hold the same segments. -/
theorem segments_of_canonicalBytes {a b : SegmentReading}
    (hbytes : a.canonicalBytes = b.canonicalBytes) :
    a.segments.Perm b.segments := by
  have h : a.canonicalPayload.chars = b.canonicalPayload.chars :=
    flatMap_utf8EncodeChar_injective hbytes
  rw [SegmentReading.canonicalPayload_chars, SegmentReading.canonicalPayload_chars] at h
  simp only [List.cons.injEq, true_and, List.append_cancel_left_eq] at h
  obtain ⟨-, h⟩ := Json.readable_quote (ends_comma _) (ends_comma _) h
  simp only [List.cons.injEq, true_and, List.append_cancel_left_eq] at h
  have harray := readable_payload.array fun row => ⟨'\x7b', _, row.payload_chars, by decide⟩
  obtain ⟨hsorted, -⟩ := harray (ends_brace _) (ends_brace _) h
  exact (perm_sortOn _ a.segments).symm.trans (hsorted ▸ perm_sortOn _ b.segments)

/-! ## The order of the segments does not matter -/

/-- Each segment is reported once. -/
def SegmentReading.Distinct (reading : SegmentReading) : Prop :=
  (reading.segments.map (·.segmentId)).Nodup

theorem get?_byId {reading : SegmentReading} (h : reading.Distinct) {segmentId : Int}
    {row : SegmentRow} : reading.byId.get? segmentId = some row ↔
      row ∈ reading.segments ∧ row.segmentId = segmentId := by
  have hkeys : ((reading.segments.map fun row => (row.segmentId, row)).map Prod.fst).Nodup := by
    rw [List.map_map]
    exact h
  rw [Dict.get?_eq_some_iff, SegmentReading.byId, Dict.entries_ofList hkeys, List.mem_map]
  constructor
  · rintro ⟨other, hother, heq⟩
    cases heq
    exact ⟨hother, rfl⟩
  · rintro ⟨hrow, rfl⟩
    exact ⟨row, hrow, rfl⟩

theorem availableTotals_congr (casefold : String → String) {a b : SegmentReading}
    (h : a.segments.Perm b.segments) (hdistinct : b.Distinct) :
    availableTotals casefold a = availableTotals casefold b := by
  have hdistinct' : a.Distinct := (h.map SegmentRow.segmentId).nodup_iff.mpr hdistinct
  have hrows (segmentId : Int) : a.byId.get? segmentId = b.byId.get? segmentId := by
    ext row
    rw [get?_byId hdistinct', get?_byId hdistinct, h.mem_iff]
  have hparts : resolvePart casefold a.byId = resolvePart casefold b.byId := by
    funext segment
    unfold resolvePart
    rw [hrows]
  unfold availableTotals resolveAll resolveAudience
  rw [hparts]

end Dashkoda.Visibility
