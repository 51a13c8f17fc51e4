import AthenaContext.OrdinalCollections
import Mathlib

/-!
# Correlation vocabulary and rule catalog

The closed vocabularies shared by the correlation engine and the correlation
contract, the constants of the rule catalog, and the confidence classifier.
The order of a vocabulary is the ordinal order of its wire text, which is
what every canonical tuple of the contract is sorted by.
-/

namespace AthenaContext.CorrelationRules

/-- Ordered confidence labels. -/
inductive ConfidenceLevel
  | unknown | low | medium | high | confirmed
  deriving DecidableEq, Repr

/-- `_CONFIDENCE_RANK`, the same table in the engine and in the contract. -/
def ConfidenceLevel.rank : ConfidenceLevel → ℕ
  | .unknown => 0
  | .low => 1
  | .medium => 2
  | .high => 3
  | .confirmed => 4

/-- `_CONFIDENCE_BY_RANK` of the engine. -/
def confidenceByRank : ℕ → ConfidenceLevel
  | 0 => .unknown
  | 1 => .low
  | 2 => .medium
  | 3 => .high
  | _ => .confirmed

/-- Root-cause categories of a hypothesis. -/
inductive RootCauseCategory
  | networkSecurityChange | routingChange | guestResourcePressure | guestServiceFailure
  | platformHealth | backendHealth | deploymentChange | dependencyFailure | unknown
  deriving DecidableEq, Repr

/-- Position in the catalog's `category_order`. -/
def RootCauseCategory.order : RootCauseCategory → ℕ
  | .networkSecurityChange => 0
  | .routingChange => 1
  | .guestServiceFailure => 2
  | .guestResourcePressure => 3
  | .platformHealth => 4
  | .backendHealth => 5
  | .dependencyFailure => 6
  | .deploymentChange => 7
  | .unknown => 8

/-- Evidence families of citations. -/
inductive EvidenceFamily
  | guest | networkFlow | connectionMonitor | endpointHealth | platformHealth
  | resourceChange | declaredContext
  deriving DecidableEq, Repr

/-- Wire text of an evidence family. -/
def EvidenceFamily.text : EvidenceFamily → String
  | .guest => "guest"
  | .networkFlow => "networkFlow"
  | .connectionMonitor => "connectionMonitor"
  | .endpointHealth => "endpointHealth"
  | .platformHealth => "platformHealth"
  | .resourceChange => "resourceChange"
  | .declaredContext => "declaredContext"

/-- Codes of causal gates. -/
inductive CorrelationGateCode
  | successfulChange | affectedPath | semanticMatch | effectiveRuleAttribution
  | matchingDeniedFlow | connectionMonitorFailure | endpointDegradation
  | independentCorroboration | correctChronology | recoveryEvidence | noHardConflict
  deriving DecidableEq, Repr

/-- Wire text of a gate code. -/
def CorrelationGateCode.text : CorrelationGateCode → String
  | .successfulChange => "successfulChange"
  | .affectedPath => "affectedPath"
  | .semanticMatch => "semanticMatch"
  | .effectiveRuleAttribution => "effectiveRuleAttribution"
  | .matchingDeniedFlow => "matchingDeniedFlow"
  | .connectionMonitorFailure => "connectionMonitorFailure"
  | .endpointDegradation => "endpointDegradation"
  | .independentCorroboration => "independentCorroboration"
  | .correctChronology => "correctChronology"
  | .recoveryEvidence => "recoveryEvidence"
  | .noHardConflict => "noHardConflict"

/-- `_NETWORK_SECURITY_CONFIRMED_GATES`. -/
def networkSecurityConfirmedGates : List CorrelationGateCode :=
  [.successfulChange, .affectedPath, .semanticMatch, .effectiveRuleAttribution,
    .matchingDeniedFlow, .connectionMonitorFailure, .endpointDegradation,
    .independentCorroboration, .correctChronology, .noHardConflict]

/-- Codes of confidence caps. -/
inductive ConfidenceCapCode
  | recentChangeOnly | missingAffectedPath | missingIndependentSupport
  | missingDirectAttribution | ambiguousObservationWindow
  deriving DecidableEq, Repr

/-- Wire text of a cap code. -/
def ConfidenceCapCode.text : ConfidenceCapCode → String
  | .recentChangeOnly => "recentChangeOnly"
  | .missingAffectedPath => "missingAffectedPath"
  | .missingIndependentSupport => "missingIndependentSupport"
  | .missingDirectAttribution => "missingDirectAttribution"
  | .ambiguousObservationWindow => "ambiguousObservationWindow"

/-- `CORRELATION_REQUIRED_CAPS` of the contract. -/
def requiredCap : ConfidenceCapCode → ConfidenceLevel
  | .recentChangeOnly => .low
  | .missingAffectedPath => .low
  | .missingIndependentSupport => .medium
  | .missingDirectAttribution => .high
  | .ambiguousObservationWindow => .medium

/-- Codes of contradictions. -/
inductive ContradictionCode
  | changeFailed | changeAfterDegradation | completeAllowedFlow
  | completeHealthyConnectionMonitor | recoveryBeforeCorrection | competingCause
  deriving DecidableEq, Repr

/-- Wire text of a contradiction code. -/
def ContradictionCode.text : ContradictionCode → String
  | .changeFailed => "changeFailed"
  | .changeAfterDegradation => "changeAfterDegradation"
  | .completeAllowedFlow => "completeAllowedFlow"
  | .completeHealthyConnectionMonitor => "completeHealthyConnectionMonitor"
  | .recoveryBeforeCorrection => "recoveryBeforeCorrection"
  | .competingCause => "competingCause"

/-- `_HARD_CONTRADICTION_CODES`; the engine's `_contradiction` tests the same set. -/
def ContradictionCode.hard : ContradictionCode → Bool
  | .competingCause => false
  | _ => true

/-- Codes of missing evidence. -/
inductive MissingEvidenceCode
  | effectiveRuleAttribution | deniedFlow | connectionMonitorResult | endpointHealth
  | affectedPath | completeObservationWindow | recoveryObservation | changeDetails
  | omittedCandidates
  deriving DecidableEq, Repr

/-- Wire text of a missing-evidence code. -/
def MissingEvidenceCode.text : MissingEvidenceCode → String
  | .effectiveRuleAttribution => "effectiveRuleAttribution"
  | .deniedFlow => "deniedFlow"
  | .connectionMonitorResult => "connectionMonitorResult"
  | .endpointHealth => "endpointHealth"
  | .affectedPath => "affectedPath"
  | .completeObservationWindow => "completeObservationWindow"
  | .recoveryObservation => "recoveryObservation"
  | .changeDetails => "changeDetails"
  | .omittedCandidates => "omittedCandidates"

/-- `CORRELATION_CONFIDENCE_THRESHOLDS`. -/
def ConfidenceLevel.minimumScore : ConfidenceLevel → ℕ
  | .unknown => 0
  | .low => 30
  | .medium => 55
  | .high => 75
  | .confirmed => 90

/-- `nsg_property_paths`, equal to `_NSG_CAUSAL_PROPERTY_PREFIXES`. -/
def nsgPropertyPaths : List String :=
  ["properties.access", "properties.direction", "properties.priority",
    "properties.protocol", "properties.sourceaddressprefix",
    "properties.sourceaddressprefixes", "properties.sourceportrange",
    "properties.sourceportranges", "properties.destinationaddressprefix",
    "properties.destinationaddressprefixes", "properties.destinationportrange",
    "properties.destinationportranges"]

/-- `routing_property_paths`. -/
def routingPropertyPaths : List String :=
  ["properties.addressprefix", "properties.nexthoptype", "properties.nexthopipaddress"]

/-- `temporal_score_windows`: inclusive maximum age in seconds and its score. -/
def temporalScoreWindows : List (ℤ × ℕ) := [(300, 20), (900, 15), (1800, 10), (3600, 5)]

def maximumHypotheses : ℕ := 64
def maximumCandidateHypotheses : ℕ := 4096
def maximumSupportingEvidence : ℕ := 128
def maximumContradictions : ℕ := 64
def maximumMissingEvidence : ℕ := 64
def maximumGates : ℕ := 32
def maximumCaps : ℕ := 16
def maximumGateEvidenceIds : ℕ := 64
def maximumContradictionEvidenceIds : ℕ := 64
def maximumReportCanonicalBytes : ℕ := 8 * 1024 * 1024

/-- One confidence cap of a hypothesis. -/
structure ConfidenceCap where
  code : ConfidenceCapCode
  maximumConfidence : ConfidenceLevel
  deriving DecidableEq, Repr

/-- `_CAP_LEVELS`: the catalog's level of a cap. The catalog lists no level
for a missing attribution, whose level every caller supplies. -/
def capLevel : ConfidenceCapCode → ConfidenceLevel
  | .recentChangeOnly => .low
  | .missingAffectedPath => .low
  | .missingIndependentSupport => .medium
  | .missingDirectAttribution => .high
  | .ambiguousObservationWindow => .medium

/-- `_cap` without an explicit maximum. -/
def cap (code : ConfidenceCapCode) : ConfidenceCap := ⟨code, capLevel code⟩

/-- Rank of the strongest cap; no cap leaves the top level reachable. -/
def capRank (caps : List ConfidenceCap) : ℕ :=
  (caps.map (fun c => c.maximumConfidence.rank)).foldr min ConfidenceLevel.confirmed.rank

/-- Level earned by the score alone, before the caps. -/
def scoreLevel (rawScore : ℕ) (confirmed : Bool) : ConfidenceLevel :=
  if confirmed ∧ ConfidenceLevel.confirmed.minimumScore ≤ rawScore then .confirmed
  else if ConfidenceLevel.high.minimumScore ≤ rawScore then .high
  else if ConfidenceLevel.medium.minimumScore ≤ rawScore then .medium
  else .low

/-- `classify_confidence`. -/
def classifyConfidence (rawScore : ℕ) (caps : List ConfidenceCap) (hardConflict confirmed : Bool) :
    ConfidenceLevel :=
  if hardConflict ∨ rawScore < ConfidenceLevel.low.minimumScore then .unknown
  else confidenceByRank (min (scoreLevel rawScore confirmed).rank (capRank caps))

theorem rank_confidenceByRank {n : ℕ} (h : n ≤ 4) : (confidenceByRank n).rank = n := by
  interval_cases n <;> rfl

theorem capRank_le_confirmed (caps : List ConfidenceCap) : capRank caps ≤ 4 := by
  induction caps with
  | nil => exact le_rfl
  | cons c caps ih => exact (min_le_right _ _).trans ih

theorem capRank_le {caps : List ConfidenceCap} {c : ConfidenceCap} (h : c ∈ caps) :
    capRank caps ≤ c.maximumConfidence.rank := by
  induction caps with
  | nil => simp at h
  | cons d caps ih =>
    rcases List.mem_cons.mp h with rfl | hm
    · exact min_le_left _ _
    · exact (min_le_right _ _).trans (ih hm)

/-- The strongest cap is one of the caps, or there is nothing below the top. -/
theorem le_capRank {caps : List ConfidenceCap} {n : ℕ} (hn : n ≤ 4)
    (h : ∀ c ∈ caps, n ≤ c.maximumConfidence.rank) : n ≤ capRank caps := by
  induction caps with
  | nil => exact hn
  | cons c caps ih =>
    exact le_min (h c List.mem_cons_self) (ih fun d hd => h d (List.mem_cons_of_mem c hd))

/-- A classified confidence never exceeds the level its score earns. -/
theorem classify_rank_le_score (rawScore : ℕ) (caps : List ConfidenceCap) (hard conf : Bool) :
    (classifyConfidence rawScore caps hard conf).rank ≤ (scoreLevel rawScore conf).rank := by
  unfold classifyConfidence
  split
  · exact Nat.zero_le _
  · have hle := capRank_le_confirmed caps
    rw [rank_confidenceByRank (by omega)]
    exact min_le_left _ _

/-- A classified confidence respects every cap. -/
theorem classify_rank_le_capRank (rawScore : ℕ) (caps : List ConfidenceCap) (hard conf : Bool) :
    (classifyConfidence rawScore caps hard conf).rank ≤ capRank caps := by
  unfold classifyConfidence
  split
  · exact Nat.zero_le _
  · have hle := capRank_le_confirmed caps
    rw [rank_confidenceByRank (by omega)]
    exact min_le_right _ _

theorem classify_rank_le_cap {rawScore : ℕ} {caps : List ConfidenceCap} {hard conf : Bool}
    {c : ConfidenceCap} (h : c ∈ caps) :
    (classifyConfidence rawScore caps hard conf).rank ≤ c.maximumConfidence.rank :=
  (classify_rank_le_capRank rawScore caps hard conf).trans (capRank_le h)

@[simp] theorem classify_hardConflict (rawScore : ℕ) (caps : List ConfidenceCap) (conf : Bool) :
    classifyConfidence rawScore caps true conf = .unknown := by
  simp [classifyConfidence]

/-- Higher levels demand at least as many points. -/
theorem minimumScore_mono {a b : ConfidenceLevel} (h : a.rank ≤ b.rank) :
    a.minimumScore ≤ b.minimumScore := by
  cases a <;> cases b <;> simp_all [ConfidenceLevel.rank, ConfidenceLevel.minimumScore]

theorem scoreLevel_minimumScore {rawScore : ℕ} (conf : Bool)
    (h : ConfidenceLevel.low.minimumScore ≤ rawScore) :
    (scoreLevel rawScore conf).minimumScore ≤ rawScore := by
  unfold scoreLevel
  split_ifs with hc hh hm
  · exact hc.2
  · exact hh
  · exact hm
  · exact h

/-- The declared level is always backed by the raw score. -/
theorem classify_minimumScore (rawScore : ℕ) (caps : List ConfidenceCap) (hard conf : Bool) :
    (classifyConfidence rawScore caps hard conf).minimumScore ≤ rawScore := by
  by_cases hlow : hard = true ∨ rawScore < ConfidenceLevel.low.minimumScore
  · rw [classifyConfidence, if_pos hlow]
    exact Nat.zero_le _
  · have hbase : ConfidenceLevel.low.minimumScore ≤ rawScore := by
      by_contra hlt
      exact hlow (Or.inr (not_le.mp hlt))
    exact (minimumScore_mono (classify_rank_le_score rawScore caps hard conf)).trans
      (scoreLevel_minimumScore conf hbase)

/-- Without the confirmation flag the top level is out of reach. -/
theorem classify_unconfirmed (rawScore : ℕ) (caps : List ConfidenceCap) (hard : Bool) :
    classifyConfidence rawScore caps hard false ≠ .confirmed := by
  intro h
  have hrank := classify_rank_le_score rawScore caps hard false
  rw [h, scoreLevel] at hrank
  split_ifs at hrank <;> simp_all [ConfidenceLevel.rank]

/-- `_temporal_score` of an instant and the degradation start, both in
milliseconds; `timedelta.total_seconds` keeps the milliseconds, so the
inclusive bound of a window is compared exactly. -/
def temporalScore (candidate degradation : ℤ) : ℕ :=
  if degradation - candidate < 0 then 0
  else ((temporalScoreWindows.find? fun w => degradation - candidate ≤ w.1 * 1000).map
    Prod.snd).getD 0

theorem temporalScore_le (candidate degradation : ℤ) : temporalScore candidate degradation ≤ 20 := by
  unfold temporalScore
  split
  · omega
  · simp only [temporalScoreWindows, List.find?_cons, List.find?_nil]
    split <;> [skip; split <;> [skip; split <;> [skip; split]]] <;> simp

/-- `CorrelationScoreComponents`; the raw score is the sum by construction. -/
structure CorrelationScoreComponents where
  topology : ℕ
  temporal : ℕ
  semantic : ℕ
  corroboration : ℕ
  recovery : ℕ
  rawScore : ℕ
  deriving DecidableEq, Repr

/-- Field bounds and `validate_sum` of the score components. -/
def CorrelationScoreComponents.Valid (s : CorrelationScoreComponents) : Prop :=
  s.topology ≤ 25 ∧ s.temporal ≤ 20 ∧ s.semantic ≤ 20 ∧ s.corroboration ≤ 25 ∧
    s.recovery ≤ 10 ∧ s.rawScore ≤ 100 ∧
    s.rawScore = s.topology + s.temporal + s.semantic + s.corroboration + s.recovery

instance (s : CorrelationScoreComponents) : Decidable s.Valid := by
  unfold CorrelationScoreComponents.Valid
  infer_instance

/-- `_score`. -/
def score (topology temporal semantic corroboration recovery : ℕ) : CorrelationScoreComponents :=
  { topology, temporal, semantic, corroboration, recovery,
    rawScore := topology + temporal + semantic + corroboration + recovery }

end AthenaContext.CorrelationRules
