import AthenaContext.CorrelationRules
import Mathlib

/-!
# Correlation evidence

Canonical resource identifiers, monitoring observations, coverage records,
change artifacts, dependency paths and evidence citations, with the checks
their constructors make. A SHA-256 digest is represented by the text it
covers, so that digests are injective. An identifier which the source derives
from a record's own digest is kept as an opaque key, and the digest that only
binds a record to itself is left out. Instants are milliseconds.
-/

namespace AthenaContext.CorrelationEvidence

open OrdinalCollections CorrelationRules

/-- A digest text. -/
abbrev Digest := String

/-- An instant in milliseconds; every contract timestamp has that precision. -/
abbrev UtcDateTime := ℤ

/-- `sha256_hex` under the injectivity assumption. -/
def sha256Hex (text : String) : Digest := "sha256:" ++ text

theorem sha256Hex_injective : Function.Injective sha256Hex := by
  intro a b h
  simpa [sha256Hex] using h

/-- An Azure resource identifier in canonical lowercase text. -/
abbrev ResourceId := String

/-- `resource_id.split("/")`. -/
def resourceSegments (r : ResourceId) : List String :=
  (r.toList.splitOn '/').map String.ofList

/-- A segment over the contract's character class `[a-z0-9.()_-]`. -/
def resourceSegment (s : String) : Bool :=
  !s.isEmpty && s.toList.all fun c => c.isLower || c.isDigit || c == '.' || c == '(' ||
    c == ')' || c == '_' || c == '-'

/-- Shape of `_RESOURCE_ID_PATTERN` on the segments of the identifier. -/
def canonicalResourceId (r : ResourceId) : Bool :=
  match resourceSegments r with
  | "" :: "subscriptions" :: subscription :: "resourcegroups" :: group :: "providers" ::
      provider :: path =>
    resourceSegment subscription && resourceSegment group && resourceSegment provider &&
      path.all resourceSegment && 2 ≤ path.length && path.length % 2 == 0
  | _ => false

/-- Python's slice `[::2]`. -/
def everyOther {α : Type*} : List α → List α
  | [] => []
  | [x] => [x]
  | x :: _ :: rest => x :: everyOther rest

/-- `_resource_type_from_azure_resource_id`, with the joining slashes left as
list structure. A change's declared type is casefold-equal to it. -/
def resourceType (r : ResourceId) : List String :=
  match (resourceSegments r).drop 6 with
  | [] => []
  | provider :: path => provider :: everyOther path

/-- `microsoft.network/networksecuritygroups/securityrules`. -/
def securityRuleType : List String :=
  ["microsoft.network", "networksecuritygroups", "securityrules"]

/-- `_parent_nsg_id`: the text before the last `/securityrules/`, when both
the marker and a nonempty parent exist. -/
def parentNsgId (r : ResourceId) : Option ResourceId :=
  match (resourceSegments r).reverse with
  | [] => none
  | _ :: earlier =>
    match earlier.dropWhile (fun s => s != "securityrules") with
    | [] => none
    | _ :: parent =>
      if parent = [] ∨ parent = [""] then none else some ("/".intercalate parent.reverse)

/-- Version-pinned immutable blob reference. -/
structure VersionPinnedBlobReference where
  name : String
  version : String
  contentDigest : Digest
  deriving DecidableEq

/-- `HealthState`. -/
inductive HealthState
  | healthy | degraded | unhealthy | unavailable | recovered | unknown
  deriving DecidableEq

/-- Membership in `{"degraded", "unhealthy", "unavailable"}`. -/
def HealthState.adverse : HealthState → Bool
  | .degraded | .unhealthy | .unavailable => true
  | _ => false

/-- `GuestSignal`. -/
inductive GuestSignal
  | heartbeatLoss | diskCapacityPressure | inodePressure | diskLatency | memoryPressure
  | cpuSaturation | nicErrors | serviceFailure
  deriving DecidableEq

/-- `FlowDecision`. -/
inductive FlowDecision
  | allowed | denied | unknown
  deriving DecidableEq

/-- `FlowDirection`. -/
inductive FlowDirection
  | inbound | outbound
  deriving DecidableEq

/-- Wire text of a direction. -/
def FlowDirection.text : FlowDirection → String
  | .inbound => "inbound"
  | .outbound => "outbound"

/-- `NetworkProtocol`. -/
inductive NetworkProtocol
  | tcp | udp | icmp | any
  deriving DecidableEq

/-- Wire text of a protocol. -/
def NetworkProtocol.text : NetworkProtocol → String
  | .tcp => "Tcp"
  | .udp => "Udp"
  | .icmp => "Icmp"
  | .any => "Any"

/-- `NetworkAttributionMethod`. -/
inductive NetworkAttributionMethod
  | ipFlowVerify | effectiveRuleEvaluation
  deriving DecidableEq

/-- `NetworkRuleCausalEffect`. -/
inductive NetworkRuleCausalEffect
  | introducedDenyForTuple
  deriving DecidableEq

/-- `ConnectionMonitorStatus`. -/
inductive ConnectionMonitorStatus
  | succeeded | failed | degraded | unknown
  deriving DecidableEq

/-- `PlatformHealthKind`. -/
inductive PlatformHealthKind
  | resourceHealth | serviceHealth | loadBalancerBackend
  deriving DecidableEq

/-- `CoverageStatus`. -/
inductive CoverageStatus
  | complete | partialWindow | unavailable | truncated
  deriving DecidableEq

/-- Wire text of a coverage status. -/
def CoverageStatus.text : CoverageStatus → String
  | .complete => "complete"
  | .partialWindow => "partial"
  | .unavailable => "unavailable"
  | .truncated => "truncated"

/-- `ChangeResult`. -/
inductive ChangeResult
  | succeeded | failed | unknown
  deriving DecidableEq

/-- Wire text of a change result. -/
def ChangeResult.text : ChangeResult → String
  | .succeeded => "succeeded"
  | .failed => "failed"
  | .unknown => "unknown"

/-- `ChangeOperation`. -/
inductive ChangeOperation
  | create | update | createOrUpdate | delete | action
  deriving DecidableEq

/-- Wire text of a change operation. -/
def ChangeOperation.text : ChangeOperation → String
  | .create => "create"
  | .update => "update"
  | .createOrUpdate => "createOrUpdate"
  | .delete => "delete"
  | .action => "action"

/-- `BindingMode`. -/
inductive BindingMode
  | publishedRuntime | draftPreview
  deriving DecidableEq

/-- `MonitoringControlProvenance`. -/
structure MonitoringControlProvenance where
  controlId : String
  controlDigest : Digest
  sourceClausePath : String
  deriving DecidableEq

/-- Fields every monitoring observation carries. The provenance root digest
is the digest of `sourceRootReference`, so the reference stands for it. -/
structure ObservationBase where
  observationId : String
  subjectResourceId : ResourceId
  observedStart : UtcDateTime
  observedEnd : UtcDateTime
  sourceRootReference : String
  summaryCode : String
  controlProvenance : Option MonitoringControlProvenance
  queryExecutionDigest : Option Digest
  deriving DecidableEq

/-- `provenance_root_digest`. -/
def ObservationBase.provenanceRootDigest (o : ObservationBase) : Digest :=
  sha256Hex o.sourceRootReference

/-- `GuestSignalObservation`. -/
structure GuestSignalObservation extends ObservationBase where
  signal : GuestSignal
  state : HealthState
  serviceReference : Option String
  deriving DecidableEq

/-- `NetworkFlowObservation`. -/
structure NetworkFlowObservation extends ObservationBase where
  pathId : String
  decision : FlowDecision
  direction : FlowDirection
  protocol : NetworkProtocol
  sourceResourceId : ResourceId
  destinationResourceId : ResourceId
  sourceAddress : String
  destinationAddress : String
  sourcePort : Option ℕ
  destinationPort : Option ℕ
  enforcementResourceId : ResourceId
  ruleResourceId : Option ResourceId
  fiveTupleDigest : Digest
  effectiveRuleAttribution : Bool
  attributionMethod : Option NetworkAttributionMethod
  causalEffect : Option NetworkRuleCausalEffect
  attributionProofDigest : Option Digest
  matchedChangeKey : Option Digest
  matchedChangeEvidenceId : Option String
  matchedChangeArtifactDigest : Option Digest
  matchedPropertyPaths : List String
  deriving DecidableEq

/-- `ConnectionMonitorObservation`. -/
structure ConnectionMonitorObservation extends ObservationBase where
  pathId : String
  monitorResourceId : ResourceId
  sourceResourceId : ResourceId
  destinationResourceId : ResourceId
  sourceAddress : String
  destinationAddress : String
  direction : FlowDirection
  protocol : NetworkProtocol
  sourcePort : Option ℕ
  destinationPort : Option ℕ
  fiveTupleDigest : Digest
  status : ConnectionMonitorStatus
  testConfigurationReference : String
  testConfigurationDigest : Digest
  deriving DecidableEq

/-- `EndpointHealthObservation`; the sorted unique backends are a finite set. -/
structure EndpointHealthObservation extends ObservationBase where
  pathId : String
  status : HealthState
  backendResourceIds : Finset ResourceId
  deriving DecidableEq

/-- `PlatformHealthObservation`. -/
structure PlatformHealthObservation extends ObservationBase where
  healthKind : PlatformHealthKind
  status : HealthState
  eventReference : String
  deriving DecidableEq

/-- The discriminated union `MonitoringObservation`. -/
inductive MonitoringObservation
  | guestSignal (o : GuestSignalObservation)
  | networkFlow (o : NetworkFlowObservation)
  | connectionMonitor (o : ConnectionMonitorObservation)
  | endpointHealth (o : EndpointHealthObservation)
  | platformHealth (o : PlatformHealthObservation)
  deriving DecidableEq

/-- The common fields of an observation. -/
def MonitoringObservation.base : MonitoringObservation → ObservationBase
  | .guestSignal o => o.toObservationBase
  | .networkFlow o => o.toObservationBase
  | .connectionMonitor o => o.toObservationBase
  | .endpointHealth o => o.toObservationBase
  | .platformHealth o => o.toObservationBase

/-- `_observation_family`. -/
def MonitoringObservation.family : MonitoringObservation → EvidenceFamily
  | .guestSignal _ => .guest
  | .networkFlow _ => .networkFlow
  | .connectionMonitor _ => .connectionMonitor
  | .endpointHealth _ => .endpointHealth
  | .platformHealth _ => .platformHealth

/-- The path of the three observation kinds that name one. -/
def MonitoringObservation.pathId? : MonitoringObservation → Option String
  | .networkFlow o => some o.pathId
  | .connectionMonitor o => some o.pathId
  | .endpointHealth o => some o.pathId
  | _ => none

/-- `_is_adverse_observation`. -/
def MonitoringObservation.adverse : MonitoringObservation → Bool
  | .guestSignal o => o.state.adverse
  | .networkFlow o => o.decision == .denied
  | .connectionMonitor o => o.status == .failed || o.status == .degraded
  | .endpointHealth o => o.status.adverse
  | .platformHealth o => o.status.adverse

/-- `_flow_resource_ids`, and `_observation_resource_ids` of a flow. -/
def NetworkFlowObservation.resourceIds (o : NetworkFlowObservation) : Finset ResourceId :=
  {o.subjectResourceId, o.sourceResourceId, o.destinationResourceId, o.enforcementResourceId} ∪
    o.ruleResourceId.elim ∅ fun r => {r}

/-- Resources a connection test's coverage must contain. -/
def ConnectionMonitorObservation.coverageResourceIds (o : ConnectionMonitorObservation) :
    Finset ResourceId :=
  {o.subjectResourceId, o.sourceResourceId, o.destinationResourceId}

/-- Resources of an endpoint observation. -/
def EndpointHealthObservation.resourceIds (o : EndpointHealthObservation) : Finset ResourceId :=
  insert o.subjectResourceId o.backendResourceIds

/-- `_observation_resource_ids`. -/
def MonitoringObservation.resourceIds : MonitoringObservation → Finset ResourceId
  | .guestSignal o => {o.subjectResourceId}
  | .networkFlow o => o.resourceIds
  | .connectionMonitor o => insert o.monitorResourceId o.coverageResourceIds
  | .endpointHealth o => o.resourceIds
  | .platformHealth o => {o.subjectResourceId}

/-- `_observation_coverage_resource_ids`. -/
def MonitoringObservation.coverageResourceIds : MonitoringObservation → Finset ResourceId
  | .connectionMonitor o => (insert o.monitorResourceId o.coverageResourceIds).erase
      o.monitorResourceId
  | o => o.resourceIds

/-- Resources of an observation which its governed path must contain. -/
def MonitoringObservation.pathResourceIds : MonitoringObservation → Finset ResourceId
  | .networkFlow o => o.resourceIds
  | .connectionMonitor o => o.coverageResourceIds
  | .endpointHealth o => o.resourceIds
  | _ => ∅

/-- Optional port as it stands in canonical JSON. -/
def portText : Option ℕ → String
  | none => "null"
  | some p => toString p

/-- Canonical JSON of the exact tuple which `fiveTupleDigest` binds. -/
def tupleText (direction : FlowDirection) (protocol : NetworkProtocol)
    (source destination : ResourceId) (sourceAddress destinationAddress : String)
    (sourcePort destinationPort : Option ℕ) : String :=
  "\x7b\"destinationAddress\":\"" ++ destinationAddress ++
    "\",\"destinationPort\":" ++ portText destinationPort ++
    ",\"destinationResourceId\":\"" ++ destination ++
    "\",\"direction\":\"" ++ direction.text ++
    "\",\"protocol\":\"" ++ protocol.text ++
    "\",\"sourceAddress\":\"" ++ sourceAddress ++
    "\",\"sourcePort\":" ++ portText sourcePort ++
    ",\"sourceResourceId\":\"" ++ source ++ "\"\x7d"

/-- Decimal index in brackets, `\[[0-9]+\]` on a character list. -/
def bracketedIndex : List Char → Bool
  | '[' :: rest =>
    match rest.reverse with
    | ']' :: digits => !digits.isEmpty && digits.all Char.isDigit
    | _ => false
  | _ => false

/-- `_is_nsg_causal_property` of the contract: an allowed path, or an allowed
path followed by one bracketed index. Property paths are ASCII, where
casefolding is lowercasing. -/
def isNsgCausalProperty (path : String) : Bool :=
  let normalized := path.toLower.toList
  nsgPropertyPaths.any fun allowed =>
    normalized == allowed.toList ||
      (allowed.toList.isPrefixOf normalized &&
        bracketedIndex (normalized.drop allowed.toList.length))

/-- `_is_nsg_property` of the engine, written with prefix, suffix and slice. -/
def isNsgProperty (path : String) : Bool :=
  let normalized := path.toLower.toList
  nsgPropertyPaths.any (fun item => normalized == item.toList) ||
    nsgPropertyPaths.any fun item =>
      (item.toList ++ ['[']).isPrefixOf normalized && [']'].isSuffixOf normalized &&
        (let index := (normalized.drop (item.toList.length + 1)).dropLast
         !index.isEmpty && index.all Char.isDigit)

/-- `ChangedProperty`. -/
structure ChangedProperty where
  path : String
  beforeEvidenceReference : Option String
  afterEvidenceReference : Option String
  isTruncated : Bool
  deriving DecidableEq

/-- `NormalizedChangeEvidence`. -/
structure NormalizedChangeEvidence where
  evidenceId : String
  changeKey : Digest
  sourceRecordReference : String
  targetResourceId : ResourceId
  operation : ChangeOperation
  result : ChangeResult
  changedProperties : List ChangedProperty
  occurredAt : UtcDateTime
  receivedAt : UtcDateTime
  deriving DecidableEq

/-- The change is on a network security rule. -/
def NormalizedChangeEvidence.isSecurityRule (c : NormalizedChangeEvidence) : Bool :=
  resourceType c.targetResourceId == securityRuleType

/-- Some changed property is a causal network security rule field. -/
def NormalizedChangeEvidence.causal (c : NormalizedChangeEvidence) : Bool :=
  c.changedProperties.any fun p => isNsgCausalProperty p.path

/-- `ChangeEvidenceArtifact` with the digest of its canonical bytes and the
blob reference of its immutable handoff. -/
structure ChangeEvidenceArtifact where
  evidence : NormalizedChangeEvidence
  artifactDigest : Digest
  handoffArtifact : VersionPinnedBlobReference
  deriving DecidableEq

/-- `EvidenceCoverageScope`. -/
structure EvidenceCoverageScope where
  resourceIds : Finset ResourceId
  pathId : Option String
  direction : Option FlowDirection
  fiveTupleDigest : Option Digest
  endpointTestReference : Option String
  endpointTestDigest : Option Digest
  scopeDigest : Digest
  deriving DecidableEq

/-- `EvidenceCoverage`. -/
structure EvidenceCoverage where
  coverageId : String
  family : EvidenceFamily
  scope : EvidenceCoverageScope
  sourceRootReference : String
  coverageStart : UtcDateTime
  coverageEnd : UtcDateTime
  controlProvenance : Option MonitoringControlProvenance
  queryExecutionDigests : Option (List Digest)
  status : CoverageStatus
  detail : Option String
  deriving DecidableEq

/-- `DependencyPath`. -/
structure DependencyPath where
  pathId : String
  resourceIds : Finset ResourceId
  deriving DecidableEq

/-- `CorrelationEvidenceCitation`. -/
structure CorrelationEvidenceCitation where
  evidenceId : String
  family : EvidenceFamily
  evidenceDigest : Digest
  sourceReference : VersionPinnedBlobReference
  observedStart : UtcDateTime
  observedEnd : UtcDateTime
  sourceRootReference : String
  resourceIds : Finset ResourceId
  summaryCode : String
  deriving DecidableEq

/-- `provenance_root_digest` of a citation. -/
def CorrelationEvidenceCitation.provenanceRootDigest (c : CorrelationEvidenceCitation) : Digest :=
  sha256Hex c.sourceRootReference

/-- `summary_code.startswith("coverage.")`. -/
def CorrelationEvidenceCitation.isCoverage (c : CorrelationEvidenceCitation) : Bool :=
  c.summaryCode.startsWith "coverage."

/-- The execution digests a coverage record accounts for. -/
def EvidenceCoverage.executions (c : EvidenceCoverage) : List Digest :=
  c.queryExecutionDigests.getD []

/-- The observation came from a log query, not from platform health events. -/
def MonitoringObservation.isQuery : MonitoringObservation → Bool
  | .platformHealth _ => false
  | _ => true

/-- Direction and tuple digest of the two observation kinds that carry them. -/
def MonitoringObservation.tuple? : MonitoringObservation → Option (FlowDirection × Digest)
  | .networkFlow o => some (o.direction, o.fiveTupleDigest)
  | .connectionMonitor o => some (o.direction, o.fiveTupleDigest)
  | _ => none

/-- `_observation_health_state`. -/
def MonitoringObservation.healthState : MonitoringObservation → Option HealthState
  | .guestSignal o => some o.state
  | .endpointHealth o => some o.status
  | .platformHealth o => some o.status
  | _ => none

/-- Checks of `_MonitoringObservation`. -/
def ObservationBase.Valid (o : ObservationBase) : Prop :=
  canonicalResourceId o.subjectResourceId ∧ o.observedStart ≤ o.observedEnd

instance (o : ObservationBase) : Decidable o.Valid := by
  unfold ObservationBase.Valid
  infer_instance

/-- Segment shape demanded of a rule and its enforcement group. -/
def ruleBelongsTo (rule enforcement : ResourceId) : Bool :=
  let enforcementSegments := resourceSegments enforcement
  let ruleSegments := resourceSegments rule
  enforcementSegments.length == 9 && enforcementSegments[1]? == some "subscriptions" &&
    enforcementSegments[3]? == some "resourcegroups" &&
    enforcementSegments[5]? == some "providers" &&
    enforcementSegments[6]? == some "microsoft.network" &&
    enforcementSegments[7]? == some "networksecuritygroups" &&
    ruleSegments.length == 11 && ruleSegments.take 9 == enforcementSegments &&
    ruleSegments[9]? == some "securityrules"

/-- `NetworkFlowObservation.validate_attribution` and its field validators. -/
@[mk_iff] structure NetworkFlowObservation.Valid (o : NetworkFlowObservation) : Prop where
  base : o.toObservationBase.Valid
  resources : canonicalResourceId o.sourceResourceId ∧ canonicalResourceId o.destinationResourceId ∧
    canonicalResourceId o.enforcementResourceId ∧ ∀ r ∈ o.ruleResourceId, canonicalResourceId r
  ports : o.protocol = .tcp ∨ o.protocol = .udp → o.sourcePort ≠ none ∧ o.destinationPort ≠ none
  tuple : o.fiveTupleDigest = sha256Hex (tupleText o.direction o.protocol o.sourceResourceId
    o.destinationResourceId o.sourceAddress o.destinationAddress o.sourcePort o.destinationPort)
  rule : ∀ r ∈ o.ruleResourceId, ruleBelongsTo r o.enforcementResourceId
  attributed : o.effectiveRuleAttribution → o.ruleResourceId ≠ none ∧
    o.attributionMethod ≠ none ∧ o.causalEffect = some .introducedDenyForTuple ∧
    o.attributionProofDigest ≠ none ∧ o.matchedChangeKey ≠ none ∧
    o.matchedChangeEvidenceId ≠ none ∧ o.matchedChangeArtifactDigest ≠ none ∧
    o.matchedPropertyPaths ≠ []
  unattributed : o.effectiveRuleAttribution = false → o.attributionMethod = none ∧
    o.causalEffect = none ∧ o.attributionProofDigest = none ∧ o.matchedChangeKey = none ∧
    o.matchedChangeEvidenceId = none ∧ o.matchedChangeArtifactDigest = none ∧
    o.matchedPropertyPaths = []
  orderedPaths : strictlyOrdered id o.matchedPropertyPaths
  causalPaths : ∀ p ∈ o.matchedPropertyPaths, isNsgCausalProperty p

/-- `ConnectionMonitorObservation.validate_test_tuple` and its field validators. -/
@[mk_iff] structure ConnectionMonitorObservation.Valid (o : ConnectionMonitorObservation) : Prop where
  base : o.toObservationBase.Valid
  resources : canonicalResourceId o.monitorResourceId ∧ canonicalResourceId o.sourceResourceId ∧
    canonicalResourceId o.destinationResourceId
  ports : o.protocol = .tcp ∨ o.protocol = .udp → o.sourcePort ≠ none ∧ o.destinationPort ≠ none
  tuple : o.fiveTupleDigest = sha256Hex (tupleText o.direction o.protocol o.sourceResourceId
    o.destinationResourceId o.sourceAddress o.destinationAddress o.sourcePort o.destinationPort)

instance (o : NetworkFlowObservation) : Decidable o.Valid :=
  decidable_of_iff' _ (NetworkFlowObservation.valid_iff o)

instance (o : ConnectionMonitorObservation) : Decidable o.Valid :=
  decidable_of_iff' _ (ConnectionMonitorObservation.valid_iff o)

/-- Checks of the other observation kinds. -/
def MonitoringObservation.Valid : MonitoringObservation → Prop
  | .guestSignal o => o.toObservationBase.Valid
  | .networkFlow o => o.Valid
  | .connectionMonitor o => o.Valid
  | .endpointHealth o => o.toObservationBase.Valid ∧ o.backendResourceIds.card ≤ 128 ∧
      ∀ r ∈ o.backendResourceIds, canonicalResourceId r
  | .platformHealth o => o.toObservationBase.Valid

instance (o : MonitoringObservation) : Decidable o.Valid := by
  cases o <;> unfold MonitoringObservation.Valid <;> infer_instance

/-- `EvidenceCoverageScope` and `EvidenceCoverage.validate_coverage`. -/
@[mk_iff] structure EvidenceCoverage.Valid (c : EvidenceCoverage) : Prop where
  monitoringFamily : c.family ≠ .resourceChange ∧ c.family ≠ .declaredContext
  resources : c.scope.resourceIds ≠ ∅ ∧ c.scope.resourceIds.card ≤ 128 ∧
    ∀ r ∈ c.scope.resourceIds, canonicalResourceId r
  interval : c.coverageStart ≤ c.coverageEnd
  executions : ∀ ds ∈ c.queryExecutionDigests, strictlyOrdered id ds ∧ ds.length ≤ 1440 ∧
    (ds ≠ [] → c.controlProvenance ≠ none)
  detail : c.status ≠ .complete → c.detail ≠ none
  flowScope : c.family = .networkFlow → c.status = .complete →
    c.scope.pathId ≠ none ∧ c.scope.direction ≠ none ∧ c.scope.fiveTupleDigest ≠ none
  monitorScope : c.family = .connectionMonitor → c.status = .complete →
    c.scope.pathId ≠ none ∧ c.scope.endpointTestReference ≠ none ∧
    c.scope.endpointTestDigest ≠ none ∧ c.scope.direction ≠ none ∧
    c.scope.fiveTupleDigest ≠ none

set_option synthInstance.maxSize 512 in
instance (c : EvidenceCoverage) : Decidable c.Valid :=
  decidable_of_iff' _ (EvidenceCoverage.valid_iff c)

/-- `ChangedProperty` and `NormalizedChangeEvidence.validate_deterministic_binding`. -/
@[mk_iff] structure NormalizedChangeEvidence.Valid (c : NormalizedChangeEvidence) : Prop where
  target : canonicalResourceId c.targetResourceId
  received : c.occurredAt ≤ c.receivedAt
  references : ∀ p ∈ c.changedProperties,
    p.beforeEvidenceReference ≠ none ∨ p.afterEvidenceReference ≠ none
  ordered : strictlyOrdered ChangedProperty.path c.changedProperties
  folded : (c.changedProperties.map fun p => p.path.toLower).Nodup
  bounded : c.changedProperties.length ≤ 64

instance (c : NormalizedChangeEvidence) : Decidable c.Valid :=
  decidable_of_iff' _ (NormalizedChangeEvidence.valid_iff c)

end AthenaContext.CorrelationEvidence
