import AthenaContext.CorrelationContract
import AthenaContext.IncidentRecords

/-!
# Guidance records

The reviewed runbook options of a workload, the authority that publishes them, the
selection for one incident, and the guidance written for it, with the checks which each
record makes on itself. A record whose identifier is bound to its digest extends the
content that is digested; the digests are parameters. Fields that admit one value, and
field patterns that no other check reads, are left out: they only refuse more records.
-/

namespace AthenaContext.GuidanceRecords

open OrdinalCollections CorrelationRules CorrelationEvidence CorrelationEnvelope
  CorrelationEngine CorrelationContract
open IncidentRecords (IncidentState removePrefix)

/-! ## Vocabulary -/

/-- `GuidanceActionKind`. -/
inductive GuidanceActionKind
  | investigationCheck | confirmationCheck | manualResolutionOption | rollbackConsideration
  | recoveryValidation | escalation
  deriving DecidableEq, Repr

/-- Wire text of an action. -/
def GuidanceActionKind.text : GuidanceActionKind → String
  | .investigationCheck => "investigationCheck"
  | .confirmationCheck => "confirmationCheck"
  | .manualResolutionOption => "manualResolutionOption"
  | .rollbackConsideration => "rollbackConsideration"
  | .recoveryValidation => "recoveryValidation"
  | .escalation => "escalation"

/-- The two actions that tell an operator to change something. -/
def GuidanceActionKind.prescriptive : GuidanceActionKind → Bool
  | .manualResolutionOption | .rollbackConsideration => true
  | _ => false

/-- `GuidanceNoRunbookReason`. -/
inductive GuidanceNoRunbookReason
  | noMatchingControl | legacyManualFailoverRunbookInsufficient | controlNotEffective
  | reviewExpired | unsupportedRunbookReference | unresolvedOwner | unresolvedGovernanceScope
  | confidenceTooLow
  deriving DecidableEq, Repr

/-- Wire text of a reason. -/
def GuidanceNoRunbookReason.text : GuidanceNoRunbookReason → String
  | .noMatchingControl => "noMatchingControl"
  | .legacyManualFailoverRunbookInsufficient => "legacyManualFailoverRunbookInsufficient"
  | .controlNotEffective => "controlNotEffective"
  | .reviewExpired => "reviewExpired"
  | .unsupportedRunbookReference => "unsupportedRunbookReference"
  | .unresolvedOwner => "unresolvedOwner"
  | .unresolvedGovernanceScope => "unresolvedGovernanceScope"
  | .confidenceTooLow => "confidenceTooLow"

/-- `GuidancePathScope`. -/
inductive GuidancePathScope
  | notPathScoped | anyGovernedPath | specificPaths
  deriving DecidableEq, Repr

/-- `GuidanceControlHealth`. -/
inductive GuidanceControlHealth
  | effective | degraded | missing | unknown | expired | notApplicable
  deriving DecidableEq, Repr

/-- `GuidanceImpactSeverity`. -/
inductive GuidanceImpactSeverity
  | none | limited | significant | critical | unknown
  deriving DecidableEq, Repr

/-- `GuidanceImpactCode`. -/
inductive GuidanceImpactCode
  | roleRecovered | roleDegraded | dataTierUnavailable | ingressUnavailable | unknownImpact
  deriving DecidableEq, Repr

/-- `GuidanceTimelineKind`. -/
inductive GuidanceTimelineKind
  | healthTransition | guestSignal | networkEvidence | platformHealth | resourceChange | recovery
  deriving DecidableEq, Repr

/-- `GuidanceWithheldReason`. -/
inductive GuidanceWithheldReason
  | confidenceTooLow | noRunbook | competingCause | missingEvidence | authorityUnavailable
  deriving DecidableEq, Repr

/-- Wire text of a withheld reason. -/
def GuidanceWithheldReason.text : GuidanceWithheldReason → String
  | .confidenceTooLow => "confidenceTooLow"
  | .noRunbook => "noRunbook"
  | .competingCause => "competingCause"
  | .missingEvidence => "missingEvidence"
  | .authorityUnavailable => "authorityUnavailable"

/-- `GuidanceTemplateCode`. -/
inductive GuidanceTemplateCode
  | confirmEffectiveRule | confirmBackendHealth | inspectGuestHealth | inspectNetworkPath
  | inspectRecentChange | reviewApprovedManualOption | reviewRollbackAuthority
  | validateRecoverySignals | escalateHumanReview
  deriving DecidableEq, Repr

/-- `GuidanceTemplateParameterKind`. -/
inductive GuidanceTemplateParameterKind
  | resourceId | pathId | evidenceId | optionId | roleRef
  deriving DecidableEq, Repr

/-- Wire text of a parameter kind. -/
def GuidanceTemplateParameterKind.text : GuidanceTemplateParameterKind → String
  | .resourceId => "resourceId"
  | .pathId => "pathId"
  | .evidenceId => "evidenceId"
  | .optionId => "optionId"
  | .roleRef => "roleRef"

/-- Wire text of a root-cause category. -/
def categoryText : RootCauseCategory → String
  | .networkSecurityChange => "networkSecurityChange"
  | .routingChange => "routingChange"
  | .guestResourcePressure => "guestResourcePressure"
  | .guestServiceFailure => "guestServiceFailure"
  | .platformHealth => "platformHealth"
  | .backendHealth => "backendHealth"
  | .deploymentChange => "deploymentChange"
  | .dependencyFailure => "dependencyFailure"
  | .unknown => "unknown"

/-! ## Options and their authority -/

/-- `GuidanceRunbookReference`: an `HttpsGuidanceRunbookReference` or an
`OpaqueGuidanceRunbookReference`. -/
inductive GuidanceRunbookReference
  | httpsReference (uri version : String) (contentDigest : Digest)
  | opaqueReference (opaqueRef version : String) (contentDigest : Digest)
  deriving DecidableEq, Repr

/-- `GuidanceControlProvenance`. -/
structure GuidanceControlProvenance where
  manifestId : String
  manifestVersion : String
  profileId : String
  clausePath : String
  ownerRef : String
  deriving DecidableEq, Repr

/-- `GuidanceApplicability`. -/
structure GuidanceApplicability where
  causeCategories : List RootCauseCategory
  roleRefs : List String
  pathScope : GuidancePathScope
  pathIds : List String
  actions : List GuidanceActionKind
  minimumConfidence : ConfidenceLevel
  deriving DecidableEq, Repr

/-- Field checks and `validate_applicability`. -/
structure GuidanceApplicability.Valid (a : GuidanceApplicability) : Prop where
  categoryCount : 1 ≤ a.causeCategories.length ∧ a.causeCategories.length ≤ 16
  categoryOrder : strictlyOrdered categoryText a.causeCategories
  roleCount : 1 ≤ a.roleRefs.length ∧ a.roleRefs.length ≤ 64
  roleOrder : strictlyOrdered id a.roleRefs
  pathCount : a.pathIds.length ≤ 64
  pathOrder : strictlyOrdered id a.pathIds
  actionCount : 1 ≤ a.actions.length ∧ a.actions.length ≤ 16
  actionOrder : strictlyOrdered GuidanceActionKind.text a.actions
  specificPaths : a.pathScope = .specificPaths ↔ a.pathIds ≠ []
  prescriptiveConfidence : (∃ action ∈ a.actions, action.prescriptive) →
    ConfidenceLevel.high.rank ≤ a.minimumConfidence.rank
  knownCause : .unknown ∈ a.causeCategories → ∀ action ∈ a.actions, action.prescriptive = false

/-- What the digest of a `PublishedRunbookGuidanceOption` covers. -/
structure RunbookGuidanceOptionContent where
  controlId : String
  provenance : GuidanceControlProvenance
  applicability : GuidanceApplicability
  runbookReference : GuidanceRunbookReference
  controlHealth : GuidanceControlHealth
  lastReviewedAt : UtcDateTime
  reviewExpiresAt : UtcDateTime
  deriving DecidableEq, Repr

/-- `PublishedRunbookGuidanceOption`. -/
structure PublishedRunbookGuidanceOption extends RunbookGuidanceOptionContent where
  optionId : String
  optionDigest : Digest
  deriving DecidableEq, Repr

/-- The version of a manifest and profile that a record is about. -/
structure PublishedContextIdentity where
  workloadId : String
  manifestId : String
  manifestVersion : String
  manifestDigest : Digest
  profileId : String
  resolvedProfileDigest : Digest
  dependencyGraphDigest : Digest
  deriving DecidableEq, Repr

/-- `PublishedContextAuthority`. -/
structure PublishedContextAuthority extends PublishedContextIdentity where
  authorityId : String
  contextBindingPayloadDigest : Digest
  publicationRecordDigest : Digest
  auditHeadDigest : Digest
  publishedAt : UtcDateTime
  authorityDigest : Digest
  deriving DecidableEq, Repr

/-- What the digest of a `PublishedGuidanceAuthority` covers. -/
structure GuidanceAuthorityContent extends PublishedContextIdentity where
  contextBindingDigest : Digest
  contextAuthority : PublishedContextAuthority
  contextAuthorityReference : VersionPinnedBlobReference
  publicationRecordDigest : Digest
  auditHeadDigest : Digest
  publishedAt : UtcDateTime
  options : List PublishedRunbookGuidanceOption
  noRunbookReasons : List GuidanceNoRunbookReason
  deriving DecidableEq

/-- `PublishedGuidanceAuthority`. -/
structure PublishedGuidanceAuthority extends GuidanceAuthorityContent where
  authorityId : String
  authorityDigest : Digest
  deriving DecidableEq

/-! ## The selection and its binding -/

/-- What both selections say of the incident. -/
structure SelectionSubject where
  affectedRoleRef : String
  causeCategory : RootCauseCategory
  affectedPathId : Option String
  confidence : ConfidenceLevel
  requestedActions : List GuidanceActionKind
  deriving DecidableEq, Repr

/-- The variants of `GuidanceSelection`: `SelectedRunbookGuidanceSelection` and
`NoRunbookGuidanceSelection`. -/
inductive SelectionChoice
  | selectedRunbook (optionId : String) (optionDigest : Digest)
      (runbookReference : GuidanceRunbookReference)
  | noRunbook (reason : GuidanceNoRunbookReason)
  deriving DecidableEq, Repr

/-- `selection_kind`. -/
inductive SelectionKind
  | selectedRunbook | noRunbook
  deriving DecidableEq, Repr

def SelectionChoice.kind : SelectionChoice → SelectionKind
  | .selectedRunbook _ _ _ => .selectedRunbook
  | .noRunbook _ => .noRunbook

/-- The option which the selection names. -/
def SelectionChoice.optionId? : SelectionChoice → Option String
  | .selectedRunbook optionId _ _ => some optionId
  | .noRunbook _ => none

/-- The reason which the selection gives for naming none. -/
def SelectionChoice.reason? : SelectionChoice → Option GuidanceNoRunbookReason
  | .selectedRunbook _ _ _ => none
  | .noRunbook reason => some reason

/-- What the digest of a selection covers. -/
structure GuidanceSelectionContent extends SelectionSubject where
  choice : SelectionChoice
  deriving DecidableEq, Repr

/-- `GuidanceSelection`. -/
structure GuidanceSelection extends GuidanceSelectionContent where
  selectionId : String
  selectionDigest : Digest
  deriving DecidableEq, Repr

/-- `IncidentCorrelationSubject`. -/
structure IncidentCorrelationSubject where
  subjectId : String
  incidentId : String
  incidentRevision : ℕ
  incidentState : IncidentState
  incidentStateDigest : Digest
  subjectDigest : Digest
  deriving DecidableEq

/-- What a `PublishedRuntimeContextBinding` has beyond every context binding. -/
structure PublishedRuntimeContext extends PublishedContextIdentity where
  publicationAuthority : PublishedContextAuthority
  publicationAuthorityReference : VersionPinnedBlobReference
  deriving DecidableEq

/-- `IncidentBoundCorrelationRequest`; the runtime context is there exactly when the
request's context binding is a published one. -/
structure IncidentBoundCorrelationRequest where
  requestId : String
  incidentSubject : IncidentCorrelationSubject
  correlationRequest : CorrelationRequest
  runtimeContext : Option PublishedRuntimeContext
  bindingDigest : Digest
  runtime_iff : runtimeContext.isSome ↔
    correlationRequest.contextBinding.bindingMode = .publishedRuntime

/-- What the signature of a `PublishedGuidanceAuthorityBinding` covers. -/
structure GuidanceBindingContent where
  incidentBoundRequest : IncidentBoundCorrelationRequest
  correlationReport : CorrelationReport
  guidanceAuthority : PublishedGuidanceAuthority
  guidanceAuthorityReference : VersionPinnedBlobReference
  requestedActions : List GuidanceActionKind
  evaluatedAt : UtcDateTime
  selection : GuidanceSelection

/-- `PublishedGuidanceAuthorityBindingAttestation`. -/
structure GuidanceBindingAttestation where
  keyId : String
  signedPreimageDigest : Digest
  detachedSignature : String
  deriving DecidableEq, Repr

/-- What the digest of a `PublishedGuidanceAuthorityBinding` covers. -/
structure AttestedGuidanceBinding extends GuidanceBindingContent where
  bindingAttestation : GuidanceBindingAttestation

/-- `PublishedGuidanceAuthorityBinding`. -/
structure PublishedGuidanceAuthorityBinding extends AttestedGuidanceBinding where
  bindingId : String
  bindingDigest : Digest

/-! ## Guidance -/

/-- What the digest of an `IncidentGuidanceSourceBinding` covers. -/
structure GuidanceSourceContent where
  incidentSubjectId : String
  incidentSubjectDigest : Digest
  incidentId : String
  incidentRevision : ℕ
  incidentStateDigest : Digest
  incidentBoundRequestId : String
  incidentBoundRequestDigest : Digest
  correlationReportId : String
  correlationReportDigest : Digest
  correlationRequestDigest : Digest
  transitionDigest : Digest
  ruleCatalogDigest : Digest
  inputInventoryDigest : Digest
  guidanceAuthorityId : String
  guidanceAuthorityDigest : Digest
  guidanceBindingId : String
  guidanceBindingDigest : Digest
  selectionKind : SelectionKind
  selectedOptionId : Option String
  noRunbookReason : Option GuidanceNoRunbookReason
  deriving DecidableEq, Repr

/-- `IncidentGuidanceSourceBinding`. -/
structure IncidentGuidanceSourceBinding extends GuidanceSourceContent where
  sourceId : String
  sourceDigest : Digest
  deriving DecidableEq, Repr

/-- `GuidanceAffectedRoleImpact`. -/
structure GuidanceAffectedRoleImpact where
  roleRef : String
  profileId : String
  impactSeverity : GuidanceImpactSeverity
  impactCode : GuidanceImpactCode
  deriving DecidableEq, Repr

/-- What the digest of a `GuidanceTimelineEntry` covers. -/
structure TimelineEntryContent where
  timelineKind : GuidanceTimelineKind
  observedStart : UtcDateTime
  observedEnd : UtcDateTime
  summaryCode : String
  evidenceIds : List String
  deriving DecidableEq, Repr

/-- `GuidanceTimelineEntry`. -/
structure GuidanceTimelineEntry extends TimelineEntryContent where
  entryId : String
  entryDigest : Digest
  deriving DecidableEq, Repr

/-- `GuidanceHypothesisSummary`. -/
structure GuidanceHypothesisSummary where
  rank : ℕ
  hypothesisId : String
  hypothesisDigest : Digest
  category : RootCauseCategory
  confidence : ConfidenceLevel
  causeResourceDigest : Option Digest
  affectedPathId : Option String
  supportingEvidenceIds : List String
  supportingEvidenceCount : ℕ
  supportingEvidenceDigest : Digest
  omittedCandidateCount : Option ℕ
  omittedCandidateDigest : Option Digest
  contradictionCodes : List ContradictionCode
  missingEvidenceCodes : List MissingEvidenceCode
  deriving DecidableEq, Repr

/-- `GuidanceTemplateParameter`. -/
structure GuidanceTemplateParameter where
  parameterKind : GuidanceTemplateParameterKind
  value : String
  deriving DecidableEq, Repr

/-- What the digest of a `GuidanceStep` covers. -/
structure GuidanceStepContent where
  actionKind : GuidanceActionKind
  templateCode : GuidanceTemplateCode
  parameters : List GuidanceTemplateParameter
  evidenceIds : List String
  provenanceClauseRef : Option String
  optionId : Option String
  readOnly : Bool
  requiresAuthorization : Bool
  deriving DecidableEq, Repr

/-- `GuidanceStep`. -/
structure GuidanceStep extends GuidanceStepContent where
  stepId : String
  stepDigest : Digest
  deriving DecidableEq, Repr

/-- What the digest of a `GuidanceRunbookLink` covers. -/
structure RunbookLinkContent where
  optionId : String
  optionDigest : Digest
  runbookReference : GuidanceRunbookReference
  deriving DecidableEq, Repr

/-- `GuidanceRunbookLink`. -/
structure GuidanceRunbookLink extends RunbookLinkContent where
  linkId : String
  linkDigest : Digest
  deriving DecidableEq, Repr

/-- `GuidanceLegality`. -/
structure GuidanceLegality where
  confidence : ConfidenceLevel
  selectionKind : SelectionKind
  manualActionsAuthorized : Bool
  rollbackAuthorized : Bool
  runbookReferenceAuthorized : Bool
  withheldReasons : List GuidanceWithheldReason
  deriving DecidableEq, Repr

/-- What the digest of an `IncidentGuidance` covers. -/
structure IncidentGuidanceContent where
  generatedAt : UtcDateTime
  sourceBinding : IncidentGuidanceSourceBinding
  affectedRoleImpact : GuidanceAffectedRoleImpact
  timeline : List GuidanceTimelineEntry
  hypotheses : List GuidanceHypothesisSummary
  confirmationChecks : List GuidanceStep
  investigationSteps : List GuidanceStep
  safeManualOptions : List GuidanceStep
  rollbackConsiderations : List GuidanceStep
  recoveryValidation : List GuidanceStep
  escalation : List GuidanceStep
  runbookLinks : List GuidanceRunbookLink
  missingEvidence : List MissingEvidenceCode
  legality : GuidanceLegality
  deriving DecidableEq, Repr

/-- `IncidentGuidance`. -/
structure IncidentGuidance extends IncidentGuidanceContent where
  guidanceId : String
  guidanceDigest : Digest
  deriving DecidableEq, Repr

/-- The six collections of steps with the action that each is for. -/
def IncidentGuidance.collections (g : IncidentGuidance) :
    List (List GuidanceStep × GuidanceActionKind) :=
  [(g.confirmationChecks, .confirmationCheck), (g.investigationSteps, .investigationCheck),
    (g.safeManualOptions, .manualResolutionOption),
    (g.rollbackConsiderations, .rollbackConsideration),
    (g.recoveryValidation, .recoveryValidation), (g.escalation, .escalation)]

/-- Every step of a guidance, in whatever collection it stands. -/
def IncidentGuidance.steps (g : IncidentGuidance) : List GuidanceStep :=
  g.collections.flatMap Prod.fst

@[simp] theorem IncidentGuidance.mem_steps {g : IncidentGuidance} {step : GuidanceStep} :
    step ∈ g.steps ↔ step ∈ g.confirmationChecks ∨ step ∈ g.investigationSteps ∨
      step ∈ g.safeManualOptions ∨ step ∈ g.rollbackConsiderations ∨
      step ∈ g.recoveryValidation ∨ step ∈ g.escalation := by
  simp [IncidentGuidance.steps, IncidentGuidance.collections]

/-! ## Digests -/

/-- The SHA-256 digests of the records, and the lengths of the two that are bounded. -/
structure GuidanceDigests where
  option : RunbookGuidanceOptionContent → Digest
  contextAuthorityBytes : PublishedContextAuthority → Digest
  authority : GuidanceAuthorityContent → Digest
  authorityBytes : PublishedGuidanceAuthority → Digest
  selection : GuidanceSelectionContent → Digest
  bindingPreimage : GuidanceBindingContent → Digest
  binding : AttestedGuidanceBinding → Digest
  hypothesis : HypothesisDigest
  report : CorrelationReport → Digest
  reportBytes : CorrelationReport → ℕ
  resourceId : ResourceId → Digest
  evidenceIds : List String → Digest
  source : GuidanceSourceContent → Digest
  timelineEntry : TimelineEntryContent → Digest
  step : GuidanceStepContent → Digest
  link : RunbookLinkContent → Digest
  guidance : IncidentGuidanceContent → Digest
  guidanceBytes : IncidentGuidance → ℕ

/-- An identifier made of a kind and the first 32 digits of a digest. -/
def boundIdentifier (kind : String) (digest : Digest) : String :=
  kind ++ "-" ++ String.ofList ((removePrefix digest "sha256:").toList.take 32)

def maxIncidentGuidanceBytes : ℕ := 64 * 1024

section Checks

variable (digests : GuidanceDigests)

/-- `validate_option`. -/
structure PublishedRunbookGuidanceOption.Valid (o : PublishedRunbookGuidanceOption) : Prop where
  applicability : o.applicability.Valid
  review : o.lastReviewedAt < o.reviewExpiresAt
  optionDigest : o.optionDigest = digests.option o.toRunbookGuidanceOptionContent
  optionId : o.optionId = boundIdentifier "guidance-option" o.optionDigest

/-- `validate_authority`. -/
structure PublishedGuidanceAuthority.Valid (a : PublishedGuidanceAuthority) : Prop where
  options : ∀ o ∈ a.options, o.Valid digests
  optionCount : a.options.length ≤ 256
  reasonCount : a.noRunbookReasons.length ≤ 16
  reasonOrder : strictlyOrdered GuidanceNoRunbookReason.text a.noRunbookReasons
  optionOrder : strictlyOrdered PublishedRunbookGuidanceOption.optionId a.options
  context : a.contextAuthority.toPublishedContextIdentity = a.toPublishedContextIdentity
  publication : a.publicationRecordDigest = a.contextAuthority.publicationRecordDigest ∧
    a.auditHeadDigest = a.contextAuthority.auditHeadDigest ∧
    a.publishedAt = a.contextAuthority.publishedAt
  contextReference : a.contextAuthorityReference.name =
      "context-authority/" ++ a.contextAuthority.authorityId ++ "/authority.json" ∧
    a.contextAuthorityReference.contentDigest = digests.contextAuthorityBytes a.contextAuthority
  provenance : ∀ o ∈ a.options, o.provenance.manifestId = a.manifestId ∧
    o.provenance.manifestVersion = a.manifestVersion ∧ o.provenance.profileId = a.profileId ∧
    o.lastReviewedAt ≤ a.publishedAt
  nonempty : a.options ≠ [] ∨ a.noRunbookReasons ≠ []
  authorityDigest : a.authorityDigest = digests.authority a.toGuidanceAuthorityContent
  authorityId : a.authorityId = boundIdentifier "guidance-authority" a.authorityDigest

/-- `validate_actions` of a selection and of a binding. -/
def ActionsValid (actions : List GuidanceActionKind) : Prop :=
  1 ≤ actions.length ∧ actions.length ≤ 16 ∧ strictlyOrdered GuidanceActionKind.text actions

instance (actions : List GuidanceActionKind) : Decidable (ActionsValid actions) := by
  unfold ActionsValid
  infer_instance

/-- `validate_selection`, the same for both variants. -/
structure GuidanceSelection.Valid (s : GuidanceSelection) : Prop where
  actions : ActionsValid s.requestedActions
  selectionDigest : s.selectionDigest = digests.selection s.toGuidanceSelectionContent
  selectionId : s.selectionId = boundIdentifier "guidance-selection" s.selectionDigest

/-- `validate_source`. -/
structure IncidentGuidanceSourceBinding.Valid (s : IncidentGuidanceSourceBinding) : Prop where
  revision : 1 ≤ s.incidentRevision
  selected : s.selectionKind = .selectedRunbook →
    s.selectedOptionId ≠ none ∧ s.noRunbookReason = none
  noRunbook : s.selectionKind = .noRunbook → s.selectedOptionId = none ∧ s.noRunbookReason ≠ none
  sourceDigest : s.sourceDigest = digests.source s.toGuidanceSourceContent
  sourceId : s.sourceId = boundIdentifier "guidance-source" s.sourceDigest

/-- `validate_entry`. -/
structure GuidanceTimelineEntry.Valid (e : GuidanceTimelineEntry) : Prop where
  evidence : e.evidenceIds.length = 1
  interval : e.observedStart ≤ e.observedEnd
  entryDigest : e.entryDigest = digests.timelineEntry e.toTimelineEntryContent
  entryId : e.entryId = boundIdentifier "guidance-timeline" e.entryDigest

/-- `expected_action` of a template. -/
def GuidanceTemplateCode.action : GuidanceTemplateCode → GuidanceActionKind
  | .confirmEffectiveRule | .confirmBackendHealth => .confirmationCheck
  | .inspectGuestHealth | .inspectNetworkPath | .inspectRecentChange => .investigationCheck
  | .reviewApprovedManualOption => .manualResolutionOption
  | .reviewRollbackAuthority => .rollbackConsideration
  | .validateRecoverySignals => .recoveryValidation
  | .escalateHumanReview => .escalation

/-- `allowed_parameter_kinds` of a template. -/
def GuidanceTemplateCode.parameterKinds : GuidanceTemplateCode →
    List GuidanceTemplateParameterKind
  | .confirmEffectiveRule | .confirmBackendHealth | .validateRecoverySignals =>
    [.resourceId, .pathId, .evidenceId]
  | .inspectGuestHealth => [.resourceId, .evidenceId, .roleRef]
  | .inspectNetworkPath => [.resourceId, .pathId, .evidenceId, .roleRef]
  | .inspectRecentChange => [.resourceId, .evidenceId]
  | .reviewApprovedManualOption => [.optionId, .roleRef, .pathId]
  | .reviewRollbackAuthority => [.optionId, .roleRef]
  | .escalateHumanReview => [.roleRef, .evidenceId]

/-- Sorting key of a template parameter. -/
def parameterKey (p : GuidanceTemplateParameter) : String ×ₗ String :=
  toLex (p.parameterKind.text, p.value)

/-- Field checks and `validate_step`. -/
structure GuidanceStep.Valid (s : GuidanceStep) : Prop where
  parameterCount : s.parameters.length ≤ 16
  evidenceCount : s.evidenceIds.length ≤ 32
  evidenceOrder : strictlyOrdered id s.evidenceIds
  parameterOrder : strictlyOrdered parameterKey s.parameters
  oneOfAKind : (s.parameters.map GuidanceTemplateParameter.parameterKind).Nodup
  action : s.actionKind = s.templateCode.action
  allowed : ∀ p ∈ s.parameters, p.parameterKind ∈ s.templateCode.parameterKinds
  prescriptive : s.actionKind.prescriptive → s.readOnly = false ∧
    s.requiresAuthorization = true ∧ s.optionId ≠ none ∧ s.provenanceClauseRef ≠ none
  readOnly : s.actionKind.prescriptive = false → s.readOnly = true ∧
    s.requiresAuthorization = false ∧ s.optionId = none ∧ s.provenanceClauseRef = none
  stepDigest : s.stepDigest = digests.step s.toGuidanceStepContent
  stepId : s.stepId = boundIdentifier "guidance-step" s.stepDigest

/-- `validate_link`. -/
structure GuidanceRunbookLink.Valid (l : GuidanceRunbookLink) : Prop where
  linkDigest : l.linkDigest = digests.link l.toRunbookLinkContent
  linkId : l.linkId = boundIdentifier "guidance-link" l.linkDigest

/-- Field checks and `validate_legality`. -/
structure GuidanceLegality.Valid (l : GuidanceLegality) : Prop where
  reasonCount : l.withheldReasons.length ≤ 16
  reasonOrder : strictlyOrdered GuidanceWithheldReason.text l.withheldReasons
  noRunbook : l.selectionKind = .noRunbook → l.manualActionsAuthorized = false ∧
    l.rollbackAuthorized = false ∧ l.runbookReferenceAuthorized = false
  confirmed : l.manualActionsAuthorized ∨ l.rollbackAuthorized → l.confidence = .confirmed
  runbook : l.runbookReferenceAuthorized → ConfidenceLevel.high.rank ≤ l.confidence.rank

/-- Field checks of a `GuidanceHypothesisSummary` and `validate_omission`. -/
structure GuidanceHypothesisSummary.Valid (h : GuidanceHypothesisSummary) : Prop where
  rank : 1 ≤ h.rank ∧ h.rank ≤ 64
  evidenceCount : h.supportingEvidenceIds.length ≤ 4 ∧ h.supportingEvidenceCount ≤ 128
  evidenceOrder : strictlyOrdered id h.supportingEvidenceIds
  contradictionOrder : strictlyOrdered ContradictionCode.text h.contradictionCodes
  missingOrder : strictlyOrdered MissingEvidenceCode.text h.missingEvidenceCodes
  omission : h.omittedCandidateCount.isSome = h.omittedCandidateDigest.isSome

/-- Levels under which a guidance stays read-only. -/
def lowerConfidence (c : ConfidenceLevel) : Prop := c = .unknown ∨ c = .low ∨ c = .medium

/-- Field checks and `validate_guidance`. -/
structure IncidentGuidance.Valid (g : IncidentGuidance) : Prop where
  source : g.sourceBinding.Valid digests
  entries : ∀ e ∈ g.timeline, e.Valid digests
  entryCount : 1 ≤ g.timeline.length ∧ g.timeline.length ≤ 128
  summaries : ∀ h ∈ g.hypotheses, h.Valid
  summaryCount : 1 ≤ g.hypotheses.length ∧ g.hypotheses.length ≤ 64
  checkCount : g.confirmationChecks.length ≤ 64 ∧ g.investigationSteps.length ≤ 64
  optionCount : g.safeManualOptions.length ≤ 32 ∧ g.rollbackConsiderations.length ≤ 32 ∧
    g.recoveryValidation.length ≤ 32 ∧ g.escalation.length ≤ 32
  linkCount : g.runbookLinks.length ≤ 16
  steps : ∀ s ∈ g.steps, s.Valid digests
  links : ∀ l ∈ g.runbookLinks, l.Valid digests
  legality : g.legality.Valid
  missingOrder : strictlyOrdered MissingEvidenceCode.text g.missingEvidence
  ranks : g.hypotheses.map GuidanceHypothesisSummary.rank = List.range' 1 g.hypotheses.length
  hypothesisIds : (g.hypotheses.map GuidanceHypothesisSummary.hypothesisId).Nodup
  timelineOrder : (g.timeline.map fun e => toLex (e.observedStart, e.entryId)).Pairwise (· ≤ ·)
  timelineIds : (g.timeline.map GuidanceTimelineEntry.entryId).Nodup
  stepOrder : ∀ c ∈ g.collections, strictlyOrdered GuidanceStep.stepId c.1
  actions : ∀ c ∈ g.collections, ∀ s ∈ c.1, s.actionKind = c.2
  linkOrder : strictlyOrdered GuidanceRunbookLink.linkId g.runbookLinks
  confidence : ∀ top ∈ g.hypotheses.head?, g.legality.confidence = top.confidence
  selectionKind : g.legality.selectionKind = g.sourceBinding.selectionKind
  selectedStep : ∀ s ∈ g.safeManualOptions ++ g.rollbackConsiderations,
    s.optionId = g.sourceBinding.selectedOptionId
  selectedLink : ∀ l ∈ g.runbookLinks, some l.optionId = g.sourceBinding.selectedOptionId
  selectedParameter : ∀ s ∈ g.steps, ∀ p ∈ s.parameters, p.parameterKind = .optionId →
    some p.value = g.sourceBinding.selectedOptionId
  lower : lowerConfidence g.legality.confidence → g.safeManualOptions = [] ∧
    g.rollbackConsiderations = [] ∧ g.runbookLinks = []
  high : g.legality.confidence = .high → g.safeManualOptions = [] ∧ g.rollbackConsiderations = []
  manual : g.safeManualOptions ≠ [] → g.legality.manualActionsAuthorized
  rollback : g.rollbackConsiderations ≠ [] → g.legality.rollbackAuthorized
  runbook : g.runbookLinks ≠ [] → g.legality.runbookReferenceAuthorized
  noRunbook : g.legality.selectionKind = .noRunbook → g.safeManualOptions = [] ∧
    g.rollbackConsiderations = [] ∧ g.runbookLinks = []
  escalated : g.legality.selectionKind = .noRunbook → g.escalation ≠ []
  investigated : lowerConfidence g.legality.confidence →
    g.confirmationChecks ≠ [] ∧ g.investigationSteps ≠ []
  guidanceDigest : g.guidanceDigest = digests.guidance g.toIncidentGuidanceContent
  guidanceId : g.guidanceId = boundIdentifier "incident-guidance" g.guidanceDigest
  bytes : digests.guidanceBytes g ≤ maxIncidentGuidanceBytes

end Checks

/-- A step of a valid guidance that prescribes something stands in one of the two
prescriptive collections. -/
theorem prescriptive_collection {digests : GuidanceDigests} {g : IncidentGuidance}
    (h : g.Valid digests) {step : GuidanceStep} (hm : step ∈ g.steps)
    (hp : step.actionKind.prescriptive = true) :
    step ∈ g.safeManualOptions ∧ step.actionKind = .manualResolutionOption ∨
      step ∈ g.rollbackConsiderations ∧ step.actionKind = .rollbackConsideration := by
  have hactions : ∀ c ∈ g.collections, step ∈ c.1 → step.actionKind = c.2 :=
    fun c hc hs => h.actions c hc step hs
  simp only [IncidentGuidance.collections, List.mem_cons, List.not_mem_nil, or_false,
    forall_eq_or_imp, forall_eq] at hactions
  obtain ⟨hc, hi, hs, hr, hv, he⟩ := hactions
  rw [IncidentGuidance.mem_steps] at hm
  rcases hm with hm | hm | hm | hm | hm | hm
  · rw [hc hm] at hp
    cases hp
  · rw [hi hm] at hp
    cases hp
  · exact Or.inl ⟨hm, hs hm⟩
  · exact Or.inr ⟨hm, hr hm⟩
  · rw [hv hm] at hp
    cases hp
  · rw [he hm] at hp
    cases hp

end AthenaContext.GuidanceRecords
