import AthenaContext.CorrelationConflicts
import AthenaContext.GuidanceRecords

/-!
# Admission of guidance

Which runbook option of an authority applies to a correlated incident, when a binding may
select it, and which guidance a binding admits. The guidance may come from any producer:
only its own checks and its comparison with the binding are known of it.
-/

namespace AthenaContext.GuidanceAdmission

open OrdinalCollections CorrelationRules CorrelationEvidence CorrelationEnvelope
  CorrelationEngine CorrelationContract CorrelationConflicts GuidanceRecords
open IncidentRecords (IncidentState)

/-! ## Applicable options -/

/-- The path of a selection is outside the scope of an option. -/
def pathMismatch (a : GuidanceApplicability) (pathId : Option String) : Prop :=
  (a.pathScope = .specificPaths ∧ pathId ∉ a.pathIds.map some) ∨
    (a.pathScope = .notPathScoped ∧ pathId ≠ none) ∨
    (a.pathScope = .anyGovernedPath ∧ pathId = none)

/-- The option is for another category, role, action or path. -/
def controlMismatch (a : GuidanceApplicability) (selection : GuidanceSelection)
    (requestedActions : List GuidanceActionKind) : Prop :=
  selection.causeCategory ∉ a.causeCategories ∨ selection.affectedRoleRef ∉ a.roleRefs ∨
    ¬ requestedActions ⊆ a.actions ∨ pathMismatch a selection.affectedPathId

instance (a : GuidanceApplicability) (pathId : Option String) :
    Decidable (pathMismatch a pathId) := by
  unfold pathMismatch
  infer_instance

instance (a : GuidanceApplicability) (selection : GuidanceSelection)
    (requestedActions : List GuidanceActionKind) :
    Decidable (controlMismatch a selection requestedActions) := by
  unfold controlMismatch
  infer_instance

/-- `_option_failure_reasons`. -/
def optionFailureReasons (option : PublishedRunbookGuidanceOption) (selection : GuidanceSelection)
    (requestedActions : List GuidanceActionKind) (evaluatedAt : UtcDateTime) :
    Finset GuidanceNoRunbookReason :=
  (if option.controlHealth ≠ .effective then {.controlNotEffective} else ∅) ∪
  (if evaluatedAt < option.lastReviewedAt ∨ option.reviewExpiresAt ≤ evaluatedAt then
    {.reviewExpired} else ∅) ∪
  (if controlMismatch option.applicability selection requestedActions then
    {.noMatchingControl} else ∅) ∪
  (if selection.confidence.rank < option.applicability.minimumConfidence.rank then
    {.confidenceTooLow} else ∅)

/-- The scope of an option covers the path of a selection. -/
def PathApplicable (a : GuidanceApplicability) (pathId : Option String) : Prop :=
  match a.pathScope with
  | .specificPaths => ∃ p ∈ a.pathIds, pathId = some p
  | .notPathScoped => pathId = none
  | .anyGovernedPath => pathId ≠ none

/-- An option applies: it is effective, inside its review window, and for the category, the
role, the path, all actions and the confidence. -/
structure OptionApplicable (option : PublishedRunbookGuidanceOption) (subject : SelectionSubject)
    (evaluatedAt : UtcDateTime) : Prop where
  effective : option.controlHealth = .effective
  reviewed : option.lastReviewedAt ≤ evaluatedAt ∧ evaluatedAt < option.reviewExpiresAt
  category : subject.causeCategory ∈ option.applicability.causeCategories
  role : subject.affectedRoleRef ∈ option.applicability.roleRefs
  actions : subject.requestedActions ⊆ option.applicability.actions
  path : PathApplicable option.applicability subject.affectedPathId
  confidence : option.applicability.minimumConfidence.rank ≤ subject.confidence.rank

theorem not_pathMismatch_iff {a : GuidanceApplicability} {pathId : Option String} :
    ¬ pathMismatch a pathId ↔ PathApplicable a pathId := by
  unfold pathMismatch PathApplicable
  cases a.pathScope <;> simp [eq_comm]

theorem not_controlMismatch_iff {a : GuidanceApplicability} {selection : GuidanceSelection}
    {requestedActions : List GuidanceActionKind} :
    ¬ controlMismatch a selection requestedActions ↔ selection.causeCategory ∈ a.causeCategories ∧
      selection.affectedRoleRef ∈ a.roleRefs ∧ requestedActions ⊆ a.actions ∧
      PathApplicable a selection.affectedPathId := by
  simp only [controlMismatch, not_or, not_not, not_pathMismatch_iff]

theorem ite_singleton_eq_empty {α : Type} [DecidableEq α] {p : Prop} [Decidable p] {a : α} :
    (if p then ({a} : Finset α) else ∅) = ∅ ↔ ¬ p := by
  by_cases h : p <;> simp [h]

/-- An option without a failure reason is one that applies. -/
theorem optionFailureReasons_eq_empty_iff {option : PublishedRunbookGuidanceOption}
    {selection : GuidanceSelection} {evaluatedAt : UtcDateTime} :
    optionFailureReasons option selection selection.requestedActions evaluatedAt = ∅ ↔
      OptionApplicable option selection.toSelectionSubject evaluatedAt := by
  rw [optionFailureReasons, Finset.union_eq_empty, Finset.union_eq_empty, Finset.union_eq_empty,
    ite_singleton_eq_empty, ite_singleton_eq_empty, ite_singleton_eq_empty, ite_singleton_eq_empty,
    not_controlMismatch_iff]
  simp only [not_not, not_or, not_lt, not_le]
  constructor
  · rintro ⟨⟨⟨heffective, hreviewed⟩, hcategory, hrole, hactions, hpath⟩, hconfidence⟩
    exact ⟨heffective, hreviewed, hcategory, hrole, hactions, hpath, hconfidence⟩
  · intro h
    exact ⟨⟨⟨h.effective, h.reviewed⟩, h.category, h.role, h.actions, h.path⟩, h.confidence⟩

/-! ## The selection of a binding -/

/-- `_has_material_competing_cause`. -/
def hasMaterialCompetingCause (report : CorrelationReport) : Bool :=
  report.hypotheses.tail.any fun item =>
    decide (ConfidenceLevel.medium.rank ≤ item.confidence.rank)

/-- The top hypothesis carries a competing-cause contradiction. -/
def competingCauseAttached (report : CorrelationReport) : Bool :=
  report.hypotheses.head?.any fun top => top.contradictions.any fun c => c.code == .competingCause

variable (b : GuidanceBindingContent)

/-- `prescriptive_allowed`. -/
def prescriptiveAllowed : Bool :=
  !b.requestedActions.any GuidanceActionKind.prescriptive ||
    (b.selection.confidence == .confirmed && !hasMaterialCompetingCause b.correlationReport &&
      !competingCauseAttached b.correlationReport)

/-- `option_failures` of one option. -/
def optionFailures (option : PublishedRunbookGuidanceOption) : Finset GuidanceNoRunbookReason :=
  optionFailureReasons option b.selection b.requestedActions b.evaluatedAt ∪
    if prescriptiveAllowed b then ∅ else {.confidenceTooLow}

/-- `applicable_options`. -/
def applicableOptions : List PublishedRunbookGuidanceOption :=
  b.guidanceAuthority.options.filter fun option => optionFailures b option = ∅

/-- The checks on the choice of a selection. -/
def choiceJustified : Prop :=
  match b.selection.choice with
  | .selectedRunbook optionId optionDigest runbookReference =>
    (∃ option, (b.guidanceAuthority.options.find? fun item => item.optionId = optionId) =
        some option ∧ option.optionDigest = optionDigest ∧
      option.runbookReference = runbookReference ∧
      option.optionId ∈ (applicableOptions b).map PublishedRunbookGuidanceOption.optionId) ∧
    prescriptiveAllowed b
  | .noRunbook reason => applicableOptions b = [] ∧
    (reason ∈ b.guidanceAuthority.noRunbookReasons ∨
      ∃ option ∈ b.guidanceAuthority.options, reason ∈ optionFailures b option)

section Binding

variable (digests : GuidanceDigests)

/-- `validate_runtime_correlation_report`. -/
structure RuntimeReportValid (report : CorrelationReport) (request : CorrelationRequest)
    (evaluatedAt : UtcDateTime) : Prop where
  valid : ReportValid digests.hypothesis report
  bound : ReportBound request report
  bytes : digests.reportBytes report ≤ maximumReportCanonicalBytes
  window : request.issuedAt ≤ evaluatedAt ∧ evaluatedAt ≤ request.expiresAt
  published : request.contextBinding.bindingMode = .publishedRuntime ∧
    report.bindingMode = .publishedRuntime ∧ report.previewOnly = false

/-- Field checks and `PublishedGuidanceAuthorityBinding.validate_binding`. The checks of the
incident's subject against the request come before and are not read again. -/
structure BindingValid (b : PublishedGuidanceAuthorityBinding) : Prop where
  request : b.incidentBoundRequest.correlationRequest.Accepted
  authority : b.guidanceAuthority.Valid digests
  selection : b.selection.Valid digests
  actions : ActionsValid b.requestedActions
  report : RuntimeReportValid digests b.correlationReport
    b.incidentBoundRequest.correlationRequest b.evaluatedAt
  evaluated : b.correlationReport.asOf ≤ b.evaluatedAt ∧
    b.guidanceAuthority.publishedAt ≤ b.evaluatedAt
  context : ∃ context ∈ b.incidentBoundRequest.runtimeContext,
    b.guidanceAuthority.toPublishedContextIdentity = context.toPublishedContextIdentity ∧
    b.guidanceAuthority.contextBindingDigest =
      b.incidentBoundRequest.correlationRequest.contextBinding.bindingDigest ∧
    b.guidanceAuthority.contextAuthority = context.publicationAuthority ∧
    b.guidanceAuthority.contextAuthorityReference = context.publicationAuthorityReference
  reference : b.guidanceAuthorityReference.name =
      "guidance-authority/" ++ b.guidanceAuthority.authorityId ++ "/authority.json" ∧
    b.guidanceAuthorityReference.contentDigest = digests.authorityBytes b.guidanceAuthority
  role : b.selection.affectedRoleRef =
    b.incidentBoundRequest.incidentSubject.incidentState.workloadRole.text
  top : ∃ top ∈ b.correlationReport.hypotheses.head?, b.selection.causeCategory = top.category ∧
    b.selection.affectedPathId = top.affectedPathId ∧ b.selection.confidence = top.confidence
  requested : b.selection.requestedActions = b.requestedActions
  choice : choiceJustified b.toGuidanceBindingContent
  preimage : b.bindingAttestation.signedPreimageDigest =
    digests.bindingPreimage b.toGuidanceBindingContent
  bindingDigest : b.bindingDigest = digests.binding b.toAttestedGuidanceBinding
  bindingId : b.bindingId = boundIdentifier "guidance-binding" b.bindingDigest

/-! ## What a guidance repeats of its binding -/

/-- `build_incident_guidance_source_binding`. -/
def buildIncidentGuidanceSourceBinding (b : PublishedGuidanceAuthorityBinding) :
    IncidentGuidanceSourceBinding :=
  let subject := b.incidentBoundRequest.incidentSubject
  let content : GuidanceSourceContent :=
    { incidentSubjectId := subject.subjectId
      incidentSubjectDigest := subject.subjectDigest
      incidentId := subject.incidentId
      incidentRevision := subject.incidentRevision
      incidentStateDigest := subject.incidentStateDigest
      incidentBoundRequestId := b.incidentBoundRequest.requestId
      incidentBoundRequestDigest := b.incidentBoundRequest.bindingDigest
      correlationReportId := boundIdentifier "report" (digests.report b.correlationReport)
      correlationReportDigest := digests.report b.correlationReport
      correlationRequestDigest := b.correlationReport.requestDigest
      transitionDigest := b.correlationReport.transitionDigest
      ruleCatalogDigest := b.correlationReport.ruleCatalogDigest
      inputInventoryDigest := b.correlationReport.inputInventoryDigest
      guidanceAuthorityId := b.guidanceAuthority.authorityId
      guidanceAuthorityDigest := b.guidanceAuthority.authorityDigest
      guidanceBindingId := b.bindingId
      guidanceBindingDigest := b.bindingDigest
      selectionKind := b.selection.choice.kind
      selectedOptionId := b.selection.choice.optionId?
      noRunbookReason := b.selection.choice.reason? }
  { content with
    sourceId := boundIdentifier "guidance-source" (digests.source content)
    sourceDigest := digests.source content }

/-- `project_guidance_hypotheses` for one hypothesis. -/
def projectGuidanceHypothesis (item : RootCauseHypothesis) : GuidanceHypothesisSummary :=
  let evidenceIds := sortOn id (item.supportingEvidence.map CorrelationEvidenceCitation.evidenceId)
  { rank := item.rank
    hypothesisId := boundIdentifier "hyp" (digests.hypothesis.digest item)
    hypothesisDigest := digests.hypothesis.digest item
    category := item.category
    confidence := item.confidence
    causeResourceDigest := item.causeResourceId.map digests.resourceId
    affectedPathId := item.affectedPathId
    supportingEvidenceIds := evidenceIds.take 4
    supportingEvidenceCount := evidenceIds.length
    supportingEvidenceDigest := digests.evidenceIds evidenceIds
    omittedCandidateCount := item.omittedCandidateCount
    omittedCandidateDigest := item.omittedCandidateDigest
    contradictionCodes :=
      sortOn ContradictionCode.text (item.contradictions.map CorrelationContradiction.code).dedup
    missingEvidenceCodes :=
      sortOn MissingEvidenceCode.text
        (item.missingEvidence.map MissingCorrelationEvidence.code).dedup }

/-- `project_guidance_hypotheses`. -/
def projectGuidanceHypotheses (report : CorrelationReport) : List GuidanceHypothesisSummary :=
  report.hypotheses.map (projectGuidanceHypothesis digests)

/-- The withheld reasons of `build_guidance_legality`, in the order of their texts. -/
def withheldReasons (selected competing : Bool) (top : RootCauseHypothesis) :
    List GuidanceWithheldReason :=
  (if competing then [.competingCause] else []) ++
  (if top.confidence.rank < ConfidenceLevel.confirmed.rank then [.confidenceTooLow] else []) ++
  (if top.missingEvidence ≠ [] then [.missingEvidence] else []) ++
  (if selected then [] else [.noRunbook])

/-- `build_guidance_legality`, `none` where the report has no top hypothesis. -/
def buildGuidanceLegality (b : GuidanceBindingContent) : Option GuidanceLegality := do
  let top ← b.correlationReport.hypotheses.head?
  let selected := b.selection.choice.kind == .selectedRunbook
  let competing :=
    hasMaterialCompetingCause b.correlationReport || competingCauseAttached b.correlationReport
  let authorized (action : GuidanceActionKind) : Bool :=
    selected && top.confidence == .confirmed && !competing && b.requestedActions.contains action
  return {
    confidence := top.confidence
    selectionKind := b.selection.choice.kind
    manualActionsAuthorized := authorized .manualResolutionOption
    rollbackAuthorized := authorized .rollbackConsideration
    runbookReferenceAuthorized :=
      selected && decide (ConfidenceLevel.high.rank ≤ top.confidence.rank)
    withheldReasons := withheldReasons selected competing top }

/-- `guidance_timeline_kind_for_evidence`, `none` where the request has no such evidence. -/
def guidanceTimelineKindForEvidence (evidenceId : String) (request : CorrelationRequest) :
    Option GuidanceTimelineKind :=
  if evidenceId ∈ (request.incidentAnchor.previousStateEvidence ++
      request.incidentAnchor.currentStateEvidence).map CorrelationEvidenceCitation.evidenceId then
    some .healthTransition
  else match request.observation? evidenceId with
    | some observation =>
      if observation.healthState = some .recovered then some .recovery
      else match observation with
        | .guestSignal _ => some .guestSignal
        | .networkFlow _ | .connectionMonitor _ | .endpointHealth _ => some .networkEvidence
        | .platformHealth _ => some .platformHealth
    | none => (request.change? evidenceId).map fun _ => .resourceChange

/-- `impact_severity` of an availability. -/
def impactSeverity : IncidentRecords.Availability → GuidanceImpactSeverity
  | .normal => .none
  | .warning => .limited
  | .critical => .critical
  | .unknown => .unknown

/-- `impact_code` of a state. -/
def impactCode (state : IncidentState) : GuidanceImpactCode :=
  if state.lifecycle = .resolved then .roleRecovered
  else match state.availability with
    | .unknown => .unknownImpact
    | .warning => .roleDegraded
    | .critical =>
      if state.workloadRole = .databasePrimary ∧
          (state.blastRadius = .dataTier ∨ state.blastRadius = .wholeWorkload) then
        .dataTierUnavailable
      else if state.workloadRole = .loadBalancer ∧ state.blastRadius = .ingressEdge then
        .ingressUnavailable
      else .roleDegraded
    | .normal => .unknownImpact

/-- `build_guidance_affected_role_impact`. -/
def buildGuidanceAffectedRoleImpact (b : GuidanceBindingContent) : GuidanceAffectedRoleImpact :=
  let state := b.incidentBoundRequest.incidentSubject.incidentState
  ⟨state.workloadRole.text, b.guidanceAuthority.profileId, impactSeverity state.availability,
    impactCode state⟩

/-! ## The guidance of a binding -/

/-- One timeline claim repeats its citation. -/
def timelineClaim (request : CorrelationRequest) (e : GuidanceTimelineEntry) : Prop :=
  ∃ evidenceId ∈ e.evidenceIds.head?, ∃ citation ∈ request.evidence? evidenceId,
    e.observedStart = citation.observedStart ∧ e.observedEnd = citation.observedEnd ∧
    e.summaryCode = citation.summaryCode ∧
    guidanceTimelineKindForEvidence evidenceId request = some e.timelineKind

/-- `selected_resource_ids`. -/
def selectedResourceIds (b : GuidanceBindingContent) : Finset ResourceId :=
  let request := b.incidentBoundRequest.correlationRequest
  let path := b.selection.affectedPathId.bind request.path?
  let resources := (path.map DependencyPath.resourceIds).getD {request.affectedResourceId}
  let cause := b.correlationReport.hypotheses.head?.bind RootCauseHypothesis.causeResourceId
  resources ∪ (cause.map fun r => {r}).getD ∅

/-- One parameter of a step names what the binding is about. -/
def parameterBound (b : GuidanceBindingContent) (step : GuidanceStep)
    (p : GuidanceTemplateParameter) : Prop :=
  match p.parameterKind with
  | .resourceId => p.value ∈ selectedResourceIds b
  | .pathId => some p.value = b.selection.affectedPathId
  | .evidenceId => (b.incidentBoundRequest.correlationRequest.evidence? p.value).isSome ∧
      p.value ∈ step.evidenceIds
  | .optionId => some p.value = b.selection.choice.optionId? ∧ some p.value = step.optionId
  | .roleRef => p.value = b.selection.affectedRoleRef

/-- The last checks of `validate_incident_guidance_binding`. -/
def runbookBound (g : IncidentGuidance) (b : GuidanceBindingContent) : Prop :=
  match b.selection.choice with
  | .selectedRunbook optionId optionDigest runbookReference =>
    (∀ link ∈ g.runbookLinks, link.optionId = optionId ∧ link.optionDigest = optionDigest ∧
      link.runbookReference = runbookReference) ∧
    (∀ step ∈ g.safeManualOptions ++ g.rollbackConsiderations, step.optionId = some optionId ∧
      ∃ option, (b.guidanceAuthority.options.find? fun item => item.optionId = optionId) =
        some option ∧ step.provenanceClauseRef = some option.provenance.clausePath) ∧
    (g.safeManualOptions ≠ [] → .manualResolutionOption ∈ b.requestedActions) ∧
    (g.rollbackConsiderations ≠ [] → .rollbackConsideration ∈ b.requestedActions)
  | .noRunbook _ => g.runbookLinks = [] ∧ g.safeManualOptions = [] ∧ g.rollbackConsiderations = []

/-- `validate_incident_guidance_binding`, both records having passed their own checks. -/
structure GuidanceBound (verify : GuidanceBindingContent → String → Bool)
    (trustedBindingKeyId : String) (g : IncidentGuidance)
    (b : PublishedGuidanceAuthorityBinding) : Prop where
  guidance : g.Valid digests
  binding : BindingValid digests b
  signature : b.bindingAttestation.keyId = trustedBindingKeyId ∧
    verify b.toGuidanceBindingContent b.bindingAttestation.detachedSignature = true
  source : g.sourceBinding = buildIncidentGuidanceSourceBinding digests b
  generated : g.generatedAt = b.evaluatedAt
  hypotheses : g.hypotheses = projectGuidanceHypotheses digests b.correlationReport
  impact : g.affectedRoleImpact = buildGuidanceAffectedRoleImpact b.toGuidanceBindingContent
  legality : buildGuidanceLegality b.toGuidanceBindingContent = some g.legality
  timeline : ∀ e ∈ g.timeline, timelineClaim b.incidentBoundRequest.correlationRequest e
  cited : ∀ step ∈ g.steps, ∀ i ∈ step.evidenceIds,
    (b.incidentBoundRequest.correlationRequest.evidence? i).isSome
  parameters : ∀ step ∈ g.steps, ∀ p ∈ step.parameters,
    parameterBound b.toGuidanceBindingContent step p
  currentState : ∀ c ∈ b.incidentBoundRequest.correlationRequest.incidentAnchor.currentStateEvidence,
    ∃ e ∈ g.timeline, c.evidenceId ∈ e.evidenceIds
  missing : g.missingEvidence = sortOn MissingEvidenceCode.text
    (b.correlationReport.hypotheses.flatMap fun h =>
      h.missingEvidence.map MissingCorrelationEvidence.code).dedup
  runbook : runbookBound g b.toGuidanceBindingContent

end Binding

/-! ## Options that a binding accepts -/

variable {b}

/-- An option is applicable when it applies to the selection and nothing forbids to
prescribe. -/
theorem mem_applicableOptions (hr : b.selection.requestedActions = b.requestedActions)
    {option : PublishedRunbookGuidanceOption} :
    option ∈ applicableOptions b ↔ option ∈ b.guidanceAuthority.options ∧
      OptionApplicable option b.selection.toSelectionSubject b.evaluatedAt ∧
      prescriptiveAllowed b = true := by
  rw [applicableOptions, List.mem_filter, decide_eq_true_eq, optionFailures,
    Finset.union_eq_empty, ← hr, optionFailureReasons_eq_empty_iff]
  by_cases hallowed : prescriptiveAllowed b = true <;> simp [hallowed]

/-- What an option has to apply to: the top hypothesis, the role of the incident and all
requested actions. -/
def incidentSelection (b : GuidanceBindingContent) (top : RootCauseHypothesis) :
    SelectionSubject where
  affectedRoleRef := b.incidentBoundRequest.incidentSubject.incidentState.workloadRole.text
  causeCategory := top.category
  affectedPathId := top.affectedPathId
  confidence := top.confidence
  requestedActions := b.requestedActions

variable {digests : GuidanceDigests} {verify : GuidanceBindingContent → String → Bool}
  {trustedBindingKeyId : String} {g : IncidentGuidance} {v : PublishedGuidanceAuthorityBinding}

theorem BindingValid.subject (h : BindingValid digests v) {top : RootCauseHypothesis}
    (htop : top ∈ v.correlationReport.hypotheses.head?) :
    v.selection.toSelectionSubject = incidentSelection v.toGuidanceBindingContent top := by
  obtain ⟨top', htop', hcategory, hpath, hconfidence⟩ := h.top
  cases Option.mem_unique htop htop'
  have hrole := h.role
  have hrequested := h.requested
  rw [incidentSelection, ← hrole, ← hcategory, ← hpath, ← hconfidence, ← hrequested]

theorem BindingValid.option_unique (h : BindingValid digests v)
    {o o' : PublishedRunbookGuidanceOption} (ho : o ∈ v.guidanceAuthority.options)
    (ho' : o' ∈ v.guidanceAuthority.options) (hid : o'.optionId = o.optionId) : o' = o :=
  h.authority.optionOrder.eq_of_key ho' ho hid

/-- A selected runbook is an option of the authority that applies to the incident. -/
theorem BindingValid.selected (h : BindingValid digests v) {top : RootCauseHypothesis}
    (htop : top ∈ v.correlationReport.hypotheses.head?) {optionId : String}
    {optionDigest : Digest} {runbookReference : GuidanceRunbookReference}
    (hc : v.selection.choice = .selectedRunbook optionId optionDigest runbookReference) :
    ∃ option ∈ v.guidanceAuthority.options,
      (v.guidanceAuthority.options.find? fun item => item.optionId = optionId) = some option ∧
      v.selection.choice =
        .selectedRunbook option.optionId option.optionDigest option.runbookReference ∧
      OptionApplicable option (incidentSelection v.toGuidanceBindingContent top) v.evaluatedAt ∧
      prescriptiveAllowed v.toGuidanceBindingContent = true := by
  have hj := h.choice
  unfold choiceJustified at hj
  rw [hc] at hj
  obtain ⟨⟨option, hfind, rfl, rfl, hmem⟩, hallowed⟩ := hj
  have hoption := List.mem_of_find?_eq_some hfind
  have hid : option.optionId = optionId := by simpa using List.find?_some hfind
  obtain ⟨option', happ, hid'⟩ := List.mem_map.mp hmem
  obtain ⟨hoption', happlicable, -⟩ := (mem_applicableOptions h.requested).mp happ
  cases h.option_unique hoption hoption' hid'
  rw [h.subject htop] at happlicable
  exact ⟨option, hoption, hfind, by rw [hc, hid], happlicable, hallowed⟩

/-! ## Earned guidance -/

/-- No cause competes with the top hypothesis: every other one stays below Medium and no
competing-cause contradiction is attached to it. -/
structure Uncontested (report : CorrelationReport) (top : RootCauseHypothesis) : Prop where
  others : ∀ other ∈ report.hypotheses.tail, other.confidence.rank < ConfidenceLevel.medium.rank
  attached : ∀ c ∈ top.contradictions, c.code ≠ .competingCause

theorem uncontested_of_not_competing {report : CorrelationReport} {top : RootCauseHypothesis}
    (htop : top ∈ report.hypotheses.head?)
    (h : (hasMaterialCompetingCause report || competingCauseAttached report) = false) :
    Uncontested report top := by
  obtain ⟨hmaterial, hattached⟩ := Bool.or_eq_false_iff.mp h
  constructor
  · intro other hother
    have hlow := List.any_eq_false.mp hmaterial other hother
    exact not_le.mp (by simpa using hlow)
  · intro c hc hcode
    rw [competingCauseAttached, Option.mem_def.mp htop, Option.any_some] at hattached
    exact List.any_eq_false.mp hattached c hc (beq_iff_eq.mpr hcode)

/-- A legality authorizes an action only for an uncontested Confirmed cause. -/
theorem buildGuidanceLegality_authorized {l : GuidanceLegality}
    (h : buildGuidanceLegality b = some l)
    (hl : l.manualActionsAuthorized = true ∨ l.rollbackAuthorized = true) :
    ∃ top ∈ b.correlationReport.hypotheses.head?, top.confidence = .confirmed ∧
      Uncontested b.correlationReport top ∧
      l.withheldReasons = withheldReasons true false top := by
  obtain ⟨top, htop, hbuilt⟩ := Option.bind_eq_some_iff.mp h
  cases hbuilt
  simp only [Bool.and_eq_true, beq_iff_eq, Bool.not_eq_true'] at hl
  obtain ⟨hselected, hconfirmed, hcompeting⟩ :
      b.selection.choice.kind = .selectedRunbook ∧ top.confidence = .confirmed ∧
        (hasMaterialCompetingCause b.correlationReport ||
          competingCauseAttached b.correlationReport) = false := by
    rcases hl with ⟨⟨⟨hselected, hconfirmed⟩, hcompeting⟩, -⟩ |
      ⟨⟨⟨hselected, hconfirmed⟩, hcompeting⟩, -⟩ <;>
      exact ⟨hselected, hconfirmed, hcompeting⟩
  refine ⟨top, htop, hconfirmed, uncontested_of_not_competing htop hcompeting, ?_⟩
  simp only [hselected, hcompeting, beq_self_eq_true]

/-- A bound Confirmed hypothesis misses no evidence, so nothing is withheld from it. -/
theorem withheldReasons_confirmed {request : CorrelationRequest} {top : RootCauseHypothesis}
    (h : HypothesisBound request top) (hconfirmed : top.confidence = .confirmed) :
    withheldReasons true false top = [] := by
  have hmissing : top.missingEvidence = [] := by
    rw [List.eq_nil_iff_forall_not_mem]
    intro m hm
    have hlt := h.missing m hm
    rw [hconfirmed] at hlt
    cases hrequired : m.requiredForConfidence <;> rw [hrequired] at hlt <;>
      exact absurd hlt (by decide)
  simp [withheldReasons, hconfirmed, hmissing]

/-- What a prescriptive step rests on: an uncontested Confirmed cause, a request for the
action, and the one selected option, which applies to the incident and is named with its
clause by every such step. Nothing is withheld. -/
structure PrescriptionEarned (g : IncidentGuidance) (v : PublishedGuidanceAuthorityBinding)
    (top : RootCauseHypothesis) (option : PublishedRunbookGuidanceOption) : Prop where
  confirmed : top.confidence = .confirmed
  uncontested : Uncontested v.correlationReport top
  requested : ∀ step ∈ g.steps, step.actionKind.prescriptive = true →
    step.actionKind ∈ v.requestedActions
  selected : v.selection.choice =
    .selectedRunbook option.optionId option.optionDigest option.runbookReference
  unique : ∀ other ∈ v.guidanceAuthority.options, other.optionId = option.optionId →
    other = option
  named : ∀ step ∈ g.steps, step.actionKind.prescriptive = true →
    step.optionId = some option.optionId ∧
      step.provenanceClauseRef = some option.provenance.clausePath
  applicable : OptionApplicable option (incidentSelection v.toGuidanceBindingContent top)
    v.evaluatedAt
  withheld : g.legality.withheldReasons = []

/-- What a runbook link rests on. -/
structure LinkEarned (link : GuidanceRunbookLink) (v : PublishedGuidanceAuthorityBinding)
    (top : RootCauseHypothesis) (option : PublishedRunbookGuidanceOption) : Prop where
  confidence : ConfidenceLevel.high.rank ≤ top.confidence.rank
  selected : v.selection.choice =
    .selectedRunbook option.optionId option.optionDigest option.runbookReference
  reviewed : link.optionId = option.optionId ∧ link.optionDigest = option.optionDigest ∧
    link.runbookReference = option.runbookReference

/-- The choice of a binding whose guidance prescribes something. -/
theorem GuidanceBound.prescriptive_choice
    (h : GuidanceBound digests verify trustedBindingKeyId g v) {step : GuidanceStep}
    (hm : step ∈ g.safeManualOptions ++ g.rollbackConsiderations) :
    ∃ optionId optionDigest runbookReference,
      v.selection.choice = .selectedRunbook optionId optionDigest runbookReference := by
  have hrunbook := h.runbook
  unfold runbookBound at hrunbook
  cases hc : v.selection.choice with
  | selectedRunbook optionId optionDigest runbookReference => exact ⟨_, _, _, rfl⟩
  | noRunbook reason =>
    rw [hc] at hrunbook
    obtain ⟨-, hmanual, hrollback⟩ := hrunbook
    rw [hmanual, hrollback] at hm
    cases hm

/-- The prescriptive steps of a guidance are those of its two prescriptive collections. -/
theorem GuidanceBound.mem_prescriptive
    (h : GuidanceBound digests verify trustedBindingKeyId g v) {step : GuidanceStep}
    (hm : step ∈ g.steps) (hp : step.actionKind.prescriptive = true) :
    step ∈ g.safeManualOptions ++ g.rollbackConsiderations := by
  rcases prescriptive_collection h.guidance hm hp with ⟨hs, -⟩ | ⟨hs, -⟩
  · exact List.mem_append_left _ hs
  · exact List.mem_append_right _ hs

/-- A guidance with a prescriptive step is authorized to have one. -/
theorem GuidanceBound.authorized (h : GuidanceBound digests verify trustedBindingKeyId g v)
    {step : GuidanceStep} (hm : step ∈ g.steps) (hp : step.actionKind.prescriptive = true) :
    g.legality.manualActionsAuthorized = true ∨ g.legality.rollbackAuthorized = true := by
  rcases prescriptive_collection h.guidance hm hp with ⟨hs, -⟩ | ⟨hs, -⟩
  · exact Or.inl (h.guidance.manual (List.ne_nil_of_mem hs))
  · exact Or.inr (h.guidance.rollback (List.ne_nil_of_mem hs))

/-- A guidance which its binding admits has earned whatever it prescribes: this holds of
every producer of guidance. -/
theorem guidance_earned (h : GuidanceBound digests verify trustedBindingKeyId g v) :
    ((∃ step ∈ g.steps, step.actionKind.prescriptive = true) →
      ∃ top ∈ v.correlationReport.hypotheses.head?, ∃ option ∈ v.guidanceAuthority.options,
        PrescriptionEarned g v top option) ∧
    (∀ link ∈ g.runbookLinks, ∃ top ∈ v.correlationReport.hypotheses.head?,
      ∃ option ∈ v.guidanceAuthority.options, LinkEarned link v top option) ∧
    (v.selection.choice.kind = .noRunbook →
      applicableOptions v.toGuidanceBindingContent = [] ∧
      (∀ step ∈ g.steps, step.actionKind.prescriptive = false) ∧ g.runbookLinks = []) := by
  have hrunbook := h.runbook
  unfold runbookBound at hrunbook
  refine ⟨?_, ?_, ?_⟩
  · rintro ⟨step, hm, hp⟩
    obtain ⟨top, htop, hconfirmed, huncontested, hwithheld⟩ :=
      buildGuidanceLegality_authorized h.legality (h.authorized hm hp)
    obtain ⟨optionId, optionDigest, runbookReference, hc⟩ :=
      h.prescriptive_choice (h.mem_prescriptive hm hp)
    obtain ⟨option, hoption, hfind, hselected, happlicable, -⟩ := h.binding.selected htop hc
    rw [hc] at hrunbook
    obtain ⟨-, hsteps, hmanual, hrollback⟩ := hrunbook
    have hid : optionId = option.optionId :=
      (SelectionChoice.selectedRunbook.inj (hc.symm.trans hselected)).1
    refine ⟨top, htop, option, hoption, hconfirmed, huncontested, ?_, hselected,
      fun other hother => h.binding.option_unique hoption hother, ?_, happlicable, ?_⟩
    · intro s hs hps
      rcases prescriptive_collection h.guidance hs hps with ⟨hin, hkind⟩ | ⟨hin, hkind⟩
      · rw [hkind]
        exact hmanual (List.ne_nil_of_mem hin)
      · rw [hkind]
        exact hrollback (List.ne_nil_of_mem hin)
    · intro s hs hps
      obtain ⟨hname, option', hfind', hclause⟩ := hsteps s (h.mem_prescriptive hs hps)
      cases hfind.symm.trans hfind'
      exact ⟨by rw [hname, hid], hclause⟩
    · rw [hwithheld]
      exact withheldReasons_confirmed
        (h.binding.report.bound.hypotheses top (List.mem_of_mem_head? htop)) hconfirmed
  · intro link hlink
    have hauthorized := h.guidance.runbook (List.ne_nil_of_mem hlink)
    obtain ⟨top, htop, hbuilt⟩ := Option.bind_eq_some_iff.mp h.legality
    rw [← Option.some.inj hbuilt] at hauthorized
    simp only [Bool.and_eq_true, beq_iff_eq, decide_eq_true_eq] at hauthorized
    obtain ⟨hkind, hhigh⟩ := hauthorized
    cases hc : v.selection.choice with
    | noRunbook reason =>
      rw [hc] at hkind
      cases hkind
    | selectedRunbook optionId optionDigest runbookReference =>
      obtain ⟨option, hoption, -, hselected, -⟩ := h.binding.selected htop hc
      rw [hc] at hrunbook
      obtain ⟨hid, hdigest, hreference⟩ := hrunbook.1 link hlink
      obtain ⟨hid', hdigest', hreference'⟩ :=
        SelectionChoice.selectedRunbook.inj (hc.symm.trans hselected)
      exact ⟨top, htop, option, hoption, hhigh, hselected, hid.trans hid', hdigest.trans hdigest',
        hreference.trans hreference'⟩
  · intro hkind
    cases hc : v.selection.choice with
    | selectedRunbook optionId optionDigest runbookReference =>
      rw [hc] at hkind
      cases hkind
    | noRunbook reason =>
      have hj := h.binding.choice
      unfold choiceJustified at hj
      rw [hc] at hj hrunbook
      obtain ⟨hlinks, hmanual, hrollback⟩ := hrunbook
      refine ⟨hj.1, ?_, hlinks⟩
      intro step hs
      rw [← Bool.not_eq_true]
      intro hp
      have hm := h.mem_prescriptive hs hp
      rw [hmanual, hrollback] at hm
      cases hm

/-! ## A manual step for a confirmed cause -/

/-- The failed test of the denied connection. -/
def failedTest : ConnectionMonitorObservation where
  toObservationBase := sampleBase "m1" sampleVm 2000 3000
  pathId := "p1"
  monitorResourceId := "/subscriptions/s/resourcegroups/g/providers/microsoft.network/monitors/m"
  sourceResourceId := sampleVm
  destinationResourceId := sampleDb
  sourceAddress := "10.0.0.4"
  destinationAddress := "10.0.0.5"
  direction := .outbound
  protocol := .tcp
  sourcePort := some 50000
  destinationPort := some 1433
  fiveTupleDigest := sampleFlow.fiveTupleDigest
  status := .failed
  testConfigurationReference := "test"
  testConfigurationDigest := "sha256:test"

/-- Coverage of the denied flow. -/
def flowCoverage : EvidenceCoverage :=
  { sampleCoverage with
    coverageId := "k2"
    family := .networkFlow
    scope := ⟨sampleFlow.resourceIds, some "p1", some .outbound,
      some sampleFlow.fiveTupleDigest, none, none, "sha256:flow"⟩
    sourceRootReference := "root-k2" }

/-- Coverage of the failed test. -/
def testCoverage : EvidenceCoverage :=
  { sampleCoverage with
    coverageId := "k3"
    family := .connectionMonitor
    scope := ⟨failedTest.coverageResourceIds, some "p1", some .outbound,
      some failedTest.fiveTupleDigest, some "test", some "sha256:test", "sha256:scope-test"⟩
    sourceRootReference := "root-k3" }

/-- The sample incident with its failed test, everything covered. -/
def coveredRequest : CorrelationRequest :=
  { sampleRequest .succeeded with
    monitoringBundle :=
      { sampleBundle with
        observations := sampleBundle.observations ++ [.connectionMonitor failedTest]
        coverage := [testCoverage, sampleCoverage, flowCoverage] } }

/-- The confirmed cause of the incident: the change of the rule. -/
def cause : RootCauseHypothesis where
  rank := 1
  category := .networkSecurityChange
  causeResourceId := some sampleRule
  affectedPathId := some "p1"
  candidateCausalAt := some 1000
  score := ⟨25, 20, 20, 25, 0, 90⟩
  confidence := .confirmed
  supportingEvidence := [changeCitation (sampleChange .succeeded),
    coveredRequest.observationCitation
      (.endpointHealth (sampleEndpoint "e1" .unavailable 2000 3000)),
    coveredRequest.observationCitation (.networkFlow sampleFlow),
    coveredRequest.observationCitation (.connectionMonitor failedTest)]
  contradictions := []
  missingEvidence := []
  omittedCandidateCount := none
  omittedCandidateDigest := none
  gates := [⟨.affectedPath, true, ["e1"]⟩, ⟨.connectionMonitorFailure, true, ["m1"]⟩,
    ⟨.correctChronology, true, ["c1"]⟩, ⟨.effectiveRuleAttribution, true, ["f1"]⟩,
    ⟨.endpointDegradation, true, ["e1"]⟩, ⟨.independentCorroboration, true, ["e1", "f1", "m1"]⟩,
    ⟨.matchingDeniedFlow, true, ["f1"]⟩, ⟨.noHardConflict, true, []⟩,
    ⟨.semanticMatch, true, ["c1"]⟩, ⟨.successfulChange, true, ["c1"]⟩]
  caps := []

theorem failedTest_valid : failedTest.Valid where
  base := ⟨sampleFlow_valid.base.1, by decide⟩
  resources := ⟨by decide, sampleFlow_valid.resources.1, sampleFlow_valid.resources.2.1⟩
  ports := by decide
  tuple := rfl

theorem canonical_flow : ∀ r ∈ sampleFlow.resourceIds, canonicalResourceId r := by
  obtain ⟨hsource, hdestination, henforcement, hrule⟩ := sampleFlow_valid.resources
  have hsubject := sampleFlow_valid.base.1
  intro r hr
  simp only [NetworkFlowObservation.resourceIds, Finset.mem_union, Finset.mem_insert,
    Finset.mem_singleton] at hr
  rcases hr with (rfl | rfl | rfl | rfl) | hr
  · exact hsubject
  · exact hsource
  · exact hdestination
  · exact henforcement
  · exact hrule r (Option.mem_def.mpr (congrArg some (List.mem_singleton.mp hr).symm))

theorem canonical_test : ∀ r ∈ failedTest.coverageResourceIds, canonicalResourceId r := by
  obtain ⟨-, hsource, hdestination⟩ := failedTest_valid.resources
  intro r hr
  simp only [ConnectionMonitorObservation.coverageResourceIds, Finset.mem_insert,
    Finset.mem_singleton] at hr
  rcases hr with rfl | rfl | rfl
  · exact failedTest_valid.base.1
  · exact hsource
  · exact hdestination

theorem flowCoverage_valid : flowCoverage.Valid where
  monitoringFamily := by decide
  resources := ⟨by decide, by decide, canonical_flow⟩
  interval := by decide
  executions := by decide
  detail := by decide
  flowScope := by decide
  monitorScope := by decide

theorem testCoverage_valid : testCoverage.Valid where
  monitoringFamily := by decide
  resources := ⟨by decide, by decide, canonical_test⟩
  interval := by decide
  executions := by decide
  detail := by decide
  flowScope := by decide
  monitorScope := by decide

theorem coveredRequest_bundle : coveredRequest.monitoringBundle.Valid where
  interval := by decide
  observations := List.forall_mem_append.mpr
    ⟨sampleBundle_valid.observations, List.forall_mem_singleton.mpr failedTest_valid⟩
  observationOrder := by decide
  observationCount := by decide
  coverage := List.forall_mem_cons.mpr ⟨testCoverage_valid, List.forall_mem_cons.mpr
    ⟨sampleCoverage_valid,
      List.forall_mem_singleton.mpr flowCoverage_valid⟩⟩
  coverageOrder := by decide
  coverageCount := by decide
  contained := by decide
  coverageContained := by decide
  provenance := by decide

theorem coveredRequest_accepted : coveredRequest.Accepted :=
  have hsample := sampleRequest_accepted .succeeded
  { window := hsample.window
    bundle := coveredRequest_bundle
    transition := hsample.transition
    notNewer := hsample.notNewer
    changes := hsample.changes
    changeOrder := hsample.changeOrder
    changeCount := hsample.changeCount
    changesNotNewer := hsample.changesNotNewer
    attribution := hsample.attribution
    indexIds := by decide
    indexCount := by decide
    indexResources := by decide
    incidentEvidence := by decide
    previousHealth := by decide
    currentHealth := by decide
    pathOrder := hsample.pathOrder
    pathCount := hsample.pathCount
    pathResources := hsample.pathResources
    governed := by decide
    coverageGoverned := by decide }

theorem cause_valid : HypothesisValid cause where
  rank := by decide
  cause := sampleFlow_valid.resources.2.2.2
  score := by decide
  supportBound := by decide
  contradictionBound := by decide
  missingBound := by decide
  gateBound := by decide
  capBound := by decide
  gates := by 
    unfold gateValid
    decide
  contradictions := by simp [cause]
  missing := by simp [cause]
  omissionCount := by decide
  omissionPaired := by decide
  omission := fun h => absurd h (by decide)
  noOmission := by simp [declaresOmission, cause]
  supportOrder := by decide
  gateOrder := by decide
  capOrder := by decide
  contradictionOrder := by decide
  missingOrder := by decide
  hardConflict := by simp [cause]
  threshold := by decide
  capped := by decide
  confirmedGates := fun _ => by decide
  confirmedSupport := fun _ => by decide
  confirmedGateSet := by
    intro _ _ code
    cases code <;> decide


theorem covered_flow : coveredRequest.observation? "f1" = some (.networkFlow sampleFlow) := by
  rfl

theorem covered_test : coveredRequest.observation? "m1" = some (.connectionMonitor failedTest) := by
  rfl

theorem covered_endpoint : coveredRequest.observation? "e1" =
    some (.endpointHealth (sampleEndpoint "e1" .unavailable 2000 3000)) := by
  decide

theorem covered_change : coveredRequest.change? "c1" = some (sampleChange .succeeded) := by
  decide

theorem cited_flow : .networkFlow sampleFlow ∈ citedObservations coveredRequest ["f1"] :=
  List.mem_filterMap.mpr ⟨"f1", List.mem_cons_self, covered_flow⟩

theorem cited_test : .connectionMonitor failedTest ∈ citedObservations coveredRequest ["m1"] :=
  List.mem_filterMap.mpr ⟨"m1", List.mem_cons_self, covered_test⟩

theorem cited_endpoint : .endpointHealth (sampleEndpoint "e1" .unavailable 2000 3000) ∈
    citedObservations coveredRequest ["e1"] :=
  List.mem_filterMap.mpr ⟨"e1", List.mem_cons_self, covered_endpoint⟩

theorem flow_attributed :
    attributedTo coveredRequest cause (sampleChange .succeeded) sampleFlow := by
  decide

theorem cause_change : exactChange coveredRequest cause (sampleChange .succeeded) :=
  ⟨"c1", covered_change, by decide, by decide, by decide⟩

theorem sampleChange_causal : (sampleChange .succeeded).evidence.causal = true := by
  have hpath : isNsgCausalProperty "properties.access" = true :=
    sampleFlow_valid.causalPaths _ List.mem_cons_self
  exact List.any_eq_true.mpr ⟨_, List.mem_cons_self, hpath⟩

theorem change_high : highChange coveredRequest cause (sampleChange .succeeded) :=
  ⟨rfl, rfl, sampleChange_rule .succeeded, sampleChange_causal, rfl, by decide⟩

/-- The governed path between the virtual machine and the database. -/
def coveredPath : DependencyPath := ⟨"p1", {sampleVm, sampleDb, sampleNsg, sampleRule}⟩

theorem covered_path : coveredPath ∈ affectedPath coveredRequest cause := by decide

theorem cause_gateBound : ∀ g ∈ cause.gates, gateBound coveredRequest cause g := by
  intro g hg
  simp only [cause, List.mem_cons, List.not_mem_nil, or_false] at hg
  rcases hg with rfl | rfl | rfl | rfl | rfl | rfl | rfl | rfl | rfl | rfl
  · show affectedPathBound _ _ _
    unfold affectedPathBound
    decide
  · exact ⟨failedTest, cited_test, rfl, rfl, by decide⟩
  · exact ⟨"c1", rfl, _, covered_change, rfl, by decide, by simp [onCause, cause, sampleChange]⟩
  · exact ⟨sampleFlow, cited_flow, rfl, by decide, rfl, rfl, by decide⟩
  · exact ⟨_, cited_endpoint, by decide, rfl, by decide⟩
  · show corroborationBound _ _ _
    unfold corroborationBound relevantCorroboration
    decide
  · exact ⟨sampleFlow, cited_flow, rfl, rfl, by decide⟩
  · trivial
  · have hchanges : citedChanges coveredRequest ["c1"] = [(sampleChange .succeeded).evidence] := by
      simp only [citedChanges, List.filterMap_cons, covered_change, Option.map_some,
        List.filterMap_nil]
    show semanticMatchBound _ _ ["c1"]
    unfold semanticMatchBound
    rw [hchanges]
    refine ⟨List.cons_ne_nil _ _, fun c hc => ?_⟩
    obtain rfl := List.mem_singleton.mp hc
    exact ⟨List.cons_ne_nil _ _, fun _ => sampleChange_causal⟩
  · show successfulChangeBound _ _ _
    unfold successfulChangeBound onCause
    decide

theorem cause_caps : CapsRequired coveredRequest cause where
  recentChangeOnly := fun h => absurd h.2 (by decide)
  missingAffectedPath := fun h => absurd h (by decide)
  missingIndependentSupport := fun h => absurd h (by decide)
  missingDirectAttribution := fun _ h => absurd h (by decide)

theorem flow_covered : flowCoverageMatches coveredRequest cause flowCoverage sampleFlow :=
  ⟨rfl, ⟨rfl, rfl, rfl, rfl, rfl, subset_refl _⟩, by decide, by decide, by decide⟩

theorem flow_valid : validFlow coveredRequest cause (sampleChange .succeeded) coveredPath
    sampleFlow := by
  have hmem : flowCoverage ∈ coveredRequest.coverage :=
    List.mem_cons_of_mem _ (List.mem_cons_of_mem _ List.mem_cons_self)
  exact ⟨flow_attributed, by decide, by decide, flowCoverage, hmem, flow_covered⟩

theorem flow_confirmed : sampleFlow ∈
    confirmedFlows coveredRequest cause (sampleChange .succeeded) coveredPath := by
  have hids : (gateIdList cause .effectiveRuleAttribution).filter
      (fun i => i ∈ gateIdList cause .matchingDeniedFlow) = ["f1"] := by
    decide
  unfold confirmedFlows
  rw [hids, List.mem_filter, mem_networkFlows]
  exact ⟨cited_flow, decide_eq_true flow_valid⟩

theorem test_covered : monitorCoverageMatches coveredRequest cause testCoverage failedTest :=
  ⟨rfl, ⟨rfl, rfl, rfl, rfl, rfl, rfl, rfl, subset_refl _⟩, by decide, by decide, by decide⟩

theorem test_valid : validTest coveredRequest cause (sampleChange .succeeded) coveredPath
    failedTest := by
  have hmem : testCoverage ∈ coveredRequest.coverage := List.mem_cons_self
  exact ⟨rfl, rfl, by decide, by decide, by decide, testCoverage, hmem, test_covered⟩

theorem test_confirmed : failedTest ∈
    confirmedTests coveredRequest cause (sampleChange .succeeded) coveredPath := by
  have hids : gateIdList cause .connectionMonitorFailure = ["m1"] := by
    decide
  unfold confirmedTests
  rw [hids, List.mem_filter, mem_connectionMonitors]
  have htuple : CorrelationMatching.sameNetworkTuple sampleFlow failedTest :=
    ⟨rfl, rfl, rfl, rfl, rfl, rfl, rfl, rfl, rfl, rfl⟩
  exact ⟨cited_test, decide_eq_true ⟨test_valid, sampleFlow, flow_confirmed, htuple⟩⟩

theorem endpoint_confirmed : sampleEndpoint "e1" .unavailable 2000 3000 ∈
    confirmedEndpoints coveredRequest cause (sampleChange .succeeded) coveredPath := by
  decide

/-- The endpoint, the flow and the test corroborate the cause. -/
theorem cause_corroboration :
    causalCorroboration coveredRequest cause (sampleChange .succeeded) coveredPath =
      cause.supportingEvidence.tail := by
  have hids : gateIdList cause .independentCorroboration = ["e1", "f1", "m1"] := by
    decide
  have hpositive : positiveCitations coveredRequest ["e1", "f1", "m1"] =
      cause.supportingEvidence.tail := by
    rfl
  rw [causalCorroboration, hids, hpositive, List.filter_eq_self]
  intro c hc
  simp only [cause, List.tail_cons, List.mem_cons, List.not_mem_nil, or_false] at hc
  refine decide_eq_true ?_
  rcases hc with rfl | rfl | rfl
  · exact .inr (.inr ⟨_, endpoint_confirmed, rfl⟩)
  · exact .inl ⟨_, flow_confirmed, rfl⟩
  · exact .inr (.inl ⟨_, test_confirmed, rfl⟩)

theorem cause_confirmed : ConfirmedRequirements coveredRequest cause := by
  refine ⟨_, cause_change, change_high, coveredPath, covered_path, ?_, ?_,
    ⟨_, flow_confirmed, by decide⟩, ⟨_, test_confirmed, by decide⟩,
    ⟨_, endpoint_confirmed, by decide⟩⟩
  · rw [cause_corroboration]
    decide
  · rw [cause_corroboration]
    decide

theorem cause_bound : HypothesisBound coveredRequest cause where
  path := by decide
  support := by decide
  gateReferences := by decide
  contradictionReferences := by simp [cause]
  declaredConflict := by simp [cause]
  cited := by decide
  gates := fun g hg _ => cause_gateBound g hg
  exactFlow := by
    intro _ attributed ha denied hd
    cases ha
    cases hd
    exact ⟨"f1", List.mem_cons_self, List.mem_cons_self, sampleFlow, covered_flow,
      ⟨rfl, by decide, rfl, rfl, by decide⟩, rfl⟩
  missing := by simp [cause]
  caps := cause_caps
  high := by
    intro _ _
    refine ⟨by decide, _, cause_change, change_high, ?_⟩
    intro attributed ha
    cases ha
    exact ⟨"f1", List.mem_cons_self, ⟨_, rfl, List.mem_cons_self⟩, sampleFlow, covered_flow,
      flow_attributed⟩
  chronology := by
    unfold chronologyCapped requireCap
    decide
  mandatory := by
    intro code h
    exact absurd h (by cases code <;> decide)
  mandatoryGate := by
    intro _ code
    cases code <;> decide
  contradictions := by simp [cause]
  confirmed := fun _ => ⟨rfl, cause_confirmed⟩


/-- The report of the confirmed cause. -/
def confirmedReport : CorrelationReport where
  requestDigest := "sha256:request"
  transitionDigest := "sha256:transition"
  contextBindingDigest := "sha256:binding"
  inputInventoryDigest := "sha256:inventory"
  ruleCatalogDigest := "sha256:rules"
  asOf := 3000
  bindingMode := .publishedRuntime
  previewOnly := false
  incidentAnchorObservedStart := 2000
  incidentAnchorObservedEnd := 3000
  hypotheses := [cause]

/-- Digests that name the kind of a record. -/
noncomputable def kindDigests : GuidanceDigests where
  option _ := "sha256:option"
  contextAuthorityBytes _ := "sha256:context"
  authority _ := "sha256:authority"
  authorityBytes _ := "sha256:authority-bytes"
  selection _ := "sha256:selection"
  bindingPreimage _ := "sha256:preimage"
  binding _ := "sha256:guidance-binding"
  hypothesis := CorrelationDigests.enumerationDigest
  report _ := "sha256:report"
  reportBytes _ := 0
  resourceId _ := "sha256:resource"
  evidenceIds _ := "sha256:evidence"
  source _ := "sha256:source"
  timelineEntry _ := "sha256:entry"
  step _ := "sha256:step"
  link _ := "sha256:link"
  guidance _ := "sha256:guidance"
  guidanceBytes _ := 0

/-- The published context of the incident. -/
def publishedContext : PublishedContextAuthority where
  workloadId := "workload"
  manifestId := "manifest"
  manifestVersion := "1"
  manifestDigest := "sha256:manifest"
  profileId := "profile"
  resolvedProfileDigest := "sha256:profile"
  dependencyGraphDigest := "sha256:graph"
  authorityId := "context"
  contextBindingPayloadDigest := "sha256:payload"
  publicationRecordDigest := "sha256:record"
  auditHeadDigest := "sha256:audit"
  publishedAt := 500
  authorityDigest := "sha256:context-authority"

/-- A reviewed option for the change of the rule. -/
def reviewedOption : PublishedRunbookGuidanceOption where
  optionId := boundIdentifier "guidance-option" "sha256:option"
  optionDigest := "sha256:option"
  controlId := "control"
  provenance := ⟨"manifest", "1", "profile", "/controls/1", "owner"⟩
  applicability := ⟨[.networkSecurityChange], ["web"], .specificPaths, ["p1"],
    [.manualResolutionOption], .confirmed⟩
  runbookReference := .opaqueReference "runbook" "1" "sha256:runbook"
  controlHealth := .effective
  lastReviewedAt := 100
  reviewExpiresAt := 5000

/-- The authority that publishes the option. -/
def optionAuthority : PublishedGuidanceAuthority where
  toPublishedContextIdentity := publishedContext.toPublishedContextIdentity
  contextBindingDigest := "sha256:binding"
  contextAuthority := publishedContext
  contextAuthorityReference := ⟨"context-authority/context/authority.json", "1", "sha256:context"⟩
  publicationRecordDigest := "sha256:record"
  auditHeadDigest := "sha256:audit"
  publishedAt := 500
  options := [reviewedOption]
  noRunbookReasons := []
  authorityId := boundIdentifier "guidance-authority" "sha256:authority"
  authorityDigest := "sha256:authority"

/-- The incident of the web role. -/
def webIncident : IncidentCorrelationSubject where
  subjectId := "subject"
  incidentId := "inc-1"
  incidentRevision := 1
  incidentState :=
    { incidentId := "inc-1"
      transitionId := "transition"
      scenario := .webServerFailure
      lifecycle := .active
      workloadRole := .web
      detectedAt := 2000
      updatedAt := 3000
      targetBinding := "sha256:target"
      availability := .warning
      blastRadius := .webTier
      operatorAttention := .required
      findings := []
      reasoning := []
      resultDigest := "sha256:state" }
  incidentStateDigest := "sha256:state"
  subjectDigest := "sha256:subject"

/-- A binding that selects the option for the confirmed cause. -/
def confirmedBinding : PublishedGuidanceAuthorityBinding where
  incidentBoundRequest :=
    { requestId := "bound-request"
      incidentSubject := webIncident
      correlationRequest := coveredRequest
      runtimeContext := some
        { toPublishedContextIdentity := publishedContext.toPublishedContextIdentity
          publicationAuthority := publishedContext
          publicationAuthorityReference :=
            ⟨"context-authority/context/authority.json", "1", "sha256:context"⟩ }
      bindingDigest := "sha256:bound-request"
      runtime_iff := by decide }
  correlationReport := confirmedReport
  guidanceAuthority := optionAuthority
  guidanceAuthorityReference :=
    ⟨"guidance-authority/" ++ optionAuthority.authorityId ++ "/authority.json", "1",
      "sha256:authority-bytes"⟩
  requestedActions := [.manualResolutionOption]
  evaluatedAt := 3500
  selection :=
    { affectedRoleRef := "web"
      causeCategory := .networkSecurityChange
      affectedPathId := some "p1"
      confidence := .confirmed
      requestedActions := [.manualResolutionOption]
      choice := .selectedRunbook reviewedOption.optionId reviewedOption.optionDigest
        reviewedOption.runbookReference
      selectionId := boundIdentifier "guidance-selection" "sha256:selection"
      selectionDigest := "sha256:selection" }
  bindingAttestation := ⟨"key", "sha256:preimage", "signature"⟩
  bindingId := boundIdentifier "guidance-binding" "sha256:guidance-binding"
  bindingDigest := "sha256:guidance-binding"

/-- The manual step of the option. -/
def manualStep : GuidanceStep where
  actionKind := .manualResolutionOption
  templateCode := .reviewApprovedManualOption
  parameters := [⟨.optionId, reviewedOption.optionId⟩, ⟨.roleRef, "web"⟩]
  evidenceIds := []
  provenanceClauseRef := some "/controls/1"
  optionId := some reviewedOption.optionId
  readOnly := false
  requiresAuthorization := true
  stepId := boundIdentifier "guidance-step" "sha256:step"
  stepDigest := "sha256:step"

/-- Guidance with the manual step and a link to its runbook. -/
noncomputable def manualGuidance : IncidentGuidance where
  generatedAt := 3500
  sourceBinding := buildIncidentGuidanceSourceBinding kindDigests confirmedBinding
  affectedRoleImpact := ⟨"web", "profile", .limited, .roleDegraded⟩
  timeline := [
    { timelineKind := .healthTransition
      observedStart := 2000
      observedEnd := 3000
      summaryCode := "observation"
      evidenceIds := ["e1"]
      entryId := boundIdentifier "guidance-timeline" "sha256:entry"
      entryDigest := "sha256:entry" }]
  hypotheses := projectGuidanceHypotheses kindDigests confirmedReport
  confirmationChecks := []
  investigationSteps := []
  safeManualOptions := [manualStep]
  rollbackConsiderations := []
  recoveryValidation := []
  escalation := []
  runbookLinks := [
    { optionId := reviewedOption.optionId
      optionDigest := reviewedOption.optionDigest
      runbookReference := reviewedOption.runbookReference
      linkId := boundIdentifier "guidance-link" "sha256:link"
      linkDigest := "sha256:link" }]
  missingEvidence := []
  legality := ⟨.confirmed, .selectedRunbook, true, false, true, []⟩
  guidanceId := boundIdentifier "incident-guidance" "sha256:guidance"
  guidanceDigest := "sha256:guidance"

theorem reviewedOption_valid : reviewedOption.Valid kindDigests where
  applicability :=
    { categoryCount := by decide
      categoryOrder := by decide
      roleCount := by decide
      roleOrder := by decide
      pathCount := by decide
      pathOrder := by decide
      actionCount := by decide
      actionOrder := by decide
      specificPaths := by decide
      prescriptiveConfidence := fun _ => by decide
      knownCause := by decide }
  review := by decide
  optionDigest := rfl
  optionId := rfl

theorem optionAuthority_valid : optionAuthority.Valid kindDigests where
  options := List.forall_mem_singleton.mpr reviewedOption_valid
  optionCount := by decide
  reasonCount := by decide
  reasonOrder := by decide
  optionOrder := List.pairwise_singleton _ _
  context := rfl
  publication := ⟨rfl, rfl, rfl⟩
  contextReference := ⟨by decide, rfl⟩
  provenance := by decide
  nonempty := by decide
  authorityDigest := rfl
  authorityId := rfl

theorem confirmedBinding_valid : BindingValid kindDigests confirmedBinding where
  request := coveredRequest_accepted
  authority := optionAuthority_valid
  selection := ⟨by decide, rfl, rfl⟩
  actions := by decide
  report :=
    { valid :=
        { interval := by decide
          preview := rfl
          count := by decide
          hypotheses := List.forall_mem_singleton.mpr cause_valid
          ranks := rfl
          distinct := List.nodup_singleton _
          omission := List.forall_mem_singleton.mpr fun h => absurd h (by decide)
          causalTime := by decide }
      bound := ⟨rfl, rfl, rfl, rfl, rfl, rfl, rfl, rfl, ⟨rfl, rfl⟩,
        List.forall_mem_singleton.mpr cause_bound⟩
      bytes := Nat.zero_le _
      window := by decide
      published := ⟨rfl, rfl, rfl⟩ }
  evaluated := by decide
  context := ⟨_, rfl, rfl, rfl, rfl, rfl⟩
  reference := ⟨rfl, rfl⟩
  role := rfl
  top := ⟨cause, rfl, rfl, rfl, rfl⟩
  requested := rfl
  choice := by
    refine ⟨⟨reviewedOption, by decide, rfl, rfl, ?_⟩, by decide⟩
    decide
  preimage := rfl
  bindingDigest := rfl
  bindingId := rfl


theorem manualStep_valid : manualStep.Valid kindDigests where
  parameterCount := by decide
  evidenceCount := by decide
  evidenceOrder := by decide
  parameterOrder := by decide
  oneOfAKind := by decide
  action := rfl
  allowed := by decide
  prescriptive := fun _ => by decide
  readOnly := fun h => absurd h (by decide)
  stepDigest := rfl
  stepId := rfl

theorem manualGuidance_steps : manualGuidance.steps = [manualStep] := rfl

theorem manualGuidance_valid : manualGuidance.Valid kindDigests where
  source :=
    { revision := by decide
      selected := fun _ => ⟨Option.some_ne_none _, rfl⟩
      noRunbook := fun h => by cases h
      sourceDigest := rfl
      sourceId := rfl }
  entries := List.forall_mem_singleton.mpr
    { evidence := rfl, interval := by decide, entryDigest := rfl, entryId := rfl }
  entryCount := by simp [manualGuidance]
  summaries := List.forall_mem_singleton.mpr
    { rank := by decide
      evidenceCount := by decide
      evidenceOrder := by decide
      contradictionOrder := by decide
      missingOrder := by decide
      omission := rfl }
  summaryCount := by simp [manualGuidance, projectGuidanceHypotheses, confirmedReport]
  checkCount := by simp [manualGuidance]
  optionCount := by simp [manualGuidance]
  linkCount := by simp [manualGuidance]
  steps := by
    rw [manualGuidance_steps]
    exact List.forall_mem_singleton.mpr manualStep_valid
  links := List.forall_mem_singleton.mpr ⟨rfl, rfl⟩
  legality :=
    { reasonCount := by decide
      reasonOrder := List.Pairwise.nil
      noRunbook := fun h => by cases h
      confirmed := fun _ => rfl
      runbook := fun _ => by decide }
  missingOrder := List.Pairwise.nil
  ranks := rfl
  hypothesisIds := List.nodup_singleton _
  timelineOrder := List.pairwise_singleton _ _
  timelineIds := List.nodup_singleton _
  stepOrder := by
    simp [IncidentGuidance.collections, manualGuidance, strictlyOrdered]
  actions := by
    simp [IncidentGuidance.collections, manualGuidance, manualStep]
  linkOrder := List.pairwise_singleton _ _
  confidence := by
    rintro top ⟨⟩
    rfl
  selectionKind := rfl
  selectedStep := List.forall_mem_singleton.mpr rfl
  selectedLink := List.forall_mem_singleton.mpr rfl
  selectedParameter := by
    rw [manualGuidance_steps]
    rintro s hs p hp hk
    cases List.mem_singleton.mp hs
    simp only [manualStep, List.mem_cons, List.not_mem_nil, or_false] at hp
    rcases hp with rfl | rfl
    · rfl
    · cases hk
  lower := fun h => by simp [lowerConfidence, manualGuidance] at h
  high := fun h => by cases h
  manual := fun _ => rfl
  rollback := fun h => absurd rfl h
  runbook := fun _ => rfl
  noRunbook := fun h => by cases h
  escalated := fun h => by cases h
  investigated := fun h => by simp [lowerConfidence, manualGuidance] at h
  guidanceDigest := rfl
  guidanceId := rfl
  bytes := Nat.zero_le _

theorem manualGuidance_bound :
    GuidanceBound kindDigests (fun _ _ => true) "key" manualGuidance confirmedBinding where
  guidance := manualGuidance_valid
  binding := confirmedBinding_valid
  signature := ⟨rfl, rfl⟩
  source := rfl
  generated := rfl
  hypotheses := rfl
  impact := rfl
  legality := by decide
  timeline := List.forall_mem_singleton.mpr
    ⟨"e1", rfl, coveredRequest.observationCitation
      (.endpointHealth (sampleEndpoint "e1" .unavailable 2000 3000)),
      by decide, rfl, rfl, rfl, by decide⟩
  cited := by
    rw [manualGuidance_steps]
    exact List.forall_mem_singleton.mpr fun i hi => by cases hi
  parameters := by
    rw [manualGuidance_steps]
    refine List.forall_mem_singleton.mpr fun p hp => ?_
    simp only [manualStep, List.mem_cons, List.not_mem_nil, or_false] at hp
    rcases hp with rfl | rfl
    · exact ⟨rfl, rfl⟩
    · rfl
  currentState := List.forall_mem_singleton.mpr ⟨_, List.mem_cons_self, List.mem_cons_self⟩
  missing := by decide
  runbook := ⟨List.forall_mem_singleton.mpr ⟨rfl, rfl, rfl⟩,
    List.forall_mem_singleton.mpr ⟨rfl, reviewedOption, by decide, rfl⟩, fun _ => by decide,
    fun h => absurd rfl h⟩

/-- The manual step of the sample guidance is earned. -/
theorem guidance_earned_manual :
    ∃ top ∈ confirmedReport.hypotheses.head?, ∃ option ∈ optionAuthority.options,
      PrescriptionEarned manualGuidance confirmedBinding top option :=
  (guidance_earned manualGuidance_bound).1
    ⟨manualStep, by rw [manualGuidance_steps]; exact List.mem_cons_self, rfl⟩

end AthenaContext.GuidanceAdmission
