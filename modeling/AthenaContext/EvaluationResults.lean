import AthenaContext.DocumentDigests
import AthenaContext.EvaluationRecords

/-!
# Results of demo evaluations

A stored evaluation keeps its material and the instant of its publication; the publication
record and the result are built from them whenever they are asked for, written as canonical
JSON and read again.
-/

namespace AthenaContext.EvaluationResults

open JsonText CanonicalJson TextNormalization TimestampText
open ContractDocuments ContractForms ContractPatterns EventTimes SignedArtifacts
open ContextRecords EvaluationRecords

/-- What a result uses of the contracts of a snapshot and of a finding. -/
structure EvidenceContracts (E : EvidenceTypes) where
  dumpSnapshot : EvidenceSnapshot E → Json
  readSnapshot : Json → Option (EvidenceSnapshot E)
  dumpFinding : ManifestFinding E → Json
  readFinding : Json → Option (ManifestFinding E)

/-! ## Publication records -/

/-- A `datetime` of whole milliseconds, counted from the start of the year 1. -/
def eventTimeAt (t : Timestamp) : Option EventTime :=
  if h : 0 ≤ t ∧ t < endOfTime then
    some ⟨⟨t.toNat, (Int.toNat_of_nonneg h.1).trans_lt h.2⟩, 0, no_microseconds⟩
  else none

/-- The fields of `AuthorizedSnapshotPublication` that do not depend on its time. -/
structure PublicationHeader where
  snapshotId : Text
  artifactDigest : Text
  semanticDigest : Text
  schemaVersion : Text
  semanticContractVersion : Text
  approvalDecisionId : Text
  approvedBy : Actor
  approvedAt : EventTime
  publicationAuthorizedBy : Actor
  publishedBy : Actor
  manifestId : Text
  manifestVersion : Text
  manifestDigest : Text
  profileId : Text
  resolvedProfileDigest : Text
  endpointDigest : Text
  authorizedScopeDigest : Text
  reason : Text
  deriving DecidableEq

structure AuthorizedSnapshotPublication where
  header : PublicationHeader
  publishedAt : EventTime
  publicationAuthorizedAt : EventTime
  publicationRecordDigest : Text
  deriving DecidableEq

/-- `_ID_PATTERN` -/
def isIdText (t : Text) : Bool := ContextMutations.matchesIdPattern (String.ofList t)

/-- A number without leading zeros. -/
def isVersionNumber (t : Text) : Bool :=
  t ≠ [] && t.all Char.isDigit && (t = ['0'] || t.head? ≠ some '0')

/-- `_VERSION_PATTERN` -/
def isVersionText (t : Text) : Bool :=
  match t.splitOn '.' with
  | [major, minor, patch] => isVersionNumber major && isVersionNumber minor && isVersionNumber patch
  | _ => false

/-- `WorkloadIdentifier` -/
def isWorkloadIdentifier (t : Text) : Bool := hasLength 1 128 t && t ≠ ['*']

/-- The value of an actor kind. -/
def actorKindText : ActorKind → String
  | .human => "human"
  | .agent => "agent"
  | .service => "service"

section Forms

variable {R : DateTimeRuntime} {N : NfcTables}

def actorKindField : Form R N ActorKind :=
  Form.choice (fun kind => (actorKindText kind).toList) [.human, .agent, .service]
    (fun kind => by cases kind <;> decide) (fun kind => by cases kind <;> decide)

/-- `Actor` -/
def actorForm : Form R N Actor :=
  ((Fields.field "actor_id" (Form.text isIdText)).both (Fields.field "kind" actorKindField)
    |>.map (fun a : Actor => (a.actorId.toList, a.kind)) (fun p => ⟨String.ofList p.1, p.2⟩)
      (fun p => by rw [String.toList_ofList])).record
    (by dsimp only [Fields.map, Fields.both, Fields.field]; decide)

def versionText : Form R N Text := Form.text isVersionText

def headerFields : Fields R N PublicationHeader :=
  ((Fields.field "snapshot_id" freeText).both
    ((Fields.field "artifact_digest" digestField).both
    ((Fields.field "semantic_digest" digestField).both
    ((Fields.field "schema_version" versionText).both
    ((Fields.field "semantic_contract_version" versionText).both
    ((Fields.field "approval_decision_id" (Form.text isIdText)).both
    ((Fields.field "approved_by" actorForm).both
    ((Fields.field "approved_at" eventTime).both
    ((Fields.field "publication_authorized_by" actorForm).both
    ((Fields.field "published_by" actorForm).both
    ((Fields.field "manifest_id" (Form.text isWorkloadIdentifier)).both
    ((Fields.field "manifest_version" versionText).both
    ((Fields.field "manifest_digest" digestField).both
    ((Fields.field "profile_id" freeText).both
    ((Fields.field "resolved_profile_digest" digestField).both
    ((Fields.field "endpoint_digest" digestField).both
    ((Fields.field "authorized_scope_digest" digestField).both
      (Fields.field "reason" (Form.text (hasLength 3 500))))))))))))))))))))
    |>.map (fun h : PublicationHeader => (h.snapshotId, h.artifactDigest, h.semanticDigest,
        h.schemaVersion, h.semanticContractVersion, h.approvalDecisionId, h.approvedBy,
        h.approvedAt, h.publicationAuthorizedBy, h.publishedBy, h.manifestId, h.manifestVersion,
        h.manifestDigest, h.profileId, h.resolvedProfileDigest, h.endpointDigest,
        h.authorizedScopeDigest, h.reason))
      (fun (a, b, c, d, e, f, g, h, i, j, k, l, m, n, o, p, q, r) =>
        ⟨a, b, c, d, e, f, g, h, i, j, k, l, m, n, o, p, q, r⟩)
      (fun _ => rfl)

/-- The fields of a publication record that its digest binds. -/
def publicationMembers (header : PublicationHeader) (publishedAt publicationAuthorizedAt : EventTime) :
    List (Text × Json) :=
  (headerFields (R := R) (N := N)).write header ++
    [("published_at".toList, (eventTime (R := R) (N := N)).write publishedAt),
      ("publication_authorized_at".toList, (eventTime (R := R) (N := N)).write publicationAuthorizedAt)]

variable (R N) in
/-- `_digest_payload` of a publication record, digested. -/
def publicationDigest (H : Sha256) (header : PublicationHeader)
    (publishedAt publicationAuthorizedAt : EventTime) : Option Text :=
  artifactDigest R N H
    (.object (publicationMembers (R := R) (N := N) header publishedAt publicationAuthorizedAt))

variable (R N) in
/-- `AuthorizedSnapshotPublication.validate_publication_digest` -/
def validatePublication (H : Sha256) (p : AuthorizedSnapshotPublication) : Bool :=
  p.header.approvedBy.kind = .human && p.header.publicationAuthorizedBy.kind = .human &&
    p.header.publishedBy.kind = .service && p.publishedAt = p.publicationAuthorizedAt &&
    some p.publicationRecordDigest =
      publicationDigest R N H p.header p.publishedAt p.publicationAuthorizedAt

def publicationFields : Fields R N AuthorizedSnapshotPublication :=
  (headerFields.both
    ((Fields.field "published_at" eventTime).both
    ((Fields.field "publication_authorized_at" eventTime).both
      (Fields.field "publication_record_digest" digestField))))
    |>.map (fun p : AuthorizedSnapshotPublication => (p.header, p.publishedAt,
        p.publicationAuthorizedAt, p.publicationRecordDigest))
      (fun p => ⟨p.1, p.2.1, p.2.2.1, p.2.2.2⟩) (fun _ => rfl)

/-- `AuthorizedSnapshotPublication` -/
def publicationForm (H : Sha256) : Form R N AuthorizedSnapshotPublication :=
  (publicationFields.record (by
    dsimp only [publicationFields, headerFields, Fields.map, Fields.both, Fields.field]
    decide)).refine (validatePublication R N H)

end Forms

/-! ## Results -/

structure DemoEvaluationResult (E : EvidenceTypes) where
  publication : AuthorizedSnapshotPublication
  snapshot : EvidenceSnapshot E
  findings : List (ManifestFinding E)
  evaluatedAt : EventTime
  citationCount : ℕ
  resultDigest : Text

/-- What renders results: the runtime, its digest, and the contracts of the evidence. -/
structure Renderer (E : EvidenceTypes) where
  runtime : DateTimeRuntime
  tables : NfcTables
  sha256 : Sha256
  contracts : EvidenceContracts E

namespace Renderer

variable {E : EvidenceTypes} (C : Renderer E)

/-- `compute_artifact_digest` -/
def artifactDigest (payload : Json) : Option Text :=
  SignedArtifacts.artifactDigest C.runtime C.tables C.sha256 payload

abbrev publicationForm : Form C.runtime C.tables AuthorizedSnapshotPublication :=
  EvaluationResults.publicationForm C.sha256

/-- The fields of a result that its digest binds. -/
def resultMembers (publication : AuthorizedSnapshotPublication) (snapshot : EvidenceSnapshot E)
    (findings : List (ManifestFinding E)) (evaluatedAt : EventTime) (citationCount : ℕ) :
    List (Text × Json) :=
  [("publication".toList, C.publicationForm.write publication),
    ("snapshot".toList, C.contracts.dumpSnapshot snapshot),
    ("findings".toList, .array (findings.map C.contracts.dumpFinding)),
    ("evaluated_at".toList, (eventTime (R := C.runtime) (N := C.tables)).write evaluatedAt),
    ("citation_count".toList, .number citationCount)]

/-- `DemoEvaluationResult.model_dump` -/
def dumpResult (r : DemoEvaluationResult E) : Json :=
  .object (C.resultMembers r.publication r.snapshot r.findings r.evaluatedAt r.citationCount ++
    [("result_digest".toList, .string r.resultDigest)])

/-- What the digest of a result digests. -/
abbrev digestPayload (r : DemoEvaluationResult E) : Json :=
  .object (C.resultMembers r.publication r.snapshot r.findings r.evaluatedAt r.citationCount)

/-- `sum(len(finding.evidence_refs) for finding in findings)` -/
def citations (findings : List (ManifestFinding E)) : ℕ := (findings.map (·.citations)).sum

/-- `DemoEvaluationResult.validate_result`, with the bound of its count. -/
def validateResult (r : DemoEvaluationResult E) : Bool :=
  r.snapshot.snapshotId.toList = r.publication.header.snapshotId &&
    r.snapshot.artifactDigest.toList = r.publication.header.artifactDigest &&
    r.snapshot.semanticDigest.toList = r.publication.header.semanticDigest &&
    1 ≤ r.citationCount && r.citationCount = citations r.findings &&
    some r.resultDigest = C.artifactDigest
      (.object (C.resultMembers r.publication r.snapshot r.findings r.evaluatedAt r.citationCount))

/-- The names of the fields of a result. -/
def resultNames : List Text :=
  ["publication".toList, "snapshot".toList, "findings".toList, "evaluated_at".toList,
    "citation_count".toList, "result_digest".toList]

/-- A list of findings. -/
def readFindings : Json → Option (List (ManifestFinding E))
  | .array values => values.mapM C.contracts.readFinding
  | _ => none

/-- `DemoEvaluationResult.model_validate_json` -/
def readResult (value : Json) : Option (DemoEvaluationResult E) := do
  let members ← readRecord resultNames [] value
  let publication ← (members "publication".toList).bind C.publicationForm.read
  let snapshot ← (members "snapshot".toList).bind C.contracts.readSnapshot
  let findings ← (members "findings".toList).bind C.readFindings
  let evaluatedAt ← (members "evaluated_at".toList).bind
    (eventTime (R := C.runtime) (N := C.tables)).read
  let citationCount ← (members "citation_count".toList).bind
    (Form.natural (R := C.runtime) (N := C.tables) (1 ≤ ·)).read
  let resultDigest ← (members "result_digest".toList).bind
    (digestField (R := C.runtime) (N := C.tables)).read
  Option.filter C.validateResult
    (some ⟨publication, snapshot, findings, evaluatedAt, citationCount, resultDigest⟩)

/-! ## Rendering -/

/-- The header of the publication record of stored material. -/
def headerOf (m : StoredEvaluationMaterial E) : Option PublicationHeader := do
  let approvedAt ← eventTimeAt m.approval.approvedAt
  let endpointDigest ← C.artifactDigest
    (.object [("privateMcpEndpoint".toList, .string m.privateMcpEndpoint.toList)])
  let authorizedScopeDigest ← C.artifactDigest m.authorizedScope.dump
  pure
    { snapshotId := m.snapshot.snapshotId.toList
      artifactDigest := m.snapshot.artifactDigest.toList
      semanticDigest := m.snapshot.semanticDigest.toList
      schemaVersion := m.snapshot.schemaVersion.toList
      semanticContractVersion := m.snapshot.semanticContractVersion.toList
      approvalDecisionId := m.approval.decisionId.toList
      approvedBy := m.approval.approvedBy
      approvedAt := approvedAt
      publicationAuthorizedBy := m.actor
      publishedBy := m.publicationActor
      manifestId := m.approval.manifestId.toList
      manifestVersion := m.approval.manifestVersion.text.toList
      manifestDigest := m.approval.manifestDigest.toList
      profileId := m.approval.profileId.toList
      resolvedProfileDigest := m.resolvedProfileDigest.toList
      endpointDigest := endpointDigest
      authorizedScopeDigest := authorizedScopeDigest
      reason := m.reason.toList }

/-- `build_authorized_publication` -/
def buildAuthorizedPublication (m : StoredEvaluationMaterial E) (publishedAt : Timestamp) :
    Option AuthorizedSnapshotPublication := do
  let header ← C.headerOf m
  let publishedAt ← eventTimeAt publishedAt
  let digest ← publicationDigest C.runtime C.tables C.sha256 header publishedAt publishedAt
  Option.filter C.publicationForm.accepts (some ⟨header, publishedAt, publishedAt, digest⟩)

/-- `build_demo_evaluation_result` of the publication at an instant. -/
def buildResult (m : StoredEvaluationMaterial E) (publishedAt : Timestamp) :
    Option (DemoEvaluationResult E) := do
  let publication ← C.buildAuthorizedPublication m publishedAt
  let evaluatedAt ← eventTimeAt publishedAt
  let digest ← C.artifactDigest (.object
    (C.resultMembers publication m.snapshot m.findings evaluatedAt (citations m.findings)))
  Option.filter C.validateResult
    (some ⟨publication, m.snapshot, m.findings, evaluatedAt, citations m.findings, digest⟩)

/-- `model_validate_json` on the canonical text of a result. -/
def reparse (r : DemoEvaluationResult E) : Option (DemoEvaluationResult E) :=
  (canonicalValue C.runtime C.tables (C.dumpResult r)).bind fun value => C.readResult (inOrder value)

/-- `DemoEvaluationResult.model_validate_json(artifact.result_json)` -/
def renderedResult (m : StoredEvaluationMaterial E) (publishedAt : Timestamp) :
    Option (DemoEvaluationResult E) :=
  (C.buildResult m publishedAt).bind C.reparse

end Renderer

end AthenaContext.EvaluationResults
