import AthenaContext.ContractPatterns
import AthenaContext.EventTimes
import AthenaContext.IncidentRecords

/-!
# Signed incident artifacts

Incident states, feed pointers, active indexes, occurrence receipts and the documents of the
second feed with all their fields, and the contract of each: its patterns, bounds and
validators. Fields of one digest are grouped; a dump sorts them anyway.
-/

namespace AthenaContext.SignedArtifacts

open JsonText TimestampText TextNormalization OrdinalCollections
open ContractDocuments ContractForms ContractPatterns EventTimes
open IncidentRecords (IncidentScenario IncidentLifecycle WorkloadRole Availability BlastRadius
  OperatorAttention)

/-! ## Digests -/

/-- `hashlib.sha256(...).hexdigest()` on the UTF-8 of a text. -/
structure Sha256 where
  hex : Text → Text
  isHex_hex : ∀ t, isHex 64 (hex t) = true

/-- `sha256_hex` -/
def Sha256.digest (H : Sha256) (t : Text) : Text := "sha256:".toList ++ H.hex t

theorem digest_eq (H : Sha256) (t : Text) : H.digest t = "sha256:".toList ++ H.hex t := rfl

theorem isDigest_digest (H : Sha256) (t : Text) : isDigest (H.digest t) = true := by
  have hhex : fullMatch [.hex 64] (H.hex t ++ []) = true := fullMatch_hex (H.isHex_hex t)
  rw [List.append_nil] at hhex
  rw [isDigest, digest_eq, fullMatch_literal]
  exact hhex

variable (R : DateTimeRuntime) (N : NfcTables) (H : Sha256)

/-- `compute_artifact_digest`, which normalizes twice. -/
def artifactDigest (payload : Json) : Option Text :=
  (canonicalValue R N payload).bind fun value =>
    (canonicalValue R N value).map fun value => H.digest (canonicalText value)

/-- The first 32 digits of a digest. -/
def shortDigest (digest : Text) : Text := (removeSha256 digest).take 32

/-- `len(self.canonical_bytes()) <= maximum`; a failure is a failed validation. -/
def fitsBytes {α : Type} (F : Form R N α) (maximum : ℕ) (a : α) : Bool :=
  (F.canonicalBytes a).any fun bytes => utf8Length bytes ≤ maximum

/-! ## References -/

/-- `VersionPinnedBlobReference` -/
structure VersionPinnedBlobReference where
  name : Text
  version : Text
  contentDigest : Text
  deriving DecidableEq

variable {R N}

def digestField : Form R N Text := pattern isDigest isPlainText_of_isDigest

def incidentIdField : Form R N Text := pattern isIncidentId isPlainText_of_isIncidentId

/-- A key identifier: 1 to 512 code points. -/
def keyIdField : Form R N Text := Form.text (hasLength 1 512)

def referenceForm : Form R N VersionPinnedBlobReference :=
  ((Fields.field "name" (pattern isRelativeName isPlainText_of_isRelativeName)).both
    ((Fields.field "version" (Form.text isVersion)).both
      (Fields.field "contentDigest" digestField))
    |>.map (fun r : VersionPinnedBlobReference => (r.name, r.version, r.contentDigest))
      (fun p => ⟨p.1, p.2.1, p.2.2⟩) (fun _ => rfl)).record
    (by dsimp only [Fields.map, Fields.both, Fields.field]; decide)

/-! ## Incident states -/

/-- `IncidentFinding.verdict` -/
inductive Verdict
  | pass | fail | resolved | review
  deriving DecidableEq, Repr

def Verdict.text : Verdict → String
  | .pass => "pass"
  | .fail => "fail"
  | .resolved => "resolved"
  | .review => "review"

/-- `IncidentState.notification_status` -/
inductive NotificationStatus
  | notRequired | pendingDispatch
  deriving DecidableEq, Repr

def NotificationStatus.text : NotificationStatus → String
  | .notRequired => "notRequired"
  | .pendingDispatch => "pendingDispatch"

/-- Wire text of a lifecycle. -/
def lifecycleText : IncidentLifecycle → String
  | .detected => "detected"
  | .queued => "queued"
  | .reassessing => "reassessing"
  | .active => "active"
  | .recoveryObserved => "recoveryObserved"
  | .resolved => "resolved"

def verdictField : Form R N Verdict :=
  Form.choice (fun v => v.text.toList) [.pass, .fail, .resolved, .review]
    (fun v => by cases v <;> decide) (fun v => by cases v <;> decide)

def statusField : Form R N NotificationStatus :=
  Form.choice (fun s => s.text.toList) [.notRequired, .pendingDispatch]
    (fun s => by cases s <;> decide) (fun s => by cases s <;> decide)

def lifecycleField : Form R N IncidentLifecycle :=
  Form.choice (fun l => (lifecycleText l).toList)
    [.detected, .queued, .reassessing, .active, .recoveryObserved, .resolved]
    (fun l => by cases l <;> decide) (fun l => by cases l <;> decide)

def scenarioField : Form R N IncidentScenario :=
  Form.choice (fun s => s.text.toList)
    [.singletonDatabaseFailure, .webServerFailure, .loadBalancerFailure]
    (fun s => by cases s <;> decide) (fun s => by cases s <;> decide)

def roleField : Form R N WorkloadRole :=
  Form.choice (fun r => r.text.toList) [.databasePrimary, .web, .loadBalancer]
    (fun r => by cases r <;> decide) (fun r => by cases r <;> decide)

def availabilityField : Form R N Availability :=
  Form.choice (fun a => a.text.toList) [.normal, .warning, .critical, .unknown]
    (fun a => by cases a <;> decide) (fun a => by cases a <;> decide)

def blastRadiusField : Form R N BlastRadius :=
  Form.choice (fun b => b.text.toList)
    [.none, .webTier, .ingressEdge, .dataTier, .wholeWorkload, .unknown]
    (fun b => by cases b <;> decide) (fun b => by cases b <;> decide)

def attentionField : Form R N OperatorAttention :=
  Form.choice (fun a => a.text.toList) [.normal, .required, .urgent]
    (fun a => by cases a <;> decide) (fun a => by cases a <;> decide)

/-- A string without a pattern. -/
def freeText : Form R N Text := Form.text fun _ => true

/-- `IncidentFinding` -/
structure IncidentFinding where
  clauseId : Text
  verdict : Verdict
  summary : Text
  evidenceRefs : List Text
  deriving DecidableEq

def findingForm : Form R N IncidentFinding :=
  ((Fields.field "clauseId" (Form.text (hasLength 1 128))).both
    ((Fields.field "verdict" verdictField).both
      ((Fields.field "summary" (Form.text (hasLength 1 512))).both
        (Fields.field "evidenceRefs" (freeText.list 1 32))))
    |>.map (fun f : IncidentFinding => (f.clauseId, f.verdict, f.summary, f.evidenceRefs))
      (fun p => ⟨p.1, p.2.1, p.2.2.1, p.2.2.2⟩) (fun _ => rfl)).record
    (by dsimp only [Fields.map, Fields.both, Fields.field]; decide)

/-- `IncidentState` -/
structure IncidentState where
  incidentId : Text
  transitionId : Text
  scenario : IncidentScenario
  lifecycle : IncidentLifecycle
  workloadRole : WorkloadRole
  detectedAt : EventTime
  updatedAt : EventTime
  targetBinding : Text
  availability : Availability
  blastRadius : BlastRadius
  operatorAttention : OperatorAttention
  findings : List IncidentFinding
  reasoning : List Text
  notificationStatus : NotificationStatus
  resultDigest : Text
  deriving DecidableEq

/-- `IncidentState.validate_lifecycle_claim` -/
def validateLifecycleClaim (s : IncidentState) : Bool :=
  s.detectedAt.value ≤ s.updatedAt.value &&
    !(s.lifecycle = .active && s.availability = .normal) &&
    !(s.lifecycle = .resolved && s.availability ≠ .normal) &&
    (if s.lifecycle = .active ∨ s.lifecycle = .resolved then s.notificationStatus = .pendingDispatch
      else s.notificationStatus = .notRequired)

def stateForm : Form R N IncidentState :=
  ((Fields.field "schemaVersion" (Form.constant "athena.incidentState.v1".toList (by decide))).both
    ((Fields.field "incidentId" incidentIdField).both
    ((Fields.field "transitionId" (pattern isTransitionId isPlainText_of_isTransitionId)).both
    ((Fields.field "scenario" scenarioField).both
    ((Fields.field "lifecycle" lifecycleField).both
    ((Fields.field "workloadRole" roleField).both
    ((Fields.field "detectedAt" eventTime).both
    ((Fields.field "updatedAt" eventTime).both
    ((Fields.field "targetBinding" digestField).both
    ((Fields.field "availability" availabilityField).both
    ((Fields.field "blastRadius" blastRadiusField).both
    ((Fields.field "operatorAttention" attentionField).both
    ((Fields.field "findings" (findingForm.list 1 32)).both
    ((Fields.field "reasoning" (freeText.list 1 16)).both
    ((Fields.field "notificationStatus" statusField).both
    ((Fields.field "resultDigest" digestField).both
    (Fields.field "noAutoRemediation" Form.alwaysTrue))))))))))))))))
    |>.map (fun s : IncidentState => ((), s.incidentId, s.transitionId, s.scenario, s.lifecycle,
        s.workloadRole, s.detectedAt, s.updatedAt, s.targetBinding, s.availability, s.blastRadius,
        s.operatorAttention, s.findings, s.reasoning, s.notificationStatus, s.resultDigest, ()))
      (fun (_, incidentId, transitionId, scenario, lifecycle, workloadRole, detectedAt, updatedAt,
          targetBinding, availability, blastRadius, operatorAttention, findings, reasoning,
          notificationStatus, resultDigest, _) =>
        ⟨incidentId, transitionId, scenario, lifecycle, workloadRole, detectedAt, updatedAt,
          targetBinding, availability, blastRadius, operatorAttention, findings, reasoning,
          notificationStatus, resultDigest⟩) (fun _ => rfl)).record
    (by dsimp only [Fields.map, Fields.both, Fields.field]; decide)
    |>.refine validateLifecycleClaim

/-! ## Feed pointers -/

/-- `IncidentFeedPointer` -/
structure IncidentFeedPointer where
  incidentId : Text
  statePath : Text
  stateSha256 : Text
  attestationPath : Text
  attestationSha256 : Text
  pointerAttestationPath : Text
  keyId : Text
  keyFingerprint : Text
  publishedAt : EventTime
  deriving DecidableEq

/-- `IncidentFeedPointer.validate_incident_paths` -/
def validateIncidentPaths (p : IncidentFeedPointer) : Bool :=
  let front := "./incidents/".toList ++ p.incidentId ++ "/versions/".toList
  let back := "/state.json".toList
  let version := (p.statePath.take (p.statePath.length - back.length)).drop front.length
  front.isPrefixOf p.statePath && back.isSuffixOf p.statePath && isHex 64 version &&
    p.attestationPath = front ++ version ++ "/attestation.json".toList &&
    p.pointerAttestationPath = front ++ version ++ "/pointer-attestation.json".toList

def assetPathField : Form R N Text := pattern isAssetPath isPlainText_of_isAssetPath

def pointerForm : Form R N IncidentFeedPointer :=
  ((Fields.field "schemaVersion" (Form.constant "athena.incidentFeed.v1".toList (by decide))).both
    ((Fields.field "incidentId" incidentIdField).both
    ((Fields.field "statePath" assetPathField).both
    ((Fields.field "stateSha256" digestField).both
    ((Fields.field "attestationPath" assetPathField).both
    ((Fields.field "attestationSha256" digestField).both
    ((Fields.field "pointerAttestationPath" assetPathField).both
    ((Fields.field "keyId" keyIdField).both
    ((Fields.field "keyFingerprint" digestField).both
    (Fields.field "publishedAt" eventTime)))))))))
    |>.map (fun p : IncidentFeedPointer => ((), p.incidentId, p.statePath, p.stateSha256,
        p.attestationPath, p.attestationSha256, p.pointerAttestationPath, p.keyId, p.keyFingerprint,
        p.publishedAt))
      (fun (_, incidentId, statePath, stateSha256, attestationPath, attestationSha256,
          pointerAttestationPath, keyId, keyFingerprint, publishedAt) =>
        ⟨incidentId, statePath, stateSha256, attestationPath, attestationSha256,
          pointerAttestationPath, keyId, keyFingerprint, publishedAt⟩) (fun _ => rfl)).record
    (by dsimp only [Fields.map, Fields.both, Fields.field]; decide)
    |>.refine validateIncidentPaths

/-! ## Active indexes -/

/-- `ActiveIncidentEntry` -/
structure ActiveIncidentEntry where
  incidentId : Text
  scenario : IncidentScenario
  workloadRole : WorkloadRole
  pointerPath : Text
  pointerSha256 : Text
  detectedAt : EventTime
  updatedAt : EventTime
  deriving DecidableEq

/-- `ActiveIncidentEntry.pointer_path` -/
def isPointerPath : Text → Bool :=
  fullMatch [.literal "./incidents/inc-", .hex 12, .literal "/versions/", .hex 64,
    .literal "/pointer.json"]

theorem isPlainText_of_isPointerPath (t : Text) (h : isPointerPath t = true) : IsPlainText t :=
  isPlainText_of_fullMatch (by decide) (by decide) h

/-- `ActiveIncidentEntry.validate_pointer_path` -/
def validatePointerPath (e : ActiveIncidentEntry) : Bool :=
  ("./incidents/".toList ++ e.incidentId ++ "/versions/".toList).isPrefixOf e.pointerPath &&
    e.detectedAt.value ≤ e.updatedAt.value

def activeEntryForm : Form R N ActiveIncidentEntry :=
  ((Fields.field "incidentId" incidentIdField).both
    ((Fields.field "scenario" scenarioField).both
    ((Fields.field "lifecycle" (Form.constant "active".toList (by decide))).both
    ((Fields.field "workloadRole" roleField).both
    ((Fields.field "pointerPath" (pattern isPointerPath isPlainText_of_isPointerPath)).both
    ((Fields.field "pointerSha256" digestField).both
    ((Fields.field "detectedAt" eventTime).both
    (Fields.field "updatedAt" eventTime)))))))
    |>.map (fun e : ActiveIncidentEntry => (e.incidentId, e.scenario, (), e.workloadRole,
        e.pointerPath, e.pointerSha256, e.detectedAt, e.updatedAt))
      (fun (incidentId, scenario, _, workloadRole, pointerPath, pointerSha256, detectedAt, updatedAt) =>
        ⟨incidentId, scenario, workloadRole, pointerPath, pointerSha256, detectedAt, updatedAt⟩)
      (fun _ => rfl)).record
    (by dsimp only [Fields.map, Fields.both, Fields.field]; decide)
    |>.refine validatePointerPath

/-- `ActiveIncidentIndex` -/
structure ActiveIncidentIndex where
  incidents : List ActiveIncidentEntry
  indexAttestationPath : Text
  keyId : Text
  keyFingerprint : Text
  publishedAt : EventTime
  deriving DecidableEq

/-- `ActiveIncidentIndex.index_attestation_path` -/
def isIndexAttestationPath : Text → Bool :=
  fullMatch [.literal "./incidents/index-attestations/", .hex 64, .literal ".json"]

theorem isPlainText_of_isIndexAttestationPath (t : Text) (h : isIndexAttestationPath t = true) :
    IsPlainText t :=
  isPlainText_of_fullMatch (by decide) (by decide) h

/-- Python compares strings by their code points. -/
def codePointKey (t : Text) : List ℕ := t.map Char.toNat

/-- `keys == sorted(keys) and len(keys) == len(set(keys))` -/
def areUniquelySorted (keys : List Text) : Bool := keys = sortOn codePointKey keys && keys.Nodup

/-- `ActiveIncidentIndex.validate_deterministic_order` -/
def validateDeterministicOrder (index : ActiveIncidentIndex) : Bool :=
  areUniquelySorted (index.incidents.map (·.incidentId))

def activeIndexForm : Form R N ActiveIncidentIndex :=
  ((Fields.field "schemaVersion" (Form.constant "athena.activeIncidentIndex.v1".toList (by decide))).both
    ((Fields.field "incidents" (activeEntryForm.list 0 64)).both
    ((Fields.field "indexAttestationPath"
      (pattern isIndexAttestationPath isPlainText_of_isIndexAttestationPath)).both
    ((Fields.field "keyId" keyIdField).both
    ((Fields.field "keyFingerprint" digestField).both
    (Fields.field "publishedAt" eventTime)))))
    |>.map (fun i : ActiveIncidentIndex => ((), i.incidents, i.indexAttestationPath, i.keyId,
        i.keyFingerprint, i.publishedAt))
      (fun (_, incidents, indexAttestationPath, keyId, keyFingerprint, publishedAt) =>
        ⟨incidents, indexAttestationPath, keyId, keyFingerprint, publishedAt⟩) (fun _ => rfl)).record
    (by dsimp only [Fields.map, Fields.both, Fields.field]; decide)
    |>.refine validateDeterministicOrder

/-! ## Occurrence receipts -/

/-- What the digest of an occurrence receipt is computed from. -/
structure IncidentOccurrence where
  incidentId : Text
  transitionId : Text
  stateResultDigest : Text
  stateReference : VersionPinnedBlobReference
  stateAttestationReference : VersionPinnedBlobReference
  pointerReference : VersionPinnedBlobReference
  pointerAttestationReference : VersionPinnedBlobReference
  publishedAt : EventTime
  deriving DecidableEq

/-- `IncidentOccurrenceReceipt` -/
structure IncidentOccurrenceReceipt where
  occurrence : IncidentOccurrence
  occurrenceId : Text
  occurrenceDigest : Text
  deriving DecidableEq

/-- `_occurrence_prefix`, `_state_prefix` -/
def occurrencePrefix (incidentId stateResultDigest : Text) : Text :=
  "incidents/".toList ++ incidentId ++ "/versions/".toList ++ removeSha256 stateResultDigest

/-- The four names of one published occurrence. -/
def bindsOccurrence (incidentId stateResultDigest : Text)
    (state stateAttestation pointer pointerAttestation : VersionPinnedBlobReference) : Bool :=
  let front := occurrencePrefix incidentId stateResultDigest
  state.name = front ++ "/state.json".toList &&
    stateAttestation.name = front ++ "/attestation.json".toList &&
    pointer.name = front ++ "/pointer.json".toList &&
    pointerAttestation.name = front ++ "/pointer-attestation.json".toList

def occurrenceFields : Fields R N IncidentOccurrence :=
  (Fields.field "schemaVersion"
      (Form.constant "athena.incidentOccurrenceReceipt.v1".toList (by decide))).both
    ((Fields.field "incidentId" incidentIdField).both
    ((Fields.field "transitionId" (pattern isTransitionId isPlainText_of_isTransitionId)).both
    ((Fields.field "stateResultDigest" digestField).both
    ((Fields.field "stateReference" referenceForm).both
    ((Fields.field "stateAttestationReference" referenceForm).both
    ((Fields.field "pointerReference" referenceForm).both
    ((Fields.field "pointerAttestationReference" referenceForm).both
    (Fields.field "publishedAt" eventTime))))))))
    |>.map (fun o : IncidentOccurrence => ((), o.incidentId, o.transitionId, o.stateResultDigest,
        o.stateReference, o.stateAttestationReference, o.pointerReference,
        o.pointerAttestationReference, o.publishedAt))
      (fun (_, incidentId, transitionId, stateResultDigest, stateReference,
          stateAttestationReference, pointerReference, pointerAttestationReference, publishedAt) =>
        ⟨incidentId, transitionId, stateResultDigest, stateReference, stateAttestationReference,
          pointerReference, pointerAttestationReference, publishedAt⟩) (fun _ => rfl)

/-- A digest-bound identifier: a fixed front and 32 digits. -/
def shortIdField (front : String) (hfront : IsLetterFront front.toList) : Form R N Text :=
  pattern (fullMatch [.literal front, .hex 32])
    (fun _ h => isPlainText_of_fullMatch hfront (by decide) h)

def receiptRecord : Form R N IncidentOccurrenceReceipt :=
  (occurrenceFields.both ((Fields.field "occurrenceId" (shortIdField "incident-occurrence-" (by decide))).both
      (Fields.field "occurrenceDigest" digestField))
    |>.map (fun r : IncidentOccurrenceReceipt => (r.occurrence, r.occurrenceId, r.occurrenceDigest))
      (fun p => ⟨p.1, p.2.1, p.2.2⟩) (fun _ => rfl)).record
    (by dsimp only [occurrenceFields, Fields.map, Fields.both, Fields.field]; decide)

variable (R N)

/-- `IncidentOccurrenceReceipt.validate_receipt` -/
def validateReceipt (r : IncidentOccurrenceReceipt) : Bool :=
  let o := r.occurrence
  let expected := artifactDigest R N H (.object ((occurrenceFields (R := R) (N := N)).write o))
  bindsOccurrence o.incidentId o.stateResultDigest o.stateReference o.stateAttestationReference
      o.pointerReference o.pointerAttestationReference &&
    expected = some r.occurrenceDigest &&
    r.occurrenceId = "incident-occurrence-".toList ++ shortDigest r.occurrenceDigest &&
    fitsBytes R N receiptRecord (16 * 1024) r

def receiptForm : Form R N IncidentOccurrenceReceipt := receiptRecord.refine (validateReceipt R N H)

end AthenaContext.SignedArtifacts
