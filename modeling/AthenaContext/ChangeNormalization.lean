import AthenaContext.CanonicalExceptions
import AthenaContext.ChangePersistence
import AthenaContext.ResourceIdentifiers

/-!
# Normalization of Event Grid changes

One delivered record and the time of its receipt make normalized evidence, or an exception.
The time of the receipt enters in two places only: the freshness window, and the field that
keeps it.
-/

namespace AthenaContext.ChangeNormalization

open TextNormalization TimestampText ContractPatterns ResourceIdentifiers FallibleResults
open CanonicalExceptions ChangePersistence

/-- A `datetime` that `fromisoformat` returns: its wall clock in microseconds since the epoch,
and its offset from UTC in seconds. -/
structure ParsedDatetime where
  wallMicroseconds : ℤ
  utcOffset : Option ℤ

/-- The deployment's scope and key, and what normalization takes from the interpreter. -/
structure IngestionConfig where
  persistence : PersistenceConfig
  json : JsonRuntime
  /-- `json.loads`. -/
  loads : List UInt8 → Except Raised LoadedValue
  /-- `str.encode("utf-8")`, which refuses surrogates. -/
  encode : LoadedString → Except Raised (List UInt8)
  unicode : UnicodeTables
  /-- `str.lower`. -/
  lower : Text → Text
  /-- `datetime.fromisoformat`; `none` is a `ValueError`. -/
  fromIsoFormat : Text → Option ParsedDatetime
  /-- `str(UUID(value)).lower()`; `none` is a `ValueError`. -/
  uuidText : Text → Option Text
  /-- `hashlib.sha256(text.encode("utf-8")).hexdigest()`. -/
  sha256 : Text → Text
  /-- `ApprovedChangeScope.approved_resource_ids`. -/
  approvedResourceIds : List Text
  signingKeyId : String

/-- `MAX_CHANGE_EVIDENCE_AGE`, in milliseconds. -/
def maxChangeEvidenceAge : ℤ := 15 * 60 * 1000

/-! ## Fields -/

/-- `_mapping`. -/
def mapping (value : LoadedValue) (label : String) :
    Except Raised (List (LoadedString × LoadedValue)) :=
  match value with
  | .object members => .ok members
  | _ => .error (changeIngestionError (label ++ " must be an object"))

/-- `_text`. A string with surrogates does not get here: canonical JSON has refused the event. -/
def text (value : LoadedValue) (label : String) (maximum : ℕ) : Except Raised Text :=
  let refused := changeIngestionError (label ++ " is missing or outside its bound")
  match value with
  | .string s =>
    match scalarText s with
    | none => .error refused
    | some t =>
      if t = [] ∨ t ≠ strip t ∨ maximum < t.length ∨ '\x00' ∈ t then .error refused else .ok t
  | _ => .error refused

/-- `_optional_text`. -/
def optionalText (value : LoadedValue) (label : String) (maximum : ℕ) :
    Except Raised (Option Text) :=
  match value with
  | .none => .ok none
  | value => (text value label maximum).map some

/-- `text.replace("Z", "+00:00")`. -/
def replaceZulu (t : Text) : Text := t.flatMap fun c => if c = 'Z' then "+00:00".toList else [c]

/-- `text.rstrip("/")`. -/
def stripSlashes (t : Text) : Text := (t.reverse.dropWhile (· = '/')).reverse

/-- `part in text`. -/
def contains (t : Text) (part : String) : Bool := decide (part.toList <:+: t)

/-- A text is one of these. -/
def isOneOf (t : Text) (values : List String) : Bool := values.any fun value => t = value.toList

/-- `[a-z0-9.]` -/
def isTypeCharacter (c : Char) : Bool := c.isLower || c.isDigit || c == '.'

/-- `[a-z0-9_.-]` -/
def isResourceNameCharacter (c : Char) : Bool := isTypeCharacter c || c == '_' || c == '-'

/-- `[a-z0-9_().-]` -/
def isGroupCharacter (c : Char) : Bool := isResourceNameCharacter c || c == '(' || c == ')'

/-- `[class]{1,maximum}` -/
def isRun (accepted : Char → Bool) (maximum : ℕ) (t : Text) : Bool :=
  1 ≤ t.length && t.length ≤ maximum && t.all accepted

/-- The groups of a subscription in lower case. -/
def isSubscription (t : Text) : Bool :=
  fullMatch [.hex 8, .literal "-", .hex 4, .literal "-", .hex 4, .literal "-", .hex 4, .literal "-",
    .hex 12] t

/-- The type and name pairs of a resource path. -/
def isResourcePath : List Text → Bool
  | [] => true
  | [_] => false
  | type :: name :: rest =>
    isRun isTypeCharacter 128 type && isRun isResourceNameCharacter 260 name && isResourcePath rest

/-- `_AZURE_RESOURCE_ID_PATTERN`. -/
def isAzureResourceId (t : Text) : Bool :=
  match splitPath t with
  | [] :: subscriptions :: subscription :: groups :: group :: providers :: provider :: path =>
    isOneOf subscriptions ["subscriptions"] && isSubscription subscription &&
      isOneOf groups ["resourcegroups"] && isRun isGroupCharacter 90 group &&
      isOneOf providers ["providers"] && isRun isTypeCharacter 128 provider &&
      path ≠ [] && isResourcePath path
  | _ => false

/-- Every second one of the segments, from the first on. -/
def everySecond : List Text → List Text
  | [] => []
  | [segment] => [segment]
  | segment :: _ :: rest => segment :: everySecond rest

/-- `_resource_type`, `_resource_type_from_azure_resource_id`. -/
def resourceType (resourceId : Text) : Except Raised Text :=
  match (splitPath resourceId).drop 6 with
  | provider :: path =>
    if path = [] then .error (changeIngestionError "target resource ID has no resource type")
    else .ok (provider ++ '/' :: joinPath (everySecond path))
  | [] => .error (changeIngestionError "target resource ID has no resource type")

/-- `Microsoft\.[A-Za-z0-9.]+/[A-Za-z0-9.]+(?:/[A-Za-z0-9.]+)*`, in any case. -/
def isResourceType (t : Text) : Bool :=
  match splitPath t with
  | provider :: type :: types =>
    let isPart := fun part : Text => part ≠ [] && part.all fun c => c.isAlphanum || c == '.'
    "microsoft.".toList.isPrefixOf (provider.map Char.toLower) && isPart (provider.drop 10) &&
      (type :: types).all isPart
  | _ => false

section Normalization

variable (cfg : IngestionConfig)

/-- `_canonical_azure_resource_id`; `none` is a `ValueError`. -/
def canonicalAzureResourceId (t : Text) : Option Text :=
  if 2048 < t.length ∨ '\\' ∈ t ∨ '%' ∈ t ∨ t ≠ strip t then none
  else
    let normalized := stripSlashes (cfg.lower t)
    if isAzureResourceId normalized then some normalized else none

/-- `ApprovedChangeScope.contains`. -/
def scopeContains (resourceId : Text) : Bool :=
  match canonicalAzureResourceId cfg resourceId with
  | none => false
  | some normalized => cfg.approvedResourceIds.contains normalized

/-- `_parse_utc_timestamp`. -/
def parseUtcTimestamp (value : LoadedValue) (label : String) : Except Raised UtcDateTime := do
  let t ← text value label 40
  match cfg.fromIsoFormat (replaceZulu t) with
  | none => .error (changeIngestionError (label ++ " is invalid"))
  | some parsed =>
    if parsed.utcOffset ≠ some 0 then .error (changeIngestionError (label ++ " must use UTC"))
    else .ok (parsed.wallMicroseconds / 1000)

/-- `_validate_freshness` of a receipt whose clock is UTC in milliseconds. -/
def validateFreshness (occurredAt receivedAt : UtcDateTime) : Except Raised Unit :=
  if receivedAt < occurredAt then
    .error (changeIngestionError "received_at must not precede occurred_at")
  else if maxChangeEvidenceAge < receivedAt - occurredAt then
    .error (changeIngestionError "change evidence is stale")
  else .ok ()

/-- `_opaque_reference`. -/
def opaqueReference (front : String) (value : Text) : String :=
  front ++ ":sha256:" ++ String.ofList (cfg.sha256 value)

/-- The kind of an actor. -/
def actorKind (raw rawKind : Text) : ActorKind :=
  if isOneOf rawKind ["user", "user, group"] ∨ '@' ∈ raw then .user
  else if isOneOf rawKind ["managedidentity", "managed identity"] then .managedIdentity
  else if isOneOf rawKind ["application", "serviceprincipal", "service principal"] then .application
  else if isOneOf rawKind ["system", "unknown"] ∨
      isOneOf (casefold cfg.unicode raw) ["system", "unspecified", "unknown"] then
    if isOneOf (casefold cfg.unicode raw) ["system"] then .system else .unknown
  else .unknown

/-- `_actor`. -/
def actor (changedBy changedByType : LoadedValue) (fallback : Text) : Except Raised ChangeActor := do
  let raw ← optionalText changedBy "changedBy" 512
  let rawKind ← optionalText changedByType "changedByType" 512
  match raw with
  | none => .ok ⟨.unknown, opaqueReference cfg "actor" fallback⟩
  | some raw =>
    .ok ⟨actorKind cfg raw (casefold cfg.unicode (rawKind.getD [])), opaqueReference cfg "actor" raw⟩

/-- `_deployment_source`. -/
def deploymentSource (clientType : LoadedValue) (actorReference : String) :
    Except Raised DeploymentSource := do
  let raw ← optionalText clientType "clientType" 512
  let lowered := casefold cfg.unicode (raw.getD [])
  let kind : DeploymentSourceKind :=
    if contains lowered "portal" then .azurePortal
    else if contains lowered "policy" then .policy
    else if contains lowered "resource manager" ∨ isOneOf lowered ["arm"] then .resourceManager
    else if raw.isSome then .automation
    else .unknown
  .ok ⟨kind, match raw with
    | some raw => opaqueReference cfg "deployment-source" raw
    | none => actorReference⟩

/-- `_policy_context`. -/
def policyContext (assignmentId definitionId enforcementMode : LoadedValue) :
    Except Raised ChangePolicyContext := do
  let assignment ← optionalText assignmentId "policy assignment" 2048
  let definition ← optionalText definitionId "policy definition" 2048
  let rawMode ← optionalText enforcementMode "policy enforcement mode" 512
  let normalizedMode := casefold cfg.unicode (rawMode.getD [])
  let mode : PolicyEnforcementMode :=
    if isOneOf normalizedMode ["default", "enabled"] then .default
    else if isOneOf normalizedMode ["donotenforce", "do not enforce", "disabled"] then .doNotEnforce
    else .unknown
  .ok ⟨assignment.map (opaqueReference cfg "policy-assignment"),
    definition.map (opaqueReference cfg "policy-definition"), mode⟩

/-- `_event_grid_operation`. -/
def eventGridOperation (eventType operationName : Text) : Except Raised ChangeOperation :=
  let type := casefold cfg.unicode eventType
  let name := casefold cfg.unicode operationName
  if contains type "resourceaction" ∨ contains name "/action" then .ok .action
  else if contains type "delete" ∨ contains name "/delete" then .ok .delete
  else if contains type "write" ∨ contains name "/write" then .ok .createOrUpdate
  else .error (changeIngestionError "Event Grid event operation is not an approved change")

/-- `_event_grid_result`. -/
def eventGridResult (eventType : Text) (status : LoadedValue) : Except Raised ChangeResult := do
  let raw ← optionalText status "status" 512
  let type := casefold cfg.unicode eventType
  let lowered := casefold cfg.unicode (raw.getD [])
  if contains type "success" ∨ isOneOf lowered ["succeeded", "success"] then .ok .succeeded
  else if contains type "failure" ∨ contains type "cancel" ∨
      isOneOf lowered ["failed", "failure", "canceled", "cancelled"] then .ok .failed
  else .ok .unknown

/-! ## Evidence -/

/-- The fields of an event up to the freshness check. -/
structure EventHead where
  sourceDigest : Digest
  event : List (LoadedString × LoadedValue)
  data : List (LoadedString × LoadedValue)
  eventType : Text
  sourceRecordId : Text
  operationName : Text
  targetResourceId : Text
  occurredAt : UtcDateTime

/-- `normalize_event_grid_change`, up to the freshness check. -/
def eventHead (value : LoadedValue) : Except Raised EventHead := do
  let sourceBytes ← canonicalJsonBytes cfg.json "Event Grid change event" maxChangeEventBytes value
  let event ← mapping value "Event Grid change event"
  let data ← mapping (get event "data") "Event Grid event data"
  let eventType ← text (get event "eventType") "eventType" 512
  let sourceRecordId ← text (get event "id") "event id" 512
  let operationName ← text (get data "operationName") "operationName" 256
  let target ← text
    (((get data "resourceUri").orElse (get data "resourceId")).orElse (get event "subject"))
    "target resource ID" 2048
  let targetResourceId := stripSlashes (cfg.lower target)
  if !scopeContains cfg targetResourceId then
    .error (changeIngestionError
      "change evidence target is not one exact approved workload resource")
  else
    let occurredAt ← parseUtcTimestamp cfg (get event "eventTime") "eventTime"
    .ok ⟨"sha256:" ++ String.ofList (cfg.sha256 sourceBytes), event, data, eventType, sourceRecordId,
      operationName, targetResourceId, occurredAt⟩

/-- The claims that name a user. -/
def userClaimKeys : List String :=
  ["http://schemas.xmlsoap.org/ws/2005/05/identity/claims/upn", "upn", "unique_name"]

/-- The first user claim that is present. -/
def userClaim (claims : List (LoadedString × LoadedValue)) : Option LoadedValue :=
  (userClaimKeys.map (get claims)).find? JsonValue.isPresent

/-- The kind that the claims give the actor. -/
def changedByType (claims : List (LoadedString × LoadedValue)) : LoadedValue :=
  if (userClaim claims).isSome then .string (loaded "user")
  else if (get claims "appid").isPresent then .string (loaded "application")
  else .none

/-- An object that may be left out. -/
def optionalMapping (value : LoadedValue) (label : String) :
    Except Raised (List (LoadedString × LoadedValue)) :=
  if value.isPresent then mapping value label else .ok []

/-- `normalize_event_grid_change` behind the freshness check, and `_build_evidence` without the
time of the receipt. The correlation is still as it was delivered. -/
def sourceRecord (head : EventHead) : Except Raised SourceRecordEvidence := do
  let correlationId ← text (get head.data "correlationId") "correlationId" 64
  let claims ← optionalMapping (get head.data "claims") "claims"
  let actor ← actor cfg ((userClaim claims).getD (get claims "appid")) (changedByType claims)
    head.sourceRecordId
  let policy ← optionalMapping (get head.data "policyContext") "policyContext"
  let operation ← eventGridOperation cfg head.eventType head.operationName
  let result ← eventGridResult cfg head.eventType (get head.data "status")
  let deploymentSource ← deploymentSource cfg
    ((get head.data "clientType").orElse (get claims "appid")) actor.reference
  let policyContext ← policyContext cfg
    ((get policy "assignmentId").orElse (get head.data "policyAssignmentId"))
    ((get policy "definitionId").orElse (get head.data "policyDefinitionId"))
    ((get policy "enforcementMode").orElse (get head.data "policyEnforcementMode"))
  let sourceRecordReference := opaqueReference cfg "source-record" head.sourceRecordId
  let deduplicationKey := cfg.persistence.deliveryKey .azureEventGrid sourceRecordReference
  let targetResourceType ← resourceType head.targetResourceId
  .ok
    { evidenceId := cfg.persistence.evidenceId deduplicationKey
      deduplicationKey
      changeKey := cfg.persistence.changeKey (String.ofList head.targetResourceId)
        (operationFamily operation) result (String.ofList (cfg.lower correlationId))
      sourceSystem := .azureEventGrid
      sourceRecordReference
      sourceDigest := head.sourceDigest
      targetResourceId := String.ofList head.targetResourceId
      targetResourceType := String.ofList targetResourceType
      operation
      operationName := String.ofList head.operationName
      result
      changedProperties := []
      actor
      occurredAt := head.occurredAt
      correlationId := String.ofList correlationId
      deploymentSource
      policyContext
      beforeEvidenceReference := none
      afterEvidenceReference := none }

/-- The validators of `NormalizedChangeEvidence` on a record; the digests have the form of
their patterns. `none` is a `ValidationError`. -/
def validateRecord (r : SourceRecordEvidence) : Option SourceRecordEvidence := do
  let target ← canonicalAzureResourceId cfg r.targetResourceId.toList
  let type := r.targetResourceType.toList
  let name := r.operationName.toList
  let correlationId ← cfg.uuidText r.correlationId.toList
  if hasLength 1 2048 r.targetResourceId.toList ∧ hasLength 1 256 type ∧ type = strip type ∧
      isResourceType type ∧ hasLength 1 256 name ∧ name = strip name ∧
      (resourceType target).toOption.map (casefold cfg.unicode) = some (casefold cfg.unicode type) ∧
      r.deduplicationKey = cfg.persistence.deliveryKey r.sourceSystem r.sourceRecordReference ∧
      r.changeKey = cfg.persistence.changeKey (String.ofList target) (operationFamily r.operation)
        r.result (String.ofList correlationId) ∧
      r.evidenceId = cfg.persistence.evidenceId r.deduplicationKey then
    some
      { r with
        targetResourceId := String.ofList target
        operationName := String.ofList (cfg.lower name)
        correlationId := String.ofList correlationId }
  else none

/-- The construction of `NormalizedChangeEvidence` in `_build_evidence`. -/
def buildEvidence (r : SourceRecordEvidence) (receivedAt : UtcDateTime) :
    Except Raised NormalizedChangeEvidence :=
  match validateRecord cfg r with
  | none => .error (changeIngestionError "normalized change evidence is invalid")
  | some record =>
    if receivedAt < record.occurredAt then
      .error (changeIngestionError "normalized change evidence is invalid")
    else .ok ⟨record, receivedAt⟩

/-- `normalize_event_grid_change`. -/
def normalizeEventGridChange (value : LoadedValue) (receivedAt : UtcDateTime) :
    Except Raised NormalizedChangeEvidence := do
  let head ← eventHead cfg value
  validateFreshness head.occurredAt receivedAt
  let record ← sourceRecord cfg head
  buildEvidence cfg record receivedAt

/-! ## Exceptions -/

section Raises

variable {cfg} {value : LoadedValue} {label : String} {maximum : ℕ}

theorem raisesOnly_mapping : RaisesOnly .changeIngestionError (mapping value label) := by
  cases value with
  | object members => exact raisesOnly_ok
  | none => exact raisesOnly_error rfl
  | boolean value => exact raisesOnly_error rfl
  | integer value => exact raisesOnly_error rfl
  | float value => exact raisesOnly_error rfl
  | string value => exact raisesOnly_error rfl
  | array items => exact raisesOnly_error rfl

theorem raisesOnly_optionalMapping :
    RaisesOnly .changeIngestionError (optionalMapping value label) :=
  raisesOnly_mapping.ite raisesOnly_ok

theorem raisesOnly_text : RaisesOnly .changeIngestionError (text value label maximum) := by
  cases value with
  | string s =>
    unfold text
    dsimp only
    split
    · exact raisesOnly_error rfl
    · exact (raisesOnly_error rfl).ite raisesOnly_ok
  | none => exact raisesOnly_error rfl
  | boolean value => exact raisesOnly_error rfl
  | integer value => exact raisesOnly_error rfl
  | float value => exact raisesOnly_error rfl
  | array items => exact raisesOnly_error rfl
  | object members => exact raisesOnly_error rfl

theorem raisesOnly_optionalText :
    RaisesOnly .changeIngestionError (optionalText value label maximum) := by
  unfold optionalText
  split
  · exact raisesOnly_ok
  · exact raisesOnly_text.map _

theorem raisesOnly_resourceType {t : Text} : RaisesOnly .changeIngestionError (resourceType t) := by
  unfold resourceType
  split
  · exact (raisesOnly_error rfl).ite raisesOnly_ok
  · exact raisesOnly_error rfl

theorem raisesOnly_parseUtcTimestamp :
    RaisesOnly .changeIngestionError (parseUtcTimestamp cfg value label) := by
  refine raisesOnly_text.bind fun t _ => ?_
  split
  · exact raisesOnly_error rfl
  · exact (raisesOnly_error rfl).ite raisesOnly_ok

theorem raisesOnly_validateFreshness {occurredAt receivedAt : UtcDateTime} :
    RaisesOnly .changeIngestionError (validateFreshness occurredAt receivedAt) :=
  (raisesOnly_error rfl).ite ((raisesOnly_error rfl).ite raisesOnly_ok)

theorem raisesOnly_actor {changedByType : LoadedValue} {fallback : Text} :
    RaisesOnly .changeIngestionError (actor cfg value changedByType fallback) := by
  refine raisesOnly_optionalText.bind fun raw _ => raisesOnly_optionalText.bind fun rawKind _ => ?_
  cases raw with
  | none => exact raisesOnly_ok
  | some raw => exact raisesOnly_ok

theorem raisesOnly_deploymentSource {actorReference : String} :
    RaisesOnly .changeIngestionError (deploymentSource cfg value actorReference) :=
  raisesOnly_optionalText.bind fun _ _ => raisesOnly_ok

theorem raisesOnly_policyContext {definitionId enforcementMode : LoadedValue} :
    RaisesOnly .changeIngestionError (policyContext cfg value definitionId enforcementMode) :=
  raisesOnly_optionalText.bind fun _ _ => raisesOnly_optionalText.bind fun _ _ =>
    raisesOnly_optionalText.bind fun _ _ => raisesOnly_ok

theorem raisesOnly_eventGridOperation {eventType operationName : Text} :
    RaisesOnly .changeIngestionError (eventGridOperation cfg eventType operationName) :=
  raisesOnly_ok.ite (raisesOnly_ok.ite (raisesOnly_ok.ite (raisesOnly_error rfl)))

theorem raisesOnly_eventGridResult {eventType : Text} :
    RaisesOnly .changeIngestionError (eventGridResult cfg eventType value) :=
  raisesOnly_optionalText.bind fun _ _ => raisesOnly_ok.ite (raisesOnly_ok.ite raisesOnly_ok)

theorem raisesOnly_sourceRecord {head : EventHead} :
    RaisesOnly .changeIngestionError (sourceRecord cfg head) := by
  refine raisesOnly_text.bind fun correlationId _ => ?_
  refine raisesOnly_optionalMapping.bind fun claims _ => ?_
  refine raisesOnly_actor.bind fun actor _ => ?_
  refine raisesOnly_optionalMapping.bind fun policy _ => ?_
  refine raisesOnly_eventGridOperation.bind fun operation _ => ?_
  refine raisesOnly_eventGridResult.bind fun result _ => ?_
  refine raisesOnly_deploymentSource.bind fun deploymentSource _ => ?_
  refine raisesOnly_policyContext.bind fun policyContext _ => ?_
  exact raisesOnly_resourceType.bind fun targetResourceType _ => raisesOnly_ok

theorem raisesOnly_buildEvidence {r : SourceRecordEvidence} {receivedAt : UtcDateTime} :
    RaisesOnly .changeIngestionError (buildEvidence cfg r receivedAt) := by
  unfold buildEvidence
  split
  · exact raisesOnly_error rfl
  · exact (raisesOnly_error rfl).ite raisesOnly_ok

/-- An event whose canonicalization does not escape is refused with `ChangeIngestionError`. -/
theorem raisesOnly_eventHead (h : ¬ Escapes cfg.json value) :
    RaisesOnly .changeIngestionError (eventHead cfg value) := by
  have hbytes : RaisesOnly .changeIngestionError
      (canonicalJsonBytes cfg.json "Event Grid change event" maxChangeEventBytes value) :=
    fun e he => (canonicalJsonBytes_error he).resolve_right h
  refine hbytes.bind fun sourceBytes _ => ?_
  refine raisesOnly_mapping.bind fun event _ => ?_
  refine raisesOnly_mapping.bind fun data _ => ?_
  refine raisesOnly_text.bind fun eventType _ => ?_
  refine raisesOnly_text.bind fun sourceRecordId _ => ?_
  refine raisesOnly_text.bind fun operationName _ => ?_
  refine raisesOnly_text.bind fun target _ => (raisesOnly_error rfl).ite ?_
  exact raisesOnly_parseUtcTimestamp.bind fun occurredAt _ => raisesOnly_ok

/-- An event with a head has not escaped canonicalization. -/
theorem not_escapes_of_head {head : EventHead} (h : eventHead cfg value = .ok head) :
    ¬ Escapes cfg.json value := by
  rintro ⟨e, he, -⟩
  obtain ⟨payload, hpayload, -⟩ := bind_ok_iff.mp h
  rw [canonicalJsonBytes, he] at hpayload
  cases hpayload

/-- Normalization raises `ChangeIngestionError`, and what escapes canonicalization. -/
theorem raisesOnly_normalizeEventGridChange {receivedAt : UtcDateTime}
    (h : ¬ Escapes cfg.json value) :
    RaisesOnly .changeIngestionError (normalizeEventGridChange cfg value receivedAt) := by
  refine (raisesOnly_eventHead h).bind fun head _ => ?_
  refine raisesOnly_validateFreshness.bind fun _ _ => ?_
  exact raisesOnly_sourceRecord.bind fun record _ => raisesOnly_buildEvidence

end Raises

/-! ## The time of the receipt -/

section Receipt

variable {cfg} {value : LoadedValue} {receivedAt later : UtcDateTime} {e : NormalizedChangeEvidence}

/-- An event too old at a receipt for its evidence to be accepted. -/
def IsStale (cfg : IngestionConfig) (value : LoadedValue) (receivedAt : UtcDateTime) : Prop :=
  ∃ head, eventHead cfg value = .ok head ∧ maxChangeEvidenceAge < receivedAt - head.occurredAt

theorem validateFreshness_ok_iff {occurredAt : UtcDateTime} :
    validateFreshness occurredAt receivedAt = .ok () ↔
      occurredAt ≤ receivedAt ∧ receivedAt - occurredAt ≤ maxChangeEvidenceAge := by
  rw [validateFreshness, ite_error_ok_iff, ite_error_ok_iff, not_lt, not_lt]
  exact ⟨fun h => ⟨h.1, h.2.1⟩, fun h => ⟨h.1, h.2, rfl⟩⟩

theorem sourceRecord_occurredAt {head : EventHead} {r : SourceRecordEvidence}
    (h : sourceRecord cfg head = .ok r) : r.occurredAt = head.occurredAt := by
  simp only [sourceRecord, bind_ok_iff] at h
  obtain ⟨_, -, _, -, _, -, _, -, _, -, _, -, _, -, _, -, _, -, hr⟩ := h
  cases hr
  rfl

theorem validateRecord_occurredAt {r record : SourceRecordEvidence}
    (h : validateRecord cfg r = some record) : record.occurredAt = r.occurredAt := by
  simp only [validateRecord, Option.bind_eq_bind, Option.bind_eq_some_iff] at h
  obtain ⟨target, -, correlationId, -, hr⟩ := h
  split at hr
  · cases hr
    rfl
  · cases hr

theorem buildEvidence_ok_iff {r : SourceRecordEvidence} :
    buildEvidence cfg r receivedAt = .ok e ↔ ∃ record, validateRecord cfg r = some record ∧
      record.occurredAt ≤ receivedAt ∧ e = ⟨record, receivedAt⟩ := by
  unfold buildEvidence
  cases hrecord : validateRecord cfg r with
  | none =>
    constructor
    · intro h
      cases h
    · rintro ⟨record, hr, -⟩
      cases hr
  | some record =>
    rw [ite_error_ok_iff, not_lt]
    constructor
    · rintro ⟨htime, he⟩
      exact ⟨record, rfl, htime, (Except.ok.inj he).symm⟩
    · rintro ⟨record', hr, htime, rfl⟩
      cases hr
      exact ⟨htime, rfl⟩

/-- Accepted evidence, by the parts that the time of the receipt takes no part in. -/
theorem normalizeEventGridChange_ok_iff :
    normalizeEventGridChange cfg value receivedAt = .ok e ↔ ∃ head source record,
      eventHead cfg value = .ok head ∧ sourceRecord cfg head = .ok source ∧
      validateRecord cfg source = some record ∧ record.occurredAt = head.occurredAt ∧
      head.occurredAt ≤ receivedAt ∧ receivedAt - head.occurredAt ≤ maxChangeEvidenceAge ∧
      e = ⟨record, receivedAt⟩ := by
  simp only [normalizeEventGridChange, bind_ok_iff, buildEvidence_ok_iff]
  constructor
  · rintro ⟨head, hhead, ⟨⟩, hfresh, source, hsource, record, hrecord, -, rfl⟩
    have htime := (validateRecord_occurredAt hrecord).trans (sourceRecord_occurredAt hsource)
    have hwindow := validateFreshness_ok_iff.mp hfresh
    exact ⟨head, source, record, hhead, hsource, hrecord, htime, hwindow.1, hwindow.2, rfl⟩
  · rintro ⟨head, source, record, hhead, hsource, hrecord, htime, hle, hage, rfl⟩
    refine ⟨head, hhead, (), validateFreshness_ok_iff.mpr ⟨hle, hage⟩, source, hsource, record,
      hrecord, ?_, rfl⟩
    rw [htime]
    exact hle

/-- An event accepted once is accepted at every later receipt at which it is not stale, with the
same source record. -/
theorem normalizeEventGridChange_again (h : normalizeEventGridChange cfg value receivedAt = .ok e)
    (hle : receivedAt ≤ later) (hfresh : ¬ IsStale cfg value later) :
    normalizeEventGridChange cfg value later = .ok ⟨e.toSourceRecordEvidence, later⟩ := by
  obtain ⟨head, source, record, hhead, hsource, hrecord, htime, hoccurred, -, rfl⟩ :=
    normalizeEventGridChange_ok_iff.mp h
  have hage : later - head.occurredAt ≤ maxChangeEvidenceAge := by
    by_contra hold
    exact hfresh ⟨head, hhead, not_le.mp hold⟩
  exact normalizeEventGridChange_ok_iff.mpr ⟨head, source, record, hhead, hsource, hrecord, htime,
    hoccurred.trans hle, hage, rfl⟩

/-- Two receipts that both accept an event accept the same source record. -/
theorem normalizeEventGridChange_unique {e' : NormalizedChangeEvidence}
    (h : normalizeEventGridChange cfg value receivedAt = .ok e)
    (h' : normalizeEventGridChange cfg value later = .ok e') :
    e'.toSourceRecordEvidence = e.toSourceRecordEvidence := by
  obtain ⟨head, source, record, hhead, hsource, hrecord, -, -, -, rfl⟩ :=
    normalizeEventGridChange_ok_iff.mp h
  obtain ⟨head', source', record', hhead', hsource', hrecord', -, -, -, rfl⟩ :=
    normalizeEventGridChange_ok_iff.mp h'
  have hhd : head' = head := Except.ok.inj (hhead'.symm.trans hhead)
  subst hhd
  have hsrc : source' = source := Except.ok.inj (hsource'.symm.trans hsource)
  subst hsrc
  exact Option.some.inj (hrecord'.symm.trans hrecord)

end Receipt

end Normalization

end AthenaContext.ChangeNormalization
