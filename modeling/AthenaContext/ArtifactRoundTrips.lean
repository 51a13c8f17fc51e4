import AthenaContext.FeedArtifacts

/-!
# Round trips of signed artifacts

Which artifacts a reader of their own canonical bytes gets back, with the references they
were written with. Canonicalization rewrites a version that is spelled as a timestamp, and a
reader refuses a year below 1000 that the runtime does not pad.
-/

namespace AthenaContext.ArtifactRoundTrips

open TimestampText TextNormalization InstantTexts EventTimes
open ContractDocuments ContractForms ContractPatterns SignedArtifacts FeedArtifacts

/-! ## Artifacts -/

/-- The signed artifacts of an incident. -/
inductive ArtifactKind
  | incidentState | incidentFeedPointer | activeIncidentIndex | occurrenceReceipt
  | enrichmentFeedPointer | feedIndex
  deriving DecidableEq

/-- The model of an artifact. -/
def Artifact : ArtifactKind → Type
  | .incidentState => IncidentState
  | .incidentFeedPointer => IncidentFeedPointer
  | .activeIncidentIndex => ActiveIncidentIndex
  | .occurrenceReceipt => IncidentOccurrenceReceipt
  | .enrichmentFeedPointer => IncidentEnrichmentFeedPointer
  | .feedIndex => IncidentFeedIndexV2

/-- Its contract. -/
def artifactForm (R : DateTimeRuntime) (N : NfcTables) (H : Sha256) :
    (kind : ArtifactKind) → Form R N (Artifact kind)
  | .incidentState => stateForm
  | .incidentFeedPointer => pointerForm
  | .activeIncidentIndex => activeIndexForm
  | .occurrenceReceipt => receiptForm R N H
  | .enrichmentFeedPointer => feedPointerForm R N H
  | .feedIndex => feedIndexForm R N H

def IncidentOccurrence.references (o : IncidentOccurrence) : List VersionPinnedBlobReference :=
  [o.stateReference, o.stateAttestationReference, o.pointerReference, o.pointerAttestationReference]

def EnrichmentFeedPointer.references (p : EnrichmentFeedPointer) : List VersionPinnedBlobReference :=
  [p.sourceStateReference, p.sourceStateAttestationReference, p.sourcePointerReference,
    p.sourcePointerAttestationReference, p.enrichmentAsset.asset.manifestReference,
    p.enrichmentAsset.asset.attestationReference]

def IncidentFeedEntryV2.references (e : IncidentFeedEntryV2) : List VersionPinnedBlobReference :=
  [e.feedPointerReference, e.feedPointerAttestationReference]

/-- The version-pinned references of an artifact. -/
def references : {kind : ArtifactKind} → Artifact kind → List VersionPinnedBlobReference
  | .incidentState, _ => []
  | .incidentFeedPointer, _ => []
  | .activeIncidentIndex, _ => []
  | .occurrenceReceipt, r => IncidentOccurrence.references r.occurrence
  | .enrichmentFeedPointer, r => EnrichmentFeedPointer.references r.pointer
  | .feedIndex, i => (i.active ++ i.recentlyResolved).flatMap IncidentFeedEntryV2.references

/-- Its fields of type `UtcDateTime`. -/
def utcTimes : {kind : ArtifactKind} → Artifact kind → List Instant
  | .enrichmentFeedPointer, r => [r.pointer.stateUpdatedAt, r.pointer.publishedAt]
  | .feedIndex, i =>
    [i.resolvedRetentionStart, i.publishedAt] ++ (i.active ++ i.recentlyResolved).map (·.updatedAt)
  | .incidentState, _ => []
  | .incidentFeedPointer, _ => []
  | .activeIncidentIndex, _ => []
  | .occurrenceReceipt, _ => []

/-- Its plain datetimes. -/
def eventTimes : {kind : ArtifactKind} → Artifact kind → List EventTime
  | .incidentState, s => [s.detectedAt, s.updatedAt]
  | .incidentFeedPointer, p => [p.publishedAt]
  | .activeIncidentIndex, i => i.publishedAt :: i.incidents.flatMap fun e => [e.detectedAt, e.updatedAt]
  | .occurrenceReceipt, r => [r.occurrence.publishedAt]
  | .enrichmentFeedPointer, _ => []
  | .feedIndex, _ => []

/-- Its strings without a pattern but with a bound on their length, and the bound. -/
def boundedTexts : {kind : ArtifactKind} → Artifact kind → List (Text × ℕ)
  | .incidentState, s => s.findings.flatMap fun f => [(f.clauseId, 128), (f.summary, 512)]
  | .incidentFeedPointer, p => [(p.keyId, 512)]
  | .activeIncidentIndex, i => [(i.keyId, 512)]
  | .occurrenceReceipt, _ => []
  | .enrichmentFeedPointer, _ => []
  | .feedIndex, i => [(i.keyId, 512)]

/-- A reader of the canonical bytes gets an artifact with the same bytes and references. -/
def RoundTrips (R : DateTimeRuntime) (N : NfcTables) (H : Sha256) {kind : ArtifactKind}
    (a : Artifact kind) (bytes : Text) : Prop :=
  ∃ b, (artifactForm R N H kind).Reads bytes b ∧ (artifactForm R N H kind).canonicalBytes b = some bytes ∧
    references b = references a

/-- Every version is canonical, every time is read back, and the bounded strings still fit. -/
structure Survives (R : DateTimeRuntime) (N : NfcTables) {kind : ArtifactKind} (a : Artifact kind) :
    Prop where
  versions : ∀ r ∈ references a, canonicalString R N r.version = some r.version
  utcTimes : ∀ t ∈ utcTimes a, HasFourDigits R t
  eventTimes : ∀ t ∈ eventTimes a, ReadsBack R t
  texts : ∀ p ∈ boundedTexts a, ∃ written, canonicalString R N p.1 = some written ∧
    hasLength 1 p.2 written = true

/-! ## Parts -/

variable {R : DateTimeRuntime} {N : NfcTables} {H : Sha256}

theorem after_reference {a b : VersionPinnedBlobReference} :
    (referenceForm (R := R) (N := N)).after a = some b ↔
      a.name = b.name ∧ (canonicalString R N a.version = some b.version ∧ isVersion b.version = true) ∧
        a.contentDigest = b.contentDigest := by
  rw [referenceForm, Fields.after_record, Fields.after_map (fun _ => rfl)]
  simp only [Fields.after_both, Fields.after_field, after_pattern, Form.after_text, digestField]

/-- A reference is read back as it is exactly when its version is canonical. -/
theorem after_reference_self {a : VersionPinnedBlobReference}
    (h : (referenceForm (R := R) (N := N)).accepts a = true) :
    (referenceForm (R := R) (N := N)).after a = some a ↔
      canonicalString R N a.version = some a.version := by
  rw [referenceForm, Fields.accepts_record, Fields.accepts_map] at h
  simp only [Fields.accepts_both, Fields.accepts_field] at h
  rw [after_reference]
  exact ⟨fun hafter => hafter.2.1.1, fun hversion => ⟨rfl, ⟨hversion, h.2.1⟩, rfl⟩⟩

theorem after_finding {a b : IncidentFinding} :
    (findingForm (R := R) (N := N)).after a = some b ↔
      (canonicalString R N a.clauseId = some b.clauseId ∧ hasLength 1 128 b.clauseId = true) ∧
        a.verdict = b.verdict ∧
        (canonicalString R N a.summary = some b.summary ∧ hasLength 1 512 b.summary = true) ∧
        ((freeText (R := R) (N := N)).list 1 32).after a.evidenceRefs = some b.evidenceRefs := by
  rw [findingForm, Fields.after_record, Fields.after_map (fun _ => rfl)]
  simp only [Fields.after_both, Fields.after_field, Form.after_text, verdictField, Form.after_choice]

theorem after_freeText {a b : Text} :
    (freeText (R := R) (N := N)).after a = some b ↔ canonicalString R N a = some b := by
  rw [freeText, Form.after_text]
  simp

theorem canonicalizes_freeText {a : Text} (h : (freeText (R := R) (N := N)).Canonicalizes a) :
    ∃ b, (freeText (R := R) (N := N)).after a = some b := by
  obtain ⟨b, hb⟩ := Form.canonicalizes_text.mp h
  exact ⟨b, after_freeText.mpr hb⟩

/-- The items of a list of strings without checks are read back. -/
theorem exists_after_freeTexts {minimum maximum : ℕ} {texts : List Text}
    (h : ((freeText (R := R) (N := N)).list minimum maximum).Canonicalizes texts) :
    ∃ others, ((freeText (R := R) (N := N)).list minimum maximum).after texts = some others :=
  Form.exists_after_list fun _ hitem => canonicalizes_freeText (Form.canonicalizes_item h hitem)

/-! ## States -/

theorem after_state {a b : IncidentState} :
    (stateForm (R := R) (N := N)).after a = some b ↔
      (a.incidentId = b.incidentId ∧ a.transitionId = b.transitionId ∧ a.scenario = b.scenario ∧
        a.lifecycle = b.lifecycle ∧ a.workloadRole = b.workloadRole ∧
        (ReadsBack R a.detectedAt ∧ a.detectedAt = b.detectedAt) ∧
        (ReadsBack R a.updatedAt ∧ a.updatedAt = b.updatedAt) ∧ a.targetBinding = b.targetBinding ∧
        a.availability = b.availability ∧ a.blastRadius = b.blastRadius ∧
        a.operatorAttention = b.operatorAttention ∧
        ((findingForm (R := R) (N := N)).list 1 32).after a.findings = some b.findings ∧
        ((freeText (R := R) (N := N)).list 1 16).after a.reasoning = some b.reasoning ∧
        a.notificationStatus = b.notificationStatus ∧ a.resultDigest = b.resultDigest) ∧
      validateLifecycleClaim b = true := by
  rw [stateForm, Form.after_refine, Fields.after_record, Fields.after_map (fun _ => rfl)]
  simp only [Fields.after_both, Fields.after_field, after_pattern, digestField, incidentIdField,
    scenarioField, lifecycleField, roleField, availabilityField, blastRadiusField, attentionField,
    statusField, Form.after_choice, Form.after_constant, Form.after_alwaysTrue, after_eventTime,
    true_and, and_true]

theorem exists_after_state {a : IncidentState} (haccepts : (stateForm (R := R) (N := N)).accepts a = true)
    (hcanonical : (stateForm (R := R) (N := N)).Canonicalizes a)
    (htimes : ReadsBack R a.detectedAt ∧ ReadsBack R a.updatedAt)
    (htexts : ∀ f ∈ a.findings, (∃ t, canonicalString R N f.clauseId = some t ∧ hasLength 1 128 t = true) ∧
      ∃ t, canonicalString R N f.summary = some t ∧ hasLength 1 512 t = true) :
    ∃ b, (stateForm (R := R) (N := N)).after a = some b := by
  rw [stateForm, Form.accepts_refine] at haccepts
  rw [stateForm, Form.canonicalizes_refine, Fields.canonicalizes_record, Fields.canonicalizes_map] at hcanonical
  simp only [Fields.canonicalizes_both, Fields.canonicalizes_field] at hcanonical
  obtain ⟨-, -, -, -, -, -, -, -, -, -, -, -, hfindings, hreasoning, -⟩ := hcanonical
  obtain ⟨reasoning, hr⟩ := exists_after_freeTexts hreasoning
  have hfinding : ∀ f ∈ a.findings, ∃ g, (findingForm (R := R) (N := N)).after f = some g := by
    intro f hf
    obtain ⟨⟨clauseId, hclause⟩, summary, hsummary⟩ := htexts f hf
    have hcanonical := Form.canonicalizes_item hfindings hf
    rw [findingForm, Fields.canonicalizes_record, Fields.canonicalizes_map] at hcanonical
    simp only [Fields.canonicalizes_both, Fields.canonicalizes_field] at hcanonical
    obtain ⟨refs, hrefs⟩ := exists_after_freeTexts hcanonical.2.2.2
    exact ⟨⟨clauseId, f.verdict, summary, refs⟩, after_finding.mpr ⟨hclause, rfl, hsummary, hrefs⟩⟩
  obtain ⟨findings, hf⟩ := Form.exists_after_list hfinding
  -- the validator looks at none of the fields that canonicalization rewrites
  exact ⟨{ a with findings := findings, reasoning := reasoning }, after_state.mpr
    ⟨⟨rfl, rfl, rfl, rfl, rfl, ⟨htimes.1, rfl⟩, ⟨htimes.2, rfl⟩, rfl, rfl, rfl, rfl, hf, hr, rfl, rfl⟩,
      haccepts.2⟩⟩

/-! ## Pointers and indexes -/

theorem after_pointer {a b : IncidentFeedPointer} :
    (pointerForm (R := R) (N := N)).after a = some b ↔
      (a.incidentId = b.incidentId ∧ a.statePath = b.statePath ∧ a.stateSha256 = b.stateSha256 ∧
        a.attestationPath = b.attestationPath ∧ a.attestationSha256 = b.attestationSha256 ∧
        a.pointerAttestationPath = b.pointerAttestationPath ∧
        (canonicalString R N a.keyId = some b.keyId ∧ hasLength 1 512 b.keyId = true) ∧
        a.keyFingerprint = b.keyFingerprint ∧ ReadsBack R a.publishedAt ∧
        a.publishedAt = b.publishedAt) ∧ validateIncidentPaths b = true := by
  rw [pointerForm, Form.after_refine, Fields.after_record, Fields.after_map (fun _ => rfl)]
  simp only [Fields.after_both, Fields.after_field, after_pattern, Form.after_text,
    Form.after_constant, digestField, incidentIdField, assetPathField, keyIdField, after_eventTime,
    true_and]

theorem after_activeEntry {a b : ActiveIncidentEntry} :
    (activeEntryForm (R := R) (N := N)).after a = some b ↔
      a = b ∧ (ReadsBack R a.detectedAt ∧ ReadsBack R a.updatedAt) ∧ validatePointerPath b = true := by
  rw [activeEntryForm, Form.after_refine, Fields.after_record, Fields.after_map (fun _ => rfl)]
  simp only [Fields.after_both, Fields.after_field, after_pattern, Form.after_constant, digestField,
    incidentIdField, scenarioField, roleField, Form.after_choice, after_eventTime, true_and]
  constructor
  · rintro ⟨⟨hid, hscenario, hrole, hpath, hsha, ⟨hdetected, hdetected'⟩, hupdated, hupdated'⟩, hvalid⟩
    refine ⟨?_, ⟨hdetected, hupdated⟩, hvalid⟩
    cases a
    cases b
    simp only at hid hscenario hrole hpath hsha hdetected' hupdated'
    rw [hid, hscenario, hrole, hpath, hsha, hdetected', hupdated']
  · rintro ⟨rfl, ⟨hdetected, hupdated⟩, hvalid⟩
    exact ⟨⟨rfl, rfl, rfl, rfl, rfl, ⟨hdetected, rfl⟩, hupdated, rfl⟩, hvalid⟩

theorem after_activeIndex {a b : ActiveIncidentIndex} :
    (activeIndexForm (R := R) (N := N)).after a = some b ↔
      (((activeEntryForm (R := R) (N := N)).list 0 64).after a.incidents = some b.incidents ∧
        a.indexAttestationPath = b.indexAttestationPath ∧
        (canonicalString R N a.keyId = some b.keyId ∧ hasLength 1 512 b.keyId = true) ∧
        a.keyFingerprint = b.keyFingerprint ∧ ReadsBack R a.publishedAt ∧
        a.publishedAt = b.publishedAt) ∧ validateDeterministicOrder b = true := by
  rw [activeIndexForm, Form.after_refine, Fields.after_record, Fields.after_map (fun _ => rfl)]
  simp only [Fields.after_both, Fields.after_field, after_pattern, Form.after_text,
    Form.after_constant, digestField, keyIdField, after_eventTime, true_and]

theorem exists_after_activeIndex {a : ActiveIncidentIndex}
    (haccepts : (activeIndexForm (R := R) (N := N)).accepts a = true)
    (htimes : ∀ t ∈ @eventTimes .activeIncidentIndex a, ReadsBack R t) {keyId : Text}
    (hkey : canonicalString R N a.keyId = some keyId ∧ hasLength 1 512 keyId = true) :
    (activeIndexForm (R := R) (N := N)).after a = some { a with keyId := keyId } := by
  rw [activeIndexForm, Form.accepts_refine, Fields.accepts_record, Fields.accepts_map] at haccepts
  simp only [Fields.accepts_both, Fields.accepts_field, Form.accepts_list] at haccepts
  obtain ⟨⟨-, ⟨-, hentries⟩, -⟩, hvalid⟩ := haccepts
  have hsame : ((activeEntryForm (R := R) (N := N)).list 0 64).after a.incidents = some a.incidents := by
    rw [Form.after_list, List.forall₂_same]
    intro e he
    have htime : ∀ t ∈ [e.detectedAt, e.updatedAt], ReadsBack R t := fun t ht =>
      htimes t (List.mem_cons_of_mem _ (List.mem_flatMap.mpr ⟨e, he, ht⟩))
    exact after_activeEntry.mpr ⟨rfl, ⟨htime _ List.mem_cons_self,
      htime _ (List.mem_cons_of_mem _ List.mem_cons_self)⟩,
      (Form.accepts_refine.mp (hentries e he)).2⟩
  exact after_activeIndex.mpr ⟨⟨hsame, rfl, hkey, rfl, htimes _ List.mem_cons_self, rfl⟩, hvalid⟩

/-! ## Receipts and enrichment references -/

theorem after_occurrence {a b : IncidentOccurrence} :
    (occurrenceFields (R := R) (N := N)).after a = some b ↔
      a.incidentId = b.incidentId ∧ a.transitionId = b.transitionId ∧
        a.stateResultDigest = b.stateResultDigest ∧
        (referenceForm (R := R) (N := N)).after a.stateReference = some b.stateReference ∧
        (referenceForm (R := R) (N := N)).after a.stateAttestationReference =
          some b.stateAttestationReference ∧
        (referenceForm (R := R) (N := N)).after a.pointerReference = some b.pointerReference ∧
        (referenceForm (R := R) (N := N)).after a.pointerAttestationReference =
          some b.pointerAttestationReference ∧
        ReadsBack R a.publishedAt ∧ a.publishedAt = b.publishedAt := by
  rw [occurrenceFields, Fields.after_map (fun _ => rfl)]
  simp only [Fields.after_both, Fields.after_field, after_pattern, Form.after_constant, digestField,
    incidentIdField, after_eventTime, true_and]

/-- A reference that is read back as another one, or as itself. -/
def ReadAs (R : DateTimeRuntime) (N : NfcTables) (r s : VersionPinnedBlobReference) : Prop :=
  (referenceForm (R := R) (N := N)).after r = some s

theorem ReadAs.version {r : VersionPinnedBlobReference} (h : ReadAs R N r r) :
    canonicalString R N r.version = some r.version :=
  (after_reference.mp h).2.1.1

theorem after_receipt {a b : IncidentOccurrenceReceipt} :
    (receiptForm R N H).after a = some b ↔
      ((occurrenceFields (R := R) (N := N)).after a.occurrence = some b.occurrence ∧
        a.occurrenceId = b.occurrenceId ∧
        a.occurrenceDigest = b.occurrenceDigest) ∧ validateReceipt R N H b = true := by
  rw [receiptForm, Form.after_refine, receiptRecord, Fields.after_record, Fields.after_map (fun _ => rfl)]
  simp only [Fields.after_both, Fields.after_field, shortIdField, after_pattern, digestField]

theorem accepts_receipt {a : IncidentOccurrenceReceipt} (h : (receiptForm R N H).accepts a = true) :
    (∀ r ∈ IncidentOccurrence.references a.occurrence, (referenceForm (R := R) (N := N)).accepts r = true) ∧
      validateReceipt R N H a = true := by
  rw [receiptForm, Form.accepts_refine, receiptRecord, Fields.accepts_record, Fields.accepts_map] at h
  simp only [Fields.accepts_both, occurrenceFields, Fields.accepts_map, Fields.accepts_field] at h
  obtain ⟨⟨⟨_, _, _, _, hstate, hstate', hpointer, hpointer', _⟩, _⟩, hvalid⟩ := h
  refine ⟨?_, hvalid⟩
  simp only [IncidentOccurrence.references, List.forall_mem_cons, List.not_mem_nil, false_implies,
    implies_true, and_true]
  exact ⟨hstate, hstate', hpointer, hpointer'⟩

theorem after_receipt_self {a : IncidentOccurrenceReceipt} (haccepts : (receiptForm R N H).accepts a = true)
    (htime : ReadsBack R a.occurrence.publishedAt)
    (hversions : ∀ r ∈ IncidentOccurrence.references a.occurrence,
      canonicalString R N r.version = some r.version) : (receiptForm R N H).after a = some a := by
  obtain ⟨hreferences, hvalid⟩ := accepts_receipt haccepts
  have hself : ∀ r ∈ IncidentOccurrence.references a.occurrence, ReadAs R N r r :=
    fun r hr => (after_reference_self (hreferences r hr)).mpr (hversions r hr)
  simp only [IncidentOccurrence.references, List.forall_mem_cons] at hself
  obtain ⟨hstate, hstate', hpointer, hpointer', _⟩ := hself
  exact after_receipt.mpr ⟨⟨after_occurrence.mpr
    ⟨rfl, rfl, rfl, hstate, hstate', hpointer, hpointer', htime, rfl⟩, rfl, rfl⟩, hvalid⟩

theorem after_assetReference {a b : IncidentEnrichmentAssetReference} :
    (assetReferenceForm R N H).after a = some b ↔
      (((a.asset.incidentId = b.asset.incidentId ∧
          a.asset.incidentStateResultDigest = b.asset.incidentStateResultDigest ∧
          a.asset.enrichmentId = b.asset.enrichmentId ∧ a.asset.manifestDigest = b.asset.manifestDigest ∧
          ReadAs R N a.asset.manifestReference b.asset.manifestReference ∧
          ReadAs R N a.asset.attestationReference b.asset.attestationReference) ∧
        a.referenceId = b.referenceId ∧ a.referenceDigest = b.referenceDigest) ∧
        validateReference R N H b = true) := by
  rw [assetReferenceForm, Form.after_refine, assetReferenceRecord, Fields.after_record,
    Fields.after_map (fun _ => rfl)]
  simp only [Fields.after_both, Fields.after_field]
  rw [enrichmentAssetFields, Fields.after_map (fun _ => rfl)]
  simp only [Fields.after_both, Fields.after_field, Form.after_constant, shortIdField, after_pattern,
    digestField, incidentIdField, true_and, ReadAs]

theorem after_feedPointer {a b : IncidentEnrichmentFeedPointer} :
    (feedPointerForm R N H).after a = some b ↔
      ((a.pointer.incidentId = b.pointer.incidentId ∧ a.pointer.lifecycle = b.pointer.lifecycle ∧
          a.pointer.stateResultDigest = b.pointer.stateResultDigest ∧
          (HasFourDigits R a.pointer.stateUpdatedAt ∧
            a.pointer.stateUpdatedAt = b.pointer.stateUpdatedAt) ∧
          a.pointer.occurrenceDigest = b.pointer.occurrenceDigest ∧
          ReadAs R N a.pointer.sourceStateReference b.pointer.sourceStateReference ∧
          ReadAs R N a.pointer.sourceStateAttestationReference
            b.pointer.sourceStateAttestationReference ∧
          ReadAs R N a.pointer.sourcePointerReference b.pointer.sourcePointerReference ∧
          ReadAs R N a.pointer.sourcePointerAttestationReference
            b.pointer.sourcePointerAttestationReference ∧
          (assetReferenceForm R N H).after a.pointer.enrichmentAsset = some b.pointer.enrichmentAsset ∧
          HasFourDigits R a.pointer.publishedAt ∧ a.pointer.publishedAt = b.pointer.publishedAt) ∧
        a.pointerId = b.pointerId ∧ a.pointerDigest = b.pointerDigest) ∧
      validatePointer R N H b = true := by
  rw [feedPointerForm, Form.after_refine, feedPointerRecord, Fields.after_record,
    Fields.after_map (fun _ => rfl)]
  simp only [Fields.after_both, Fields.after_field]
  rw [feedPointerFields, Fields.after_map (fun _ => rfl)]
  simp only [Fields.after_both, Fields.after_field, Form.after_constant, Form.after_alwaysTrue,
    Form.after_instant, feedLifecycleField, Form.after_choice, shortIdField, after_pattern,
    digestField, incidentIdField, true_and, and_true, ReadAs]

theorem after_feedPointer_self {a : IncidentEnrichmentFeedPointer}
    (haccepts : (feedPointerForm R N H).accepts a = true)
    (hstate : HasFourDigits R a.pointer.stateUpdatedAt) (hpublished : HasFourDigits R a.pointer.publishedAt)
    (hversions : ∀ r ∈ EnrichmentFeedPointer.references a.pointer,
      canonicalString R N r.version = some r.version) : (feedPointerForm R N H).after a = some a := by
  rw [feedPointerForm, Form.accepts_refine, feedPointerRecord, Fields.accepts_record,
    Fields.accepts_map] at haccepts
  simp only [Fields.accepts_both, feedPointerFields, Fields.accepts_map, Fields.accepts_field,
    assetReferenceForm, Form.accepts_refine, assetReferenceRecord, Fields.accepts_record,
    enrichmentAssetFields] at haccepts
  obtain ⟨⟨⟨_, _, _, _, _, _, hr₁, hr₂, hr₃, hr₄, ⟨⟨⟨_, _, _, _, _, hr₅, hr₆⟩, _⟩, hasset⟩, _⟩, _⟩,
    hvalid⟩ := haccepts
  simp only [EnrichmentFeedPointer.references, List.forall_mem_cons] at hversions
  obtain ⟨hv₁, hv₂, hv₃, hv₄, hv₅, hv₆, _⟩ := hversions
  have hreference : (assetReferenceForm R N H).after a.pointer.enrichmentAsset =
      some a.pointer.enrichmentAsset :=
    after_assetReference.mpr ⟨⟨⟨rfl, rfl, rfl, rfl, (after_reference_self hr₅).mpr hv₅,
      (after_reference_self hr₆).mpr hv₆⟩, rfl, rfl⟩, hasset⟩
  exact after_feedPointer.mpr ⟨⟨⟨rfl, rfl, rfl, ⟨hstate, rfl⟩, rfl, (after_reference_self hr₁).mpr hv₁,
    (after_reference_self hr₂).mpr hv₂, (after_reference_self hr₃).mpr hv₃,
    (after_reference_self hr₄).mpr hv₄, hreference, hpublished, rfl⟩, rfl, rfl⟩, hvalid⟩

/-! ## Feed indexes -/

theorem after_entry {a b : IncidentFeedEntryV2} :
    (entryForm (R := R) (N := N)).after a = some b ↔
      (a.incidentId = b.incidentId ∧ a.lifecycle = b.lifecycle ∧
        a.stateResultDigest = b.stateResultDigest ∧
        (HasFourDigits R a.updatedAt ∧ a.updatedAt = b.updatedAt) ∧
        ReadAs R N a.feedPointerReference b.feedPointerReference ∧
        ReadAs R N a.feedPointerAttestationReference b.feedPointerAttestationReference) ∧
      validatePaths b = true := by
  rw [entryForm, Form.after_refine, Fields.after_record, Fields.after_map (fun _ => rfl)]
  simp only [Fields.after_both, Fields.after_field, Form.after_instant, feedLifecycleField,
    Form.after_choice, after_pattern, digestField, incidentIdField, ReadAs]

theorem after_entry_self {a : IncidentFeedEntryV2}
    (haccepts : (entryForm (R := R) (N := N)).accepts a = true) (htime : HasFourDigits R a.updatedAt)
    (hversions : ∀ r ∈ IncidentFeedEntryV2.references a,
      canonicalString R N r.version = some r.version) :
    (entryForm (R := R) (N := N)).after a = some a := by
  rw [entryForm, Form.accepts_refine, Fields.accepts_record, Fields.accepts_map] at haccepts
  simp only [Fields.accepts_both, Fields.accepts_field] at haccepts
  obtain ⟨⟨_, _, _, _, hr₁, hr₂⟩, hpaths⟩ := haccepts
  simp only [IncidentFeedEntryV2.references, List.forall_mem_cons] at hversions
  obtain ⟨hv₁, hv₂, _⟩ := hversions
  exact after_entry.mpr ⟨⟨rfl, rfl, rfl, ⟨htime, rfl⟩, (after_reference_self hr₁).mpr hv₁,
    (after_reference_self hr₂).mpr hv₂⟩, hpaths⟩

theorem after_indexRecord {a b : IncidentFeedIndexV2} :
    (indexRecord R N).after a = some b ↔
      (((entryForm (R := R) (N := N)).list 0 64).after a.active = some b.active ∧
          validateActive b.active = true) ∧
        (((entryForm (R := R) (N := N)).list 0 64).after a.recentlyResolved = some b.recentlyResolved ∧
          validateResolved b.recentlyResolved = true) ∧
        (HasFourDigits R a.resolvedRetentionStart ∧
          a.resolvedRetentionStart = b.resolvedRetentionStart) ∧
        a.resolvedHistoryTruncated = b.resolvedHistoryTruncated ∧
        a.resolvedHistoryTotalCount = b.resolvedHistoryTotalCount ∧
        a.omittedResolvedCount = b.omittedResolvedCount ∧
        a.sourceActiveIndexDigest = b.sourceActiveIndexDigest ∧
        a.indexAttestationPath = b.indexAttestationPath ∧
        (canonicalString R N a.keyId = some b.keyId ∧ hasLength 1 512 b.keyId = true) ∧
        a.keyFingerprint = b.keyFingerprint ∧ HasFourDigits R a.publishedAt ∧
        a.publishedAt = b.publishedAt := by
  rw [indexRecord, Fields.after_record, Fields.after_map (fun _ => rfl)]
  simp only [Fields.after_both, Fields.after_field, Fields.after_optionalField, Form.after_refine,
    Form.after_constant, Form.after_flag, Form.after_natural, Form.after_instant, Form.after_text,
    after_pattern, digestField, keyIdField, true_and]


/-- The entries of a list are read back as they are. -/
theorem after_entries_self {entries : List IncidentFeedEntryV2}
    (haccepts : ∀ e ∈ entries, (entryForm (R := R) (N := N)).accepts e = true)
    (htimes : ∀ e ∈ entries, HasFourDigits R e.updatedAt)
    (hversions : ∀ e ∈ entries, ∀ r ∈ IncidentFeedEntryV2.references e,
      canonicalString R N r.version = some r.version) :
    ((entryForm (R := R) (N := N)).list 0 64).after entries = some entries := by
  rw [Form.after_list, List.forall₂_same]
  exact fun e he => after_entry_self (haccepts e he) (htimes e he) (hversions e he)

/-- The canonical spelling of the key identifier leaves the digest of an index as it is. -/
theorem indexVersionDigest_keyId {i : IncidentFeedIndexV2} {keyId digest : Text}
    (hkey : canonicalString R N i.keyId = some keyId)
    (hdigest : indexVersionDigest R N H i = some digest) :
    indexVersionDigest R N H { i with keyId := keyId } = some digest := by
  obtain ⟨value, hvalue, hrest⟩ := Option.bind_eq_some_iff.mp hdigest
  refine Option.bind_eq_some_iff.mpr ⟨value, ?_, hrest⟩
  obtain ⟨fields, rfl, hfields⟩ :=
    (canonicalValue_object (areFieldNames_versionMembers R N i)).mp hvalue
  refine (canonicalValue_object (areFieldNames_versionMembers R N _)).mpr ⟨fields, rfl, ?_⟩
  obtain ⟨front, back, rfl, hfront, hback⟩ := CanonicalMembers.split hfields
  refine List.rel_append hfront ?_
  rcases hback with _ | ⟨hsource, _ | ⟨hmember, hmore⟩⟩
  obtain ⟨hname, hvalue⟩ := hmember
  rw [canonicalValue_string, hkey, Option.map_some] at hvalue
  refine .cons hsource (.cons ⟨hname, ?_⟩ hmore)
  rw [canonicalValue_string, canonicalString_idempotent hkey, Option.map_some, ← hvalue]

theorem exists_after_feedIndex {a : IncidentFeedIndexV2} {bytes : Text}
    (haccepts : (feedIndexForm R N H).accepts a = true)
    (hbytes : (feedIndexForm R N H).canonicalBytes a = some bytes)
    (htimes : ∀ t ∈ @utcTimes .feedIndex a, HasFourDigits R t)
    (hversions : ∀ r ∈ @references .feedIndex a,
      canonicalString R N r.version = some r.version)
    {keyId : Text} (hkey : canonicalString R N a.keyId = some keyId ∧ hasLength 1 512 keyId = true) :
    (feedIndexForm R N H).after a = some { a with keyId := keyId } := by
  obtain ⟨hrecord, hvalid⟩ := Form.accepts_refine.mp haccepts
  have hlists := hrecord
  rw [indexRecord, Fields.accepts_record, Fields.accepts_map] at hlists
  simp only [Fields.accepts_both, Fields.accepts_field, Form.accepts_refine, Form.accepts_list] at hlists
  obtain ⟨-, ⟨⟨-, hactive⟩, hvalidActive⟩, ⟨⟨-, hresolved⟩, hvalidResolved⟩, -⟩ := hlists
  simp only [utcTimes, references, List.mem_append, List.mem_map, List.mem_flatMap] at htimes hversions
  have hentry : ∀ e ∈ a.active ++ a.recentlyResolved, HasFourDigits R e.updatedAt :=
    fun e he => htimes _ (.inr ⟨e, List.mem_append.mp he, rfl⟩)
  have hversion : ∀ e ∈ a.active ++ a.recentlyResolved, ∀ r ∈ IncidentFeedEntryV2.references e,
      canonicalString R N r.version = some r.version :=
    fun e he r hr => hversions r ⟨e, List.mem_append.mp he, hr⟩
  have hafter : (indexRecord R N).after a = some { a with keyId := keyId } := by
    refine after_indexRecord.mpr ⟨⟨?_, hvalidActive⟩, ⟨?_, hvalidResolved⟩,
      ⟨htimes _ (.inl List.mem_cons_self), rfl⟩, rfl, rfl, rfl, rfl, rfl, hkey, rfl,
      htimes _ (.inl (List.mem_cons_of_mem _ List.mem_cons_self)), rfl⟩
    · exact after_entries_self hactive (fun e he => hentry e (List.mem_append_left _ he))
        fun e he => hversion e (List.mem_append_left _ he)
    · exact after_entries_self hresolved (fun e he => hentry e (List.mem_append_right _ he))
        fun e he => hversion e (List.mem_append_right _ he)
  refine Form.after_refine.mpr ⟨hafter, ?_⟩
  simp only [validateIndex, Bool.and_eq_true] at hvalid ⊢
  obtain ⟨⟨hlifecycles, hfits⟩, hpath⟩ := hvalid
  obtain ⟨digest, hdigest, hsame⟩ := (Option.any_eq_true _ _).mp hpath
  refine ⟨⟨hlifecycles, ?_⟩, ?_⟩
  · -- the budget is one of bytes that stay the same
    have hsame := Form.canonicalBytes_after hrecord hafter hbytes
    rw [fitsBytes] at hfits ⊢
    rw [hsame]
    have hindex : (indexRecord R N).canonicalBytes a = some bytes := hbytes
    rwa [hindex] at hfits
  · rw [indexVersionDigest_keyId hkey.1 hdigest]
    exact hsame

/-! ## Round trips -/

theorem forall₂_flatMap {α β γ δ : Type} {p : α → β → Prop} {q : γ → δ → Prop} {f : α → List γ}
    {g : β → List δ} {xs : List α} {ys : List β} (h : List.Forall₂ p xs ys)
    (hpart : ∀ {x y}, p x y → List.Forall₂ q (f x) (g y)) :
    List.Forall₂ q (xs.flatMap f) (ys.flatMap g) := by
  induction h with
  | nil => exact .nil
  | cons hfirst _ ih =>
    rw [List.flatMap_cons, List.flatMap_cons]
    exact List.rel_append (hpart hfirst) ih

theorem forall_left {α β : Type} {p : α → β → Prop} {q : α → Prop} {xs : List α} {ys : List β}
    (h : List.Forall₂ p xs ys) (hq : ∀ {x y}, p x y → q x) : ∀ x ∈ xs, q x := by
  induction h with
  | nil => exact nofun
  | cons hfirst _ ih => exact List.forall_mem_cons.mpr ⟨hq hfirst, ih⟩

theorem activeEntries_times {xs ys : List ActiveIncidentEntry}
    (h : ((activeEntryForm (R := R) (N := N)).list 0 64).after xs = some ys) :
    ∀ e ∈ xs, ReadsBack R e.detectedAt ∧ ReadsBack R e.updatedAt := by
  rw [Form.after_list] at h
  exact forall_left h fun hentry => (after_activeEntry.mp hentry).2.1

theorem entries_times {xs ys : List IncidentFeedEntryV2}
    (h : ((entryForm (R := R) (N := N)).list 0 64).after xs = some ys) :
    ∀ e ∈ xs, HasFourDigits R e.updatedAt := by
  rw [Form.after_list] at h
  exact forall_left h fun hentry => (after_entry.mp hentry).1.2.2.2.1.1

theorem findings_texts {xs ys : List IncidentFinding}
    (h : ((findingForm (R := R) (N := N)).list 1 32).after xs = some ys) :
    ∀ f ∈ xs, (∃ t, canonicalString R N f.clauseId = some t ∧ hasLength 1 128 t = true) ∧
      ∃ t, canonicalString R N f.summary = some t ∧ hasLength 1 512 t = true := by
  rw [Form.after_list] at h
  refine forall_left h fun hfinding => ?_
  obtain ⟨hclause, _, hsummary, _⟩ := after_finding.mp hfinding
  exact ⟨⟨_, hclause⟩, ⟨_, hsummary⟩⟩

/-- The references of an artifact are read back one by one. -/
theorem references_after {kind : ArtifactKind} {a b : Artifact kind}
    (h : (artifactForm R N H kind).after a = some b) :
    List.Forall₂ (ReadAs R N) (references a) (references b) := by
  cases kind with
  | incidentState => exact .nil
  | incidentFeedPointer => exact .nil
  | activeIncidentIndex => exact .nil
  | occurrenceReceipt =>
    obtain ⟨_, _, _, h₁, h₂, h₃, h₄, _⟩ := after_occurrence.mp (after_receipt.mp h).1.1
    exact .cons h₁ (.cons h₂ (.cons h₃ (.cons h₄ .nil)))
  | enrichmentFeedPointer =>
    obtain ⟨_, _, _, _, _, h₁, h₂, h₃, h₄, hasset, _⟩ := (after_feedPointer.mp h).1.1
    obtain ⟨_, _, _, _, h₅, h₆⟩ := (after_assetReference.mp hasset).1.1
    exact .cons h₁ (.cons h₂ (.cons h₃ (.cons h₄ (.cons h₅ (.cons h₆ .nil)))))
  | feedIndex =>
    obtain ⟨⟨hactive, _⟩, ⟨hresolved, _⟩, _⟩ := after_indexRecord.mp (Form.after_refine.mp h).1
    refine forall₂_flatMap (List.rel_append (Form.after_list.mp hactive) (Form.after_list.mp hresolved))
      fun hentry => ?_
    obtain ⟨_, _, _, _, h₁, h₂⟩ := (after_entry.mp hentry).1
    exact .cons h₁ (.cons h₂ .nil)

/-- The times of an artifact that is read back. -/
theorem times_after {kind : ArtifactKind} {a b : Artifact kind}
    (h : (artifactForm R N H kind).after a = some b) :
    (∀ t ∈ utcTimes a, HasFourDigits R t) ∧ ∀ t ∈ eventTimes a, ReadsBack R t := by
  cases kind with
  | incidentState =>
    obtain ⟨_, _, _, _, _, ⟨hdetected, _⟩, ⟨hupdated, _⟩, _⟩ := (after_state.mp h).1
    simp only [utcTimes, eventTimes, List.forall_mem_cons, List.not_mem_nil, false_implies,
      implies_true, and_true, true_and]
    exact ⟨hdetected, hupdated⟩
  | incidentFeedPointer =>
    obtain ⟨_, _, _, _, _, _, _, _, hpublished, _⟩ := (after_pointer.mp h).1
    simp only [utcTimes, eventTimes, List.forall_mem_cons, List.not_mem_nil, false_implies,
      implies_true, and_true, true_and]
    exact hpublished
  | activeIncidentIndex =>
    obtain ⟨hentries, _, _, _, hpublished, _⟩ := (after_activeIndex.mp h).1
    have hall := activeEntries_times hentries
    refine ⟨fun t hnil => absurd hnil List.not_mem_nil, fun t ht => ?_⟩
    rcases List.mem_cons.mp ht with rfl | hmem
    · exact hpublished
    · obtain ⟨e, he, hte⟩ := List.mem_flatMap.mp hmem
      obtain ⟨hdetected, hupdated⟩ := hall e he
      rcases List.mem_cons.mp hte with rfl | hsecond
      · exact hdetected
      · rw [List.mem_singleton.mp hsecond]
        exact hupdated
  | occurrenceReceipt =>
    obtain ⟨_, _, _, _, _, _, _, hpublished, _⟩ := after_occurrence.mp (after_receipt.mp h).1.1
    simp only [utcTimes, eventTimes, List.forall_mem_cons, List.not_mem_nil, false_implies,
      implies_true, and_true, true_and]
    exact hpublished
  | enrichmentFeedPointer =>
    obtain ⟨_, _, _, ⟨hstate, _⟩, _, _, _, _, _, _, hpublished, _⟩ := (after_feedPointer.mp h).1.1
    simp only [utcTimes, eventTimes, List.forall_mem_cons, List.not_mem_nil, false_implies,
      implies_true, and_true]
    exact ⟨hstate, hpublished⟩
  | feedIndex =>
    obtain ⟨⟨hactive, _⟩, ⟨hresolved, _⟩, ⟨hstart, _⟩, _, _, _, _, _, _, _, hpublished, _⟩ :=
      after_indexRecord.mp (Form.after_refine.mp h).1
    refine ⟨fun t ht => ?_, fun t hnil => absurd hnil List.not_mem_nil⟩
    rcases List.mem_append.mp ht with hmem | hmem
    · rcases List.mem_cons.mp hmem with rfl | hsecond
      · exact hstart
      · rw [List.mem_singleton.mp hsecond]
        exact hpublished
    · obtain ⟨e, he, rfl⟩ := List.mem_map.mp hmem
      exact (List.mem_append.mp he).elim (entries_times hactive e) (entries_times hresolved e)

/-- The bounded strings of an artifact that is read back. -/
theorem texts_after {kind : ArtifactKind} {a b : Artifact kind}
    (h : (artifactForm R N H kind).after a = some b) :
    ∀ p ∈ boundedTexts a, ∃ written, canonicalString R N p.1 = some written ∧
      hasLength 1 p.2 written = true := by
  cases kind with
  | incidentState =>
    obtain ⟨_, _, _, _, _, _, _, _, _, _, _, hfindings, _⟩ := (after_state.mp h).1
    have hall := findings_texts hfindings
    intro p hp
    obtain ⟨f, hf, hmem⟩ := List.mem_flatMap.mp hp
    rcases List.mem_cons.mp hmem with rfl | hsecond
    · exact (hall f hf).1
    · rw [List.mem_singleton.mp hsecond]
      exact (hall f hf).2
  | incidentFeedPointer =>
    obtain ⟨_, _, _, _, _, _, hkey, _⟩ := (after_pointer.mp h).1
    exact fun p hp => by
      rw [List.mem_singleton.mp hp]
      exact ⟨_, hkey⟩
  | activeIncidentIndex =>
    obtain ⟨_, _, hkey, _⟩ := (after_activeIndex.mp h).1
    exact fun p hp => by
      rw [List.mem_singleton.mp hp]
      exact ⟨_, hkey⟩
  | occurrenceReceipt => exact nofun
  | enrichmentFeedPointer => exact nofun
  | feedIndex =>
    obtain ⟨_, _, _, _, _, _, _, _, hkey, _⟩ := after_indexRecord.mp (Form.after_refine.mp h).1
    exact fun p hp => by
      rw [List.mem_singleton.mp hp]
      exact ⟨_, hkey⟩

/-- An artifact that survives is read back with its references. -/
theorem exists_after {kind : ArtifactKind} {a : Artifact kind} {bytes : Text}
    (haccepts : (artifactForm R N H kind).accepts a = true)
    (hbytes : (artifactForm R N H kind).canonicalBytes a = some bytes) (h : Survives R N a) :
    ∃ b, (artifactForm R N H kind).after a = some b ∧ references b = references a := by
  cases kind with
  | incidentState =>
    have htexts : ∀ f ∈ a.findings,
        (∃ t, canonicalString R N f.clauseId = some t ∧ hasLength 1 128 t = true) ∧
          ∃ t, canonicalString R N f.summary = some t ∧ hasLength 1 512 t = true := fun f hf =>
      ⟨h.texts (f.clauseId, 128) (List.mem_flatMap.mpr ⟨f, hf, List.mem_cons_self⟩),
        h.texts (f.summary, 512)
          (List.mem_flatMap.mpr ⟨f, hf, List.mem_cons_of_mem _ List.mem_cons_self⟩)⟩
    obtain ⟨b, hb⟩ := exists_after_state haccepts (Form.canonicalizes_of_bytes hbytes)
      ⟨h.eventTimes _ List.mem_cons_self, h.eventTimes _ (List.mem_cons_of_mem _ List.mem_cons_self)⟩
      htexts
    exact ⟨b, hb, rfl⟩
  | incidentFeedPointer =>
    obtain ⟨keyId, hkey⟩ := h.texts (a.keyId, 512) List.mem_cons_self
    have hvalid := (Form.accepts_refine.mp haccepts).2
    exact ⟨{ a with keyId := keyId }, after_pointer.mpr ⟨⟨rfl, rfl, rfl, rfl, rfl, rfl, hkey, rfl,
      h.eventTimes _ List.mem_cons_self, rfl⟩, hvalid⟩, rfl⟩
  | activeIncidentIndex =>
    obtain ⟨keyId, hkey⟩ := h.texts (a.keyId, 512) List.mem_cons_self
    exact ⟨{ a with keyId := keyId }, exists_after_activeIndex haccepts h.eventTimes hkey, rfl⟩
  | occurrenceReceipt =>
    exact ⟨a, after_receipt_self haccepts (h.eventTimes _ List.mem_cons_self) h.versions, rfl⟩
  | enrichmentFeedPointer =>
    exact ⟨a, after_feedPointer_self haccepts (h.utcTimes _ List.mem_cons_self)
      (h.utcTimes _ (List.mem_cons_of_mem _ List.mem_cons_self)) h.versions, rfl⟩
  | feedIndex =>
    obtain ⟨keyId, hkey⟩ := h.texts (a.keyId, 512) List.mem_cons_self
    exact ⟨{ a with keyId := keyId },
      exists_after_feedIndex haccepts hbytes h.utcTimes h.versions hkey, rfl⟩

theorem survives_of_round_trips {kind : ArtifactKind} {a : Artifact kind} {bytes : Text}
    (haccepts : (artifactForm R N H kind).accepts a = true)
    (hbytes : (artifactForm R N H kind).canonicalBytes a = some bytes)
    (h : RoundTrips R N H a bytes) : Survives R N a := by
  obtain ⟨b, hreads, _, hreferences⟩ := h
  have hafter := (Form.reads_canonicalBytes haccepts hbytes).mp hreads
  have hsame := references_after hafter
  rw [hreferences, List.forall₂_same] at hsame
  obtain ⟨hutc, hevent⟩ := times_after hafter
  exact ⟨fun r hr => (hsame r hr).version, hutc, hevent, texts_after hafter⟩

theorem round_trips_of_survives {kind : ArtifactKind} {a : Artifact kind} {bytes : Text}
    (haccepts : (artifactForm R N H kind).accepts a = true)
    (hbytes : (artifactForm R N H kind).canonicalBytes a = some bytes) (h : Survives R N a) :
    RoundTrips R N H a bytes := by
  obtain ⟨b, hafter, hreferences⟩ := exists_after haccepts hbytes h
  exact ⟨b, (Form.reads_canonicalBytes haccepts hbytes).mpr hafter,
    Form.canonicalBytes_after haccepts hafter hbytes, hreferences⟩

/-- An accepted artifact round-trips exactly when its versions are canonical, its times are read
back and its bounded strings still fit. -/
theorem artifact_round_trips_iff (R : DateTimeRuntime) (N : NfcTables) (H : Sha256)
    (kind : ArtifactKind) (a : Artifact kind) (bytes : Text)
    (haccepts : (artifactForm R N H kind).accepts a = true)
    (hbytes : (artifactForm R N H kind).canonicalBytes a = some bytes) :
    RoundTrips R N H a bytes ↔ Survives R N a :=
  ⟨survives_of_round_trips haccepts hbytes, round_trips_of_survives haccepts hbytes⟩

/-! ## Receipts with references -/

/-- Tables for ASCII, which NFC leaves alone. -/
def asciiTables : NfcTables := ⟨id, fun _ _ => rfl, fun _ => rfl⟩

/-- A runtime that pads years. -/
def paddingRuntime : DateTimeRuntime := ⟨true, true, true⟩

def zeros (width : ℕ) : Text := List.replicate width '0'

/-- A digest of zeros for every text. -/
def zeroDigest : Sha256 := ⟨fun _ => zeros 64, fun _ => by decide⟩

/-- 2026-01-01T00:00:00Z -/
def newYear : EventTime :=
  ⟨⟨63902822400000, by decide +kernel⟩, 0, no_microseconds⟩

/-- A reference to a part of the occurrence under a version. -/
def versionedReference (version part : String) : VersionPinnedBlobReference where
  name := "incidents/inc-".toList ++ zeros 12 ++ "/versions/".toList ++ zeros 64 ++ part.toList
  version := version.toList
  contentDigest := "sha256:".toList ++ zeros 64

/-- The receipt of an occurrence whose references have the version. -/
def versionedReceipt (version : String) : IncidentOccurrenceReceipt where
  occurrence :=
    { incidentId := "inc-".toList ++ zeros 12
      transitionId := "wc016-".toList ++ zeros 64
      stateResultDigest := "sha256:".toList ++ zeros 64
      stateReference := versionedReference version "/state.json"
      stateAttestationReference := versionedReference version "/attestation.json"
      pointerReference := versionedReference version "/pointer.json"
      pointerAttestationReference := versionedReference version "/pointer-attestation.json"
      publishedAt := newYear }
  occurrenceId := "incident-occurrence-".toList ++ zeros 32
  occurrenceDigest := "sha256:".toList ++ zeros 64

/-- A receipt whose references have a canonical timestamp for their version. -/
def canonicalReceipt : IncidentOccurrenceReceipt := versionedReceipt "2026-01-01T00:00:00.000Z"

/-- One whose references have the same timestamp in another spelling. -/
def timedReceipt : IncidentOccurrenceReceipt := versionedReceipt "2026-01-01T00:00:00Z"

/-- The canonical bytes of a receipt. -/
def receiptBytes (receipt : IncidentOccurrenceReceipt) : Text :=
  ((receiptForm paddingRuntime asciiTables zeroDigest).canonicalBytes receipt).getD []

theorem receipts_accepted : ∀ receipt ∈ [canonicalReceipt, timedReceipt],
    (artifactForm paddingRuntime asciiTables zeroDigest .occurrenceReceipt).accepts receipt = true := by
  change ∀ receipt ∈ [canonicalReceipt, timedReceipt],
    (receiptForm paddingRuntime asciiTables zeroDigest).accepts receipt = true
  decide +kernel

theorem receipts_bytes : ∀ receipt ∈ [canonicalReceipt, timedReceipt],
    (artifactForm paddingRuntime asciiTables zeroDigest .occurrenceReceipt).canonicalBytes receipt =
      some (receiptBytes receipt) := by
  have hsome : ∀ receipt ∈ [canonicalReceipt, timedReceipt], ((receiptForm paddingRuntime asciiTables
      zeroDigest).canonicalBytes receipt).isSome = true := by
    decide +kernel
  intro receipt hreceipt
  obtain ⟨bytes, hbytes⟩ := Option.isSome_iff_exists.mp (hsome receipt hreceipt)
  change (receiptForm paddingRuntime asciiTables zeroDigest).canonicalBytes receipt = _
  rw [receiptBytes, hbytes]
  rfl

/-- A receipt survives with canonical versions and a time that is read back. -/
theorem survives_of_receipt {receipt : IncidentOccurrenceReceipt}
    (hversions : ∀ r ∈ IncidentOccurrence.references receipt.occurrence,
      canonicalString R N r.version = some r.version)
    (htime : ReadsBack R receipt.occurrence.publishedAt) :
    @Survives R N .occurrenceReceipt receipt where
  versions := hversions
  utcTimes t ht := by cases ht
  eventTimes t ht := by
    rw [List.mem_singleton.mp ht]
    exact htime
  texts p hp := by cases hp

theorem timedReceipt_not_survives :
    ¬ @Survives paddingRuntime asciiTables .occurrenceReceipt timedReceipt := fun h =>
  absurd (h.versions (versionedReference "2026-01-01T00:00:00Z" "/state.json") List.mem_cons_self)
    (by decide +kernel)

/-- Of two receipts one is read back with its references, the other is not. -/
theorem artifact_round_trips_iff_receipts :
    @RoundTrips paddingRuntime asciiTables zeroDigest .occurrenceReceipt canonicalReceipt
        (receiptBytes canonicalReceipt) ∧
      ¬ @RoundTrips paddingRuntime asciiTables zeroDigest .occurrenceReceipt timedReceipt
        (receiptBytes timedReceipt) := by
  have hround : ∀ receipt ∈ [canonicalReceipt, timedReceipt],
      @RoundTrips paddingRuntime asciiTables zeroDigest .occurrenceReceipt receipt
        (receiptBytes receipt) ↔ @Survives paddingRuntime asciiTables .occurrenceReceipt receipt :=
    fun receipt hreceipt => artifact_round_trips_iff paddingRuntime asciiTables zeroDigest
      .occurrenceReceipt receipt _ (receipts_accepted receipt hreceipt)
        (receipts_bytes receipt hreceipt)
  have hsurvives : @Survives paddingRuntime asciiTables .occurrenceReceipt canonicalReceipt :=
    survives_of_receipt (by decide +kernel) (by decide +kernel)
  refine ⟨(hround _ List.mem_cons_self).mpr hsurvives, fun htimed => ?_⟩
  exact timedReceipt_not_survives
    ((hround _ (List.mem_cons_of_mem _ List.mem_cons_self)).mp htimed)

/-- A receipt whose references have a timestamp for their version is read back with others. -/
theorem timed_receipt_does_not_round_trip :
    ¬ ∀ (R : DateTimeRuntime) (N : NfcTables) (H : Sha256) (kind : ArtifactKind) (a : Artifact kind)
      (bytes : Text), (artifactForm R N H kind).accepts a = true →
        (artifactForm R N H kind).canonicalBytes a = some bytes → RoundTrips R N H a bytes := by
  intro hall
  have hmem : timedReceipt ∈ [canonicalReceipt, timedReceipt] :=
    List.mem_cons_of_mem _ List.mem_cons_self
  have haccepts := receipts_accepted timedReceipt hmem
  have hbytes := receipts_bytes timedReceipt hmem
  exact timedReceipt_not_survives (survives_of_round_trips haccepts hbytes
    (hall paddingRuntime asciiTables zeroDigest .occurrenceReceipt timedReceipt _ haccepts hbytes))

end AthenaContext.ArtifactRoundTrips
