import AthenaContext.EvaluationResults

/-!
# Rendered results

The result of a stored evaluation is built, written and read anew on every request. Its digests
depend on the instant of its publication, but whether it can be built and read does not, from
the first instant on at which it can.
-/

namespace AthenaContext.EvaluationResults

open JsonText CanonicalJson TextNormalization TimestampText InstantTexts GregorianCalendar
open ContractDocuments ContractForms ContractPatterns EventTimes SignedArtifacts DocumentDigests
open ContextRecords EvaluationRecords

/-! ## Later instants -/

/-- The checks of a publication record that its digest does not depend on. -/
theorem validatePublication_iff {R : DateTimeRuntime} {N : NfcTables} {H : Sha256}
    {p : AuthorizedSnapshotPublication} :
    validatePublication R N H p = true ↔
      (p.header.approvedBy.kind = .human ∧ p.header.publicationAuthorizedBy.kind = .human ∧
        p.header.publishedBy.kind = .service) ∧ p.publishedAt = p.publicationAuthorizedAt ∧
      publicationDigest R N H p.header p.publishedAt p.publicationAuthorizedAt =
        some p.publicationRecordDigest := by
  simp only [validatePublication, Bool.and_eq_true, decide_eq_true_eq]
  constructor
  · rintro ⟨⟨⟨⟨happroved, hauthorized⟩, hpublished⟩, htimes⟩, hdigest⟩
    exact ⟨⟨happroved, hauthorized, hpublished⟩, htimes, hdigest.symm⟩
  · rintro ⟨⟨happroved, hauthorized, hpublished⟩, htimes, hdigest⟩
    exact ⟨⟨⟨⟨happroved, hauthorized⟩, hpublished⟩, htimes⟩, hdigest.symm⟩

theorem yearOfDay_monotone : Monotone yearOfDay := by
  intro day later hle
  have hyears : daysBeforeYear (yearOfDay day) ≤ day := by
    have hday := (validDate_of_day day).2
    unfold dayNumber at hday
    omega
  have hbound : yearOfDay day ≤ day / 365 + 1 := Nat.findGreatest_le _
  refine Nat.le_findGreatest ?_ (hyears.trans hle)
  have hdiv := Nat.div_le_div_right (c := 365) hle
  omega

/-- A time of whole milliseconds. -/
theorem eventTimeAt_eq_some {t : Timestamp} {e : EventTime} (h : eventTimeAt t = some e) :
    0 ≤ t ∧ t < endOfTime ∧ e.microsecond = 0 ∧ e.instant.milliseconds = t.toNat := by
  unfold eventTimeAt at h
  split at h
  · next hcalendar =>
    cases h
    exact ⟨hcalendar.1, hcalendar.2, rfl, rfl⟩
  · cases h

theorem exists_eventTimeAt {t : Timestamp} (h : 0 ≤ t) (ht : t < endOfTime) :
    ∃ e, eventTimeAt t = some e :=
  ⟨_, dif_pos ⟨h, ht⟩⟩

/-- Readers that take the text of a time take that of a later one. -/
theorem readsBack_later {R : DateTimeRuntime} {s t : Timestamp} {e e' : EventTime}
    (hs : eventTimeAt s = some e) (ht : eventTimeAt t = some e') (hle : s ≤ t)
    (h : ReadsBack R e) : ReadsBack R e' := by
  obtain ⟨_, _, hzero, hmilliseconds⟩ := eventTimeAt_eq_some hs
  obtain ⟨_, _, _, hmilliseconds'⟩ := eventTimeAt_eq_some ht
  have hlater : e.instant.milliseconds ≤ e'.instant.milliseconds := by
    rw [hmilliseconds, hmilliseconds']
    exact Int.toNat_le_toNat hle
  have hyear : e.instant.year ≤ e'.instant.year :=
    yearOfDay_monotone (Nat.div_le_div_right hlater)
  rcases h with hmicrosecond | hpads | hyears
  · exact absurd hzero hmicrosecond
  · exact .inr (.inl hpads)
  · exact .inr (.inr (hyears.trans hyear))

section Publications

variable {R : DateTimeRuntime} {N : NfcTables} {H : Sha256}

/-- The names that a publication record is digested under. -/
theorem areFieldNames_publicationMembers (header : PublicationHeader) (a b : EventTime) :
    AreFieldNames ((publicationMembers (R := R) (N := N) header a b).map Prod.fst) := by
  have hnames : (publicationMembers (R := R) (N := N) header a b).map Prod.fst =
      ["snapshot_id", "artifact_digest", "semantic_digest", "schema_version",
        "semantic_contract_version", "approval_decision_id", "approved_by", "approved_at",
        "publication_authorized_by", "published_by", "manifest_id", "manifest_version",
        "manifest_digest", "profile_id", "resolved_profile_digest", "endpoint_digest",
        "authorized_scope_digest", "reason", "published_at",
        "publication_authorized_at"].map String.toList := rfl
  rw [hnames]
  decide

theorem accepts_publication {p : AuthorizedSnapshotPublication} :
    (publicationForm (R := R) (N := N) H).accepts p = true ↔
      (headerFields (R := R) (N := N)).accepts p.header = true ∧
        isDigest p.publicationRecordDigest = true ∧ validatePublication R N H p = true := by
  rw [publicationForm, Form.accepts_refine, Fields.accepts_record, publicationFields,
    Fields.accepts_map, Fields.accepts_both, Fields.accepts_both, Fields.accepts_both]
  have htime : ∀ {name : String} {e : EventTime},
      (Fields.field name (eventTime (R := R) (N := N))).accepts e = true := rfl
  have hdigest : ∀ {name : String} {t : Text},
      (Fields.field name (digestField (R := R) (N := N))).accepts t = isDigest t := rfl
  rw [htime, htime, hdigest]
  tauto

theorem after_publication {p q : AuthorizedSnapshotPublication} :
    (publicationForm (R := R) (N := N) H).after p = some q ↔
      (headerFields (R := R) (N := N)).after p.header = some q.header ∧
        (ReadsBack R p.publishedAt ∧ p.publishedAt = q.publishedAt) ∧
        (ReadsBack R p.publicationAuthorizedAt ∧
          p.publicationAuthorizedAt = q.publicationAuthorizedAt) ∧
        p.publicationRecordDigest = q.publicationRecordDigest ∧
        validatePublication R N H q = true := by
  rw [publicationForm, Form.after_refine, Fields.after_record, publicationFields,
    Fields.after_map (fun _ => rfl), Fields.after_both, Fields.after_both, Fields.after_both,
    Fields.after_field, Fields.after_field, Fields.after_field, after_eventTime, after_eventTime,
    digestField, after_pattern]
  tauto

theorem canonicalizes_eventTime (e : EventTime) : (eventTime (R := R) (N := N)).Canonicalizes e := by
  refine ⟨.string (if e.microsecond ≠ 0 then eventText e else datetimeText R e.instant), ?_⟩
  change canonicalValue R N (.string (eventText e)) = _
  rw [canonicalValue_string, canonicalString_eventText, Option.map_some]

theorem canonicalizes_digest {t : Text} (h : isDigest t = true) :
    (digestField (R := R) (N := N)).Canonicalizes t := by
  refine ⟨.string t, ?_⟩
  change canonicalValue R N (.string t) = _
  rw [canonicalValue_string, (isPlainText_of_isDigest t h).canonicalString, Option.map_some]

theorem canonicalizes_publication {p : AuthorizedSnapshotPublication}
    (hdigest : isDigest p.publicationRecordDigest = true) :
    (publicationForm (R := R) (N := N) H).Canonicalizes p ↔
      (headerFields (R := R) (N := N)).Canonicalizes p.header := by
  rw [publicationForm, Form.canonicalizes_refine, Fields.canonicalizes_record, publicationFields,
    Fields.canonicalizes_map, Fields.canonicalizes_both, Fields.canonicalizes_both,
    Fields.canonicalizes_both, Fields.canonicalizes_field, Fields.canonicalizes_field,
    Fields.canonicalizes_field]
  have htimes := canonicalizes_eventTime (R := R) (N := N)
  have hdigests := canonicalizes_digest (R := R) (N := N) hdigest
  exact ⟨fun h => h.1, fun h => ⟨h, htimes _, htimes _, hdigests⟩⟩

/-- The canonical members that a publication record is digested with. -/
theorem canonicalMembers_publication {header : PublicationHeader} {fields : List (Text × Json)}
    (h : CanonicalMembers R N ((headerFields (R := R) (N := N)).write header) fields) (a b : EventTime) :
    ∃ times, CanonicalMembers R N (publicationMembers (R := R) (N := N) header a b)
      (fields ++ times) ∧ ∀ other, CanonicalMembers R N ((headerFields (R := R) (N := N)).write other)
        fields → CanonicalMembers R N (publicationMembers (R := R) (N := N) other a b)
          (fields ++ times) := by
  obtain ⟨first, hfirst⟩ := canonicalizes_eventTime (R := R) (N := N) a
  obtain ⟨second, hsecond⟩ := canonicalizes_eventTime (R := R) (N := N) b
  have htimes : CanonicalMembers R N
      [("published_at".toList, (eventTime (R := R) (N := N)).write a),
        ("publication_authorized_at".toList, (eventTime (R := R) (N := N)).write b)]
      [("published_at".toList, first), ("publication_authorized_at".toList, second)] :=
    .cons ⟨rfl, hfirst⟩ (.cons ⟨rfl, hsecond⟩ .nil)
  exact ⟨_, List.rel_append h htimes, fun other hother => List.rel_append hother htimes⟩

/-- A header that canonicalizes has a digest at every time. -/
theorem exists_publicationDigest {header : PublicationHeader}
    (h : (headerFields (R := R) (N := N)).Canonicalizes header) (a b : EventTime) :
    ∃ digest, publicationDigest R N H header a b = some digest := by
  obtain ⟨fields, hfields⟩ := h
  obtain ⟨times, hmembers, _⟩ := canonicalMembers_publication hfields a b
  have hvalue := (canonicalValue_object (areFieldNames_publicationMembers header a b)).mpr
    ⟨_, rfl, hmembers⟩
  exact ⟨_, artifactDigest_eq_some.mpr ⟨_, hvalue, rfl⟩⟩

/-- What is read back of a header has its digest. -/
theorem publicationDigest_after {header other : PublicationHeader}
    (haccepts : (headerFields (R := R) (N := N)).accepts header = true)
    (hafter : (headerFields (R := R) (N := N)).after header = some other)
    (h : (headerFields (R := R) (N := N)).Canonicalizes header) (a b : EventTime) :
    publicationDigest R N H other a b = publicationDigest R N H header a b := by
  obtain ⟨fields, hfields⟩ := h
  have hothers := headerFields.canonical_after haccepts hafter hfields
  obtain ⟨times, hmembers, hsame⟩ := canonicalMembers_publication hfields a b
  have hvalue := (canonicalValue_object (areFieldNames_publicationMembers header a b)).mpr
    ⟨_, rfl, hmembers⟩
  have hvalue' := (canonicalValue_object (areFieldNames_publicationMembers other a b)).mpr
    ⟨_, rfl, hsame other hothers⟩
  exact (artifactDigest_eq_some.mpr ⟨_, hvalue', rfl⟩).trans
    (artifactDigest_eq_some.mpr ⟨_, hvalue, rfl⟩).symm

theorem isDigest_of_artifactDigest {payload : Json} {digest : Text}
    (h : artifactDigest R N H payload = some digest) : isDigest digest = true := by
  obtain ⟨value, _, rfl⟩ := artifactDigest_eq_some.mp h
  exact isDigest_digest H _

end Publications

section Members

variable {R : DateTimeRuntime} {N : NfcTables}

theorem canonicalMembers_nil {fields : List (Text × Json)} :
    CanonicalMembers R N [] fields ↔ fields = [] :=
  List.forall₂_nil_left_iff

theorem canonicalMembers_cons {name : Text} {item : Json} {rest fields : List (Text × Json)} :
    CanonicalMembers R N ((name, item) :: rest) fields ↔
      ∃ value, canonicalValue R N item = some value ∧
        ∃ others, CanonicalMembers R N rest others ∧ fields = (name, value) :: others := by
  constructor
  · intro h
    obtain ⟨⟨key, value⟩, others, ⟨hkey, hvalue⟩, hothers, rfl⟩ := List.forall₂_cons_left_iff.mp h
    cases hkey
    exact ⟨value, hvalue, others, hothers, rfl⟩
  · rintro ⟨value, hvalue, others, hothers, rfl⟩
    exact .cons ⟨rfl, hvalue⟩ hothers

end Members

namespace Renderer

variable {E : EvidenceTypes} {C : Renderer E} {r r' : DemoEvaluationResult E}

/-- The result that a reader gets from the canonical text of a result. -/
structure ReadsAs (C : Renderer E) (r r' : DemoEvaluationResult E) : Prop where
  canonicalizes : C.publicationForm.Canonicalizes r.publication
  publication : C.publicationForm.after r.publication = some r'.publication
  snapshot : ∃ value, canonicalValue C.runtime C.tables (C.contracts.dumpSnapshot r.snapshot) =
    some value ∧ C.contracts.readSnapshot (inOrder value) = some r'.snapshot
  findings : ∃ values, CanonicalItems C.runtime C.tables
    (r.findings.map C.contracts.dumpFinding) values ∧
      (itemsInOrder values).mapM C.contracts.readFinding = some r'.findings
  evaluatedAt : ReadsBack C.runtime r.evaluatedAt ∧ r'.evaluatedAt = r.evaluatedAt
  citationCount : r.citationCount ≤ maxSafeInteger ∧ r'.citationCount = r.citationCount
  resultDigest : r'.resultDigest = r.resultDigest
  valid : C.validateResult r' = true

theorem areFieldNames_resultNames : AreFieldNames resultNames := by decide

theorem names_dumpResult (r : DemoEvaluationResult E) :
    (C.resultMembers r.publication r.snapshot r.findings r.evaluatedAt r.citationCount ++
      [("result_digest".toList, Json.string r.resultDigest)]).map Prod.fst = resultNames := rfl

/-- A result is written with the canonical values of its parts. -/
theorem canonicalValue_dumpResult {value : Json} :
    canonicalValue C.runtime C.tables (C.dumpResult r) = some value ↔
      ∃ publication snapshot findings evaluatedAt citationCount resultDigest,
        value = .object [("publication".toList, publication), ("snapshot".toList, snapshot),
          ("findings".toList, findings), ("evaluated_at".toList, evaluatedAt),
          ("citation_count".toList, citationCount), ("result_digest".toList, resultDigest)] ∧
        canonicalValue C.runtime C.tables (C.publicationForm.write r.publication) = some publication ∧
        canonicalValue C.runtime C.tables (C.contracts.dumpSnapshot r.snapshot) = some snapshot ∧
        canonicalValue C.runtime C.tables (.array (r.findings.map C.contracts.dumpFinding)) =
          some findings ∧
        canonicalValue C.runtime C.tables
          ((eventTime (R := C.runtime) (N := C.tables)).write r.evaluatedAt) = some evaluatedAt ∧
        canonicalValue C.runtime C.tables (.number r.citationCount) = some citationCount ∧
        canonicalValue C.runtime C.tables (.string r.resultDigest) = some resultDigest := by
  rw [dumpResult, canonicalValue_object (by rw [names_dumpResult]; exact areFieldNames_resultNames)]
  simp only [resultMembers, List.cons_append, List.nil_append, canonicalMembers_cons,
    canonicalMembers_nil]
  constructor
  · rintro ⟨_, rfl, publication, hpublication, _, ⟨snapshot, hsnapshot, _, ⟨findings, hfindings, _,
      ⟨evaluatedAt, hevaluated, _, ⟨count, hcount, _, ⟨digest, hdigest, _, rfl, rfl⟩, rfl⟩, rfl⟩,
      rfl⟩, rfl⟩, rfl⟩
    exact ⟨_, _, _, _, _, _, rfl, hpublication, hsnapshot, hfindings, hevaluated, hcount, hdigest⟩
  · rintro ⟨publication, snapshot, findings, evaluatedAt, count, digest, rfl, hpublication,
      hsnapshot, hfindings, hevaluated, hcount, hdigest⟩
    exact ⟨_, rfl, _, hpublication, _, ⟨_, hsnapshot, _, ⟨_, hfindings, _, ⟨_, hevaluated, _,
      ⟨_, hcount, _, ⟨_, hdigest, _, rfl, rfl⟩, rfl⟩, rfl⟩, rfl⟩, rfl⟩, rfl⟩

/-- What is read from the canonical value of a result. -/
theorem readResult_canonical {publication snapshot findings evaluatedAt count digest : Json} :
    C.readResult (inOrder (.object [("publication".toList, publication),
        ("snapshot".toList, snapshot), ("findings".toList, findings),
        ("evaluated_at".toList, evaluatedAt), ("citation_count".toList, count),
        ("result_digest".toList, digest)])) = some r' ↔
      C.publicationForm.read (inOrder publication) = some r'.publication ∧
      C.contracts.readSnapshot (inOrder snapshot) = some r'.snapshot ∧
      C.readFindings (inOrder findings) = some r'.findings ∧
      (eventTime (R := C.runtime) (N := C.tables)).read (inOrder evaluatedAt) = some r'.evaluatedAt ∧
      (Form.natural (R := C.runtime) (N := C.tables) (1 ≤ ·)).read (inOrder count) =
        some r'.citationCount ∧
      (digestField (R := C.runtime) (N := C.tables)).read (inOrder digest) = some r'.resultDigest ∧
      C.validateResult r' = true := by
  let fields : List (Text × Json) := [("publication".toList, publication),
    ("snapshot".toList, snapshot), ("findings".toList, findings), ("evaluated_at".toList, evaluatedAt),
    ("citation_count".toList, count), ("result_digest".toList, digest)]
  have hrecord : readRecord resultNames [] (inOrder (.object fields)) = _ := readRecord_inOrder
    areFieldNames_resultNames.1 (fun name hname => hname) (fun name hname => .inl hname)
  simp only [fields, List.lookup_cons] at hrecord
  have hlookup : ∀ name other : String, name ≠ other → (name.toList == other.toList) = false := by
    intro name other hne
    rw [beq_eq_false_iff_ne]
    exact fun h => hne (String.toList_inj.mp h)
  simp only [readResult, hrecord, Option.bind_eq_bind, Option.bind_some, beq_self_eq_true, hlookup,
    ne_eq, String.reduceEq, not_false_eq_true, Option.map_some, Option.bind_eq_some_iff,
    Option.filter_eq_some_iff, Option.some.injEq]
  constructor
  · rintro ⟨_, hpublication, _, hsnapshot, _, hfindings, _, hevaluated, _, hcount, _, hdigest, rfl,
      hvalid⟩
    exact ⟨hpublication, hsnapshot, hfindings, hevaluated, hcount, hdigest, hvalid⟩
  · rintro ⟨hpublication, hsnapshot, hfindings, hevaluated, hcount, hdigest, hvalid⟩
    exact ⟨_, hpublication, _, hsnapshot, _, hfindings, _, hevaluated, _, hcount, _, hdigest, rfl,
      hvalid⟩

theorem isDigest_of_validateResult (h : C.validateResult r = true) :
    isDigest r.resultDigest = true ∧ 1 ≤ r.citationCount := by
  simp only [validateResult, Bool.and_eq_true, decide_eq_true_eq] at h
  exact ⟨isDigest_of_artifactDigest h.2.symm, h.1.1.2⟩

/-- What the canonical text of a valid result is read as. -/
theorem reparse_eq_some (haccepts : C.publicationForm.accepts r.publication = true)
    (hvalid : C.validateResult r = true) : C.reparse r = some r' ↔ C.ReadsAs r r' := by
  obtain ⟨hdigest, hcount⟩ := isDigest_of_validateResult hvalid
  have htime : (eventTime (R := C.runtime) (N := C.tables)).accepts r.evaluatedAt = true := rfl
  have hnatural : (Form.natural (R := C.runtime) (N := C.tables) (1 ≤ ·)).accepts r.citationCount = true :=
    decide_eq_true hcount
  rw [reparse, Option.bind_eq_some_iff]
  simp only [canonicalValue_dumpResult]
  constructor
  · rintro ⟨_, ⟨publication, snapshot, findings, evaluatedAt, count, digest, rfl, hpublication,
      hsnapshot, hfindings, hevaluated, hnumber, htext⟩, hread⟩
    obtain ⟨hpublication', hsnapshot', hfindings', hevaluated', hcount', hdigest', hvalid'⟩ :=
      readResult_canonical.mp hread
    have hsmall : r.citationCount ≤ maxSafeInteger := by
      have hnumber' := (Option.ite_none_left_eq_some.mp hnumber).1
      rwa [not_lt, Int.natAbs_natCast] at hnumber'
    rw [C.publicationForm.read_canonical haccepts hpublication] at hpublication'
    rw [eventTime.read_canonical htime hevaluated, after_eventTime] at hevaluated'
    rw [(Form.natural _).read_canonical hnatural hnumber, Form.after_natural] at hcount'
    rw [digestField.read_canonical hdigest htext, digestField, after_pattern] at hdigest'
    obtain ⟨values, rfl, hitems⟩ := canonicalValue_array.mp hfindings
    exact
      { canonicalizes := ⟨publication, hpublication⟩
        publication := hpublication'
        snapshot := ⟨snapshot, hsnapshot, hsnapshot'⟩
        findings := ⟨values, hitems, hfindings'⟩
        evaluatedAt := ⟨hevaluated'.1, hevaluated'.2.symm⟩
        citationCount := ⟨hsmall, hcount'.symm⟩
        resultDigest := hdigest'.symm
        valid := hvalid' }
  · intro h
    obtain ⟨publication, hpublication⟩ := h.canonicalizes
    obtain ⟨snapshot, hsnapshot, hsnapshot'⟩ := h.snapshot
    obtain ⟨values, hitems, hfindings'⟩ := h.findings
    obtain ⟨evaluatedAt, hevaluated⟩ :=
      canonicalizes_eventTime (R := C.runtime) (N := C.tables) r.evaluatedAt
    have hnumber : canonicalValue C.runtime C.tables (.number r.citationCount) =
        some (.number r.citationCount) := canonicalValue_number h.citationCount.1
    obtain ⟨digest, htext⟩ := canonicalizes_digest (R := C.runtime) (N := C.tables) hdigest
    have hfindings := canonicalValue_array.mpr ⟨values, rfl, hitems⟩
    refine ⟨_, ⟨publication, snapshot, .array values, evaluatedAt, _, digest, rfl, hpublication,
      hsnapshot, hfindings, hevaluated, hnumber, htext⟩, readResult_canonical.mpr ?_⟩
    refine ⟨?_, hsnapshot', hfindings', ?_, ?_, ?_, h.valid⟩
    · rw [C.publicationForm.read_canonical haccepts hpublication, h.publication]
    · rw [eventTime.read_canonical htime hevaluated, after_eventTime]
      exact ⟨h.evaluatedAt.1, h.evaluatedAt.2.symm⟩
    · rw [(Form.natural _).read_canonical hnatural hnumber, Form.after_natural]
      exact h.citationCount.2.symm
    · rw [digestField.read_canonical hdigest htext, digestField, after_pattern]
      exact h.resultDigest.symm

section Later

variable {m : StoredEvaluationMaterial E} {s t : Timestamp} {p q : AuthorizedSnapshotPublication}

theorem buildAuthorizedPublication_eq_some :
    C.buildAuthorizedPublication m t = some p ↔
      C.headerOf m = some p.header ∧ eventTimeAt t = some p.publishedAt ∧
        p.publicationAuthorizedAt = p.publishedAt ∧ C.publicationForm.accepts p = true := by
  simp only [buildAuthorizedPublication, Option.bind_eq_bind, Option.bind_eq_some_iff,
    Option.filter_eq_some_iff, Option.some.injEq]
  constructor
  · rintro ⟨header, hheader, time, htime, digest, -, rfl, haccepts⟩
    exact ⟨hheader, htime, rfl, haccepts⟩
  · rintro ⟨hheader, htime, hsame, haccepts⟩
    have hvalid := validatePublication_iff.mp (accepts_publication.mp haccepts).2.2
    obtain ⟨header, publishedAt, authorizedAt, digest⟩ := p
    replace hsame : authorizedAt = publishedAt := hsame
    subst hsame
    exact ⟨header, hheader, _, htime, digest, hvalid.2.2, rfl, haccepts⟩

theorem buildResult_eq_some :
    C.buildResult m t = some r ↔
      C.buildAuthorizedPublication m t = some r.publication ∧ eventTimeAt t = some r.evaluatedAt ∧
        r.snapshot = m.snapshot ∧ r.findings = m.findings ∧ C.validateResult r = true := by
  simp only [buildResult, Option.bind_eq_bind, Option.bind_eq_some_iff, Option.filter_eq_some_iff,
    Option.some.injEq]
  constructor
  · rintro ⟨publication, hpublication, time, htime, digest, -, rfl, hvalid⟩
    exact ⟨hpublication, htime, rfl, rfl, hvalid⟩
  · rintro ⟨hpublication, htime, hsnapshot, hfindings, hvalid⟩
    obtain ⟨publication, snapshot, findings, evaluatedAt, count, digest⟩ := r
    subst hsnapshot hfindings
    have hparts := hvalid
    simp only [validateResult, Bool.and_eq_true, decide_eq_true_eq] at hparts
    have hcount : count = citations m.findings := hparts.1.2
    subst hcount
    exact ⟨publication, hpublication, evaluatedAt, htime, digest, hparts.2.symm, rfl, hvalid⟩

/-- A publication record that can be built and read at one instant can be at a later one,
with the same header. -/
theorem publication_later (h : C.buildAuthorizedPublication m s = some p)
    (hcanonical : C.publicationForm.Canonicalizes p) (hafter : C.publicationForm.after p = some q)
    (hle : s ≤ t) (ht : t < endOfTime) :
    ∃ p' q', C.buildAuthorizedPublication m t = some p' ∧ C.publicationForm.Canonicalizes p' ∧
      C.publicationForm.after p' = some q' ∧ p'.header = p.header ∧ q'.header = q.header := by
  obtain ⟨hheader, htime, hauthorized, haccepts⟩ := buildAuthorizedPublication_eq_some.mp h
  obtain ⟨hfields, hdigest, hvalid⟩ := accepts_publication.mp haccepts
  obtain ⟨hheader', ⟨hback, hpublished⟩, -, -, hvalid'⟩ := after_publication.mp hafter
  obtain ⟨hkinds, -, -⟩ := validatePublication_iff.mp hvalid
  obtain ⟨hkinds', -, -⟩ := validatePublication_iff.mp hvalid'
  have hnonneg := (eventTimeAt_eq_some htime).1
  obtain ⟨e, he⟩ := exists_eventTimeAt (hnonneg.trans hle) ht
  have hback' : ReadsBack C.runtime e := readsBack_later htime he hle hback
  have hfieldsCanonical := (canonicalizes_publication hdigest).mp hcanonical
  obtain ⟨digest, hdigest'⟩ := exists_publicationDigest (H := C.sha256) hfieldsCanonical e e
  have hisDigest := isDigest_of_artifactDigest hdigest'
  have hsame := publicationDigest_after (H := C.sha256) hfields hheader' hfieldsCanonical e e
  refine ⟨⟨p.header, e, e, digest⟩, ⟨q.header, e, e, digest⟩, ?_, ?_, ?_, rfl, rfl⟩
  · exact buildAuthorizedPublication_eq_some.mpr ⟨hheader, he, rfl, accepts_publication.mpr
      ⟨hfields, hisDigest, validatePublication_iff.mpr ⟨hkinds, rfl, hdigest'⟩⟩⟩
  · exact (canonicalizes_publication hisDigest).mpr hfieldsCanonical
  · exact after_publication.mpr ⟨hheader', ⟨hback', rfl⟩, ⟨hback', rfl⟩, rfl,
      validatePublication_iff.mpr ⟨hkinds', rfl, hsame.trans hdigest'⟩⟩

/-- The checks of a result that its digest does not depend on. -/
theorem validateResult_iff :
    C.validateResult r = true ↔
      (r.snapshot.snapshotId.toList = r.publication.header.snapshotId ∧
        r.snapshot.artifactDigest.toList = r.publication.header.artifactDigest ∧
        r.snapshot.semanticDigest.toList = r.publication.header.semanticDigest) ∧
      (1 ≤ r.citationCount ∧ r.citationCount = citations r.findings) ∧
      C.artifactDigest (.object (C.resultMembers r.publication r.snapshot r.findings r.evaluatedAt
        r.citationCount)) = some r.resultDigest := by
  simp only [validateResult, Bool.and_eq_true, decide_eq_true_eq]
  constructor
  · rintro ⟨⟨⟨⟨⟨hid, hartifact⟩, hsemantic⟩, hcount⟩, hcitations⟩, hdigest⟩
    exact ⟨⟨hid, hartifact, hsemantic⟩, ⟨hcount, hcitations⟩, hdigest.symm⟩
  · rintro ⟨⟨hid, hartifact, hsemantic⟩, ⟨hcount, hcitations⟩, hdigest⟩
    exact ⟨⟨⟨⟨⟨hid, hartifact⟩, hsemantic⟩, hcount⟩, hcitations⟩, hdigest.symm⟩

/-- The names that a result is digested under. -/
theorem keys_resultMembers (publication : AuthorizedSnapshotPublication)
    (snapshot : EvidenceSnapshot E) (findings : List (ManifestFinding E)) (evaluatedAt : EventTime)
    (count : ℕ) : (C.resultMembers publication snapshot findings evaluatedAt count).map Prod.fst =
      ["publication", "snapshot", "findings", "evaluated_at", "citation_count"].map String.toList :=
  rfl

theorem areFieldNames_resultMembers (publication : AuthorizedSnapshotPublication)
    (snapshot : EvidenceSnapshot E) (findings : List (ManifestFinding E)) (evaluatedAt : EventTime)
    (count : ℕ) : AreFieldNames
      ((C.resultMembers publication snapshot findings evaluatedAt count).map Prod.fst) := by
  rw [keys_resultMembers]
  decide

/-- Results whose digests are equal have parts of one canonical text. -/
theorem sameMembers_of_digests
    (hdigest : Distinguishes C.runtime C.tables C.sha256 (C.digestPayload r) (C.digestPayload r'))
    {digest : Text} (h : C.artifactDigest (C.digestPayload r) = some digest)
    (h' : C.artifactDigest (C.digestPayload r') = some digest) :
    SameDump C.runtime C.tables (C.contracts.dumpSnapshot r.snapshot)
        (C.contracts.dumpSnapshot r'.snapshot) ∧
      SameDump C.runtime C.tables (.array (r.findings.map C.contracts.dumpFinding))
        (.array (r'.findings.map C.contracts.dumpFinding)) := by
  have hkeys : (C.resultMembers r.publication r.snapshot r.findings r.evaluatedAt
      r.citationCount).map Prod.fst = (C.resultMembers r'.publication r'.snapshot r'.findings
        r'.evaluatedAt r'.citationCount).map Prod.fst := by
    rw [keys_resultMembers, keys_resultMembers]
  have hdump := hdigest digest h h'
  have hmembers := (sameDump_object (areFieldNames_resultMembers _ _ _ _ _) hkeys).mp hdump
  cases hmembers with
  | cons _ hmembers =>
    cases hmembers with
    | cons hsnapshot hmembers =>
      cases hmembers with
      | cons hfindings _ => exact ⟨hsnapshot.2, hfindings.2⟩

/-- Results whose parts have one canonical text each have one digest, at any time. -/
theorem exists_sameDigest {p q : AuthorizedSnapshotPublication} {snapshot snapshot' : EvidenceSnapshot E}
    {findings findings' : List (ManifestFinding E)} {count : ℕ}
    (haccepts : C.publicationForm.accepts p = true) (hcanonical : C.publicationForm.Canonicalizes p)
    (hafter : C.publicationForm.after p = some q)
    (hsnapshot : SameDump C.runtime C.tables (C.contracts.dumpSnapshot snapshot)
      (C.contracts.dumpSnapshot snapshot'))
    (hfindings : SameDump C.runtime C.tables (.array (findings.map C.contracts.dumpFinding))
      (.array (findings'.map C.contracts.dumpFinding)))
    (hcount : count ≤ maxSafeInteger) (time : EventTime) :
    ∃ digest, C.artifactDigest (.object (C.resultMembers p snapshot findings time count)) =
        some digest ∧
      C.artifactDigest (.object (C.resultMembers q snapshot' findings' time count)) = some digest := by
  obtain ⟨publication, hpublication⟩ := hcanonical
  have hpublication' := C.publicationForm.canonical_after haccepts hafter hpublication
  obtain ⟨evaluatedAt, htime⟩ := canonicalizes_eventTime (R := C.runtime) (N := C.tables) time
  have hnumber : canonicalValue C.runtime C.tables (.number count) = some (.number count) :=
    canonicalValue_number hcount
  have hkeys : (C.resultMembers p snapshot findings time count).map Prod.fst =
      (C.resultMembers q snapshot' findings' time count).map Prod.fst := by
    rw [keys_resultMembers, keys_resultMembers]
  have hmembers : SameMembers C.runtime C.tables (C.resultMembers p snapshot findings time count)
      (C.resultMembers q snapshot' findings' time count) :=
    .cons ⟨rfl, sameDump_of_canonical hpublication hpublication'⟩ (.cons ⟨rfl, hsnapshot⟩
      (.cons ⟨rfl, hfindings⟩ (.cons ⟨rfl, sameDump_of_canonical htime htime⟩
        (.cons ⟨rfl, sameDump_of_canonical hnumber hnumber⟩ .nil))))
  exact ((sameDump_object (areFieldNames_resultMembers _ _ _ _ _) hkeys).mpr hmembers).exists_digest

/-- A result that can be built and read at one instant can be at a later one. -/
theorem renderedResult_later
    (hdigests : ∀ r r', C.buildResult m s = some r → C.reparse r = some r' →
      Distinguishes C.runtime C.tables C.sha256 (C.digestPayload r) (C.digestPayload r'))
    (h : C.renderedResult m s = some r') (hle : s ≤ t) (ht : t < endOfTime) :
    ∃ r, C.renderedResult m t = some r := by
  obtain ⟨r, hbuild, hread⟩ := Option.bind_eq_some_iff.mp h
  obtain ⟨hpublication, htime, hsnapshot, hfindings, hvalid⟩ := buildResult_eq_some.mp hbuild
  have haccepts := (buildAuthorizedPublication_eq_some.mp hpublication).2.2.2
  have hreads := (reparse_eq_some haccepts hvalid).mp hread
  obtain ⟨hids, hcounts, hdigest⟩ := validateResult_iff.mp hvalid
  obtain ⟨hids', hcounts', hdigest'⟩ := validateResult_iff.mp hreads.valid
  rw [hreads.resultDigest] at hdigest'
  obtain ⟨hsameSnapshot, hsameFindings⟩ := sameMembers_of_digests (hdigests r r' hbuild hread) hdigest hdigest'
  obtain ⟨p, q, hbuildLater, hcanonical, hafter, hheader, hheader'⟩ :=
    publication_later hpublication hreads.canonicalizes hreads.publication hle ht
  obtain ⟨-, hlater, -, hacceptsLater⟩ := buildAuthorizedPublication_eq_some.mp hbuildLater
  have hbackLater : ReadsBack C.runtime p.publishedAt := (after_publication.mp hafter).2.1.1
  obtain ⟨digest, hdigestLater, hdigestLater'⟩ := exists_sameDigest hacceptsLater hcanonical hafter
    hsameSnapshot hsameFindings hreads.citationCount.1 p.publishedAt
  rw [hreads.citationCount.2] at hcounts'
  let result : DemoEvaluationResult E :=
    ⟨p, r.snapshot, r.findings, p.publishedAt, r.citationCount, digest⟩
  let readBack : DemoEvaluationResult E :=
    ⟨q, r'.snapshot, r'.findings, p.publishedAt, r.citationCount, digest⟩
  have hresult : C.validateResult result = true := by
    rw [← hheader] at hids
    exact validateResult_iff.mpr ⟨hids, hcounts, hdigestLater⟩
  have hreadBack : C.validateResult readBack = true := by
    rw [← hheader'] at hids'
    exact validateResult_iff.mpr ⟨hids', hcounts', hdigestLater'⟩
  have hreadsLater : C.ReadsAs result readBack :=
    { canonicalizes := hcanonical
      publication := hafter
      snapshot := hreads.snapshot
      findings := hreads.findings
      evaluatedAt := ⟨hbackLater, rfl⟩
      citationCount := ⟨hreads.citationCount.1, rfl⟩
      resultDigest := rfl
      valid := hreadBack }
  have hbuilt : C.buildResult m t = some result :=
    buildResult_eq_some.mpr ⟨hbuildLater, hlater, hsnapshot, hfindings, hresult⟩
  exact ⟨readBack, Option.bind_eq_some_iff.mpr
    ⟨result, hbuilt, (reparse_eq_some hacceptsLater hresult).mpr hreadsLater⟩⟩

end Later

end Renderer

end AthenaContext.EvaluationResults
