import AthenaContext.SignedArtifacts

/-!
# Digests of documents

The digest of a dumped value is that of its canonical text: normalizing a second time changes
nothing. Records of the same names with one digest have members of one canonical text each.
-/

namespace AthenaContext.DocumentDigests

open JsonText CanonicalJson TextNormalization TimestampText
open ContractDocuments SignedArtifacts

variable {R : DateTimeRuntime} {N : NfcTables} {H : Sha256}

/-! ## Normalizing twice -/

/-- Members whose names and values are normalized. -/
def NormalizedMembers (R : DateTimeRuntime) (N : NfcTables) (fields : List (Text × Json)) : Prop :=
  ∀ field ∈ fields, normalizeNfcText N.nfc (unitsOf field.1) = some field.1 ∧
    canonicalValue R N field.2 = some field.2

/-- Normalized members are read as they are. -/
theorem readMembers_normalized {fields : List (Text × Json)} (h : NormalizedMembers R N fields) :
    readMembers (Python.canonicalizer R N.nfc enoughStack) 1 (memberDocuments fields) =
      some fields := by
  induction fields with
  | nil => rfl
  | cons field rest ih =>
    obtain ⟨name, value⟩ := field
    obtain ⟨hfield, hrest⟩ := List.forall_mem_cons.mp h
    have hname : (Python.canonicalizer R N.nfc enoughStack).text (unitsOf name) = some name :=
      hfield.1
    have hvalue : normalize (Python.canonicalizer R N.nfc enoughStack) 1 (documentOf value) =
        some value := (normalize_depth 1 _).trans hfield.2
    rw [memberDocuments, readMembers, hname, hvalue, ih hrest]
    rfl

/-- Every assignment of the Python canonicalizer makes a member. -/
theorem ownEntries_python (fields : List (Text × Json)) :
    ownEntries (Python.canonicalizer R N.nfc enoughStack) fields = fields :=
  List.filter_eq_self.mpr fun _ _ => rfl

/-- The members of an object: read, with distinct names. -/
theorem canonicalValue_members {members : List (Text × Json)} {value : Json} :
    canonicalValue R N (.object members) = some value ↔
      ∃ fields,
        readMembers (Python.canonicalizer R N.nfc enoughStack) 1 (memberDocuments members) =
          some fields ∧ (fields.map Prod.fst).Nodup ∧ value = .object fields := by
  rw [canonicalValue_eq_members, Option.bind_eq_some_iff]
  simp only [ownEntries_python, Option.ite_none_right_eq_some, Option.some.injEq]
  exact exists_congr fun fields => and_congr_right fun _ => and_congr_right fun _ => eq_comm

mutual

/-- A canonical value is its own canonical value. -/
theorem canonicalValue_idempotent (value : Json) {canonical : Json}
    (h : canonicalValue R N value = some canonical) : canonicalValue R N canonical = some canonical := by
  match value with
  | .null =>
    cases h
    rfl
  | .boolean flag =>
    cases h
    rfl
  | .number n =>
    obtain ⟨_, ⟨⟩⟩ := Option.ite_none_left_eq_some.mp h
    exact h
  | .string t =>
    rw [canonicalValue_string, Option.map_eq_some_iff] at h
    obtain ⟨written, hwritten, rfl⟩ := h
    rw [canonicalValue_string, canonicalString_idempotent hwritten, Option.map_some]
  | .array items =>
    obtain ⟨values, rfl, hvalues⟩ := canonicalValue_array.mp h
    exact canonicalValue_array.mpr ⟨values, rfl, canonicalItems_idempotent items hvalues⟩
  | .object members =>
    obtain ⟨fields, hfields, hnames, rfl⟩ := canonicalValue_members.mp h
    have hnormal := normalizedMembers_of_read members hfields
    exact canonicalValue_members.mpr ⟨fields, readMembers_normalized hnormal, hnames, rfl⟩

theorem canonicalItems_idempotent (items : List Json) {values : List Json}
    (h : CanonicalItems R N items values) : CanonicalItems R N values values := by
  match items, h with
  | [], .nil => exact .nil
  | item :: rest, .cons hitem hrest =>
    exact .cons (canonicalValue_idempotent item hitem) (canonicalItems_idempotent rest hrest)

theorem normalizedMembers_of_read (members : List (Text × Json)) {fields : List (Text × Json)}
    (h : readMembers (Python.canonicalizer R N.nfc enoughStack) 1 (memberDocuments members) =
      some fields) :
    NormalizedMembers R N fields := by
  match members with
  | [] =>
    cases h
    exact nofun
  | (name, item) :: rest =>
    simp only [memberDocuments, readMembers, Option.bind_eq_bind, Option.bind_eq_some_iff,
      Option.pure_def, Option.some.injEq] at h
    obtain ⟨key, hkey, value, hvalue, others, hothers, rfl⟩ := h
    rw [normalize_depth 1] at hvalue
    have hitem := canonicalValue_idempotent item hvalue
    exact List.forall_mem_cons.mpr
      ⟨⟨normalizeNfcText_idempotent hkey, hitem⟩, normalizedMembers_of_read rest hothers⟩

end

/-! ## Digests -/

/-- `compute_artifact_digest` is the digest of the canonical text. -/
theorem artifactDigest_eq (payload : Json) :
    artifactDigest R N H payload = (canonicalDump R N payload).map H.digest := by
  rw [artifactDigest, canonicalDump, Option.map_map]
  cases hvalue : canonicalValue R N payload with
  | none => rfl
  | some value =>
    rw [Option.bind_some, canonicalValue_idempotent payload hvalue]
    rfl

theorem artifactDigest_eq_some {payload : Json} {digest : Text} :
    artifactDigest R N H payload = some digest ↔
      ∃ value, canonicalValue R N payload = some value ∧ H.digest (canonicalText value) = digest := by
  rw [artifactDigest_eq, canonicalDump, Option.map_map, Option.map_eq_some_iff]
  rfl

/-! ## Records of one digest -/

/-- Values of one canonical text. -/
def SameDump (R : DateTimeRuntime) (N : NfcTables) (a b : Json) : Prop :=
  ∃ text, canonicalDump R N a = some text ∧ canonicalDump R N b = some text

/-- Members of one name, and of one canonical text. -/
def SameMembers (R : DateTimeRuntime) (N : NfcTables) (a b : List (Text × Json)) : Prop :=
  List.Forall₂ (fun member other => member.1 = other.1 ∧ SameDump R N member.2 other.2) a b

theorem canonicalDump_eq_some {value : Json} {text : Text} :
    canonicalDump R N value = some text ↔
      ∃ canonical, canonicalValue R N value = some canonical ∧ canonicalText canonical = text :=
  Option.map_eq_some_iff

theorem sameDump_iff {a b : Json} :
    SameDump R N a b ↔ ∃ v w, canonicalValue R N a = some v ∧ canonicalValue R N b = some w ∧
      inOrder v = inOrder w := by
  constructor
  · rintro ⟨text, ha, hb⟩
    obtain ⟨v, hv, rfl⟩ := canonicalDump_eq_some.mp ha
    obtain ⟨w, hw, hsame⟩ := canonicalDump_eq_some.mp hb
    exact ⟨v, w, hv, hw, (canonicalText_eq_iff.mp hsame).symm⟩
  · rintro ⟨v, w, hv, hw, hsame⟩
    exact ⟨canonicalText v, canonicalDump_eq_some.mpr ⟨v, hv, rfl⟩,
      canonicalDump_eq_some.mpr ⟨w, hw, (canonicalText_eq_iff.mpr hsame).symm⟩⟩

/-- Members of one canonical text each, and their canonical values in order. -/
theorem sameMembers_iff {a b : List (Text × Json)} (hkeys : a.map Prod.fst = b.map Prod.fst) :
    SameMembers R N a b ↔ ∃ fields others, CanonicalMembers R N a fields ∧
      CanonicalMembers R N b others ∧ membersInOrder fields = membersInOrder others := by
  constructor
  · intro h
    induction h with
    | nil => exact ⟨[], [], .nil, .nil, rfl⟩
    | @cons member other rest more hmember _ ih =>
      obtain ⟨hname, hdump⟩ := hmember
      obtain ⟨v, w, hv, hw, hsame⟩ := sameDump_iff.mp hdump
      obtain ⟨fields, others, hfields, hothers, hrest⟩ := ih (List.tail_eq_of_cons_eq hkeys)
      refine ⟨(member.1, v) :: fields, (other.1, w) :: others, .cons ⟨rfl, hv⟩ hfields,
        .cons ⟨rfl, hw⟩ hothers, ?_⟩
      rw [membersInOrder, membersInOrder, hname, hsame, hrest]
  · rintro ⟨fields, others, hfields, hothers, hsame⟩
    induction hfields generalizing b others with
    | nil =>
      cases b with
      | nil => exact .nil
      | cons member rest => cases hkeys
    | @cons member field rest fields hmember hrest ih =>
      cases hothers with
      | nil => cases hkeys
      | @cons other entry more entries hother hmore =>
        obtain ⟨hname, htail⟩ := List.cons_eq_cons.mp hkeys
        rw [membersInOrder, membersInOrder] at hsame
        obtain ⟨hhead, hothers⟩ := List.cons_eq_cons.mp hsame
        have hvalue := (Prod.mk.inj hhead).2
        exact .cons ⟨hname, sameDump_iff.mpr ⟨_, _, hmember.2, hother.2, hvalue⟩⟩
          (ih htail entries hmore hothers)

/-- Records of the same names have one canonical text when their members do. -/
theorem sameDump_object {a b : List (Text × Json)} (hnames : AreFieldNames (a.map Prod.fst))
    (hkeys : a.map Prod.fst = b.map Prod.fst) :
    SameDump R N (.object a) (.object b) ↔ SameMembers R N a b := by
  have hnames' : AreFieldNames (b.map Prod.fst) := hkeys ▸ hnames
  rw [sameDump_iff, sameMembers_iff hkeys]
  simp only [canonicalValue_object hnames, canonicalValue_object hnames']
  constructor
  · rintro ⟨_, _, ⟨fields, rfl, hfields⟩, ⟨others, rfl, hothers⟩, hsame⟩
    have hsame' : (membersInOrder fields).map Prod.fst = (membersInOrder others).map Prod.fst := by
      rw [keys_membersInOrder, keys_membersInOrder, hfields.keys, hothers.keys, hkeys]
    have hdistinct : ((membersInOrder fields).map Prod.fst).Nodup := by
      rw [keys_membersInOrder, hfields.keys]
      exact hnames.1
    rw [inOrder, inOrder, Json.object.injEq, sortOn_members_eq_iff hsame' hdistinct] at hsame
    exact ⟨fields, others, hfields, hothers, hsame⟩
  · rintro ⟨fields, others, hfields, hothers, hsame⟩
    exact ⟨_, _, ⟨fields, rfl, hfields⟩, ⟨others, rfl, hothers⟩, by rw [inOrder, inOrder, hsame]⟩

theorem sameDump_string {t u : Text} :
    SameDump R N (.string t) (.string u) ↔
      ∃ written, canonicalString R N t = some written ∧ canonicalString R N u = some written := by
  rw [sameDump_iff, canonicalValue_string, canonicalValue_string]
  constructor
  · rintro ⟨v, w, hv, hw, hsame⟩
    obtain ⟨written, hwritten, rfl⟩ := Option.map_eq_some_iff.mp hv
    obtain ⟨other, hother, rfl⟩ := Option.map_eq_some_iff.mp hw
    have htext : written = other := Json.string.inj hsame
    exact ⟨written, hwritten, htext ▸ hother⟩
  · rintro ⟨written, ht, hu⟩
    exact ⟨.string written, .string written, Option.map_eq_some_iff.mpr ⟨written, ht, rfl⟩,
      Option.map_eq_some_iff.mpr ⟨written, hu, rfl⟩, rfl⟩

/-- Plain texts of one canonical text are the same. -/
theorem SameDump.plain_eq {t u : Text} (h : SameDump R N (.string t) (.string u))
    (ht : IsPlainText t) (hu : IsPlainText u) : t = u := by
  obtain ⟨written, hwritten, hother⟩ := sameDump_string.mp h
  rw [ht.canonicalString] at hwritten
  rw [hu.canonicalString] at hother
  exact Option.some.inj (hwritten.trans hother.symm)

/-- Arrays of one canonical text have items of one canonical text each. -/
theorem SameDump.items {items others : List Json} (h : SameDump R N (.array items) (.array others)) :
    List.Forall₂ (SameDump R N) items others := by
  obtain ⟨_, _, hv, hw, hsame⟩ := sameDump_iff.mp h
  obtain ⟨values, rfl, hvalues⟩ := canonicalValue_array.mp hv
  obtain ⟨more, rfl, hmore⟩ := canonicalValue_array.mp hw
  have horder : itemsInOrder values = itemsInOrder more := Json.array.inj hsame
  clear h hv hw hsame
  induction hvalues generalizing others more with
  | nil =>
    cases hmore with
    | nil => exact .nil
    | cons => cases horder
  | cons hitem hrest ih =>
    cases hmore with
    | nil => cases horder
    | cons hother hothers =>
      rw [itemsInOrder, itemsInOrder] at horder
      obtain ⟨hhead, htail⟩ := List.cons_eq_cons.mp horder
      exact .cons (sameDump_iff.mpr ⟨_, _, hitem, hother, hhead⟩) (ih _ hothers htail)

/-- A digest tells two payloads apart, unless they have one canonical text. -/
def Distinguishes (R : DateTimeRuntime) (N : NfcTables) (H : Sha256) (a b : Json) : Prop :=
  ∀ digest, artifactDigest R N H a = some digest → artifactDigest R N H b = some digest →
    SameDump R N a b

theorem Distinguishes.refl (a : Json) : Distinguishes R N H a a := by
  intro digest hdigest _
  rw [artifactDigest_eq, Option.map_eq_some_iff] at hdigest
  obtain ⟨text, htext, -⟩ := hdigest
  exact ⟨text, htext, htext⟩

theorem sameDump_of_canonical {a b canonical : Json} (ha : canonicalValue R N a = some canonical)
    (hb : canonicalValue R N b = some canonical) : SameDump R N a b :=
  sameDump_iff.mpr ⟨canonical, canonical, ha, hb, rfl⟩

theorem SameDump.exists_digest {a b : Json} (h : SameDump R N a b) :
    ∃ digest, artifactDigest R N H a = some digest ∧ artifactDigest R N H b = some digest := by
  obtain ⟨text, ha, hb⟩ := h
  rw [artifactDigest_eq, artifactDigest_eq, ha, hb]
  exact ⟨_, rfl, rfl⟩

/-! ## Values that canonicalize -/

mutual

/-- A check of a dumped value: its texts canonicalize, its numbers are small, and the names of
its fields are distinct and of ASCII. -/
def isCanonicalizable (R : DateTimeRuntime) (N : NfcTables) : Json → Bool
  | .null => true
  | .boolean _ => true
  | .number n => n.natAbs ≤ maxSafeInteger
  | .string t => decide (IsPlainText t) || (canonicalString R N t).isSome
  | .array items => areCanonicalizable R N items
  | .object members =>
    decide (AreFieldNames (members.map Prod.fst)) && membersCanonicalizable R N members

def areCanonicalizable (R : DateTimeRuntime) (N : NfcTables) : List Json → Bool
  | [] => true
  | item :: rest => isCanonicalizable R N item && areCanonicalizable R N rest

def membersCanonicalizable (R : DateTimeRuntime) (N : NfcTables) : List (Text × Json) → Bool
  | [] => true
  | (_, item) :: rest => isCanonicalizable R N item && membersCanonicalizable R N rest

end

mutual

/-- A value that passes the check has a canonical one. -/
theorem exists_canonicalValue : ∀ {value : Json}, isCanonicalizable R N value = true →
    ∃ canonical, canonicalValue R N value = some canonical
  | .null, _ => ⟨_, rfl⟩
  | .boolean _, _ => ⟨_, rfl⟩
  | .number n, h => by
    have hsmall : n.natAbs ≤ maxSafeInteger := by simpa [isCanonicalizable] using h
    exact ⟨_, canonicalValue_number hsmall⟩
  | .string t, h => by
    rw [isCanonicalizable, Bool.or_eq_true, decide_eq_true_eq, Option.isSome_iff_exists] at h
    rcases h with hplain | ⟨text, htext⟩
    · exact ⟨.string t, by rw [canonicalValue_string, hplain.canonicalString, Option.map_some]⟩
    · exact ⟨.string text, by rw [canonicalValue_string, htext, Option.map_some]⟩
  | .array items, h => by
    rw [isCanonicalizable] at h
    obtain ⟨values, hvalues⟩ := exists_canonicalItems h
    exact ⟨_, canonicalValue_array.mpr ⟨values, rfl, hvalues⟩⟩
  | .object members, h => by
    rw [isCanonicalizable, Bool.and_eq_true, decide_eq_true_eq] at h
    obtain ⟨fields, hfields⟩ := exists_canonicalMembers h.2
    exact ⟨_, (canonicalValue_object h.1).mpr ⟨fields, rfl, hfields⟩⟩

theorem exists_canonicalItems : ∀ {items : List Json}, areCanonicalizable R N items = true →
    ∃ values, CanonicalItems R N items values
  | [], _ => ⟨[], .nil⟩
  | item :: rest, h => by
    rw [areCanonicalizable, Bool.and_eq_true] at h
    obtain ⟨value, hvalue⟩ := exists_canonicalValue h.1
    obtain ⟨values, hvalues⟩ := exists_canonicalItems h.2
    exact ⟨value :: values, .cons hvalue hvalues⟩

theorem exists_canonicalMembers : ∀ {members : List (Text × Json)},
    membersCanonicalizable R N members = true → ∃ fields, CanonicalMembers R N members fields
  | [], _ => ⟨[], .nil⟩
  | (name, item) :: rest, h => by
    rw [membersCanonicalizable, Bool.and_eq_true] at h
    obtain ⟨value, hvalue⟩ := exists_canonicalValue h.1
    obtain ⟨fields, hfields⟩ := exists_canonicalMembers h.2
    exact ⟨(name, value) :: fields, .cons ⟨rfl, hvalue⟩ hfields⟩

end

theorem isCanonicalizable_string {t : Text} (h : IsPlainText t) :
    isCanonicalizable R N (.string t) = true := by
  rw [isCanonicalizable, decide_eq_true h, Bool.true_or]

theorem membersCanonicalizable_iff {members : List (Text × Json)} :
    membersCanonicalizable R N members = true ↔
      ∀ field ∈ members, isCanonicalizable R N field.2 = true := by
  induction members with
  | nil => simp [membersCanonicalizable]
  | cons field rest ih =>
    rw [membersCanonicalizable, Bool.and_eq_true, ih, List.forall_mem_cons]

theorem isCanonicalizable_object {members : List (Text × Json)}
    (hnames : AreFieldNames (members.map Prod.fst))
    (h : ∀ field ∈ members, isCanonicalizable R N field.2 = true) :
    isCanonicalizable R N (.object members) = true := by
  rw [isCanonicalizable, Bool.and_eq_true, decide_eq_true_eq]
  exact ⟨hnames, membersCanonicalizable_iff.mpr h⟩

/-- Members that canonicalize have the canonical texts that they have. -/
theorem membersCanonicalizable_same {members : List (Text × Json)}
    (h : membersCanonicalizable R N members = true) : SameMembers R N members members := by
  obtain ⟨fields, hfields⟩ := exists_canonicalMembers h
  exact (sameMembers_iff rfl).mpr ⟨fields, fields, hfields, hfields, rfl⟩

/-- A value that passes the check has a digest. -/
theorem exists_artifactDigest {payload : Json} (h : isCanonicalizable R N payload = true) :
    ∃ digest, artifactDigest R N H payload = some digest := by
  obtain ⟨value, hvalue⟩ := exists_canonicalValue h
  exact ⟨_, artifactDigest_eq_some.mpr ⟨value, hvalue, rfl⟩⟩

end AthenaContext.DocumentDigests
