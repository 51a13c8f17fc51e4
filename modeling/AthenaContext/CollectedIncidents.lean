import AthenaContext.Dictionaries
import AthenaContext.HullChains
import AthenaContext.IncidentAnchors
import Mathlib

/-!
# Incidents of a collection

The collector selects the current health observations of one resource and lets their hull grow by
every observation of the resource in the same state that touches it. What it ends with does not
depend on the order of the observations, and a request over it cites the whole incident: the
verification can only find that the incident is not one chain.
-/

namespace AthenaContext.CollectedIncidents

open CorrelationEvidence CorrelationEnvelope Dictionaries FallibleResults HullChains HullClosures
  IncidentAnchors IntervalChains OrdinalCollections

/-! ## The selection -/

/-- `previousStatus` of a `ResourceHealthRecord`. -/
inductive ResourceHealthStatus
  | available | degraded | unavailable | unknown
  deriving DecidableEq

/-- `eventStatus` of a `ResourceHealthRecord`. -/
inductive ResourceHealthEvent
  | active | inProgress | resolved | updated
  deriving DecidableEq

/-- A record of a batch: its source, and what a `ResourceHealthRecord` says. -/
structure CollectionRecord where
  sourceRecordId : String
  resourceHealth : Option (ResourceHealthStatus × ResourceHealthEvent)

/-- The incident fields of a `MonitoringCollectionBatch`, the resource in canonical text. -/
structure HealthSelection where
  incidentResourceId : ResourceId
  previousHealthSourceRecordId : String
  currentHealthSourceRecordIds : List String

/-- The incident fields of a `PreparedMonitoringCollection`. -/
structure PreparedIncident where
  incidentResourceId : ResourceId
  previousHealthObservationId : String
  currentHealthObservationIds : List String
  currentHealthState : HealthState
  deriving DecidableEq

/-- The messages of a refused selection. -/
def unknownSource : String := "incident health selection must reference health observations"

def inactiveSource : String :=
  "Resource Health incident evidence must be active and transition from Available"

def noTransition : String :=
  "incident health selection is not one healthy-to-unhealthy transition"

/-- `observations`, sorted by their identifiers. -/
def sortedObservations (bySource : List (String × MonitoringObservation)) : List MonitoringObservation :=
  sortOn (fun o : MonitoringObservation => o.base.observationId) (bySource.map Prod.snd)

/-- The selected source records that are Resource Health records of no active incident. -/
def isInactive (records : List CollectionRecord) (source : String) : Bool :=
  records.any fun r => r.sourceRecordId = source && r.resourceHealth.any fun health =>
    health.1 ≠ .available || health.2 = .resolved

/-- The one adverse state of the current observations. -/
def currentState? (current : List MonitoringObservation) : Option HealthState :=
  match (current.map MonitoringObservation.healthState).dedup with
  | [some state] => if state.adverse then some state else none
  | _ => none

/-- The current observations with their hull. -/
def hullOf (current : List MonitoringObservation) : Option (Hull MonitoringObservation UtcDateTime) := do
  let low ← (current.map observedFrom).min?
  let high ← (current.map observedTo).max?
  pure ⟨current.dedup, low, high⟩

/-- The observations that the expansion looks at. -/
def healthOf (resource : ResourceId) (state : HealthState) (observations : List MonitoringObservation) :
    List MonitoringObservation :=
  observations.filter fun o => o.base.subjectResourceId = resource ∧ o.healthState = some state

/-- The loop that expands the incident; `none` is a loop that has not ended. -/
def expandIncident (resource : ResourceId) (state : HealthState)
    (observations current : List MonitoringObservation) : Option (List MonitoringObservation) := do
  let hull ← hullOf current
  let intervals := healthOf resource state observations
  let closed ← close observedFrom observedTo (id : MonitoringObservation → MonitoringObservation)
    intervals (intervals.length + 1) hull
  closed.map Hull.selected

/-- The observations are one transition from healthy to an adverse state. -/
def isTransition (resource : ResourceId) (previous : MonitoringObservation)
    (current : List MonitoringObservation) : Bool :=
  previous.base.subjectResourceId = resource &&
    current.all (fun o => o.base.subjectResourceId = resource) &&
    previous.healthState = some .healthy &&
    current.all fun o => observedTo previous ≤ observedFrom o

/-- The incident selection of `MonitoringCollectionTransaction.prepare`. -/
def selectIncident (records : List CollectionRecord) (bySource : List (String × MonitoringObservation))
    (selection : HealthSelection) : Except String PreparedIncident :=
  match lookup selection.previousHealthSourceRecordId bySource,
    selection.currentHealthSourceRecordIds.mapM (fun source => lookup source bySource) with
  | some previous, some current =>
    if selection.currentHealthSourceRecordIds.any (isInactive records) then .error inactiveSource
    else
      match currentState? current with
      | none => .error noTransition
      | some state =>
        if !isTransition selection.incidentResourceId previous current then .error noTransition
        else
          match expandIncident selection.incidentResourceId state (sortedObservations bySource) current with
          | none => .error "the expansion did not end"
          | some expanded =>
            .ok
              { incidentResourceId := selection.incidentResourceId
                previousHealthObservationId := previous.base.observationId
                currentHealthObservationIds := sortOn id (expanded.map fun o => o.base.observationId)
                currentHealthState := state }
  | _, _ => .error unknownSource

/-- `_build_transition` over the evidence index of a request; `none` is a missing citation. -/
def buildTransition (p : PreparedIncident) (evidence? : String → Option CorrelationEvidenceCitation) :
    Option IncidentHealthTransition := do
  let previous ← evidence? p.previousHealthObservationId
  let current ← p.currentHealthObservationIds.mapM evidence?
  let observedStart ← (current.map fun c => c.observedStart).min?
  let observedEnd ← (current.map fun c => c.observedEnd).max?
  pure
    { affectedResourceId := p.incidentResourceId
      previousState := .healthy
      currentState := p.currentHealthState
      observedStart, observedEnd
      previousStateEvidence := [previous]
      currentStateEvidence := sortOn CorrelationEvidenceCitation.evidenceId current }

/-! ## The expansion -/

variable {records : List CollectionRecord} {bySource : List (String × MonitoringObservation)}
  {selection : HealthSelection} {p : PreparedIncident} {resource : ResourceId} {state : HealthState}
  {observations current expanded : List MonitoringObservation} {o : MonitoringObservation}

/-- What the current observations grow to. -/
def InExpansion (resource : ResourceId) (state : HealthState)
    (observations current : List MonitoringObservation) : MonitoringObservation → Prop :=
  Reached observedFrom observedTo (healthOf resource state observations) current

theorem hullOf_sound {hull : Hull MonitoringObservation UtcDateTime} (h : hullOf current = some hull)
    (intervals : List MonitoringObservation) :
    Sound observedFrom observedTo (id : MonitoringObservation → MonitoringObservation) intervals current
      hull := by
  obtain ⟨low, hlow, h⟩ := Option.bind_eq_some_iff.mp h
  obtain ⟨high, hhigh, h⟩ := Option.bind_eq_some_iff.mp h
  cases h
  obtain ⟨hlowMem, hlowLe⟩ := List.min?_eq_some_iff.mp hlow
  obtain ⟨hhighMem, hhighLe⟩ := List.max?_eq_some_iff.mp hhigh
  obtain ⟨first, hfirst, hfirstLow⟩ := List.mem_map.mp hlowMem
  obtain ⟨last, hlast, hlastHigh⟩ := List.mem_map.mp hhighMem
  exact
    { seeds_selected := fun c hc => List.mem_dedup.mpr hc
      reached := fun c hc => .seed (List.mem_dedup.mp hc)
      streams := (List.map_id current.dedup).symm ▸ List.nodup_dedup current
      low := fun c hc => hlowLe _ (List.mem_map_of_mem (List.mem_dedup.mp hc))
      low_attained := ⟨first, List.mem_dedup.mpr hfirst, hfirstLow⟩
      high := fun c hc => hhighLe _ (List.mem_map_of_mem (List.mem_dedup.mp hc))
      high_attained := ⟨last, List.mem_dedup.mpr hlast, hlastHigh⟩ }

theorem hullOf_isSome (h : current ≠ []) : ∃ hull, hullOf current = some hull := by
  obtain ⟨low, hlow⟩ := Option.isSome_iff_exists.mp
    (List.isSome_min?_iff.mpr (List.map_eq_nil_iff.not.mpr h) : (current.map observedFrom).min?.isSome)
  obtain ⟨high, hhigh⟩ := Option.isSome_iff_exists.mp
    (List.isSome_max?_iff.mpr (List.map_eq_nil_iff.not.mpr h) : (current.map observedTo).max?.isSome)
  exact ⟨⟨current.dedup, low, high⟩, by rw [hullOf, hlow, hhigh]; rfl⟩

variable (resource state observations) in
/-- The loop ends, with exactly what the current observations grow to, each once. -/
theorem expandIncident_spec (h : current ≠ []) :
    ∃ expanded, expandIncident resource state observations current = some expanded ∧ expanded.Nodup ∧
      ∀ o, o ∈ expanded ↔ InExpansion resource state observations current o := by
  obtain ⟨hull, hhull⟩ := hullOf_isSome h
  have hsound := hullOf_sound hhull (healthOf resource state observations)
  have hfree : ¬ Collides observedFrom observedTo (id : MonitoringObservation → MonitoringObservation)
      (healthOf resource state observations) current := by
    rintro ⟨a, b, -, -, hne, hsame⟩
    exact hne hsame
  obtain ⟨closed, hclose, hselected⟩ := (close_succeeds_iff hsound (Nat.lt_succ_self _)).mpr hfree
  have hnodup := ((close_spec _ _ _ hsound).1 closed hclose).1.streams
  rw [List.map_id] at hnodup
  refine ⟨closed.selected, ?_, hnodup, hselected⟩
  rw [expandIncident, hhull]
  dsimp only [bind, Option.bind]
  rw [hclose]
  rfl

theorem mem_healthOf : o ∈ healthOf resource state observations ↔
    o ∈ observations ∧ o.base.subjectResourceId = resource ∧ o.healthState = some state := by
  rw [healthOf, List.mem_filter, decide_eq_true_eq]

/-- One adverse state of all the current observations. -/
theorem currentState?_some (h : currentState? current = some state) :
    current ≠ [] ∧ state.adverse = true ∧ ∀ o ∈ current, o.healthState = some state := by
  rw [currentState?] at h
  split at h
  · next found hfound =>
    split at h
    · next hadverse =>
      cases h
      refine ⟨?_, hadverse, fun o ho => ?_⟩
      · rintro rfl
        cases hfound
      · have hmem : o.healthState ∈ (current.map MonitoringObservation.healthState).dedup :=
          List.mem_dedup.mpr (List.mem_map_of_mem ho)
        rw [hfound] at hmem
        exact List.mem_singleton.mp hmem
    · cases h
  · cases h

/-- What a selection that is not refused has found. -/
structure Selected (bySource : List (String × MonitoringObservation)) (selection : HealthSelection)
    (p : PreparedIncident) (previous : MonitoringObservation) (current expanded : List MonitoringObservation) :
    Prop where
  previous_found : lookup selection.previousHealthSourceRecordId bySource = some previous
  current_found : selection.currentHealthSourceRecordIds.mapM (fun source => lookup source bySource) =
    some current
  state_of : currentState? current = some p.currentHealthState
  transition : isTransition selection.incidentResourceId previous current = true
  ends : expandIncident selection.incidentResourceId p.currentHealthState (sortedObservations bySource)
    current = some expanded
  result : p =
    { incidentResourceId := selection.incidentResourceId
      previousHealthObservationId := previous.base.observationId
      currentHealthObservationIds := sortOn id (expanded.map fun o => o.base.observationId)
      currentHealthState := p.currentHealthState }

theorem selectIncident_ok (h : selectIncident records bySource selection = .ok p) :
    ∃ previous current expanded, Selected bySource selection p previous current expanded := by
  rw [selectIncident] at h
  split at h
  · next previous current hprevious hcurrent =>
    split at h
    · cases h
    · split at h
      · cases h
      · next state hstate =>
        split at h
        · cases h
        · next htransition =>
          split at h
          · cases h
          · next expanded hexpanded =>
            cases h
            rw [Bool.not_eq_true, Bool.not_eq_false'] at htransition
            exact ⟨previous, current, expanded, hprevious, hcurrent, hstate, htransition, hexpanded, rfl⟩
  · cases h

/-- The current observations are among those that the expansion looks at. -/
theorem Selected.seeds {previous : MonitoringObservation} (h : Selected bySource selection p previous current expanded)
    (ho : o ∈ current) :
    o ∈ healthOf selection.incidentResourceId p.currentHealthState (sortedObservations bySource) := by
  obtain ⟨-, -, hstate⟩ := currentState?_some h.state_of
  have htransition := h.transition
  rw [isTransition, Bool.and_eq_true, Bool.and_eq_true, Bool.and_eq_true, List.all_eq_true] at htransition
  obtain ⟨source, -, hfound⟩ := forall₂_mem_right (mapM_some_iff.mp h.current_found) ho
  refine mem_healthOf.mpr ⟨?_, of_decide_eq_true (htransition.1.1.2 o ho), hstate o ho⟩
  rw [sortedObservations, mem_sortOn]
  exact List.mem_map_of_mem (mem_of_lookup hfound)

theorem Selected.expanded_iff {previous : MonitoringObservation}
    (h : Selected bySource selection p previous current expanded) :
    expanded.Nodup ∧ ∀ o, o ∈ expanded ↔ InExpansion selection.incidentResourceId p.currentHealthState
      (sortedObservations bySource) current o := by
  obtain ⟨found, hfound, hnodup, hmem⟩ := expandIncident_spec selection.incidentResourceId
    p.currentHealthState (sortedObservations bySource) (currentState?_some h.state_of).1
  obtain rfl := Option.some.inj (hfound.symm.trans h.ends)
  exact ⟨hnodup, hmem⟩

theorem Selected.mem_ids {previous : MonitoringObservation}
    (h : Selected bySource selection p previous current expanded) {id : String} :
    id ∈ p.currentHealthObservationIds ↔ ∃ o, InExpansion selection.incidentResourceId
      p.currentHealthState (sortedObservations bySource) current o ∧ o.base.observationId = id := by
  have hids : p.currentHealthObservationIds =
      sortOn (fun id => id) (expanded.map fun o => o.base.observationId) :=
    congrArg PreparedIncident.currentHealthObservationIds h.result
  rw [hids, mem_sortOn, List.mem_map]
  exact exists_congr fun o => and_congr_left' (h.expanded_iff.2 o)

/-- A selection that is not refused prepares one whole incident: its observations are what the
current ones grow to, all of the resource and in the state that the current ones have, which is
adverse; the previous observation was healthy and ended before the current ones began. -/
theorem incident_is_expanded (h : selectIncident records bySource selection = .ok p) :
    ∃ previous current, lookup selection.previousHealthSourceRecordId bySource = some previous ∧
      selection.currentHealthSourceRecordIds.mapM (fun source => lookup source bySource) = some current ∧
      p.currentHealthState.adverse = true ∧ previous.healthState = some .healthy ∧
      (∀ o ∈ current, observedTo previous ≤ observedFrom o) ∧
      p.currentHealthObservationIds.Pairwise (· ≤ ·) ∧
      (∀ id, id ∈ p.currentHealthObservationIds ↔ ∃ o, InExpansion selection.incidentResourceId
        p.currentHealthState (sortedObservations bySource) current o ∧ o.base.observationId = id) ∧
      ∀ o, InExpansion selection.incidentResourceId p.currentHealthState (sortedObservations bySource)
        current o → o ∈ bySource.map Prod.snd ∧ o.base.subjectResourceId = selection.incidentResourceId ∧
          o.healthState = some p.currentHealthState := by
  obtain ⟨previous, current, expanded, hselected⟩ := selectIncident_ok h
  obtain ⟨-, hadverse, -⟩ := currentState?_some hselected.state_of
  have htransition := hselected.transition
  rw [isTransition, Bool.and_eq_true, Bool.and_eq_true, Bool.and_eq_true, List.all_eq_true,
    List.all_eq_true] at htransition
  obtain ⟨⟨⟨-, -⟩, hhealthy⟩, honset⟩ := htransition
  have hids : p.currentHealthObservationIds =
      sortOn (fun id => id) (expanded.map fun o => o.base.observationId) :=
    congrArg PreparedIncident.currentHealthObservationIds hselected.result
  refine ⟨previous, current, hselected.previous_found, hselected.current_found, hadverse,
    of_decide_eq_true hhealthy, fun o ho => of_decide_eq_true (honset o ho), ?_,
    fun id => hselected.mem_ids, fun o ho => ?_⟩
  · rw [hids]
    exact sortOn_pairwise (fun id : String => id) _
  · have hmem := mem_healthOf.mp (reached_mem ho fun _ => hselected.seeds)
    rw [sortedObservations, mem_sortOn] at hmem
    exact hmem

/-! ## The order of the observations -/

theorem lookup_perm {κ β : Type} [DecidableEq κ] {entries others : List (κ × β)} (hp : entries.Perm others)
    (hd : (entries.map Prod.fst).Nodup) (k : κ) : lookup k entries = lookup k others := by
  have hd' : (others.map Prod.fst).Nodup := (hp.map _).nodup_iff.mp hd
  cases hfound : lookup k entries with
  | none =>
    rw [lookup_eq_none_iff] at hfound
    exact (lookup_eq_none_iff.mpr fun hmem => hfound ((hp.map _).mem_iff.mpr hmem)).symm
  | some v => exact (lookup_of_mem hd' (hp.mem_iff.mp (mem_of_lookup hfound))).symm

/-- Identifiers are sorted to one list, in whatever order the observations were expanded. -/
theorem sortOn_eq_of_perm {texts others : List String} (hp : texts.Perm others) :
    sortOn (fun id => id) texts = sortOn (fun id => id) others := by
  refine @List.Perm.eq_of_pairwise _ (fun a b : String => a ≤ b) _ _ ?_ (sortOn_pairwise _ _)
    (sortOn_pairwise _ _) ((sortOn_perm _ _).trans (hp.trans (sortOn_perm _ _).symm))
  exact fun a b _ _ hab hba => le_antisymm hab hba

variable (resource state) in
/-- The expansion of the observations in another order. -/
theorem expandIncident_perm {others : List MonitoringObservation} (hp : observations.Perm others)
    (hne : current ≠ []) :
    ∃ expanded expanded', expandIncident resource state observations current = some expanded ∧
      expandIncident resource state others current = some expanded' ∧ expanded.Perm expanded' := by
  obtain ⟨expanded, hexpanded, hnodup, hmem⟩ := expandIncident_spec resource state observations hne
  obtain ⟨expanded', hexpanded', hnodup', hmem'⟩ := expandIncident_spec resource state others hne
  refine ⟨expanded, expanded', hexpanded, hexpanded', (List.perm_ext_iff_of_nodup hnodup hnodup').mpr
    fun o => ?_⟩
  have hsame : ∀ x, x ∈ healthOf resource state observations ↔ x ∈ healthOf resource state others :=
    fun x => (hp.filter _).mem_iff
  rw [hmem, hmem']
  exact ⟨reached_congr (fun x => (hsame x).mp) fun _ hx => hx,
    reached_congr (fun x => (hsame x).mpr) fun _ hx => hx⟩

/-- The order in which the records were collected does not matter to the selection, to what it
prepares or to why it is refused. -/
theorem selection_ignores_order {others : List CollectionRecord}
    {otherSources : List (String × MonitoringObservation)} (hrecords : records.Perm others)
    (hsources : bySource.Perm otherSources) (hd : (bySource.map Prod.fst).Nodup) :
    selectIncident others otherSources selection = selectIncident records bySource selection := by
  have hlookup : ∀ source, lookup source otherSources = lookup source bySource :=
    fun source => (lookup_perm hsources hd source).symm
  have hinactive : isInactive others = isInactive records := by
    funext source
    exact (hrecords.any_eq).symm
  have hobservations : (sortedObservations bySource).Perm (sortedObservations otherSources) :=
    (sortOn_perm _ _).trans ((hsources.map _).trans (sortOn_perm _ _).symm)
  rw [selectIncident, selectIncident, hinactive]
  simp only [hlookup]
  cases lookup selection.previousHealthSourceRecordId bySource with
  | none => rfl
  | some previous =>
    cases selection.currentHealthSourceRecordIds.mapM fun source => lookup source bySource with
    | none => rfl
    | some current =>
      dsimp only
      cases hstate : currentState? current with
      | none => rfl
      | some state =>
        obtain ⟨expanded, expanded', hexpanded, hexpanded', hp⟩ :=
          expandIncident_perm selection.incidentResourceId state hobservations
            (currentState?_some hstate).1
        dsimp only
        rw [hexpanded, hexpanded']
        dsimp only
        rw [show sortOn id (expanded'.map fun o => o.base.observationId) =
          sortOn id (expanded.map fun o => o.base.observationId) from (sortOn_eq_of_perm (hp.map _)).symm]

/-! ## The verification of the request -/

variable {request : CorrelationRequest}

/-- A request over a prepared incident and the observations of its collection. -/
structure BuiltFrom (request : CorrelationRequest) (bySource : List (String × MonitoringObservation))
    (p : PreparedIncident) : Prop where
  observations : request.observations = sortedObservations bySource
  transition : buildTransition p request.evidence? = some request.incidentAnchor

/-- The identifiers of citations that were found under them. -/
theorem ids_of_found {evidence? : String → Option CorrelationEvidenceCitation} {ids : List String}
    {citations : List CorrelationEvidenceCitation}
    (hids : ∀ id c, evidence? id = some c → c.evidenceId = id)
    (h : List.Forall₂ (fun id c => evidence? id = some c) ids citations) :
    citations.map (fun e => e.evidenceId) = ids := by
  induction h with
  | nil => rfl
  | cons hfound _ ih => rw [List.map_cons, ih, hids _ _ hfound]

/-- The transition cites exactly the observations of the incident. -/
theorem buildTransition_some {evidence? : String → Option CorrelationEvidenceCitation}
    {t : IncidentHealthTransition} (hids : ∀ id c, evidence? id = some c → c.evidenceId = id)
    (h : buildTransition p evidence? = some t) :
    t.affectedResourceId = p.incidentResourceId ∧ t.currentState = p.currentHealthState ∧
      ∀ id, id ∈ t.currentStateEvidence.map (fun e => e.evidenceId) ↔ id ∈ p.currentHealthObservationIds := by
  obtain ⟨previous, -, h⟩ := Option.bind_eq_some_iff.mp h
  obtain ⟨current, hcurrent, h⟩ := Option.bind_eq_some_iff.mp h
  obtain ⟨observedStart, -, h⟩ := Option.bind_eq_some_iff.mp h
  obtain ⟨observedEnd, -, h⟩ := Option.bind_eq_some_iff.mp h
  cases h
  have hsame := ids_of_found hids (mapM_some_iff.mp hcurrent)
  refine ⟨rfl, rfl, fun id => ?_⟩
  rw [← hsame, List.mem_map, List.mem_map]
  exact exists_congr fun e => and_congr_left' mem_sortOn

theorem evidence?_id {id : String} {c : CorrelationEvidenceCitation} (h : request.evidence? id = some c) :
    c.evidenceId = id :=
  (find_key_some CorrelationEvidenceCitation.evidenceId h).2

/-- The candidates of the request are what the collector has looked at. -/
theorem BuiltFrom.candidate_iff (hb : BuiltFrom request bySource p) :
    IsCandidate request o ↔ o ∈ healthOf p.incidentResourceId p.currentHealthState (sortedObservations bySource) := by
  obtain ⟨hresource, hstate, -⟩ := buildTransition_some (fun _ _ => evidence?_id) hb.transition
  rw [mem_healthOf, ← hb.observations, ← hresource, ← hstate]
  rfl

/-- The incident that the verification looks for is the one that the collector has prepared. -/
theorem inIncident_iff_expansion (hr : request.Accepted) (hb : BuiltFrom request bySource p)
    {previous : MonitoringObservation} (h : Selected bySource selection p previous current expanded) :
    InIncident request o ↔
      InExpansion p.incidentResourceId p.currentHealthState (sortedObservations bySource) current o := by
  have hresource : p.incidentResourceId = selection.incidentResourceId :=
    congrArg PreparedIncident.incidentResourceId h.result
  have hseeds : ∀ x ∈ current,
      x ∈ healthOf p.incidentResourceId p.currentHealthState (sortedObservations bySource) :=
    fun x hx => hresource ▸ h.seeds hx
  have hcandidate : ∀ x, InExpansion p.incidentResourceId p.currentHealthState (sortedObservations bySource)
      current x → IsCandidate request x := fun x hx => hb.candidate_iff.mpr (reached_mem hx hseeds)
  have hvalid : ∀ x, InExpansion p.incidentResourceId p.currentHealthState (sortedObservations bySource)
      current x → observedFrom x ≤ observedTo x := fun x hx => candidate_interval hr (hcandidate x hx)
  obtain ⟨-, -, hcited⟩ := buildTransition_some (fun _ _ => evidence?_id) hb.transition
  have hstream : ∀ (stream : List String) x, InStream request stream x →
      x ∈ healthOf p.incidentResourceId p.currentHealthState (sortedObservations bySource) :=
    fun _ x hx => hb.candidate_iff.mp hx.1
  constructor
  · intro hin
    induction hin with
    | @cited o ho hid =>
      obtain ⟨x, hx, hsame⟩ := h.mem_ids.mp ((hcited _).mp hid)
      rw [← hresource] at hx
      exact candidate_eq_of_id hr (hcandidate x hx) ho hsame ▸ hx
    | chained _ hchain ih => exact reached_chain (hstream _) ih hchain
    | @touched a b c p q _ _ hc hcp hcq hfirst hlast iha ihb =>
      have hq : InStream request (healthStreamKey c) q := hcq.right ⟨hc, rfl⟩
      have hreached := reached_spanned hvalid (hstream _) iha ihb hq (hcq.symm.trans hcp) hfirst hlast
      exact reached_chain (hstream _) hreached hcq.symm
  · intro hx
    refine .cited (hcandidate o hx) ((hcited _).mpr (h.mem_ids.mpr ⟨o, ?_, rfl⟩))
    rw [← hresource]
    exact hx

/-- An anchor that cites a whole incident is accepted, or found to be disconnected. -/
theorem anchorVerdict_cases (hr : request.Accepted)
    (hexact : ∀ id, (∃ o, InIncident request o ∧ o.base.observationId = id) ↔
      id ∈ request.incidentAnchor.currentStateEvidence.map fun e => e.evidenceId) :
    verifyCanonicalIncidentAnchor request = .ok () ∨
      verifyCanonicalIncidentAnchor request = .error disconnected := by
  obtain ⟨seeds, hseedsOk, hseeds⟩ := seeds_ok hr
  obtain ⟨found, hfoundOk, hfound⟩ := selected_ok hr (List.Perm.refl _) fun o ho => ((hseeds o).mp ho).1
  have hselected : IsSelection request found.dedup := by
    intro c
    rw [List.mem_dedup, hfound]
    refine and_congr_right fun hc => exists_congr fun o => ?_
    rw [hseeds o, and_comm]
    exact and_congr_right fun ho => and_iff_right (component_members hr hc ho).1
  have hids : ∀ id, (∃ c, Grown (components request) found.dedup c ∧ id ∈ c.ids) ↔
      id ∈ request.incidentAnchor.currentStateEvidence.map fun e => e.evidenceId := by
    refine fun id => Iff.trans ⟨?_, ?_⟩ (hexact id)
    · rintro ⟨c, hc, hid⟩
      obtain ⟨o, ho, rfl⟩ := List.mem_map.mp hid
      exact ⟨o, (inIncident_iff hr (List.Perm.refl _) hselected).mpr ⟨c, hc, ho⟩, rfl⟩
    · rintro ⟨o, ho, rfl⟩
      obtain ⟨c, hc, hoc⟩ := (inIncident_iff hr (List.Perm.refl _) hselected).mp ho
      exact ⟨c, hc, List.mem_map_of_mem hoc⟩
  rw [verifyCanonicalIncidentAnchor, anchorVerdict, hseedsOk]
  dsimp only [bind, Except.bind]
  rw [hfoundOk]
  dsimp only
  split
  · exact .inr rfl
  · next hstreams =>
    rw [not_not] at hstreams
    cases hsort : sortOn (fun c : HealthComponent => toLex (c.first, c.last)) found.dedup with
    | nil =>
      exfalso
      obtain ⟨e, he⟩ := List.exists_mem_of_length_pos hr.transition.currentCount.1
      obtain ⟨c, hc, -⟩ := (hids e.evidenceId).mpr (List.mem_map_of_mem he)
      rw [sortOn_eq_nil.mp hsort] at hc
      cases hc with
      | seed hseed => cases hseed
      | touched ha _ _ _ _ => exact (reached_empty ha).elim
    | cons c rest =>
      dsimp only
      cases hsweep : sweep HealthComponent.first HealthComponent.last c.last rest with
      | none => exact .inr rfl
      | some finish =>
        dsimp only
        have hsound : Sound HealthComponent.first HealthComponent.last HealthComponent.stream
            (components request) found.dedup ⟨found.dedup, c.first, finish⟩ :=
          sound_start hstreams hsort hsweep
        by_cases hfree : Collides HealthComponent.first HealthComponent.last HealthComponent.stream
            (components request) found.dedup
        · right
          have hsome : (close HealthComponent.first HealthComponent.last HealthComponent.stream
              (components request) ((components request).length + 1)
              ⟨found.dedup, c.first, finish⟩).isSome = true :=
            close_isSome _ _ _ (Nat.lt_succ_of_le (missing_le _ _))
          obtain ⟨result, hresult⟩ := Option.isSome_iff_exists.mp hsome
          cases result with
          | none =>
            rw [closeSelected, hresult]
          | some hull =>
            have hgrown := ((close_spec _ _ _ hsound).1 hull hresult).2
            exact absurd hfree ((close_succeeds_iff hsound (Nat.lt_succ_self _)).mp ⟨hull, hresult, hgrown⟩)
        · exact .inl ((closeSelected_ok_iff hsound).mpr ⟨hfree, hids⟩)

/-- The verification of a request over a prepared incident finds the incident that the collector has
prepared, and never an incomplete one. It accepts the request exactly when the incident has one
chain of each stream at most and the selected current observations are linked in it. -/
theorem prepared_incident_verified (hr : request.Accepted)
    (h : selectIncident records bySource selection = .ok p) (hb : BuiltFrom request bySource p)
    (hcurrent : selection.currentHealthSourceRecordIds.mapM (fun source => lookup source bySource) =
      some current) :
    (∀ o, InIncident request o ↔
      o ∈ request.observations ∧ o.base.observationId ∈ p.currentHealthObservationIds) ∧
    (verifyCanonicalIncidentAnchor request = .ok () ∨
      verifyCanonicalIncidentAnchor request = .error disconnected) ∧
    (verifyCanonicalIncidentAnchor request = .ok () ↔
      (∀ a b, InIncident request a → InIncident request b → healthStreamKey a = healthStreamKey b →
        SameChain request a b) ∧
      ∀ a ∈ current, ∀ b ∈ current, Linked observedFrom observedTo (InIncident request) a b) := by
  obtain ⟨previous, current', expanded, hselected⟩ := selectIncident_ok h
  obtain rfl := Option.some.inj (hcurrent.symm.trans hselected.current_found)
  have hresource : p.incidentResourceId = selection.incidentResourceId :=
    congrArg PreparedIncident.incidentResourceId hselected.result
  have hsame : ∀ o, InIncident request o ↔ InExpansion p.incidentResourceId p.currentHealthState
      (sortedObservations bySource) current o := fun o => inIncident_iff_expansion hr hb hselected
  have hids : ∀ id, id ∈ p.currentHealthObservationIds ↔
      ∃ o, InIncident request o ∧ o.base.observationId = id := by
    intro id
    rw [hselected.mem_ids, ← hresource]
    exact exists_congr fun o => and_congr_left' (hsame o).symm
  have hcandidate : ∀ o, InIncident request o → IsCandidate request o := by
    intro o ho
    refine hb.candidate_iff.mpr (reached_mem ((hsame o).mp ho) fun x hx => ?_)
    exact hresource ▸ hselected.seeds hx
  have hexact : ∀ id, (∃ o, InIncident request o ∧ o.base.observationId = id) ↔
      id ∈ request.incidentAnchor.currentStateEvidence.map fun e => e.evidenceId := by
    intro id
    obtain ⟨-, -, hcited⟩ := buildTransition_some (fun _ _ => evidence?_id) hb.transition
    rw [hcited, hids]
  have hverdict : verifyCanonicalIncidentAnchor request = .ok () ↔ CitesIncident request :=
    anchorVerdict_ok_iff hr (List.Perm.refl _)
  refine ⟨fun o => ⟨fun ho => ⟨(hcandidate o ho).1, (hids _).mpr ⟨o, ho, rfl⟩⟩, ?_⟩,
    anchorVerdict_cases hr hexact, hverdict.trans ⟨?_, ?_⟩⟩
  · rintro ⟨ho, hid⟩
    obtain ⟨x, hx, hxo⟩ := (hids _).mp hid
    exact CorrelationRecords.observation_inj hr (hcandidate x hx).1 ho hxo ▸ hx
  · rintro ⟨hone, hconnected, -⟩
    exact ⟨hone, fun a ha b hb' => hconnected a b ((hsame a).mpr (.seed ha)) ((hsame b).mpr (.seed hb'))⟩
  · rintro ⟨hone, hlinked⟩
    have hpred : InIncident request = InExpansion p.incidentResourceId p.currentHealthState
        (sortedObservations bySource) current := funext fun o => propext (hsame o)
    rw [hpred] at hlinked
    refine ⟨hone, fun a b ha hb' => ?_, hexact⟩
    have hvalid : ∀ x, InExpansion p.incidentResourceId p.currentHealthState (sortedObservations bySource)
        current x → observedFrom x ≤ observedTo x :=
      fun x hx => candidate_interval hr (hcandidate x ((hsame x).mpr hx))
    rw [hpred]
    exact linked_of_seeds hvalid hlinked ((hsame a).mp ha) ((hsame b).mp hb')

/-! ## Collected incidents -/

open CorrelationConflicts

/-- The observations of a sample request by their source records. -/
def sampleSources (sample : AnchorSample) : List (String × MonitoringObservation) :=
  ["s0", "s1", "s2", "s3"].zip (anchorSample sample).observations

/-- Of two streams that overlap the first report is selected, of two with a gap both streams. -/
def sampleSelection : AnchorSample → HealthSelection
  | .apart => ⟨sampleVm, "s0", ["s1", "s3"]⟩
  | _ => ⟨sampleVm, "s0", ["s1"]⟩

/-- What the selections grow to. -/
def sampleIncident : PreparedIncident := ⟨sampleVm, "e0", ["e1", "e2", "h1"], .unavailable⟩

theorem sample_selected (sample : AnchorSample) (h : sample ≠ .short) :
    selectIncident [] (sampleSources sample) (sampleSelection sample) = .ok sampleIncident := by
  cases sample with
  | linked => decide +kernel
  | apart => decide +kernel
  | short => exact absurd rfl h

/-- The first report alone is selected; the second and the other stream belong to its incident. -/
theorem incident_is_expanded_sample :
    (sampleSelection .linked).currentHealthSourceRecordIds = ["s1"] ∧
      ∀ id ∈ ["e1", "e2", "h1"], ∃ current o, InExpansion sampleVm .unavailable
        (sortedObservations (sampleSources .linked)) current o ∧ o.base.observationId = id := by
  obtain ⟨_, current, _, _, _, _, _, _, hids, _⟩ := incident_is_expanded (sample_selected .linked nofun)
  exact ⟨rfl, fun id hid => ⟨current, (hids id).mp hid⟩⟩

theorem selection_ignores_order_sample :
    selectIncident [] (sampleSources .linked).reverse (sampleSelection .linked) = .ok sampleIncident :=
  (selection_ignores_order (List.Perm.refl []) (List.reverse_perm _).symm (by decide)).trans
    (sample_selected .linked nofun)

theorem sample_built (sample : AnchorSample) (h : sample ≠ .short) :
    BuiltFrom (anchorSample sample) (sampleSources sample) sampleIncident := by
  cases sample with
  | linked => exact ⟨rfl, rfl⟩
  | apart => exact ⟨rfl, rfl⟩
  | short => exact absurd rfl h

/-- The verifier finds both streams of the incident that was prepared from one report, and reports
streams with a gap between them as disconnected. -/
theorem prepared_incident_verified_sample :
    (∀ o, InIncident (anchorSample .linked) o ↔
      o ∈ (anchorSample .linked).observations ∧ o.base.observationId ∈ ["e1", "e2", "h1"]) ∧
    verifyCanonicalIncidentAnchor (anchorSample .linked) = .ok () ∧
    verifyCanonicalIncidentAnchor (anchorSample .apart) = .error disconnected := by
  obtain ⟨hfound, -, -⟩ := prepared_incident_verified (anchorSample_accepted .linked)
    (sample_selected .linked nofun) (sample_built .linked nofun) rfl
  obtain ⟨-, hapart, -⟩ := prepared_incident_verified (anchorSample_accepted .apart)
    (sample_selected .apart nofun) (sample_built .apart nofun) rfl
  exact ⟨hfound, by decide +kernel, hapart.resolve_left (by decide +kernel)⟩

end AthenaContext.CollectedIncidents
