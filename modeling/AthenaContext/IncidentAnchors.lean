import AthenaContext.CorrelationConflicts
import AthenaContext.FallibleResults
import AthenaContext.HullClosures
import AthenaContext.IntervalChains
import Mathlib

/-!
# Incident anchors

The evidence that an incident anchor cites. The observations of the affected resource in the
incident's state are merged, stream by stream, into chains of touching intervals, and the chains
cited grow under their hull. The anchor is accepted exactly when it cites all of one incident,
in whatever order the chains are visited.
-/

namespace AthenaContext.IncidentAnchors

open OrdinalCollections CorrelationEvidence CorrelationEnvelope CorrelationIndex FallibleResults
  HullClosures IntervalChains

/-! ## The verification -/

/-- Wire text of a signal. -/
def signalText : GuestSignal → String
  | .heartbeatLoss => "heartbeatLoss"
  | .diskCapacityPressure => "diskCapacityPressure"
  | .inodePressure => "inodePressure"
  | .diskLatency => "diskLatency"
  | .memoryPressure => "memoryPressure"
  | .cpuSaturation => "cpuSaturation"
  | .nicErrors => "nicErrors"
  | .serviceFailure => "serviceFailure"

/-- Wire text of a kind of platform health. -/
def platformKindText : PlatformHealthKind → String
  | .resourceHealth => "resourceHealth"
  | .serviceHealth => "serviceHealth"
  | .loadBalancerBackend => "loadBalancerBackend"

/-- `_health_stream_key`; the other kinds of observation have no health. -/
def healthStreamKey : MonitoringObservation → List String
  | .guestSignal o => ["guest", signalText o.signal, o.serviceReference.getD ""]
  | .endpointHealth o => "endpoint" :: o.pathId :: o.backendResourceIds.sort (· ≤ ·)
  | .platformHealth o => ["platform", platformKindText o.healthKind]
  | .networkFlow _ => []
  | .connectionMonitor _ => []

/-- Start and end of an observation. -/
def observedFrom (o : MonitoringObservation) : UtcDateTime := o.base.observedStart

def observedTo (o : MonitoringObservation) : UtcDateTime := o.base.observedEnd

variable (request : CorrelationRequest)

/-- A health observation of the affected resource in the incident's state. -/
def IsCandidate (o : MonitoringObservation) : Prop :=
  o ∈ request.observations ∧ o.base.subjectResourceId = request.affectedResourceId ∧
    o.healthState = some request.incidentAnchor.currentState

instance (o : MonitoringObservation) : Decidable (IsCandidate request o) :=
  inferInstanceAs (Decidable (_ ∧ _))

/-- `candidates`. -/
def candidates : List MonitoringObservation :=
  request.observations.filter fun o =>
    o.base.subjectResourceId = request.affectedResourceId ∧
      o.healthState = some request.incidentAnchor.currentState

/-- A component: a maximal chain of touching observations of one stream. -/
structure HealthComponent where
  stream : List String
  span : Span MonitoringObservation UtcDateTime
  deriving DecidableEq

def HealthComponent.first (c : HealthComponent) : UtcDateTime := c.span.first

def HealthComponent.last (c : HealthComponent) : UtcDateTime := c.span.last

/-- The identifiers of a component. -/
def HealthComponent.ids (c : HealthComponent) : List String :=
  c.span.members.map fun o => o.base.observationId

/-- The merged observations of one stream. -/
def streamSpans (stream : List String) : List (Span MonitoringObservation UtcDateTime) :=
  merge observedFrom observedTo (sortOn (fun o =>
      toLex (observedFrom o, toLex (observedTo o, o.base.observationId)))
    ((candidates request).filter fun o => healthStreamKey o = stream))

/-- `components`, stream by stream. -/
def components : List HealthComponent :=
  (sortOn id ((candidates request).map healthStreamKey).dedup).flatMap fun stream =>
    (streamSpans request stream).map fun span => ⟨stream, span⟩

/-- `_require_health_observation` of a cited observation. -/
def seed (citation : CorrelationEvidenceCitation) : Except String MonitoringObservation :=
  match request.observation? citation.evidenceId with
  | none => .error "KeyError"
  | some (.networkFlow _) => .error "incident evidence is not a supported health observation"
  | some (.connectionMonitor _) => .error "incident evidence is not a supported health observation"
  | some o => .ok o

/-- `observation_component[seed.observation_id]`. -/
def componentOf (order : List HealthComponent) (o : MonitoringObservation) :
    Except String HealthComponent :=
  match order.find? fun c => o.base.observationId ∈ c.ids with
  | none => .error "KeyError"
  | some c => .ok c

/-- The message of evidence of more than one interval. -/
def disconnected : String := "incident current-state evidence spans disconnected intervals"

/-- The message of evidence that leaves a part of the incident out. -/
def incomplete : String := "incident anchor must include the complete current-state evidence interval"

/-- The closing of the selected components, and the comparison with the cited identifiers. -/
def closeSelected (order selected : List HealthComponent) (start finish : UtcDateTime) :
    Except String Unit :=
  match close HealthComponent.first HealthComponent.last HealthComponent.stream order
      (order.length + 1) ⟨selected, start, finish⟩ with
  | none => .error "the closing did not end"
  | some none => .error disconnected
  | some (some hull) =>
    if (request.incidentAnchor.currentStateEvidence.map fun e => e.evidenceId).toFinset =
        (hull.selected.flatMap HealthComponent.ids).toFinset then .ok ()
    else .error incomplete

/-- The verification with the components in some order. -/
def anchorVerdict (order : List HealthComponent) : Except String Unit := do
  let seeds ← request.incidentAnchor.currentStateEvidence.mapM (seed request)
  let selected := (← seeds.mapM (componentOf order)).dedup
  if ¬ (selected.map HealthComponent.stream).Nodup then .error disconnected
  else
    match sortOn (fun c : HealthComponent => toLex (c.first, c.last)) selected with
    | [] => .error "IndexError"
    | c :: rest =>
      match sweep HealthComponent.first HealthComponent.last c.last rest with
      | none => .error disconnected
      | some finish => closeSelected request order selected c.first finish

/-- `_verify_canonical_incident_anchor`. -/
def verifyCanonicalIncidentAnchor : Except String Unit :=
  anchorVerdict request (components request)

/-! ## The incident -/

/-- A candidate of a stream. -/
def InStream (stream : List String) (o : MonitoringObservation) : Prop :=
  IsCandidate request o ∧ healthStreamKey o = stream

/-- A chain of touching candidates of one stream leads from one observation to the other. -/
def SameChain (a b : MonitoringObservation) : Prop :=
  Linked observedFrom observedTo (InStream request (healthStreamKey a)) a b

/-- The incident of the cited evidence: the chains of the cited candidates, and every chain that
touches the hull of the incident, from the earliest start to the latest end in it. -/
inductive InIncident : MonitoringObservation → Prop
  | cited {o : MonitoringObservation} : IsCandidate request o →
      o.base.observationId ∈ request.incidentAnchor.currentStateEvidence.map (fun e => e.evidenceId) →
      InIncident o
  | chained {a b : MonitoringObservation} : InIncident a → SameChain request a b → InIncident b
  | touched {a b c p q : MonitoringObservation} : InIncident a → InIncident b →
      IsCandidate request c → SameChain request c p → SameChain request c q →
      observedFrom a ≤ observedTo p → observedFrom q ≤ observedTo b → InIncident c

/-- The anchor cites one whole incident: one chain of each stream at most, connected, and the
identifiers of its observations are the cited ones. -/
structure CitesIncident : Prop where
  oneOfEachStream : ∀ a b, InIncident request a → InIncident request b →
    healthStreamKey a = healthStreamKey b → SameChain request a b
  connected : ∀ a b, InIncident request a → InIncident request b →
    Linked observedFrom observedTo (InIncident request) a b
  exact : ∀ id, (∃ o, InIncident request o ∧ o.base.observationId = id) ↔
    id ∈ request.incidentAnchor.currentStateEvidence.map fun e => e.evidenceId

variable {request} {a b o : MonitoringObservation} {c d : HealthComponent} {stream : List String}

/-! ## Components -/

theorem mem_candidates : o ∈ candidates request ↔ IsCandidate request o := by
  simp only [candidates, List.mem_filter, decide_eq_true_eq, IsCandidate]

theorem mem_components : c ∈ components request ↔
    c.stream ∈ (candidates request).map healthStreamKey ∧ c.span ∈ streamSpans request c.stream := by
  rw [components, List.mem_flatMap]
  constructor
  · rintro ⟨stream, hstream, hc⟩
    obtain ⟨span, hspan, rfl⟩ := List.mem_map.mp hc
    exact ⟨List.mem_dedup.mp (mem_sortOn.mp hstream), hspan⟩
  · rintro ⟨hstream, hspan⟩
    exact ⟨c.stream, mem_sortOn.mpr (List.mem_dedup.mpr hstream), List.mem_map.mpr ⟨_, hspan, rfl⟩⟩

section Accepted

variable (hr : request.Accepted)
include hr

theorem candidate_interval (h : IsCandidate request o) : observedFrom o ≤ observedTo o := by
  have hvalid := hr.bundle.observations o h.1
  cases o with
  | guestSignal o => exact hvalid.2
  | networkFlow o => exact hvalid.base.2
  | connectionMonitor o => exact hvalid.base.2
  | endpointHealth o => exact hvalid.1.2
  | platformHealth o => exact hvalid.2

theorem candidate_eq_of_id (ha : IsCandidate request a) (hb : IsCandidate request b)
    (h : a.base.observationId = b.base.observationId) : a = b :=
  List.inj_on_of_nodup_map (observationIds_nodup hr) ha.1 hb.1 h

/-- The spans of a stream: chains of its candidates, all of them, and apart. -/
theorem streamSpans_spec (stream : List String) :
    (∀ s ∈ streamSpans request stream,
      IsSpan observedFrom observedTo (InStream request stream) s) ∧
    (∀ o, InStream request stream o ↔ ∃ s ∈ streamSpans request stream, o ∈ s.members) ∧
    (streamSpans request stream).Pairwise fun s t => s.last < t.first := by
  let key (o : MonitoringObservation) : UtcDateTime ×ₗ UtcDateTime ×ₗ String :=
    toLex (observedFrom o, toLex (observedTo o, o.base.observationId))
  have hitems : ∀ o, o ∈ sortOn key ((candidates request).filter fun o => healthStreamKey o = stream) ↔
      InStream request stream o := by
    intro o
    rw [mem_sortOn, List.mem_filter, mem_candidates, decide_eq_true_eq, InStream]
  have hsorted := (sortOn_pairwise key
    ((candidates request).filter fun o => healthStreamKey o = stream)).imp
      fun {a b} h => (Prod.Lex.le_iff.mp h).elim le_of_lt fun h => h.1.le
  have hmerged : (∀ s ∈ streamSpans request stream,
      IsSpan observedFrom observedTo (InStream request stream) s) ∧
      (streamSpans request stream).flatMap Span.members =
        sortOn key ((candidates request).filter fun o => healthStreamKey o = stream) ∧
      (streamSpans request stream).Pairwise fun s t => s.last < t.first :=
    merge_spec (fun o ho => ⟨(hitems o).mp ho, candidate_interval hr ((hitems o).mp ho).1⟩) hsorted
  obtain ⟨hspans, hflat, hapart⟩ := hmerged
  refine ⟨hspans, fun o => ?_, hapart⟩
  rw [← hitems o, ← List.mem_flatMap]
  exact Eq.to_iff (congrArg (o ∈ ·) hflat.symm)

theorem component_isSpan (hc : c ∈ components request) :
    IsSpan observedFrom observedTo (InStream request c.stream) c.span :=
  (streamSpans_spec hr c.stream).1 _ (mem_components.mp hc).2

theorem component_members (hc : c ∈ components request) (ho : o ∈ c.span.members) :
    InStream request c.stream o :=
  ((streamSpans_spec hr c.stream).2.1 o).mpr ⟨_, (mem_components.mp hc).2, ho⟩

/-- Every candidate is in a component. -/
theorem exists_component (h : IsCandidate request o) :
    ∃ c ∈ components request, o ∈ c.span.members := by
  obtain ⟨span, hspan, ho⟩ := ((streamSpans_spec hr (healthStreamKey o)).2.1 o).mp ⟨h, rfl⟩
  exact ⟨⟨healthStreamKey o, span⟩, mem_components.mpr
    ⟨List.mem_map_of_mem (mem_candidates.mpr h), hspan⟩, ho⟩

/-- No candidate is in two components. -/
theorem component_unique (hc : c ∈ components request) (hd : d ∈ components request)
    (hoc : o ∈ c.span.members) (hod : o ∈ d.span.members) : c = d := by
  have hkc := component_members hr hc hoc
  have hkd := component_members hr hd hod
  have hstream : c.stream = d.stream := hkc.2.symm.trans hkd.2
  obtain ⟨hspans, -, hapart⟩ := streamSpans_spec hr c.stream
  have hinterval := candidate_interval hr hkc.1
  have hspan : c.span = d.span := touching_same_span hspans hapart (mem_components.mp hc).2
    (hstream ▸ (mem_components.mp hd).2) hoc hod ⟨hinterval, hinterval⟩
  cases c
  cases d
  simp only at hstream hspan
  rw [hstream, hspan]

/-- The chain of an observation is its component. -/
theorem sameChain_iff (hc : c ∈ components request) (ha : a ∈ c.span.members) :
    SameChain request a b ↔ b ∈ c.span.members := by
  obtain ⟨hspans, hall, hapart⟩ := streamSpans_spec hr c.stream
  rw [SameChain, (component_members hr hc ha).2]
  exact linked_iff_mem_span hspans (fun o ho => (hall o).mp ho) hapart (mem_components.mp hc).2 ha

theorem mem_ids (hc : c ∈ components request) (ho : IsCandidate request o) :
    o.base.observationId ∈ c.ids ↔ o ∈ c.span.members := by
  constructor
  · intro h
    obtain ⟨m, hm, hid⟩ := List.mem_map.mp h
    rwa [← candidate_eq_of_id hr (component_members hr hc hm).1 ho hid]
  · exact fun h => List.mem_map_of_mem h

/-- A component has a member at its start, and one at its end. -/
theorem component_bounds (hc : c ∈ components request) :
    (∃ o ∈ c.span.members, observedFrom o = c.first) ∧ ∃ o ∈ c.span.members, observedTo o = c.last := by
  have hspan := component_isSpan hr hc
  exact ⟨hspan.low_attained, hspan.high_attained fun o ho =>
    candidate_interval hr (component_members hr hc ho).1⟩

/-- Touching components have touching members. -/
theorem component_touching (hc : c ∈ components request) (hd : d ∈ components request)
    (h : Touches HealthComponent.first HealthComponent.last c d) :
    ∃ a ∈ c.span.members, ∃ b ∈ d.span.members, Touches observedFrom observedTo a b := by
  have hspanc := component_isSpan hr hc
  have hspand := component_isSpan hr hd
  rcases le_total c.first d.first with hle | hle
  · obtain ⟨a, ha, hstart, hfinish⟩ := hspanc.covered d.first hle h.2
    obtain ⟨⟨b, hb, hfirst⟩, -⟩ := component_bounds hr hd
    have hb' := candidate_interval hr (component_members hr hd hb).1
    rw [← hfirst] at hstart hfinish
    exact ⟨a, ha, b, hb, hstart.trans hb', hfinish⟩
  · obtain ⟨b, hb, hstart, hfinish⟩ := hspand.covered c.first hle h.1
    obtain ⟨⟨a, ha, hfirst⟩, -⟩ := component_bounds hr hc
    have ha' := candidate_interval hr (component_members hr hc ha).1
    rw [← hfirst] at hstart hfinish
    exact ⟨a, ha, b, hb, hfinish, hstart.trans ha'⟩

/-! ## Seeds -/

/-- A list of candidates that the code cites. -/
theorem seeds_ok : ∃ seeds, request.incidentAnchor.currentStateEvidence.mapM (seed request) = .ok seeds ∧
    ∀ o, o ∈ seeds ↔ IsCandidate request o ∧
      o.base.observationId ∈ request.incidentAnchor.currentStateEvidence.map fun e => e.evidenceId := by
  have hseed : ∀ e ∈ request.incidentAnchor.currentStateEvidence, ∃ o, seed request e = .ok o ∧
      IsCandidate request o ∧ o.base.observationId = e.evidenceId := by
    intro e he
    obtain ⟨o, ho, hsubject, hstate⟩ := hr.currentHealth e he
    obtain ⟨hmem, hid⟩ := observation?_some ho
    refine ⟨o, ?_, ⟨hmem, hsubject, hstate⟩, hid⟩
    rw [Option.mem_def] at ho
    cases o with
    | networkFlow o => cases hstate
    | connectionMonitor o => cases hstate
    | guestSignal o => rw [seed, ho]
    | endpointHealth o => rw [seed, ho]
    | platformHealth o => rw [seed, ho]
  cases hmap : request.incidentAnchor.currentStateEvidence.mapM (seed request) with
  | error message =>
    obtain ⟨earlier, e, later, hsplit, -, herror⟩ := mapM_error hmap
    obtain ⟨o, hok, -⟩ := hseed e (by rw [hsplit]; simp)
    rw [herror] at hok
    cases hok
  | ok seeds =>
    refine ⟨seeds, rfl, fun o => ⟨fun ho => ?_, fun ⟨hcandidate, hid⟩ => ?_⟩⟩
    · obtain ⟨e, he, hok⟩ := mapM_ok_right hmap ho
      obtain ⟨o', hok', hcandidate, hid⟩ := hseed e he
      rw [hok] at hok'
      cases hok'
      exact ⟨hcandidate, hid ▸ List.mem_map_of_mem he⟩
    · obtain ⟨e, he, heq⟩ := List.mem_map.mp hid
      obtain ⟨o', ho', hok⟩ := mapM_ok_left hmap he
      obtain ⟨o'', hok'', hcandidate'', hid''⟩ := hseed e he
      rw [hok] at hok''
      cases hok''
      rwa [candidate_eq_of_id hr hcandidate hcandidate'' (heq.symm.trans hid''.symm)]

/-- The component of a candidate, in whatever order the components are. -/
theorem componentOf_ok {order : List HealthComponent} (horder : order.Perm (components request))
    (ho : IsCandidate request o) :
    ∃ c ∈ components request, componentOf order o = .ok c ∧ o ∈ c.span.members := by
  obtain ⟨c, hc, hmem⟩ := exists_component hr ho
  cases hfind : order.find? fun c => o.base.observationId ∈ c.ids with
  | none =>
    have hout := List.find?_eq_none.mp hfind c (horder.mem_iff.mpr hc)
    exact absurd (decide_eq_true ((mem_ids hr hc ho).mpr hmem)) hout
  | some d =>
    have hd : d ∈ components request := horder.mem_iff.mp (List.mem_of_find?_eq_some hfind)
    have hid : o.base.observationId ∈ d.ids := by simpa using List.find?_some hfind
    refine ⟨d, hd, by rw [componentOf, hfind], (mem_ids hr hd ho).mp hid⟩

/-- The components of the seeds. -/
theorem selected_ok {order : List HealthComponent} {seeds : List MonitoringObservation}
    (horder : order.Perm (components request)) (hseeds : ∀ o ∈ seeds, IsCandidate request o) :
    ∃ selected, seeds.mapM (componentOf order) = .ok selected ∧
      ∀ c, c ∈ selected ↔ c ∈ components request ∧ ∃ o ∈ seeds, o ∈ c.span.members := by
  cases hmap : seeds.mapM (componentOf order) with
  | error message =>
    obtain ⟨earlier, o, later, hsplit, -, herror⟩ := mapM_error hmap
    obtain ⟨c, -, hok, -⟩ := componentOf_ok hr horder (hseeds o (by rw [hsplit]; simp))
    rw [herror] at hok
    cases hok
  | ok selected =>
    refine ⟨selected, rfl, fun c => ⟨fun hc => ?_, fun ⟨hc, o, ho, hmem⟩ => ?_⟩⟩
    · obtain ⟨o, ho, hok⟩ := mapM_ok_right hmap hc
      obtain ⟨d, hd, hok', hmem⟩ := componentOf_ok hr horder (hseeds o ho)
      rw [hok] at hok'
      cases hok'
      exact ⟨hd, o, ho, hmem⟩
    · obtain ⟨d, hd, hok⟩ := mapM_ok_left hmap ho
      obtain ⟨d', hd', hok', hmem'⟩ := componentOf_ok hr horder (hseeds o ho)
      rw [hok] at hok'
      cases hok'
      rwa [component_unique hr hc hd' hmem hmem']

/-! ## Growth -/

/-- What the selected components grow to. -/
abbrev Grown (order selected : List HealthComponent) : HealthComponent → Prop :=
  Reached HealthComponent.first HealthComponent.last order selected

/-- The selected components are those that have a cited member. -/
def IsSelection (request : CorrelationRequest) (selected : List HealthComponent) : Prop :=
  ∀ c, c ∈ selected ↔ c ∈ components request ∧ ∃ o ∈ c.span.members, o.base.observationId ∈
    request.incidentAnchor.currentStateEvidence.map fun e => e.evidenceId

variable {order selected : List HealthComponent} (horder : order.Perm (components request))
  (hselected : IsSelection request selected)
include horder hselected

omit hr in
theorem grown_component (h : Grown order selected c) : c ∈ components request := by
  cases h with
  | seed hseed => exact ((hselected c).mp hseed).1
  | touched _ _ hmem _ _ => exact horder.mem_iff.mp hmem

theorem grown_isSome (h : Grown order selected c) : ∃ o, o ∈ c.span.members := by
  obtain ⟨⟨o, ho, -⟩, -⟩ := component_bounds hr (grown_component horder hselected h)
  exact ⟨o, ho⟩

/-- The incident is what the selected components grow to. -/
theorem inIncident_iff : InIncident request o ↔ ∃ c, Grown order selected c ∧ o ∈ c.span.members := by
  constructor
  · intro h
    induction h with
    | cited hcandidate hid =>
      obtain ⟨c, hc, ho⟩ := exists_component hr hcandidate
      exact ⟨c, .seed ((hselected c).mpr ⟨hc, _, ho, hid⟩), ho⟩
    | chained _ hchain ih =>
      obtain ⟨c, hc, ha⟩ := ih
      exact ⟨c, hc, (sameChain_iff hr (grown_component horder hselected hc) ha).mp hchain⟩
    | touched _ _ hcandidate hp hq hfirst hlast iha ihb =>
      obtain ⟨ca, hca, ha⟩ := iha
      obtain ⟨cb, hcb, hb⟩ := ihb
      obtain ⟨c, hc, ho⟩ := exists_component hr hcandidate
      have hpc := (sameChain_iff hr hc ho).mp hp
      have hqc := (sameChain_iff hr hc ho).mp hq
      have hspana := component_isSpan hr (grown_component horder hselected hca)
      have hspanb := component_isSpan hr (grown_component horder hselected hcb)
      have hspan := component_isSpan hr hc
      refine ⟨c, .touched hca hcb (horder.mem_iff.mpr hc) ?_ ?_, ho⟩
      · exact (hspana.low _ ha).trans (hfirst.trans (hspan.high _ hpc))
      · exact (hspan.low _ hqc).trans (hlast.trans (hspanb.high _ hb))
  · rintro ⟨c, hc, ho⟩
    induction hc generalizing o with
    | seed hseed =>
      obtain ⟨hmem, o', ho', hid⟩ := (hselected _).mp hseed
      have hcited : InIncident request o' := .cited (component_members hr hmem ho').1 hid
      exact .chained hcited ((sameChain_iff hr hmem ho').mpr ho)
    | touched _ _ hmem hfirst hlast iha ihb =>
      rename_i ca cb c hca hcb
      have hc := horder.mem_iff.mp hmem
      obtain ⟨⟨a, ha, hafirst⟩, -⟩ := component_bounds hr (grown_component horder hselected hca)
      obtain ⟨-, b, hb, hblast⟩ := component_bounds hr (grown_component horder hselected hcb)
      obtain ⟨⟨q, hq, hqfirst⟩, p, hp, hplast⟩ := component_bounds hr hc
      refine .touched (iha ha) (ihb hb) (component_members hr hc ho).1
        ((sameChain_iff hr hc ho).mpr hp) ((sameChain_iff hr hc ho).mpr hq) ?_ ?_
      · rwa [hafirst, hplast]
      · rwa [hqfirst, hblast]

/-- No two grown components are of one stream exactly when the incident has one chain of each. -/
theorem collides_iff :
    ¬ Collides HealthComponent.first HealthComponent.last HealthComponent.stream order selected ↔
    ∀ a b, InIncident request a → InIncident request b → healthStreamKey a = healthStreamKey b →
      SameChain request a b := by
  constructor
  · intro hfree a b ha hb hkey
    obtain ⟨ca, hca, hac⟩ := (inIncident_iff hr horder hselected).mp ha
    obtain ⟨cb, hcb, hbc⟩ := (inIncident_iff hr horder hselected).mp hb
    have hmema := grown_component horder hselected hca
    have hmemb := grown_component horder hselected hcb
    have hstream : ca.stream = cb.stream := by
      rw [← (component_members hr hmema hac).2, hkey, (component_members hr hmemb hbc).2]
    have hsame : ca = cb := by
      by_contra hne
      exact hfree ⟨ca, cb, hca, hcb, hne, hstream⟩
    rw [sameChain_iff hr hmema hac, hsame]
    exact hbc
  · rintro hone ⟨ca, cb, hca, hcb, hne, hstream⟩
    obtain ⟨a, ha⟩ := grown_isSome hr horder hselected hca
    obtain ⟨b, hb⟩ := grown_isSome hr horder hselected hcb
    have hmema := grown_component horder hselected hca
    have hmemb := grown_component horder hselected hcb
    have hkey : healthStreamKey a = healthStreamKey b := by
      rw [(component_members hr hmema ha).2, hstream, (component_members hr hmemb hb).2]
    have hchain := hone a b ((inIncident_iff hr horder hselected).mpr ⟨ca, hca, ha⟩)
      ((inIncident_iff hr horder hselected).mpr ⟨cb, hcb, hb⟩) hkey
    exact hne (component_unique hr hmema hmemb ((sameChain_iff hr hmema ha).mp hchain) hb)

/-- The identifiers of the grown components are the cited ones exactly when those of the incident
are, and then nothing has grown. -/
theorem grown_eq_selected
    (hexact : ∀ id, (∃ o, InIncident request o ∧ o.base.observationId = id) →
      id ∈ request.incidentAnchor.currentStateEvidence.map fun e => e.evidenceId) :
    ∀ c, Grown order selected c ↔ c ∈ selected := by
  refine fun c => ⟨fun hc => ?_, .seed⟩
  obtain ⟨o, ho⟩ := grown_isSome hr horder hselected hc
  have hid := hexact o.base.observationId ⟨o, (inIncident_iff hr horder hselected).mpr ⟨c, hc, ho⟩, rfl⟩
  exact (hselected c).mpr ⟨grown_component horder hselected hc, o, ho, hid⟩

/-- Where nothing has grown, the selected components are linked exactly when the incident is. -/
theorem linked_iff_connected (hgrown : ∀ c, Grown order selected c ↔ c ∈ selected) :
    (∀ c ∈ selected, ∀ d ∈ selected,
      Linked HealthComponent.first HealthComponent.last (· ∈ selected) c d) ↔
    ∀ a b, InIncident request a → InIncident request b →
      Linked observedFrom observedTo (InIncident request) a b := by
  have hincident : ∀ {o}, InIncident request o ↔ ∃ c ∈ selected, o ∈ c.span.members := by
    intro o
    rw [inIncident_iff hr horder hselected]
    exact exists_congr fun c => and_congr_left fun _ => hgrown c
  have hmem : ∀ c ∈ selected, c ∈ components request := fun c hc => ((hselected c).mp hc).1
  have hwithin : ∀ c ∈ selected, ∀ a ∈ c.span.members, ∀ b ∈ c.span.members,
      Linked observedFrom observedTo (InIncident request) a b := by
    intro c hc a ha b hb
    -- every member of a chain from a selected component is in the incident
    have hchain := (component_isSpan hr (hmem c hc)).linked a ha b hb
    refine (hchain.stays (fun x => x ∈ c.span.members ∧
      Linked observedFrom observedTo (InIncident request) a x) ⟨ha, Relation.ReflTransGen.refl⟩
      fun x y hx hy hax htouch => ?_).2
    have hchain' : SameChain request x y := by
      rw [SameChain, hx.2]
      exact Linked.single hx hy htouch
    have hyc := (sameChain_iff hr (hmem c hc) hax.1).mp hchain'
    exact ⟨hyc, hax.2.tail ⟨hincident.mpr ⟨c, hc, hax.1⟩, hincident.mpr ⟨c, hc, hyc⟩, htouch⟩⟩
  constructor
  · intro hlinked a b ha hb
    obtain ⟨c, hc, hac⟩ := hincident.mp ha
    obtain ⟨d, hd, hbd⟩ := hincident.mp hb
    have hall : ∀ b ∈ d.span.members, Linked observedFrom observedTo (InIncident request) a b := by
      refine ((hlinked c hc d hd).stays (fun x => x ∈ selected ∧ ∀ b ∈ x.span.members,
        Linked observedFrom observedTo (InIncident request) a b) ⟨hc, hwithin c hc a hac⟩
        fun x y hx hy hax htouch => ⟨hy, fun z hz => ?_⟩).2
      obtain ⟨m, hm, n, hn, hmn⟩ := component_touching hr (hmem x hx) (hmem y hy) htouch
      have hstep : Linked observedFrom observedTo (InIncident request) m n :=
        Linked.single (hincident.mpr ⟨x, hx, hm⟩) (hincident.mpr ⟨y, hy, hn⟩) hmn
      exact ((hax.2 m hm).trans hstep).trans (hwithin y hy n hn z hz)
    exact hall b hbd
  · intro hconnected c hc d hd
    obtain ⟨⟨a, ha, -⟩, -⟩ := component_bounds hr (hmem c hc)
    obtain ⟨⟨b, hb, -⟩, -⟩ := component_bounds hr (hmem d hd)
    have hchain := hconnected a b (hincident.mpr ⟨c, hc, ha⟩) (hincident.mpr ⟨d, hd, hb⟩)
    obtain ⟨e, he, hbe, hce⟩ : ∃ e ∈ selected, b ∈ e.span.members ∧
        Linked HealthComponent.first HealthComponent.last (· ∈ selected) c e := by
      refine hchain.stays (fun x => ∃ e ∈ selected, x ∈ e.span.members ∧
        Linked HealthComponent.first HealthComponent.last (· ∈ selected) c e)
        ⟨c, hc, ha, Relation.ReflTransGen.refl⟩ fun x y _ hy hx htouch => ?_
      obtain ⟨e, he, hxe, hce⟩ := hx
      obtain ⟨f, hf, hyf⟩ := hincident.mp hy
      have hspane := component_isSpan hr (hmem e he)
      have hspanf := component_isSpan hr (hmem f hf)
      have hef : Touches HealthComponent.first HealthComponent.last e f :=
        ⟨(hspane.low x hxe).trans (htouch.1.trans (hspanf.high y hyf)),
          (hspanf.low y hyf).trans (htouch.2.trans (hspane.high x hxe))⟩
      exact ⟨f, hf, hyf, hce.tail ⟨he, hf, hef⟩⟩
    rwa [component_unique hr (hmem d hd) (hmem e he) hb hbe]

end Accepted

/-! ## The verdict -/

/-- The closing succeeds exactly when no two grown components are of one stream and their
identifiers are the cited ones. -/
theorem closeSelected_ok_iff {order selected : List HealthComponent} {start finish : UtcDateTime}
    (hsound : Sound HealthComponent.first HealthComponent.last HealthComponent.stream order selected
      ⟨selected, start, finish⟩) :
    closeSelected request order selected start finish = .ok () ↔
      ¬ Collides HealthComponent.first HealthComponent.last HealthComponent.stream order selected ∧
      ∀ id, (∃ c, Grown order selected c ∧ id ∈ c.ids) ↔
        id ∈ request.incidentAnchor.currentStateEvidence.map fun e => e.evidenceId := by
  have hids : ∀ hull : Hull HealthComponent UtcDateTime,
      (∀ c, c ∈ hull.selected ↔ Grown order selected c) →
      ((request.incidentAnchor.currentStateEvidence.map fun e => e.evidenceId).toFinset =
          (hull.selected.flatMap HealthComponent.ids).toFinset ↔
        ∀ id, (∃ c, Grown order selected c ∧ id ∈ c.ids) ↔
          id ∈ request.incidentAnchor.currentStateEvidence.map fun e => e.evidenceId) := by
    intro hull hhull
    rw [Finset.ext_iff]
    refine forall_congr' fun id => ?_
    rw [List.mem_toFinset, List.mem_toFinset, List.mem_flatMap]
    simp only [hhull]
    exact ⟨Iff.symm, Iff.symm⟩
  have hsucceeds := close_succeeds_iff hsound (Nat.lt_succ_self order.length)
  constructor
  · intro hok
    unfold closeSelected at hok
    split at hok
    · cases hok
    · cases hok
    · rename_i hull hclose
      split at hok
      · rename_i hequal
        have hhull := ((close_spec order (order.length + 1) _ hsound).1 hull hclose).2
        exact ⟨hsucceeds.mp ⟨hull, hclose, hhull⟩, (hids hull hhull).mp hequal⟩
      · cases hok
  · rintro ⟨hfree, hexact⟩
    obtain ⟨hull, hclose, hhull⟩ := hsucceeds.mpr hfree
    unfold closeSelected
    rw [hclose]
    exact if_pos ((hids hull hhull).mpr hexact)

/-- The hull of linked components of distinct streams is sound. -/
theorem sound_start {order selected rest : List HealthComponent} {finish : UtcDateTime}
    (hstreams : (selected.map HealthComponent.stream).Nodup)
    (hsort : sortOn (fun c : HealthComponent => toLex (c.first, c.last)) selected = c :: rest)
    (hsweep : sweep HealthComponent.first HealthComponent.last c.last rest = some finish) :
    Sound HealthComponent.first HealthComponent.last HealthComponent.stream order selected
      ⟨selected, c.first, finish⟩ := by
  have hmem : ∀ d, d ∈ selected ↔ d = c ∨ d ∈ rest := by
    intro d
    rw [← List.mem_cons, ← hsort, mem_sortOn]
  have hc : c ∈ selected := (hmem c).mpr (.inl rfl)
  have hhead : (sortOn (fun c : HealthComponent => toLex (c.first, c.last)) selected).head? = some c := by
    rw [hsort]
    rfl
  have hleast := (sortOn_head hhead).2
  obtain ⟨hle, hall, hattained⟩ := sweep_spec hsweep
  constructor
  · exact fun d hd => hd
  · exact fun d hd => .seed hd
  · exact hstreams
  · intro d hd
    exact (Prod.Lex.le_iff.mp (hleast d hd)).elim le_of_lt fun h => h.1.le
  · exact ⟨c, hc, rfl⟩
  · intro d hd
    rcases (hmem d).mp hd with rfl | hd
    · exact hle
    · exact hall d hd
  · rcases hattained with heq | ⟨d, hd, hlast⟩
    · exact ⟨c, hc, heq.symm⟩
    · exact ⟨d, (hmem d).mpr (.inr hd), hlast⟩

/-- The sweep over the sorted components succeeds exactly when they are linked. -/
theorem sweep_selected (hr : request.Accepted) {selected rest : List HealthComponent}
    (hmem : ∀ c ∈ selected, c ∈ components request)
    (hsort : sortOn (fun c : HealthComponent => toLex (c.first, c.last)) selected = c :: rest) :
    (sweep HealthComponent.first HealthComponent.last c.last rest).isSome = true ↔
      ∀ a ∈ selected, ∀ b ∈ selected,
        Linked HealthComponent.first HealthComponent.last (· ∈ selected) a b := by
  have hsame : ∀ d, d ∈ selected ↔ d ∈ [c] ++ rest := by
    intro d
    rw [List.singleton_append, ← hsort, mem_sortOn]
  have hsorted := sortOn_pairwise (fun c : HealthComponent => toLex (c.first, c.last)) selected
  rw [hsort] at hsorted
  obtain ⟨hfirst, hrest⟩ := List.pairwise_cons.mp hsorted
  have hstarts : ∀ {a b : HealthComponent}, toLex (a.first, a.last) ≤ toLex (b.first, b.last) →
      a.first ≤ b.first := fun h => (Prod.Lex.le_iff.mp h).elim le_of_lt fun h => h.1.le
  have hvalid : ∀ d ∈ [c] ++ rest, d ∈ selected ∧ d.first ≤ d.last := by
    intro d hd
    have hcomponent := hmem d ((hsame d).mpr hd)
    exact ⟨(hsame d).mpr hd, (component_isSpan hr hcomponent).ordered fun o ho =>
      candidate_interval hr (component_members hr hcomponent ho).1⟩
  have hsweep := sweep_isSome rest (.single HealthComponent.first HealthComponent.last c)
    (isSpan_single c) hvalid (fun d hd => (hsame d).mp hd) (fun d hd => hstarts (hfirst d hd))
    (hrest.imp hstarts)
  refine hsweep.trans (forall_congr' fun a => imp_congr (hsame a).symm ?_)
  exact forall_congr' fun b => imp_congr (hsame b).symm Iff.rfl

/-- In every order of the components, the verification accepts exactly the anchors that cite one
whole incident. -/
theorem anchorVerdict_ok_iff (hr : request.Accepted) {order : List HealthComponent}
    (horder : order.Perm (components request)) :
    anchorVerdict request order = .ok () ↔ CitesIncident request := by
  obtain ⟨seeds, hseedsOk, hseeds⟩ := seeds_ok hr
  obtain ⟨found, hfoundOk, hfound⟩ := selected_ok hr horder fun o ho => ((hseeds o).mp ho).1
  have hselected : IsSelection request found.dedup := by
    intro c
    rw [List.mem_dedup, hfound]
    refine and_congr_right fun hc => exists_congr fun o => ?_
    rw [hseeds o, and_comm]
    exact and_congr_right fun ho => and_iff_right (component_members hr hc ho).1
  have hmem : ∀ c ∈ found.dedup, c ∈ components request := fun c hc => ((hselected c).mp hc).1
  have hexactIff : (∀ id, (∃ c, Grown order found.dedup c ∧ id ∈ c.ids) ↔
        id ∈ request.incidentAnchor.currentStateEvidence.map fun e => e.evidenceId) ↔
      ∀ id, (∃ o, InIncident request o ∧ o.base.observationId = id) ↔
        id ∈ request.incidentAnchor.currentStateEvidence.map fun e => e.evidenceId := by
    refine forall_congr' fun id => iff_congr ⟨?_, ?_⟩ Iff.rfl
    · rintro ⟨c, hc, hid⟩
      obtain ⟨o, ho, rfl⟩ := List.mem_map.mp hid
      exact ⟨o, (inIncident_iff hr horder hselected).mpr ⟨c, hc, ho⟩, rfl⟩
    · rintro ⟨o, ho, rfl⟩
      obtain ⟨c, hc, hoc⟩ := (inIncident_iff hr horder hselected).mp ho
      exact ⟨c, hc, List.mem_map_of_mem hoc⟩
  have hverdict : anchorVerdict request order = .ok () ↔
      (found.dedup.map HealthComponent.stream).Nodup ∧
      ∃ c rest finish, sortOn (fun c : HealthComponent => toLex (c.first, c.last)) found.dedup =
          c :: rest ∧
        sweep HealthComponent.first HealthComponent.last c.last rest = some finish ∧
        closeSelected request order found.dedup c.first finish = .ok () := by
    unfold anchorVerdict
    rw [hseedsOk]
    dsimp only [bind, Except.bind]
    rw [hfoundOk]
    dsimp only
    rw [ite_error_ok_iff, not_not]
    refine and_congr_right fun _ => ?_
    cases hsort : sortOn (fun c : HealthComponent => toLex (c.first, c.last)) found.dedup with
    | nil => simp
    | cons c rest =>
      cases hsweep : sweep HealthComponent.first HealthComponent.last c.last rest with
      | none => simp [hsweep]
      | some finish => simp [hsweep]
  rw [hverdict]
  constructor
  · rintro ⟨hstreams, c, rest, finish, hsort, hsweep, hclose⟩
    obtain ⟨hfree, hids⟩ := (closeSelected_ok_iff (sound_start hstreams hsort hsweep)).mp hclose
    have hexact := hexactIff.mp hids
    have hgrown := grown_eq_selected hr horder hselected fun id h => (hexact id).mp h
    have hlinked := (sweep_selected hr hmem hsort).mp (by rw [hsweep]; rfl)
    exact ⟨(collides_iff hr horder hselected).mp hfree,
      (linked_iff_connected hr horder hselected hgrown).mp hlinked, hexact⟩
  · rintro ⟨hone, hconnected, hexact⟩
    have hfree := (collides_iff hr horder hselected).mpr hone
    have hgrown := grown_eq_selected hr horder hselected fun id h => (hexact id).mp h
    have hstreams : (found.dedup.map HealthComponent.stream).Nodup := by
      refine List.Nodup.map_on (fun a ha b hb hstream => ?_) (List.nodup_dedup found)
      by_contra hne
      exact hfree ⟨a, b, .seed ha, .seed hb, hne, hstream⟩
    have hlinked := (linked_iff_connected hr horder hselected hgrown).mpr hconnected
    cases hsort : sortOn (fun c : HealthComponent => toLex (c.first, c.last)) found.dedup with
    | nil =>
      exfalso
      obtain ⟨e, he⟩ := List.exists_mem_of_length_pos hr.transition.currentCount.1
      obtain ⟨o, ho, -⟩ := (hexact e.evidenceId).mpr (List.mem_map_of_mem he)
      obtain ⟨c, hc, -⟩ := (inIncident_iff hr horder hselected).mp ho
      have hempty := sortOn_eq_nil.mp hsort
      rw [hgrown c, hempty] at hc
      cases hc
    | cons c rest =>
      obtain ⟨finish, hsweep⟩ := Option.isSome_iff_exists.mp ((sweep_selected hr hmem hsort).mpr hlinked)
      refine ⟨hstreams, c, rest, finish, rfl, hsweep, ?_⟩
      exact (closeSelected_ok_iff (sound_start hstreams hsort hsweep)).mpr
        ⟨hfree, hexactIff.mpr hexact⟩

/-- The verification accepts exactly the anchors that cite one whole incident. It does so in
every order of the components, and the closing ends from every hull over every list of them. -/
theorem incident_anchor_complete (hr : request.Accepted) :
    (verifyCanonicalIncidentAnchor request = .ok () ↔ CitesIncident request) ∧
    (∀ order, order.Perm (components request) →
      (anchorVerdict request order = .ok () ↔ verifyCanonicalIncidentAnchor request = .ok ())) ∧
    ∀ (order : List HealthComponent) (hull : Hull HealthComponent UtcDateTime),
      (close HealthComponent.first HealthComponent.last HealthComponent.stream order
        (order.length + 1) hull).isSome = true := by
  have haccepts := anchorVerdict_ok_iff hr (List.Perm.refl (components request))
  refine ⟨haccepts, fun order horder => ?_, fun order hull => ?_⟩
  · exact (anchorVerdict_ok_iff hr horder).trans haccepts.symm
  · exact close_isSome order _ hull (Nat.lt_succ_of_le (missing_le order hull))

/-! ## An incident of two streams -/

open CorrelationConflicts

/-- Anchors over two streams that overlap, two with a gap between them, and the first stream alone. -/
inductive AnchorSample
  | linked | apart | short

/-- The second stream: the platform's report of the resource. -/
def AnchorSample.platform (sample : AnchorSample) : MonitoringObservation :=
  .platformHealth ⟨sampleBase "h1" sampleVm (match sample with | .apart => 5000 | _ => 3500) 6000,
    .resourceHealth, .unavailable, "event-1"⟩

/-- The first stream: two reports of the endpoint, of which the second starts where the first ends. -/
def AnchorSample.endpoints : List MonitoringObservation :=
  [.endpointHealth (sampleEndpoint "e1" .unavailable 2000 3000),
    .endpointHealth (sampleEndpoint "e2" .unavailable 3000 4000)]

/-- What the anchor cites as current state. -/
def AnchorSample.cited : AnchorSample → List MonitoringObservation
  | .short => endpoints
  | sample => endpoints ++ [sample.platform]

def anchorSample (sample : AnchorSample) : CorrelationRequest :=
  let healthy := MonitoringObservation.endpointHealth (sampleEndpoint "e0" .healthy 0 1000)
  let bare := sampleRequest .succeeded
  { bare with
    issuedAt := 6000
    trustedAsOf := 6000
    expiresAt := 7000
    incidentAnchor := ⟨sampleVm, .healthy, .unavailable, 2000, match sample with | .short => 4000 | _ => 6000,
      [bare.observationCitation healthy], sample.cited.map bare.observationCitation⟩
    monitoringBundle :=
      { sampleBundle with
        observedEnd := 6000
        observations := healthy :: AnchorSample.endpoints ++ [sample.platform] }
    changeArtifacts := [] }

theorem anchorSample_bundle (sample : AnchorSample) : (anchorSample sample).monitoringBundle.Valid where
  interval := by cases sample <;> decide
  observations := List.forall_mem_cons.mpr ⟨sampleEndpoint_valid _ _ (by decide),
    List.forall_mem_cons.mpr ⟨sampleEndpoint_valid _ _ (by decide),
      List.forall_mem_cons.mpr ⟨sampleEndpoint_valid _ _ (by decide),
        List.forall_mem_singleton.mpr ⟨canonical_vm, by cases sample <;> decide⟩⟩⟩⟩
  observationOrder := by cases sample <;> decide
  observationCount := by cases sample <;> decide
  coverage := List.forall_mem_singleton.mpr sampleCoverage_valid
  coverageOrder := List.pairwise_singleton _ _
  coverageCount := ⟨le_refl 1, Nat.le_add_left 1 99⟩
  contained := by cases sample <;> decide
  coverageContained := by cases sample <;> decide
  provenance := by cases sample <;> decide

theorem anchorSample_transition (sample : AnchorSample) : (anchorSample sample).incidentAnchor.Valid where
  resource := canonical_vm
  changed := nofun
  previousOrder := List.pairwise_singleton _ _
  currentOrder := by cases sample <;> decide
  previousCount := ⟨le_refl 1, Nat.le_add_left 1 31⟩
  currentCount := by cases sample <;> decide
  separate := by cases sample <;> decide
  start := by cases sample <;> decide
  finish := by cases sample <;> decide
  interval := by cases sample <;> decide
  onset := by cases sample <;> decide
  affected := by cases sample <;> decide

/-- The sample requests pass their validators. -/
theorem anchorSample_accepted (sample : AnchorSample) : (anchorSample sample).Accepted where
  window := by cases sample <;> decide
  bundle := anchorSample_bundle sample
  transition := anchorSample_transition sample
  notNewer := by cases sample <;> decide
  changes := nofun
  changeOrder := List.Pairwise.nil
  changeCount := Nat.zero_le 256
  changesNotNewer := nofun
  attribution := by cases sample <;> decide
  indexIds := by cases sample <;> decide
  indexCount := by cases sample <;> decide
  indexResources := by cases sample <;> decide
  incidentEvidence := by cases sample <;> decide
  previousHealth := by cases sample <;> decide
  currentHealth := by cases sample <;> decide
  pathOrder := List.pairwise_singleton _ _
  pathCount := ⟨le_refl 1, Nat.le_add_left 1 255⟩
  pathResources := by cases sample <;> decide
  governed := by cases sample <;> decide
  coverageGoverned := by cases sample <;> decide

/-- The endpoint's reports and the platform's, which touches their hull, are one incident. An anchor
over both streams cites it, one over the first stream alone does not, nor do streams with a gap
between them. -/
theorem incident_anchor_complete_sample :
    CitesIncident (anchorSample .linked) ∧ ¬ CitesIncident (anchorSample .short) ∧
      ¬ CitesIncident (anchorSample .apart) := by
  have hlinked : verifyCanonicalIncidentAnchor (anchorSample .linked) = .ok () := by decide +kernel
  have hshort : verifyCanonicalIncidentAnchor (anchorSample .short) = .error incomplete := by
    decide +kernel
  have hapart : verifyCanonicalIncidentAnchor (anchorSample .apart) = .error disconnected := by
    decide +kernel
  refine ⟨(incident_anchor_complete (anchorSample_accepted _)).1.mp hlinked, fun h => ?_, fun h => ?_⟩
  · cases hshort.symm.trans ((incident_anchor_complete (anchorSample_accepted .short)).1.mpr h)
  · cases hapart.symm.trans ((incident_anchor_complete (anchorSample_accepted .apart)).1.mpr h)

end AthenaContext.IncidentAnchors
