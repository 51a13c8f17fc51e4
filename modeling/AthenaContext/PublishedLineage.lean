import AthenaContext.ContextCalls
import AthenaContext.LinearLineages

/-!
# The lineage of the published versions

In every store that calls reach, the published versions of a workload form one chain by
their previous versions. Lineage is checked against the store of the moment when a draft
is created, replaced and published; only the check at publication carries the invariant,
and a supersession closes the older of two open versions.
-/

namespace AthenaContext.PublishedLineage

open ContextRecords ContextStorage ContextMutations ContextTransitions ContextCalls
open Dictionaries LinearLineages OrdinalCollections
open ContextMutations.ContextService

variable {γ δ R : Type} {S : ContextService γ δ R} {s t : Store γ δ R}

/-- Published versions are named by their version, and name their previous version. -/
def versionNaming {M : Type} : Naming (PublishedManifest M) ManifestVersion (ℕ ×ₗ ℕ ×ₗ ℕ) where
  name published := published.manifestVersion
  parent published := published.previousVersion
  key := ManifestVersion.versionKey

/-- A published version of the workload has a supersession. -/
def IsSuperseded (s : Store γ δ R) (manifestId : String)
    (published : PublishedManifest (Manifest γ)) : Prop :=
  s.supersessions.get? (manifestId, published.manifestVersion) ≠ none

instance (s : Store γ δ R) (manifestId : String) :
    DecidablePred (IsSuperseded s manifestId) := fun published => by
  unfold IsSuperseded
  cases h : s.supersessions.get? (manifestId, published.manifestVersion) with
  | none => exact .isFalse (by simp)
  | some relation => exact .isTrue (by simp)

/-- A stored supersession relates a published version to a direct successor, and the
draft behind the superseded version is closed. -/
def SupersessionHolds (s : Store γ δ R) (manifestId : String) (version : ManifestVersion)
    (relation : Supersession) : Prop :=
  relation.manifestId = manifestId ∧ relation.supersededVersion = version ∧
    ∃ old new source, s.published.get? (manifestId, version) = some old ∧
      s.published.get? (manifestId, relation.replacementVersion) = some new ∧
      new.previousVersion = some version ∧
      s.drafts.get? old.sourceDraftId = some source ∧ source.state = .superseded

/-- What the records of the lifecycle keep about the lineage of every workload. -/
structure LineageInvariant (s : Store γ δ R) : Prop where
  drafts_keyed : ∀ draftId draft, s.drafts.get? draftId = some draft → draft.draftId = draftId
  published_keyed : ∀ key published, s.published.get? key = some published →
    key = (published.manifestId, published.manifestVersion)
  frontier : ∀ manifestId, ∃ front active, s.listPublished manifestId = front ++ active ∧
    Frontier versionNaming (IsSuperseded s manifestId) front active
  supersession : ∀ manifestId version relation,
    s.supersessions.get? (manifestId, version) = some relation →
      SupersessionHolds s manifestId version relation

/-! ## The listing -/

theorem mem_listPublished {manifestId : String} {published : PublishedManifest (Manifest γ)}
    (hkeyed : ∀ key published, s.published.get? key = some published →
      key = (published.manifestId, published.manifestVersion)) :
    published ∈ s.listPublished manifestId ↔
      s.published.get? (manifestId, published.manifestVersion) = some published := by
  have hlisted : published ∈ s.listPublished manifestId ↔
      published ∈ s.published.values ∧ published.manifestId = manifestId := by
    simp [ContextStore.listPublished]
  rw [hlisted, Dictionary.mem_values]
  constructor
  · rintro ⟨⟨key, hk⟩, rfl⟩
    rw [hkeyed key published hk] at hk
    exact hk
  · intro h
    have hk := hkeyed _ published h
    exact ⟨⟨_, h⟩, (Prod.mk.inj hk).1.symm⟩

theorem listPublished_congr (h : t.published = s.published) (manifestId : String) :
    t.listPublished manifestId = s.listPublished manifestId := by
  simp [ContextStore.listPublished, h]

/-- The open tail of the frontier is what the service lists as active. -/
theorem activeVersions_eq {manifestId : String} {front active : List (PublishedManifest (Manifest γ))}
    (hlist : s.listPublished manifestId = front ++ active)
    (hfrontier : Frontier versionNaming (IsSuperseded s manifestId) front active) :
    activeVersions s manifestId = active := by
  have hfilter := hfrontier.filter_open
  rw [← hlist] at hfilter
  rw [← hfilter, activeVersions]
  refine List.filter_congr fun published _ => ?_
  simp [IsSuperseded]

/-! ## Steps that leave the versions alone -/

theorem SupersessionHolds.mono {manifestId : String} {version : ManifestVersion}
    {relation : Supersession} (h : SupersessionHolds s manifestId version relation)
    (hpublished : ∀ key published, s.published.get? key = some published →
      t.published.get? key = some published)
    (hdrafts : ∀ draftId draft, s.drafts.get? draftId = some draft → draft.state = .superseded →
      t.drafts.get? draftId = some draft) :
    SupersessionHolds t manifestId version relation := by
  obtain ⟨hid, hversion, old, new, source, hold, hnew, hprevious, hsource, hstate⟩ := h
  exact ⟨hid, hversion, old, new, source, hpublished _ _ hold, hpublished _ _ hnew, hprevious,
    hdrafts _ _ hsource hstate, hstate⟩

/-- Versions and supersessions stay, and closed drafts stay closed. -/
theorem LineageInvariant.of_drafts (h : LineageInvariant s)
    (hpublished : t.published = s.published) (hsupersessions : t.supersessions = s.supersessions)
    (hkeyed : ∀ draftId draft, t.drafts.get? draftId = some draft → draft.draftId = draftId)
    (hclosed : ∀ draftId draft, s.drafts.get? draftId = some draft →
      draft.state = .superseded → t.drafts.get? draftId = some draft) :
    LineageInvariant t where
  drafts_keyed := hkeyed
  published_keyed := hpublished ▸ h.published_keyed
  frontier := by
    intro manifestId
    obtain ⟨front, active, hlist, hfrontier⟩ := h.frontier manifestId
    refine ⟨front, active, ?_, ?_⟩
    · rw [listPublished_congr hpublished, hlist]
    · have hsame : IsSuperseded t manifestId = IsSuperseded s manifestId := by
        unfold IsSuperseded
        rw [hsupersessions]
      exact hsame ▸ hfrontier
  supersession := by
    intro manifestId version relation hrelation
    rw [hsupersessions] at hrelation
    exact (h.supersession manifestId version relation hrelation).mono
      (fun key published hp => hpublished ▸ hp) hclosed

/-- Writing over a draft that is not closed keeps the closed ones. -/
theorem closed_set {drafts : Dictionary String (Draft γ)} {draftId : String}
    (h : ∀ current, drafts.get? draftId = some current → current.state ≠ .superseded)
    (draft : Draft γ) : ∀ key found, drafts.get? key = some found → found.state = .superseded →
      (drafts.set draftId draft).get? key = some found := by
  intro key found hfound hstate
  have hne : key ≠ draftId := by
    rintro rfl
    exact h found hfound hstate
  rw [Dictionary.get?_set_of_ne hne]
  exact hfound

/-! ## Publication and supersession -/

/-- What `_ensure_lineage` admits: a root where nothing is active, or a successor of the
one active version. -/
theorem ensureLineage_ok {manifestId : String} {version : ManifestVersion}
    {previous : Option ManifestVersion}
    (h : ensureLineage s manifestId version previous = .ok ()) :
    (activeVersions s manifestId).length ≤ 1 ∧
      (activeVersions s manifestId = [] → previous = none) ∧
      ∀ current, activeVersions s manifestId = [current] →
        previous = some current.manifestVersion ∧
          current.manifestVersion.versionKey < version.versionKey := by
  unfold ensureLineage at h
  cases hactive : activeVersions s manifestId with
  | nil =>
    rw [hactive] at h
    have hprevious : previous = none := by
      by_contra hne
      simp [hne] at h
    exact ⟨by simp, fun _ => hprevious, by simp⟩
  | cons current rest =>
    cases rest with
    | nil =>
      rw [hactive] at h
      dsimp only at h
      split at h
      · cases h
      · rename_i hprevious
        split at h
        · cases h
        · rename_i hkey
          refine ⟨by simp, by simp, fun c hc => ?_⟩
          have hc : c = current := by simpa using hc.symm
          subst hc
          exact ⟨not_not.mp hprevious, not_le.mp hkey⟩
    | cons second others =>
      rw [hactive] at h
      cases h

theorem published_step (h : LineageInvariant s) {current : Draft γ} {actor : Actor}
    {command : PublishCommand} {candidate : PublicationCandidate} {approval : ApprovalDecision}
    {receipt : OperationalContextReceipt} {now : Timestamp}
    (stored : s.drafts.get? current.draftId = some current) (state : current.state = .approved)
    (free : s.published.get? (current.manifestId, current.manifest.manifestVersion) = none)
    (lineage : ensureLineage s current.manifestId current.manifest.manifestVersion
      current.previousVersion = .ok ())
    (writes : Writes S s t
      (s.drafts.set current.draftId (closedDraft .published actor current command.reason now))
      (s.published.set (current.manifestId, current.manifest.manifestVersion)
        (S.publishedVersion actor current command candidate approval receipt now))
      s.supersessions) :
    LineageInvariant t := by
  have hgrow : ∀ key published, s.published.get? key = some published →
      t.published.get? key = some published := by
    intro key published hp
    rw [writes.published_eq, Dictionary.get?_set_of_ne]
    · exact hp
    · rintro rfl
      rw [free] at hp
      cases hp
  have hopen : ∀ found, s.drafts.get? current.draftId = some found →
      found.state ≠ .superseded := by
    intro found hfound
    have he : current = found := Option.some.inj (stored.symm.trans hfound)
    simp [← he, state]
  have hclosed := closed_set hopen (closedDraft .published actor current command.reason now)
  refine ⟨?_, ?_, ?_, ?_⟩
  · rw [writes.drafts_eq]
    exact keyed_set h.drafts_keyed rfl
  · intro key published hp
    rw [writes.published_eq, Dictionary.get?_set] at hp
    split at hp
    · rename_i hk
      rw [hk, ← Option.some.inj hp]
      rfl
    · exact h.published_keyed key published hp
  · intro manifestId
    obtain ⟨front, active, hlist, hfrontier⟩ := h.frontier manifestId
    have hsame : IsSuperseded t manifestId = IsSuperseded s manifestId := by
      unfold IsSuperseded
      rw [writes.supersessions_eq]
    rw [hsame]
    have hvalues : t.published.values = s.published.values ++
        [S.publishedVersion actor current command candidate approval receipt now] := by
      rw [writes.published_eq, Dictionary.values_set_new free]
    by_cases hm : current.manifestId = manifestId
    · subst hm
      obtain ⟨hshort, hroot, hnext⟩ := ensureLineage_ok lineage
      rw [activeVersions_eq hlist hfrontier] at hshort hroot hnext
      have hopen : ¬ IsSuperseded s current.manifestId
          (S.publishedVersion actor current command candidate approval receipt now) := by
        unfold IsSuperseded
        cases hr : s.supersessions.get? (current.manifestId,
            (S.publishedVersion actor current command candidate approval receipt
              now).manifestVersion) with
        | none => simp
        | some relation =>
          obtain ⟨_, _, old, _, _, hold, _⟩ := h.supersession _ _ _ hr
          have hnone : s.published.get? (current.manifestId,
            (S.publishedVersion actor current command candidate approval receipt
              now).manifestVersion) = none := free
          rw [hnone] at hold
          cases hold
      have hextended := hfrontier.extend hopen hshort hroot hnext
      refine ⟨front, _, ?_, hextended⟩
      have hsorted := hextended.linear.pairwise
      rw [← List.append_assoc, ← hlist] at hsorted
      have hmax := (List.pairwise_append.mp hsorted).2.2
      have hle : ∀ p ∈ s.published.values.filter fun p => p.manifestId = current.manifestId,
          p.manifestVersion.versionKey ≤ (S.publishedVersion actor current command candidate
            approval receipt now).manifestVersion.versionKey := by
        intro p hp
        exact (hmax p (mem_sortOn.mpr hp) _ List.mem_cons_self).le
      rw [← List.append_assoc, ← hlist, ContextStore.listPublished, hvalues, List.filter_append]
      have hone : [S.publishedVersion actor current command candidate approval receipt
          now].filter (fun p => p.manifestId = current.manifestId) =
          [S.publishedVersion actor current command candidate approval receipt now] := by
        simp [publishedVersion]
      rw [hone]
      exact sortOn_append hle
    · refine ⟨front, active, ?_, hfrontier⟩
      rw [← hlist, ContextStore.listPublished, hvalues, List.filter_append]
      have hnone : [S.publishedVersion actor current command candidate approval receipt
          now].filter (fun p => p.manifestId = manifestId) = [] := by
        simp [publishedVersion, hm]
      rw [hnone, List.append_nil]
      rfl
  · intro manifestId version relation hrelation
    rw [writes.supersessions_eq] at hrelation
    exact (h.supersession manifestId version relation hrelation).mono hgrow
      (writes.drafts_eq ▸ hclosed)

theorem superseded_step (h : LineageInvariant s) {actor : Actor} {manifestId : String}
    {supersededVersion replacementVersion : ManifestVersion}
    {published replacement : PublishedManifest (Manifest γ)} {source : Draft γ}
    {reason : String} {relation : Supersession} {now : Timestamp}
    (stored : s.published.get? (manifestId, supersededVersion) = some published)
    (sourceStored : s.drafts.get? published.sourceDraftId = some source)
    (state : source.state = .published)
    (unsuperseded : s.supersessions.get? (manifestId, supersededVersion) = none)
    (replacementStored : s.published.get? (manifestId, replacementVersion) = some replacement)
    (successor : replacement.previousVersion = some supersededVersion)
    (relates : relation.manifestId = manifestId ∧
      relation.supersededVersion = supersededVersion ∧
      relation.replacementVersion = replacement.manifestVersion)
    (writes : Writes S s t
      (s.drafts.set source.draftId (closedDraft .superseded actor source reason now))
      s.published (s.supersessions.set (manifestId, supersededVersion) relation)) :
    LineageInvariant t := by
  have hsource : source.draftId = published.sourceDraftId :=
    h.drafts_keyed _ _ sourceStored
  have hversion : published.manifestVersion = supersededVersion :=
    (Prod.mk.inj (h.published_keyed _ _ stored)).2.symm
  have hreplacement : replacement.manifestVersion = replacementVersion :=
    (Prod.mk.inj (h.published_keyed _ _ replacementStored)).2.symm
  have hopen : ∀ found, s.drafts.get? source.draftId = some found →
      found.state ≠ .superseded := by
    intro found hfound
    rw [hsource, sourceStored] at hfound
    simp [← Option.some.inj hfound, state]
  have hclosed := closed_set hopen (closedDraft .superseded actor source reason now)
  refine ⟨?_, ?_, ?_, ?_⟩
  · rw [writes.drafts_eq]
    exact keyed_set h.drafts_keyed rfl
  · rw [writes.published_eq]
    exact h.published_keyed
  · intro other
    obtain ⟨front, active, hlist, hfrontier⟩ := h.frontier other
    have hlist' : t.listPublished other = front ++ active := by
      rw [listPublished_congr writes.published_eq, hlist]
    by_cases hm : other = manifestId
    · subst hm
      have hold : published ∈ front ++ active := by
        rw [← hlist]
        exact (mem_listPublished h.published_keyed).mpr (hversion.symm ▸ stored)
      have hnew : replacement ∈ front ++ active := by
        rw [← hlist]
        exact (mem_listPublished h.published_keyed).mpr (hreplacement.symm ▸ replacementStored)
      have hopen : ¬ IsSuperseded s other published := by
        simp [IsSuperseded, hversion, unsuperseded]
      have hparent : replacement.previousVersion = some published.manifestVersion := by
        rw [successor, hversion]
      have hiff : ∀ p ∈ front ++ active,
          IsSuperseded t other p ↔ IsSuperseded s other p ∨ p = published := by
        intro p hp
        unfold IsSuperseded
        rw [writes.supersessions_eq, Dictionary.get?_set]
        by_cases hv : p.manifestVersion = supersededVersion
        · have hpp : s.published.get? (other, p.manifestVersion) = some p :=
            (mem_listPublished h.published_keyed).mp (hlist ▸ hp)
          rw [hv, stored] at hpp
          have he : p = published := (Option.some.inj hpp).symm
          simp [he, hversion]
        · have hne : p ≠ published := by
            rintro rfl
            exact hv hversion
          simp [hv, hne]
      have hnext := hfrontier.close hold hopen hnew hparent hiff
      have hactive := hfrontier.active_eq hold hopen hnew hparent
      refine ⟨_, _, ?_, hnext⟩
      rw [hlist', hactive]
      simp
    · refine ⟨front, active, hlist', ?_⟩
      have hsame : IsSuperseded t other = IsSuperseded s other := by
        funext p
        unfold IsSuperseded
        rw [writes.supersessions_eq, Dictionary.get?_set_of_ne]
        intro he
        exact hm (Prod.mk.inj he).1
      exact hsame ▸ hfrontier
  · intro other version found hfound
    rw [writes.supersessions_eq, Dictionary.get?_set] at hfound
    split at hfound
    · rename_i hk
      obtain ⟨hm, hv⟩ := Prod.mk.inj hk
      subst hm hv
      have hrelation := Option.some.inj hfound
      subst hrelation
      refine ⟨relates.1, relates.2.1, published, replacement,
        closedDraft .superseded actor source reason now, ?_, ?_, successor, ?_, rfl⟩
      · rw [writes.published_eq]
        exact stored
      · rw [writes.published_eq, relates.2.2, hreplacement]
        exact replacementStored
      · rw [writes.drafts_eq, ← hsource]
        exact Dictionary.get?_set_self
    · exact (h.supersession other version found hfound).mono
        (fun key p hp => writes.published_eq ▸ hp) (writes.drafts_eq ▸ hclosed)

/-! ## Every reachable store -/

theorem LineageInvariant.step (h : LineageInvariant s) (hstep : LifecycleStep S s t) :
    LineageInvariant t := by
  cases hstep with
  | created actor command now fresh digest writes =>
    refine h.of_drafts writes.published_eq writes.supersessions_eq ?_ ?_
    · rw [writes.drafts_eq]
      exact keyed_set h.drafts_keyed rfl
    · rw [writes.drafts_eq]
      refine closed_set ?_ _
      intro found hfound
      rw [fresh] at hfound
      cases hfound
  | changed draftId current updated stored change writes =>
    have hid := h.drafts_keyed _ _ stored
    refine h.of_drafts writes.published_eq writes.supersessions_eq ?_ ?_
    · rw [writes.drafts_eq]
      exact keyed_set h.drafts_keyed change.draftId_eq
    · rw [writes.drafts_eq]
      refine closed_set ?_ _
      intro found hfound
      rw [hid, stored] at hfound
      exact Option.some.inj hfound ▸ change.not_superseded
  | published draftId current actor command candidate approval receipt now stored state
      isCandidate authoritative receiptStored authorizes free lineage writes =>
    have hid := h.drafts_keyed _ _ stored
    exact published_step h (hid.symm ▸ stored) state free lineage writes
  | superseded actor manifestId supersededVersion replacementVersion published replacement
      source reason relation now stored sourceStored state unsuperseded replacementStored
      successor relates writes =>
    exact superseded_step h stored sourceStored state unsuperseded replacementStored successor
      relates writes
  | receiptIssued receipt fresh issued =>
    subst issued
    exact h.of_drafts rfl rfl h.drafts_keyed fun _ _ hd _ => hd
  | unchanged drafts_eq published_eq supersessions_eq operational_eq =>
    exact h.of_drafts published_eq supersessions_eq (drafts_eq ▸ h.drafts_keyed)
      fun _ _ hd _ => drafts_eq ▸ hd

theorem lineageInvariant_empty (others : R) :
    LineageInvariant (ContextStore.empty others : Store γ δ R) where
  drafts_keyed := by
    intro _ _ hd
    cases hd
  published_keyed := by
    intro _ _ hp
    cases hp
  frontier := by
    intro manifestId
    exact ⟨[], [], rfl, .nil, by simp, by simp, by simp, fun _ => rfl⟩
  supersession := by
    intro _ _ _ hr
    cases hr

/-- Every reachable store keeps the lineage. -/
theorem lineageInvariant (h : (contextSystem S).Reachable s) : LineageInvariant s := by
  refine lifecycle_invariant lineageInvariant_empty ?_ (fun _ _ hs => hs.step) h
  intro s t hsame hs
  exact hs.of_drafts hsame.published_eq hsame.supersessions_eq
    (hsame.drafts_eq ▸ hs.drafts_keyed) fun _ _ hd _ => hsame.drafts_eq ▸ hd

/-- In every store that calls reach, the published versions of a workload form one chain
by previous version with strictly increasing keys and one root. Some version is
unsuperseded as soon as one is published, at most two are, and of two the newer names the
older as its previous version. Each version is superseded at most once, by its direct
successor, and the draft it was published from is then in the state superseded. -/
theorem published_lineage_linear (h : (contextSystem S).Reachable s) (manifestId : String) :
    Linear versionNaming (s.listPublished manifestId) ∧
    (∀ published ∈ s.listPublished manifestId, published.previousVersion = none ↔
      (s.listPublished manifestId).head? = some published) ∧
    (s.listPublished manifestId ≠ [] → activeVersions s manifestId ≠ []) ∧
    (activeVersions s manifestId).length ≤ 2 ∧
    (∀ older newer, activeVersions s manifestId = [older, newer] →
      newer.previousVersion = some older.manifestVersion) ∧
    (∀ relation ∈ s.supersessions.values, relation.manifestId = manifestId →
      ∃ old ∈ s.listPublished manifestId, ∃ new ∈ s.listPublished manifestId,
        old.manifestVersion = relation.supersededVersion ∧
        new.manifestVersion = relation.replacementVersion ∧
        new.previousVersion = some old.manifestVersion ∧
        ∃ source, s.drafts.get? old.sourceDraftId = some source ∧
          source.state = .superseded) ∧
    (∀ relation ∈ s.supersessions.values, ∀ relation' ∈ s.supersessions.values,
      relation.manifestId = relation'.manifestId →
      relation.supersededVersion = relation'.supersededVersion → relation = relation') := by
  have hinv := lineageInvariant h
  obtain ⟨front, active, hlist, hfrontier⟩ := hinv.frontier manifestId
  have hactive := activeVersions_eq hlist hfrontier
  have hlinear : Linear versionNaming (s.listPublished manifestId) := hlist ▸ hfrontier.linear
  have hkey : ∀ relation ∈ s.supersessions.values,
      s.supersessions.get? (relation.manifestId, relation.supersededVersion) =
        some relation := by
    intro relation hr
    obtain ⟨key, hk⟩ := Dictionary.mem_values.mp hr
    obtain ⟨hm, hv, _⟩ := hinv.supersession key.1 key.2 relation hk
    rw [hm, hv]
    exact hk
  refine ⟨hlinear, fun published hp => hlinear.parent_eq_none_iff hp, ?_, ?_, ?_, ?_, ?_⟩
  · intro hne he
    rw [hactive] at he
    rw [hlist, he, hfrontier.live he] at hne
    exact hne rfl
  · rw [hactive]
    exact hfrontier.short
  · intro older newer he
    have hchain := hfrontier.linear.chain
    rw [hactive] at he
    rw [he, List.isChain_append] at hchain
    exact (List.isChain_cons_cons.mp hchain.2.1).1.1
  · rintro relation hr rfl
    obtain ⟨_, _, old, new, source, hold, hnew, hprevious, hsource, hstate⟩ :=
      hinv.supersession _ _ _ (hkey relation hr)
    have holdVersion := (Prod.mk.inj (hinv.published_keyed _ _ hold)).2
    have hnewVersion := (Prod.mk.inj (hinv.published_keyed _ _ hnew)).2
    refine ⟨old, ?_, new, ?_, holdVersion.symm, hnewVersion.symm, ?_, source, hsource, hstate⟩
    · exact (mem_listPublished hinv.published_keyed).mpr (holdVersion ▸ hold)
    · exact (mem_listPublished hinv.published_keyed).mpr (hnewVersion ▸ hnew)
    · rw [hprevious, holdVersion]
  · intro relation hr relation' hr' hm hv
    have hk := hkey relation hr
    rw [hm, hv, hkey relation' hr'] at hk
    exact (Option.some.inj hk).symm

/-- The store after two releases of `orders`. -/
def releasedOrders : Store ℕ ℕ Unit := runEvents plainService (.empty ()) ordersReleases

theorem published_lineage_linear_orders :
    (releasedOrders.listPublished "orders").map (·.manifestVersion) = [⟨1, 0, 0⟩, ⟨1, 1, 0⟩] ∧
      releasedOrders.supersessions.values.length = 1 ∧
      Linear versionNaming (releasedOrders.listPublished "orders") ∧
      (activeVersions releasedOrders "orders").length ≤ 2 := by
  have h := published_lineage_linear
    (reachable_runEvents _ (.start ⟨(), rfl⟩) : (contextSystem plainService).Reachable releasedOrders)
    "orders"
  exact ⟨by decide +kernel, by decide +kernel, h.1, h.2.2.2.1⟩

end AthenaContext.PublishedLineage
