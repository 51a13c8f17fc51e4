import AthenaContext.TransitionSystems
import Mathlib

/-!
# Staged deliveries

A protocol that delivers changes of one Boolean value: a change is staged, sent
at least once, then completed, and only then is the next change staged. The
protocol is an acceptor of event lists over any type of requests. What was
staged alternates; what was sent is what was staged, up to repeats and to a last
request that is not yet sent.
-/

namespace AthenaContext.StagedDelivery

open TransitionSystems

variable {ρ : Type} [DecidableEq ρ]

/-- What happens to one delivered value. -/
inductive Event (ρ : Type)
  | baseline
  | staged (request : ρ)
  | sent (request : ρ)
  | completed (request : ρ)
  deriving DecidableEq, Repr

/-- The committed value, and the staged request with whether it was sent. -/
structure Progress (ρ : Type) where
  committed : Option Bool
  pending : Option (ρ × Bool)
  deriving DecidableEq, Repr

/-- One event of the protocol; `none` refuses it. -/
def Progress.next (value : ρ → Bool) (p : Progress ρ) : Event ρ → Option (Progress ρ)
  | .baseline =>
    if p.pending.isNone ∧ p.committed.isNone then some ⟨some true, none⟩ else none
  | .staged r =>
    if p.pending.isNone ∧ value r ≠ p.committed.getD true then some ⟨p.committed, some (r, false)⟩
    else none
  | .sent r =>
    match p.pending with
    | some (q, _) => if q = r then some ⟨p.committed, some (r, true)⟩ else none
    | none => none
  | .completed r =>
    match p.pending with
    | some (q, true) => if q = r then some ⟨some (value r), none⟩ else none
    | _ => none

/-- The state after a list of events, when the protocol accepts it. -/
def accepts (value : ρ → Bool) (start : Progress ρ) (events : List (Event ρ)) :
    Option (Progress ρ) :=
  runSteps (Progress.next value) start events

/-- The requests staged in a list of events. -/
def stagedIn (events : List (Event ρ)) : List ρ :=
  events.filterMap fun e => match e with
    | .staged r => some r
    | _ => none

/-- The requests sent in a list of events. -/
def sentIn (events : List (Event ρ)) : List ρ :=
  events.filterMap fun e => match e with
    | .sent r => some r
    | _ => none

/-- The value after a list of events: that of the last completed request. -/
def committedBy (value : ρ → Bool) (start : Option Bool) (events : List (Event ρ)) :
    Option Bool :=
  events.foldl (fun committed e => match e with
    | .baseline => some true
    | .completed r => some (value r)
    | _ => committed) start

/-- Values that alternate between two, the first one first. -/
def Alternates {α : Type} (x y : α) : List α → Prop
  | [] => True
  | a :: rest => a = x ∧ Alternates y x rest

/-- Removal of repeats, for a notion of what repeats the kept requests. -/
def dropRepeats (repeats : List ρ → ρ → Bool) (requests : List ρ) : List ρ :=
  requests.foldl (fun kept r => if repeats kept r then kept else kept ++ [r]) []

section Alternation

variable {α β : Type}

theorem Alternates.map {x y : α} (f : α → β) {l : List α} (h : Alternates x y l) :
    Alternates (f x) (f y) (l.map f) := by
  induction l generalizing x y with
  | nil => trivial
  | cons a rest ih =>
    obtain ⟨rfl, hrest⟩ := h
    exact ⟨rfl, ih hrest⟩

/-- Neighbours in an alternating list differ. -/
theorem Alternates.adjacent {x y a b : α} {l m : List α} (hxy : x ≠ y)
    (h : Alternates x y (l ++ a :: b :: m)) : a ≠ b := by
  induction l generalizing x y with
  | nil =>
    obtain ⟨rfl, rfl, -⟩ := h
    exact hxy
  | cons c rest ih => exact ih hxy.symm h.2

/-- An alternating list of truth values goes on with the opposite of its last. -/
theorem alternates_append {b c : Bool} {l : List Bool} :
    Alternates b (!b) (l ++ [c]) ↔ Alternates b (!b) l ∧ c = !(l.getLast?.getD (!b)) := by
  induction l generalizing b with
  | nil => simp [Alternates]
  | cons a rest ih =>
    have hstep : Alternates (!b) b (rest ++ [c]) ↔
        Alternates (!b) b rest ∧ c = !(rest.getLast?.getD b) := by
      have h := @ih (!b)
      rwa [Bool.not_not] at h
    have hlast : a = b → ((a :: rest).getLast?.getD (!b)) = rest.getLast?.getD b := by
      intro hab
      cases hr : rest.getLast? with
      | none =>
        rw [List.getLast?_eq_none_iff.mp hr, hab]
        rfl
      | some d =>
        have hne : rest ≠ [] := by
          intro he
          rw [he] at hr
          cases hr
        rw [List.getLast?_cons, hr]
        rfl
    rw [List.cons_append]
    simp only [Alternates]
    constructor
    · intro h
      obtain ⟨hab, hrest⟩ := h
      obtain ⟨hr, hc⟩ := hstep.mp hrest
      exact ⟨⟨hab, hr⟩, by rw [hlast hab]; exact hc⟩
    · intro h
      obtain ⟨⟨hab, hr⟩, hc⟩ := h
      rw [hlast hab] at hc
      exact ⟨hab, hstep.mpr ⟨hr, hc⟩⟩

end Alternation

omit [DecidableEq ρ] in
theorem dropRepeats_append (repeats : List ρ → ρ → Bool) (requests : List ρ) (r : ρ) :
    dropRepeats repeats (requests ++ [r]) =
      if repeats (dropRepeats repeats requests) r then dropRepeats repeats requests
      else dropRepeats repeats requests ++ [r] := by
  unfold dropRepeats
  rw [List.foldl_append]
  rfl

section Protocol

variable {value : ρ → Bool} {start p q : Progress ρ} {events : List (Event ρ)} {e : Event ρ}

theorem accepts_append : accepts value start (events ++ [e]) = some q ↔
    ∃ p, accepts value start events = some p ∧ p.next value e = some q := by
  induction events generalizing start with
  | nil =>
    simp only [accepts, runSteps, List.nil_append, Option.bind_eq_some_iff]
    constructor
    · intro h
      obtain ⟨t, ht, hq⟩ := h
      exact ⟨start, rfl, by rw [ht, hq]⟩
    · intro h
      obtain ⟨p, hp, hq⟩ := h
      cases hp
      exact ⟨q, hq, rfl⟩
  | cons a rest ih =>
    simp only [accepts, runSteps, List.cons_append, Option.bind_eq_some_iff] at ih ⊢
    constructor
    · intro h
      obtain ⟨t, ht, hrest⟩ := h
      obtain ⟨p, hp, hq⟩ := ih.mp hrest
      exact ⟨p, ⟨t, ht, hp⟩, hq⟩
    · intro h
      obtain ⟨p, ⟨t, ht, hp⟩, hq⟩ := h
      exact ⟨t, ht, ih.mpr ⟨p, hp, hq⟩⟩

/-- What an accepted event did. -/
theorem next_cases (h : p.next value e = some q) :
    (e = .baseline ∧ p.pending = none ∧ p.committed = none ∧ q = ⟨some true, none⟩) ∨
    (∃ r, e = .staged r ∧ p.pending = none ∧ value r = !(p.committed.getD true) ∧
      q = ⟨p.committed, some (r, false)⟩) ∨
    (∃ r flag, e = .sent r ∧ p.pending = some (r, flag) ∧ q = ⟨p.committed, some (r, true)⟩) ∨
    (∃ r, e = .completed r ∧ p.pending = some (r, true) ∧ q = ⟨some (value r), none⟩) := by
  cases e with
  | baseline =>
    simp only [Progress.next] at h
    split at h
    · rename_i hn
      cases h
      exact Or.inl ⟨rfl, Option.isNone_iff_eq_none.mp hn.1, Option.isNone_iff_eq_none.mp hn.2, rfl⟩
    · cases h
  | staged r =>
    simp only [Progress.next] at h
    split at h
    · rename_i hn
      cases h
      exact Or.inr (Or.inl ⟨r, rfl, Option.isNone_iff_eq_none.mp hn.1,
        Bool.eq_not_of_ne hn.2, rfl⟩)
    · cases h
  | sent r =>
    simp only [Progress.next] at h
    split at h
    · rename_i r' flag hp
      split at h
      · rename_i hr
        subst hr
        cases h
        exact Or.inr (Or.inr (Or.inl ⟨r', flag, rfl, hp, rfl⟩))
      · cases h
    · cases h
  | completed r =>
    simp only [Progress.next] at h
    split at h
    · rename_i r' hp
      split at h
      · rename_i hr
        subst hr
        cases h
        exact Or.inr (Or.inr (Or.inr ⟨r', rfl, hp, rfl⟩))
      · cases h
    · cases h

section Lists

omit [DecidableEq ρ]

theorem stagedIn_append (events others : List (Event ρ)) :
    stagedIn (events ++ others) = stagedIn events ++ stagedIn others := by
  simp only [stagedIn, List.filterMap_append]

theorem sentIn_append (events others : List (Event ρ)) :
    sentIn (events ++ others) = sentIn events ++ sentIn others := by
  simp only [sentIn, List.filterMap_append]

@[simp] theorem stagedIn_baseline : stagedIn [(.baseline : Event ρ)] = [] := rfl

@[simp] theorem stagedIn_staged (r : ρ) : stagedIn [.staged r] = [r] := rfl

@[simp] theorem stagedIn_sent (r : ρ) : stagedIn [.sent r] = [] := rfl

@[simp] theorem stagedIn_completed (r : ρ) : stagedIn [.completed r] = [] := rfl

@[simp] theorem sentIn_baseline : sentIn [(.baseline : Event ρ)] = [] := rfl

@[simp] theorem sentIn_staged (r : ρ) : sentIn [.staged r] = [] := rfl

@[simp] theorem sentIn_sent (r : ρ) : sentIn [.sent r] = [r] := rfl

@[simp] theorem sentIn_completed (r : ρ) : sentIn [.completed r] = [] := rfl

end Lists

/-- The staged request that is not yet sent. -/
def unsent (p : Progress ρ) : List ρ :=
  match p.pending with
  | some (r, false) => [r]
  | _ => []

/-- What the last staged request says about the state. -/
def LastStaged (value : ρ → Bool) (start p : Progress ρ) (events : List (Event ρ)) : Prop :=
  match p.pending with
  | some (r, _) => (stagedIn events).getLast? = some r
  | none => ((stagedIn events).getLast?.map value).getD (start.committed.getD true) =
      p.committed.getD true

/-- The last staged request is the pending one, or carries the committed value. -/
theorem lastStaged (hstart : start.pending = none) (h : accepts value start events = some p) :
    LastStaged value start p events := by
  induction events using List.reverseRecOn generalizing p with
  | nil =>
    cases h
    simp only [LastStaged, hstart]
    rfl
  | append_singleton before e ih =>
    obtain ⟨q, hq, hnext⟩ := accepts_append.mp h
    have hlast := ih hq
    rcases next_cases hnext with ⟨rfl, hp, hc, rfl⟩ | ⟨r, rfl, hp, hv, rfl⟩ |
      ⟨r, flag, rfl, hp, rfl⟩ | ⟨r, rfl, hp, rfl⟩
    · simp only [LastStaged, hp, hc] at hlast
      simp only [LastStaged, stagedIn_append, stagedIn_baseline, List.append_nil]
      exact hlast
    · simp only [LastStaged, stagedIn_append, stagedIn_staged, List.getLast?_append,
        List.getLast?_singleton, Option.some_or]
    · simp only [LastStaged, hp] at hlast
      simp only [LastStaged, stagedIn_append, stagedIn_sent, List.append_nil]
      exact hlast
    · simp only [LastStaged, hp] at hlast
      simp only [LastStaged, stagedIn_append, stagedIn_completed, List.append_nil, hlast]
      rfl

/-- The staged values alternate, starting with the opposite of the baseline. -/
theorem staged_alternates (hstart : start.pending = none)
    (hbase : start.committed.getD true = true) (h : accepts value start events = some p) :
    Alternates false true ((stagedIn events).map value) := by
  induction events using List.reverseRecOn generalizing p with
  | nil => trivial
  | append_singleton before e ih =>
    obtain ⟨q, hq, hnext⟩ := accepts_append.mp h
    have hold := ih hq
    rcases next_cases hnext with ⟨rfl, -, -, -⟩ | ⟨r, rfl, hp, hv, -⟩ | ⟨r, flag, rfl, -, -⟩ |
      ⟨r, rfl, -, -⟩
    · rw [stagedIn_append, stagedIn_baseline, List.append_nil]
      exact hold
    · have hlast := lastStaged hstart hq
      simp only [LastStaged, hp] at hlast
      rw [hbase] at hlast
      rw [stagedIn_append, stagedIn_staged, List.map_append]
      refine alternates_append.mpr ⟨hold, ?_⟩
      rw [hv, ← hlast, List.getLast?_map]
      rfl
    · rw [stagedIn_append, stagedIn_sent, List.append_nil]
      exact hold
    · rw [stagedIn_append, stagedIn_completed, List.append_nil]
      exact hold

/-- What was sent is, without its repeats, what was staged up to the request
that is not yet sent: for every notion of repeats that knows the last request
again and takes no staged request for a repeat of the ones before it. -/
theorem staged_eq (repeats : List ρ → ρ → Bool) (hstart : start.pending = none)
    (hlast : ∀ kept r, repeats (kept ++ [r]) r = true)
    (hfresh : ∀ kept r rest, stagedIn events = kept ++ r :: rest → repeats kept r = false)
    (h : accepts value start events = some p) :
    stagedIn events = dropRepeats repeats (sentIn events) ++ unsent p := by
  induction events using List.reverseRecOn generalizing p with
  | nil =>
    cases h
    simp [stagedIn, sentIn, dropRepeats, unsent, hstart]
  | append_singleton before e ih =>
    obtain ⟨q, hq, hnext⟩ := accepts_append.mp h
    have hold := ih (fun kept r rest hs => hfresh kept r (rest ++ stagedIn [e])
      (by rw [stagedIn_append, hs, List.append_assoc, List.cons_append])) hq
    rcases next_cases hnext with ⟨rfl, hp, -, rfl⟩ | ⟨r, rfl, hp, -, rfl⟩ |
      ⟨r, flag, rfl, hp, rfl⟩ | ⟨r, rfl, hp, rfl⟩
    · rw [stagedIn_append, sentIn_append, hold]
      simp [unsent, hp]
    · rw [stagedIn_append, sentIn_append, hold]
      simp [unsent, hp]
    · have hpending := lastStaged hstart hq
      simp only [LastStaged, hp] at hpending
      rw [stagedIn_append, stagedIn_sent, List.append_nil] at hfresh ⊢
      rw [sentIn_append, sentIn_sent, dropRepeats_append]
      cases flag with
      | false =>
        -- the first send of the pending request
        have hstaged : stagedIn before = dropRepeats repeats (sentIn before) ++ [r] := by
          rw [hold]
          simp only [unsent, hp]
        have hnew : repeats (dropRepeats repeats (sentIn before)) r = false :=
          hfresh _ r [] hstaged
        rw [if_neg (by rw [hnew]; exact Bool.false_ne_true), hstaged]
        exact (List.append_nil _).symm
      | true =>
        -- a repeated send: the request is the last one kept
        have hstaged : stagedIn before = dropRepeats repeats (sentIn before) := by
          rw [hold]
          simp only [unsent, hp, List.append_nil]
        rw [hstaged] at hpending
        obtain ⟨kept, hkept⟩ := List.getLast?_eq_some_iff.mp hpending
        have hrepeat : repeats (dropRepeats repeats (sentIn before)) r = true := by
          rw [hkept]
          exact hlast kept r
        rw [if_pos hrepeat, hstaged]
        exact (List.append_nil _).symm
    · rw [stagedIn_append, sentIn_append, hold]
      simp [unsent, hp]

/-- Alternation survives the loss of a last element. -/
theorem Alternates.of_append {α : Type} {x y : α} {l m : List α}
    (h : Alternates x y (l ++ m)) : Alternates x y l := by
  induction l generalizing x y with
  | nil => trivial
  | cons a rest ih =>
    obtain ⟨ha, hrest⟩ := h
    exact ⟨ha, ih hrest⟩

/-- What was sent alternates, for every such notion of repeats. -/
theorem sent_alternates (repeats : List ρ → ρ → Bool) (hstart : start.pending = none)
    (hbase : start.committed.getD true = true)
    (hlast : ∀ kept r, repeats (kept ++ [r]) r = true)
    (hfresh : ∀ kept r rest, stagedIn events = kept ++ r :: rest → repeats kept r = false)
    (h : accepts value start events = some p) :
    Alternates false true ((dropRepeats repeats (sentIn events)).map value) := by
  have halt := staged_alternates hstart hbase h
  rw [staged_eq repeats hstart hlast hfresh h, List.map_append] at halt
  exact halt.of_append

/-- A pending request was staged. -/
theorem pending_staged (hstart : start.pending = none)
    (h : accepts value start events = some p) :
    ∀ r flag, p.pending = some (r, flag) → Event.staged r ∈ events := by
  have hlast := lastStaged hstart h
  intro r flag hp
  simp only [LastStaged, hp] at hlast
  obtain ⟨kept, hkept⟩ := List.getLast?_eq_some_iff.mp hlast
  have hmem : r ∈ stagedIn events := by
    rw [hkept]
    exact List.mem_append_right _ List.mem_cons_self
  obtain ⟨e, he, her⟩ := List.mem_filterMap.mp hmem
  cases e with
  | staged q =>
    cases her
    exact he
  | baseline => cases her
  | sent q => cases her
  | completed q => cases her

/-- A prefix of an accepted list is accepted. -/
theorem accepts_prefix {rest : List (Event ρ)} (h : accepts value start (events ++ rest) = some q) :
    ∃ p, accepts value start events = some p := by
  induction rest using List.reverseRecOn generalizing q with
  | nil => exact ⟨q, by rwa [List.append_nil] at h⟩
  | append_singleton before e ih =>
    rw [← List.append_assoc] at h
    obtain ⟨p, hp, -⟩ := accepts_append.mp h
    exact ih hp

/-- Whatever is sent was staged before. -/
theorem staged_before_sent {before after : List (Event ρ)} {r : ρ}
    (hstart : start.pending = none)
    (h : accepts value start (before ++ .sent r :: after) = some q) :
    Event.staged r ∈ before := by
  rw [List.append_cons] at h
  obtain ⟨p, hp⟩ := accepts_prefix h
  obtain ⟨p', hp', hnext⟩ := accepts_append.mp hp
  rcases next_cases hnext with ⟨he, -⟩ | ⟨r', he, -⟩ | ⟨r', flag, he, hpending, -⟩ | ⟨r', he, -⟩
  · cases he
  · cases he
  · cases he
    exact pending_staged hstart hp' r flag hpending
  · cases he

/-- The committed value is that of the last completed request. -/
theorem committed_eq (h : accepts value start events = some p) :
    p.committed = committedBy value start.committed events := by
  induction events using List.reverseRecOn generalizing p with
  | nil =>
    cases h
    rfl
  | append_singleton before e ih =>
    obtain ⟨q, hq, hnext⟩ := accepts_append.mp h
    have hold := ih hq
    have hfold : committedBy value start.committed (before ++ [e]) =
        committedBy value q.committed [e] := by
      rw [hold]
      exact List.foldl_append
    rw [hfold]
    rcases next_cases hnext with ⟨rfl, -, -, rfl⟩ | ⟨r, rfl, -, -, rfl⟩ | ⟨r, flag, rfl, -, rfl⟩ |
      ⟨r, rfl, -, rfl⟩
    · rfl
    · rfl
    · rfl
    · rfl

/-- Every staged request was sent after its staging, or is the pending one. -/
theorem sent_after_staged (h : accepts value start events = some p) :
    ∀ before r after, events = before ++ .staged r :: after →
      Event.sent r ∈ after ∨ p.pending = some (r, false) := by
  induction events using List.reverseRecOn generalizing p with
  | nil =>
    intro before r after he
    exact absurd he (by simp)
  | append_singleton front e ih =>
    obtain ⟨q, hq, hnext⟩ := accepts_append.mp h
    intro before r after he
    rcases List.eq_nil_or_concat' after with rfl | ⟨middle, last, rfl⟩
    · obtain ⟨hfront, hlast⟩ := List.append_inj' he rfl
      cases hlast
      rcases next_cases hnext with ⟨he', -⟩ | ⟨r', he', -, -, rfl⟩ | ⟨r', flag, he', -⟩ |
        ⟨r', he', -⟩
      · cases he'
      · cases he'
        exact Or.inr rfl
      · cases he'
      · cases he'
    · have he' : front ++ [e] = (before ++ .staged r :: middle) ++ [last] := by
        rw [he, List.append_assoc, List.cons_append]
      obtain ⟨hfront, hlast⟩ := List.append_inj' he' rfl
      cases hlast
      rcases ih hq before r middle hfront with hsent | hpending
      · exact Or.inl (List.mem_append_left _ hsent)
      · rcases next_cases hnext with ⟨-, hp, -⟩ | ⟨r', -, hp, -⟩ | ⟨r', flag, rfl, hp, -⟩ |
          ⟨r', -, hp, -⟩
        · rw [hp] at hpending
          cases hpending
        · rw [hp] at hpending
          cases hpending
        · rw [hp] at hpending
          cases hpending
          exact Or.inl (List.mem_append_right _ List.mem_cons_self)
        · rw [hp] at hpending
          cases hpending

/-- A baseline or a change is only acted on when every request staged before was
sent after its staging. -/
theorem acts_when_sent {before after middle rest : List (Event ρ)} {r : ρ} {e : Event ρ}
    (hacts : e = .baseline ∨ ∃ s, e = .staged s)
    (h : accepts value start (before ++ e :: after) = some q)
    (hsplit : before = middle ++ .staged r :: rest) : Event.sent r ∈ rest := by
  rw [List.append_cons] at h
  obtain ⟨p, hp⟩ := accepts_prefix h
  obtain ⟨p', hp', hnext⟩ := accepts_append.mp hp
  have hnone : p'.pending = none := by
    rcases next_cases hnext with ⟨-, hn, -⟩ | ⟨s, -, hn, -⟩ | ⟨s, flag, he, -⟩ | ⟨s, he, -⟩
    · exact hn
    · exact hn
    · rcases hacts with rfl | ⟨s', rfl⟩ <;> cases he
    · rcases hacts with rfl | ⟨s', rfl⟩ <;> cases he
  rcases sent_after_staged hp' middle r rest hsplit with hsent | hpending
  · exact hsent
  · rw [hnone] at hpending
    cases hpending

end Protocol

end AthenaContext.StagedDelivery
