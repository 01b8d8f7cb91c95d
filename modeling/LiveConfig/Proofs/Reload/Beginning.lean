import LiveConfig.Proofs.Reload.Progress

/-!
Which requests begin a reload of their own in a run.

A state only counts the reloads that have begun.  In a run they can be listed with their requests: the
count rises by the length of the list, and the requests of the list are those that have begun since.
-/
namespace LiveConfig

variable {L π : Type}

def ReloadEnd.isCoalesced : ReloadEnd → Bool
  | .outcome .coalesced => true
  | .outcome .unchanged | .outcome (.applied _ _) | .outcome .vetoed | .failed _ | .panicked _ => false

namespace Phase

def isReloading : Phase π → Bool
  | .begun _ | .loading _ _ => true
  | .ticketed _ | .queued _ | .admitted _ _ | .concluded _ | .ended _ => false

def hasBegun : Phase π → Bool
  | .begun _ | .loading _ _ => true
  | .concluded result | .ended result => !result.isCoalesced
  | .ticketed _ | .queued _ | .admitted _ _ => false

def isBegun : Phase π → Bool
  | .begun _ => true
  | .loading _ _ | .ticketed _ | .queued _ | .admitted _ _ | .concluded _ | .ended _ => false

def trigger? : Phase π → Option Trigger
  | .admitted trigger _ | .begun trigger | .loading trigger _ => some trigger
  | .ticketed _ | .queued _ | .concluded _ | .ended _ => none

inductive Awaits (ticket : Nat) : Phase π → Prop where
  | ticketed : Awaits ticket (.ticketed ticket)
  | queued : Awaits ticket (.queued ticket)
  | admitted : Awaits ticket (.admitted .explicit (some ticket))

inductive Follows (started : Nat) : Phase π → Phase π → Nat → Prop where
  | enters (ticket : Nat) : Follows started (.ticketed ticket) (.admitted .explicit (some ticket)) started
  | queues (ticket : Nat) : Follows started (.ticketed ticket) (.queued ticket) started
  | isLetIn (ticket : Nat) : Follows started (.queued ticket) (.admitted .explicit (some ticket)) started
  | isServed {trigger : Trigger} {ticket : Nat} (late : ticket ≠ started) :
      Follows started (.admitted trigger (some ticket)) (.concluded (.outcome .coalesced)) started
  | begins {trigger : Trigger} {ticket : Option Nat} (first : ticket = none ∨ ticket = some started) :
      Follows started (.admitted trigger ticket) (.begun trigger) (started + 1)
  | loads {phase : Phase π} {trigger : Trigger} {pass : LoadPass π} (reloads : phase.isReloading = true)
      (same : phase.trigger? = some trigger) : Follows started phase (.loading trigger pass) started
  | concludes {phase : Phase π} {result : ReloadEnd} (reloads : phase.isReloading = true)
      (own : result.isCoalesced = false) : Follows started phase (.concluded result) started
  | leaves (result : ReloadEnd) : Follows started (.concluded result) (.ended result) started

theorem hasBegun_of_isReloading {phase : Phase π} (reloads : phase.isReloading = true) :
    phase.hasBegun = true := by
  cases phase with
  | begun | loading => rfl
  | ticketed | queued | admitted | concluded | ended => exact nomatch reloads

namespace Follows

variable {started after : Nat} {old new : Phase π}

theorem hasBegun_iff (follows : Follows started old new after) :
    new.hasBegun = true ↔ old.hasBegun = true ∨ new.isBegun = true := by
  cases follows with
  | enters | queues | isLetIn | isServed | begins | leaves => simp [hasBegun, isBegun, ReloadEnd.isCoalesced]
  | loads reloads => exact iff_of_true rfl (Or.inl (hasBegun_of_isReloading reloads))
  | concludes reloads own => exact iff_of_true (congrArg not own) (Or.inl (hasBegun_of_isReloading reloads))

private theorem count (follows : Follows started old new after) :
    after = started + if new.isBegun then 1 else 0 := by
  cases follows with
  | enters | queues | isLetIn | isServed | begins | loads | concludes | leaves => simp [isBegun]

/-- A request that queued for the gate is explicit; what another one reloads for is settled from the start. -/
theorem trigger? {trigger : Trigger} (follows : Follows started old new after)
    (reloads : new.trigger? = some trigger) (implicit : trigger ≠ .explicit) :
    old.trigger? = some trigger := by
  cases follows with
  | enters | isLetIn => exact absurd (Option.some.inj reloads).symm implicit
  | begins => exact reloads
  | loads _ same => exact same.trans reloads
  | queues | isServed | concludes | leaves => exact nomatch reloads

/-- An explicit request keeps its ticket until it begins or is served. -/
theorem awaits {ticket : Nat} (follows : Follows started old new after) (awaits : old.Awaits ticket) :
    new.Awaits ticket ∨ new.isBegun = true ∨
      old = .admitted .explicit (some ticket) ∧ ticket ≠ started ∧ new.hasBegun = false := by
  cases awaits with
  | ticketed =>
    cases follows with
    | enters => exact Or.inl .admitted
    | queues => exact Or.inl .queued
    | loads reloads | concludes reloads => exact nomatch reloads
  | queued =>
    cases follows with
    | isLetIn => exact Or.inl .admitted
    | loads reloads | concludes reloads => exact nomatch reloads
  | admitted =>
    cases follows with
    | isServed late => exact Or.inr (Or.inr ⟨rfl, late, rfl⟩)
    | begins => exact Or.inr (Or.inl rfl)
    | loads reloads | concludes reloads => exact nomatch reloads

end Follows
end Phase

namespace Reload.Conclusion

private theorem isCoalesced_eq_false {current next : Snapshot} {c : Candidate} {calls : List (ListenerCall L)}
    {result : ReloadEnd} (h : Conclusion current c calls next result) : result.isCoalesced = false := by
  cases h with
  | refused which =>
    rcases which with rfl | rfl
    · rfl
    · rfl
  | brokenAsking | applied | brokenTelling => rfl

end Reload.Conclusion

namespace ReloadState

variable {r : ReloadSetup L π} {s t : ReloadState L π} {id : Nat}

private theorem endPass_concludes {trigger : Trigger} {pass : LoadPass π} {phase : Phase π}
    (found : s.requests[id]? = some phase) :
    ∃ result, result.isCoalesced = false ∧
      (s.endPass r id trigger pass).requests[id]? = some (.concluded result) ∧
      (s.endPass r id trigger pass).started = s.started := by
  rcases finished : r.pipeline.finish pass.outcome s.scene.world with ⟨candidate, w⟩
  obtain ⟨calls, result, next, after, concluded, -, conclusion, -⟩ :=
    Reload.conclude_recording r.hooks trigger candidate s.current { s.scene with world := w }
  refine ⟨result, conclusion.isCoalesced_eq_false, ?_⟩
  rw [endPass_of_conclude finished concluded]
  exact ⟨getElem?_setPhase found, rfl⟩

/-- Every step takes its request from its phase to the next one. -/
theorem step?_follows (stepped : s.step? r id = some t) :
    ∃ old new, s.requests[id]? = some old ∧ t.requests[id]? = some new ∧
      Phase.Follows s.started old new t.started := by
  unfold step? at stepped
  split at stepped
  · exact nomatch stepped
  · next phase found =>
    have placed : ∀ {u : ReloadState L π} {new : Phase π}, u.requests = s.requests →
        (u.setPhase id new).requests[id]? = some new := by
      intro u new same
      exact getElem?_setPhase (same ▸ found)
    refine ⟨phase, ?_⟩
    cases phase with
    | ticketed ticket =>
      obtain rfl := Option.some.inj stepped
      unfold enter
      split
      · exact ⟨_, found, placed rfl, .enters ticket⟩
      · exact ⟨_, found, placed rfl, .queues ticket⟩
    | queued ticket =>
      dsimp only at stepped
      split at stepped
      · obtain rfl := Option.some.inj stepped
        exact ⟨_, found, placed rfl, .isLetIn ticket⟩
      · exact nomatch stepped
    | admitted trigger ticket =>
      obtain rfl := Option.some.inj stepped
      unfold startReload
      cases ticket with
      | none => exact ⟨_, found, placed rfl, .begins (Or.inl rfl)⟩
      | some ticket =>
        simp only [Option.any_some, decide_eq_true_eq]
        split
        · next late => exact ⟨_, found, placed rfl, .isServed late⟩
        · next first => exact ⟨_, found, placed rfl, .begins (Or.inr (by rw [not_not.mp first]))⟩
    | begun trigger =>
      obtain rfl := Option.some.inj stepped
      unfold beginPass
      split
      · exact ⟨_, found, placed rfl, .concludes rfl rfl⟩
      · exact ⟨_, found, placed rfl, .loads rfl rfl⟩
    | loading trigger pass =>
      dsimp only at stepped
      unfold continuePass? at stepped
      split at stepped
      · obtain rfl := Option.some.inj stepped
        obtain ⟨result, own, reached, count⟩ := @endPass_concludes _ _ r s id trigger pass _ found
        refine ⟨_, found, reached, ?_⟩
        rw [count]
        exact .concludes rfl own
      · split at stepped
        · obtain rfl := Option.some.inj stepped
          exact ⟨_, found, placed rfl, .loads rfl rfl⟩
        · exact nomatch stepped
    | concluded result =>
      obtain rfl := Option.some.inj stepped
      unfold release
      split
      · exact ⟨_, found, placed rfl, .leaves result⟩
      · exact ⟨_, found, placed rfl, .leaves result⟩
    | ended result => exact nomatch stepped

private theorem started_tryRequest (s : ReloadState L π) (trigger : Trigger) :
    (s.tryRequest trigger).2.started = s.started := by
  unfold tryRequest
  split
  · rfl
  · rfl

end ReloadState

namespace Config

variable {c d next : Config L π} {id : Nat} {m : Move L π} {moves : List (Move L π)}

def hasBegun (c : Config L π) (id : Nat) : Bool := (c.phase? id).any Phase.hasBegun

def begunBy (c : Config L π) (m : Move L π) : List Nat :=
  m.stepper?.toList.filter fun id => (c.phase? id).any Phase.isBegun

def begunIn : List (Move L π) → Config L π → List Nat
  | [], _ => []
  | m :: rest, c =>
    match c.move? m with
    | some next => next.begunBy m ++ begunIn rest next
    | none => []

theorem hasBegun_of_phase? {phase : Phase π} (found : c.phase? id = some phase) :
    c.hasBegun id = phase.hasBegun := by
  unfold hasBegun
  rw [found]
  rfl

theorem begunIn_cons {rest : List (Move L π)} (moved : c.move? m = some next) :
    begunIn (m :: rest) c = next.begunBy m ++ begunIn rest next := by
  simp only [begunIn, moved]

theorem begunIn_append {first second : List (Move L π)} {middle : Config L π}
    (ran : run? first c = some middle) :
    begunIn (first ++ second) c = begunIn first c ++ begunIn second middle := by
  induction first generalizing c with
  | nil =>
    obtain rfl := Option.some.inj ran
    rfl
  | cons m rest ih =>
    obtain ⟨next, moved, later⟩ := run?_cons_eq_some ran
    rw [List.cons_append, begunIn_cons moved, begunIn_cons moved, ih later, List.append_assoc]

private theorem begunBy_of_outer (outer : m.stepper? = none) : next.begunBy m = [] := by
  unfold begunBy
  rw [outer]
  rfl

theorem begunBy_step {phase : Phase π} (reached : next.phase? id = some phase) :
    next.begunBy (.step id) = if phase.isBegun then [id] else [] := by
  unfold begunBy
  simp only [Move.stepper?, Option.toList_some, List.filter_cons, List.filter_nil, reached,
    Option.any_some]

private theorem Outer.started {s : ReloadState L π} (change : c.Outer m s) : s.started = c.state.started := by
  cases change with
  | called | early | aside => rfl
  | looked => exact ReloadState.started_tryRequest { c.state with lastCheck := c.state.now } .access
  | ticked => exact ReloadState.started_tryRequest c.state .timer

private theorem started_of_outer (moved : c.move? m = some next) (outer : m.stepper? = none) :
    next.state.started = c.state.started := by
  obtain ⟨-, ⟨id, rfl, -⟩ | ⟨-, change⟩⟩ := step_or_outer moved
  · exact nomatch outer
  · exact change.started

theorem follows_of_step (moved : c.move? (.step id) = some next) :
    ∃ old new, c.phase? id = some old ∧ next.phase? id = some new ∧
      Phase.Follows c.state.started old new next.state.started :=
  ReloadState.step?_follows (step_of_move? moved).2

theorem phase?_of_other {phase : Phase π} (found : c.phase? id = some phase)
    (moved : c.move? m = some next) (other : m.stepper? ≠ some id) : next.phase? id = some phase := by
  obtain ⟨-, ⟨id', rfl, stepped⟩ | ⟨-, arrival⟩⟩ := move?_cases moved
  · obtain ⟨_, _, passage⟩ := ReloadState.step?_passage stepped
    have ne : id ≠ id' := fun same => other (congrArg some same.symm)
    exact (passage.others ne).trans found
  · exact arrival.requests found

theorem hasBegun_eq_false_of_new (absent : c.phase? id = none) (moved : c.move? m = some next) :
    next.hasBegun id = false := by
  obtain ⟨-, ⟨id', rfl, stepped⟩ | ⟨-, arrival⟩⟩ := move?_cases moved
  · obtain ⟨phase, found, passage⟩ := ReloadState.step?_passage stepped
    have ne : id ≠ id' := by
      rintro rfl
      exact nomatch absent.symm.trans found
    unfold hasBegun phase?
    rw [passage.others ne, show c.state.requests[id]? = none from absent]
    rfl
  · have beyond : c.state.requests.length ≤ id := List.getElem?_eq_none_iff.mp absent
    have last : ∀ {phase : Phase π}, phase.hasBegun = false →
        next.state.requests = c.state.requests ++ [phase] → next.hasBegun id = false := by
      intro phase fresh requests
      unfold hasBegun phase?
      rw [requests, List.getElem?_append_right beyond, List.getElem?_singleton]
      split
      · exact fresh
      · rfl
    cases arrival with
    | aside _ _ _ requests =>
      unfold hasBegun phase?
      rw [requests, show c.state.requests[id]? = none from absent]
      rfl
    | apart which _ _ _ requests =>
      rcases which with rfl | rfl
      · exact last rfl requests
      · exact last rfl requests
    | admitted _ _ _ _ requests => exact last rfl requests

private theorem hasBegun_move?_iff (moved : c.move? m = some next) :
    next.hasBegun id = true ↔ c.hasBegun id = true ∨ id ∈ next.begunBy m := by
  by_cases own : m.stepper? = some id
  · obtain rfl := stepper?_eq_some own
    obtain ⟨old, new, found, reached, follows⟩ := follows_of_step moved
    rw [hasBegun_of_phase? found, hasBegun_of_phase? reached, follows.hasBegun_iff, begunBy_step reached]
    simp
  · have silent : id ∉ next.begunBy m := by
      unfold begunBy
      intro mem
      exact own (Option.mem_toList.mp (List.mem_filter.mp mem).1)
    cases found : c.phase? id with
    | none =>
      have absent : c.hasBegun id = false := by
        unfold hasBegun
        rw [found]
        rfl
      simp [hasBegun_eq_false_of_new found moved, absent, silent]
    | some phase =>
      have stays := phase?_of_other found moved own
      rw [hasBegun_of_phase? found, hasBegun_of_phase? stays]
      simp [silent]

/-- The requests that have begun since are those of the list. -/
theorem hasBegun_run?_iff (ran : run? moves c = some d) :
    d.hasBegun id = true ↔ c.hasBegun id = true ∨ id ∈ begunIn moves c := by
  induction moves generalizing c with
  | nil =>
    obtain rfl := Option.some.inj ran
    simp [begunIn]
  | cons m rest ih =>
    obtain ⟨next, moved, later⟩ := run?_cons_eq_some ran
    rw [ih later, hasBegun_move?_iff moved, begunIn_cons moved, List.mem_append, or_assoc]

private theorem started_move? (moved : c.move? m = some next) :
    next.state.started = c.state.started + (next.begunBy m).length := by
  cases stepper : m.stepper? with
  | none =>
    rw [started_of_outer moved stepper, begunBy_of_outer stepper]
    rfl
  | some id =>
    obtain rfl := stepper?_eq_some stepper
    obtain ⟨old, new, -, reached, follows⟩ := follows_of_step moved
    rw [follows.count, begunBy_step reached]
    split
    · rfl
    · rfl

theorem started_run? (ran : run? moves c = some d) :
    d.state.started = c.state.started + (begunIn moves c).length := by
  induction moves generalizing c with
  | nil =>
    obtain rfl := Option.some.inj ran
    rfl
  | cons m rest ih =>
    obtain ⟨next, moved, later⟩ := run?_cons_eq_some ran
    rw [ih later, started_move? moved, begunIn_cons moved, List.length_append, Nat.add_assoc]

end Config
end LiveConfig
