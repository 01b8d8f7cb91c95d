import LiveConfig.Proofs.Reload.Beginning
import LiveConfig.Proofs.Reload.Publication

/-!
Which requests reload themselves, and which are served by the reload of another one.

Only an explicit request can wait.  When it is let in, it is alone inside, so every other reload that has
begun since its ticket has ended; and its ticket tells whether there is one.
-/
namespace LiveConfig

variable {L π : Type}

namespace Config

variable {c d asked next : Config L π} {id : Nat} {m : Move L π} {moves : List (Move L π)}

/-- The reload of another request covers one that was made before the run: it has begun in the run and
ended, in one way or other, before the step in which the request finds itself served. -/
def CoveredBy (asked : Config L π) (id : Nat) (moves : List (Move L π)) (other : Nat)
    (result : ReloadEnd) : Prop :=
  ∃ before after c ticket, moves = before ++ .step id :: after ∧ run? before asked = some c ∧
    c.phase? id = some (.admitted .explicit (some ticket)) ∧
    other ≠ id ∧ other ∈ begunIn before asked ∧
    c.phase? other = some (.ended result) ∧ result.isCoalesced = false

private theorem phase?_run_induction {P : Phase π → Prop} {phase : Phase π} (found : c.phase? id = some phase)
    (here : P phase) (kept : ∀ started old new after, P old → Phase.Follows started old new after → P new)
    (ran : run? moves c = some d) : ∃ last, d.phase? id = some last ∧ P last := by
  induction moves generalizing c phase with
  | nil =>
    obtain rfl := Option.some.inj ran
    exact ⟨phase, found, here⟩
  | cons m rest ih =>
    obtain ⟨next, moved, later⟩ := run?_cons_eq_some ran
    by_cases own : m.stepper? = some id
    · obtain rfl := stepper?_eq_some own
      obtain ⟨old, new, found', reached, follows⟩ := follows_of_step moved
      obtain rfl := Option.some.inj (found'.symm.trans found)
      exact ih reached (kept _ _ _ _ here follows) later
    · exact ih (phase?_of_other found moved own) here later

/-- An explicit request waits with its ticket, has begun, or was served by a reload that has begun after
the ticket was taken. -/
theorem awaits_run? {phase : Phase π} {ticket : Nat} (found : c.phase? id = some phase)
    (awaits : phase.Awaits ticket) (ran : run? moves c = some d) :
    (∃ last, d.phase? id = some last ∧ last.Awaits ticket) ∨ d.hasBegun id = true ∨
      ∃ before after e, moves = before ++ .step id :: after ∧ run? before c = some e ∧
        e.phase? id = some (.admitted .explicit (some ticket)) ∧ ticket ≠ e.state.started := by
  induction moves generalizing c phase with
  | nil =>
    obtain rfl := Option.some.inj ran
    exact Or.inl ⟨phase, found, awaits⟩
  | cons m rest ih =>
    obtain ⟨next, moved, later⟩ := run?_cons_eq_some ran
    have goesOn : ∀ {p : Phase π}, next.phase? id = some p → p.Awaits ticket →
        (∃ last, d.phase? id = some last ∧ last.Awaits ticket) ∨ d.hasBegun id = true ∨
          ∃ before after e, m :: rest = before ++ .step id :: after ∧ run? before c = some e ∧
            e.phase? id = some (.admitted .explicit (some ticket)) ∧ ticket ≠ e.state.started := by
      intro p reached awaits'
      rcases ih reached awaits' later with waits | begun | ⟨before, after, e, rfl, ran', letIn, late⟩
      · exact Or.inl waits
      · exact Or.inr (Or.inl begun)
      · exact Or.inr (Or.inr ⟨m :: before, after, e, rfl, run?_cons moved ran', letIn, late⟩)
    by_cases own : m.stepper? = some id
    · obtain rfl := stepper?_eq_some own
      obtain ⟨old, new, found', reached, follows⟩ := follows_of_step moved
      obtain rfl := Option.some.inj (found'.symm.trans found)
      rcases follows.awaits awaits with awaits' | begins | ⟨letIn, late, -⟩
      · exact goesOn reached awaits'
      · have begun : next.hasBegun id = true := by
          rw [hasBegun_of_phase? reached, follows.hasBegun_iff]
          exact Or.inr begins
        exact Or.inr (Or.inl ((hasBegun_run?_iff later).mpr (Or.inl begun)))
      · exact Or.inr (Or.inr ⟨[], rest, c, rfl, rfl, letIn ▸ found, late⟩)
    · exact goesOn (phase?_of_other found moved own) awaits

/-- While a request is inside, every other one that has begun has ended. -/
private theorem ended_of_hasBegun {other : Nat} (kept : c.state.GateKept) (inside : c.state.stance? id = some .inside)
    (ne : other ≠ id) (begun : c.hasBegun other = true) :
    ∃ result, c.phase? other = some (.ended result) ∧ result.isCoalesced = false := by
  obtain ⟨phase, found, begun⟩ := (Option.any_eq_true _ _).mp begun
  have outside : phase.stance ≠ .inside := by
    intro within
    have holds := kept.inside other (within ▸ ReloadState.stance?_eq_some found)
    exact ne (Option.some.inj (holds.symm.trans (kept.inside id inside)))
  cases phase with
  | ticketed | queued | admitted => exact nomatch begun
  | begun | loading | concluded => exact absurd rfl outside
  | ended result => exact ⟨result, found, by simpa [Phase.hasBegun] using begun⟩

theorem gateKept_run? (kept : c.state.GateKept) (ran : run? moves c = some d) : d.state.GateKept := by
  induction moves generalizing c with
  | nil =>
    obtain rfl := Option.some.inj ran
    exact kept
  | cons m rest ih =>
    obtain ⟨next, moved, later⟩ := run?_cons_eq_some ran
    exact ih (gateKept_move? kept moved) later

/-- Who is let in with a late ticket is covered: some other reload has begun since, and all that have are
over. -/
private theorem coveredBy_of_late {before after : List (Move L π)} {e : Config L π} (kept : c.state.GateKept)
    (split : moves = before ++ .step id :: after) (ran : run? before c = some e)
    (letIn : e.phase? id = some (.admitted .explicit (some c.state.started)))
    (late : c.state.started ≠ e.state.started) : ∃ other result, c.CoveredBy id moves other result := by
  have some_begun : begunIn before c ≠ [] := by
    intro none_begun
    have count := started_run? ran
    rw [none_begun] at count
    exact late count.symm
  obtain ⟨other, mem⟩ := List.exists_mem_of_ne_nil _ some_begun
  have begun : e.hasBegun other = true := (hasBegun_run?_iff ran).mpr (Or.inr mem)
  have ne : other ≠ id := by
    rintro rfl
    rw [hasBegun_of_phase? letIn] at begun
    exact nomatch begun
  have inside : e.state.stance? id = some .inside := ReloadState.stance?_eq_some letIn
  obtain ⟨result, ended, own⟩ := ended_of_hasBegun (gateKept_run? kept ran) inside ne begun
  exact ⟨other, result, before, after, e, _, split, ran, letIn, ne, mem, ended, own⟩

theorem request_awaits (moved : c.move? .request = some asked) :
    asked.phase? c.state.requests.length = some (.ticketed c.state.started) ∧
      asked.state.started = c.state.started := by
  obtain rfl := Option.some.inj moved
  exact ⟨List.getElem?_concat_length, rfl⟩

private theorem begins_of_admitted {trigger : Trigger} {ticket : Option Nat}
    (found : c.phase? id = some (.admitted trigger ticket)) (first : ticket = none ∨ ticket = some c.state.started) :
    ∃ next, c.move? (.step id) = some next ∧ next.phase? id = some (.begun trigger) := by
  have here : c.state.requests[id]? = some (.admitted trigger ticket) := found
  have stepped : c.state.step? c.setup id = some (c.state.startReload id trigger ticket) := by
    unfold ReloadState.step?
    rw [here]
  have punctual : ticket.any (· ≠ c.state.started) = false := by
    rcases first with rfl | rfl
    · rfl
    · simp
  refine ⟨_, move?_of_step? stepped, ?_⟩
  unfold ReloadState.startReload
  rw [punctual]
  exact ReloadState.getElem?_setPhase here

private theorem apart_of_line_eq_nil {phase : Phase π} (kept : c.state.GateKept) (empty : c.state.line = [])
    (found : c.phase? id = some phase) : phase.stance = .apart := by
  have absent : id ∉ c.state.line := by
    rw [empty]
    exact List.not_mem_nil
  rw [kept.members id, ReloadState.stance?_eq_some found] at absent
  cases stance : phase.stance with
  | apart => rfl
  | waiting | inside => simp [stance] at absent

private theorem enters_of_free {ticket : Nat} (free : c.state.holder = none)
    (found : c.phase? id = some (.ticketed ticket)) :
    ∃ next, c.move? (.step id) = some next ∧ next.phase? id = some (.admitted .explicit (some ticket)) ∧
      next.state.holder = some id ∧ next.state.queue = c.state.queue := by
  have here : c.state.requests[id]? = some (.ticketed ticket) := found
  have stepped : c.state.step? c.setup id = some (c.state.enter id ticket) := by
    unfold ReloadState.step?
    rw [here]
  have taken : c.state.enter id ticket =
      { c.state with holder := some id }.setPhase id (.admitted .explicit (some ticket)) := by
    unfold ReloadState.enter ReloadState.isFree
    rw [free]
    rfl
  rw [taken] at stepped
  exact ⟨_, move?_of_step? stepped, ReloadState.getElem?_setPhase here, rfl, rfl⟩

/-- If only time passes and requests take their steps, every request comes to its end. -/
theorem exists_ended {phase : Phase π} (kept : c.state.GateKept) (found : c.phase? id = some phase) :
    ∃ moves d result, run? moves c = some d ∧ (∀ m ∈ moves, m.isProgress = true) ∧
      d.phase? id = some (.ended result) := by
  obtain ⟨first, free, ran, progress, holder⟩ := exists_free c kept
  have kept_free := gateKept_run? kept ran
  have empty : free.state.line = [] := by
    unfold ReloadState.line
    rw [holder, kept_free.free holder]
    rfl
  obtain ⟨last, found_free, -⟩ := phase?_run_induction (P := fun _ => True) found trivial
    (fun _ _ _ _ _ _ => trivial) ran
  have apart := apart_of_line_eq_nil kept_free empty found_free
  cases last with
  | ended result => exact ⟨first, free, result, ran, progress, found_free⟩
  | queued | admitted | begun | loading | concluded => exact nomatch apart
  | ticketed ticket =>
    -- The gate is free, so the request takes it and leaves it again; it never goes back to its start.
    obtain ⟨entered, moved, reached, holds, queue⟩ := enters_of_free holder found_free
    have kept_entered := gateKept_move? kept_free moved
    obtain ⟨more, d, later, progress', kept', line⟩ := exists_leaving entered kept_entered holds
    rw [queue, kept_free.free holder] at line
    obtain ⟨last, found_last, unticketed⟩ := phase?_run_induction
      (P := fun phase => ∀ ticket, phase ≠ .ticketed ticket) reached (fun _ => by simp)
      (fun _ _ _ _ _ follows => by cases follows <;> simp) later
    have apart := apart_of_line_eq_nil kept' line found_last
    cases last with
    | ended result =>
      refine ⟨first ++ .step id :: more, d, result, run?_append ran (run?_cons moved later), ?_, found_last⟩
      intro m mem
      rcases List.mem_append.mp mem with mem | mem
      · exact progress m mem
      · rcases List.mem_cons.mp mem with rfl | mem
        · rfl
        · exact progress' m mem
    | ticketed => exact absurd rfl (unticketed _)
    | queued | admitted | begun | loading | concluded => exact nomatch apart

/-- A request that was let in without a ticket is never in the queue, and is answered by its own reload. -/
theorem untimed_run? {trigger : Trigger} (found : c.phase? id = some (.admitted trigger none))
    (ran : run? moves c = some d) :
    d.phase? id = some (.admitted trigger none) ∨ d.hasBegun id = true := by
  obtain ⟨last, reached, kept⟩ := phase?_run_induction
    (P := fun phase => phase = .admitted trigger none ∨ phase.hasBegun = true) found (Or.inl rfl)
    (fun _ old new _ here follows => by
      rcases here with rfl | begun
      · cases follows with
        | begins => exact Or.inr rfl
        | loads reloads | concludes reloads => exact nomatch reloads
      · exact Or.inr (follows.hasBegun_iff.mpr (Or.inl begun))) ran
  rcases kept with rfl | begun
  · exact Or.inl reached
  · rw [hasBegun_of_phase? reached]
    exact Or.inr begun

private theorem Outer.tries {s : ReloadState L π} (change : c.Outer m s) (uncalled : m ≠ .request)
    (made : s.requests ≠ c.state.requests) :
    ∃ (t : ReloadState L π) (trigger : Trigger), t.holder = c.state.holder ∧ t.requests = c.state.requests ∧
      s = (t.tryRequest trigger).2 := by
  cases change with
  | called => exact absurd rfl uncalled
  | looked => exact ⟨{ c.state with lastCheck := c.state.now }, .access, rfl, rfl, rfl⟩
  | ticked => exact ⟨c.state, .timer, rfl, rfl, rfl⟩
  | early | aside => exact absurd rfl made

private theorem tried_of_uncalled {phase : Phase π} (uncalled : m ≠ .request) (moved : c.move? m = some next)
    (made : next.phase? c.state.requests.length = some phase) :
    ∃ (s : ReloadState L π) (trigger : Trigger), s.holder = c.state.holder ∧
      s.requests = c.state.requests ∧ next.state = (s.tryRequest trigger).2 := by
  unfold phase? at made
  obtain ⟨-, ⟨id, rfl, stepped⟩ | ⟨-, change⟩⟩ := step_or_outer moved
  · obtain ⟨_, _, passage⟩ := ReloadState.step?_passage stepped
    rw [List.getElem?_eq_none (Nat.le_of_eq passage.length)] at made
    exact nomatch made
  · apply change.tries uncalled
    intro same
    rw [same, List.getElem?_eq_none (Nat.le_refl _)] at made
    exact nomatch made

/-- A request that does not come from a call gets the gate at once if that is free, and is dropped if
somebody has it or it was handed to somebody. -/
theorem admitted_or_dropped {phase : Phase π} (kept : c.state.GateKept) (uncalled : m ≠ .request)
    (moved : c.move? m = some next) (made : next.phase? c.state.requests.length = some phase) :
    (∃ trigger, phase = .admitted trigger none ∧ c.state.holder = none ∧
      next.state.holder = some c.state.requests.length) ∨
    phase = .ended (.outcome .coalesced) ∧ ∃ other, c.state.holder = some other ∧
      (c.state.stance? other = some .inside ∨ c.state.stance? other = some .waiting) := by
  obtain ⟨s, trigger, holder, requests, tried⟩ := tried_of_uncalled uncalled moved made
  unfold phase? at made
  rw [tried] at made ⊢
  unfold ReloadState.tryRequest ReloadState.isFree at made ⊢
  cases taken : c.state.holder with
  | none =>
    rw [holder, taken, requests] at made ⊢
    have reached := made.symm.trans List.getElem?_concat_length
    exact Or.inl ⟨trigger, Option.some.inj reached, rfl, rfl⟩
  | some other =>
    rw [holder, taken] at made
    have reached : some phase = some (.ended (.outcome .coalesced)) := by
      rw [← made, ← requests]
      exact List.getElem?_concat_length
    have mem : other ∈ c.state.line := by
      rw [ReloadState.line_of_holder taken]
      exact List.mem_cons_self
    exact Or.inr ⟨Option.some.inj reached, other, rfl, ((kept.members other).mp mem).symm⟩

/-- What comes of an explicit request in a run from where it was made. -/
structure Accounted (asked : Config L π) (id : Nat) (moves : List (Move L π)) (d : Config L π) : Prop where
  covered : d.phase? id = some (.ended (.outcome .coalesced)) →
    ∃ other result, asked.CoveredBy id moves other result
  begins : ∀ trigger ticket, d.phase? id = some (.admitted trigger ticket) → begunIn moves asked = [] →
    ∃ next, d.move? (.step id) = some next ∧ next.phase? id = some (.begun .explicit)
  reloads : ∀ result, d.phase? id = some (.ended result) → (∀ other ∈ begunIn moves asked, other = id) →
    id ∈ begunIn moves asked
  ends : ∃ more e result, run? more d = some e ∧ (∀ m ∈ more, m.isProgress = true) ∧
    e.phase? id = some (.ended result)

/-- What comes of a request that got the gate when it was made. -/
structure Undelayed (first : Config L π) (id : Nat) (trigger : Trigger) (moves : List (Move L π))
    (d : Config L π) : Prop where
  unqueued : ∀ ticket, d.phase? id ≠ some (.ticketed ticket) ∧ d.phase? id ≠ some (.queued ticket)
  begins : d.phase? id = some (.admitted trigger none) →
    ∃ next, d.move? (.step id) = some next ∧ next.phase? id = some (.begun trigger)
  reloads : ∀ result, d.phase? id = some (.ended result) → id ∈ begunIn moves first

theorem CoveredBy.mem_begunIn {other : Nat} {result : ReloadEnd}
    (covered : asked.CoveredBy id moves other result) : other ≠ id ∧ other ∈ begunIn moves asked := by
  obtain ⟨before, after, e, ticket, rfl, ran, -, ne, mem, -, -⟩ := covered
  rw [begunIn_append ran]
  exact ⟨ne, List.mem_append_left _ mem⟩

theorem CoveredBy.phase? {other : Nat} {result : ReloadEnd}
    (covered : asked.CoveredBy id moves other result) (ran : run? moves asked = some d) :
    d.phase? other = some (.ended result) := by
  obtain ⟨before, after, e, ticket, rfl, led, -, -, -, at_end, -⟩ := covered
  obtain ⟨middle, led', later⟩ := run?_append_eq_some ran
  obtain rfl := Option.some.inj (led'.symm.trans led)
  exact phase?_ended_run? at_end later

theorem accounted_of_request (kept : c.state.GateKept) (moved : c.move? .request = some asked)
    (ran : run? moves asked = some d) : asked.Accounted c.state.requests.length moves d := by
  obtain ⟨found, same⟩ := request_awaits moved
  rw [← same] at found
  have kept_asked := gateKept_move? kept moved
  have unbegun : asked.hasBegun c.state.requests.length = false := hasBegun_of_phase? found
  have story := awaits_run? found .ticketed ran
  refine ⟨?_, ?_, ?_, ?_⟩
  · intro ended
    rcases story with ⟨last, here, awaits⟩ | begun | ⟨before, after, e, split, ran', letIn, late⟩
    · obtain rfl := Option.some.inj (here.symm.trans ended)
      exact nomatch awaits
    · rw [hasBegun_of_phase? ended] at begun
      exact nomatch begun
    · exact coveredBy_of_late kept_asked split ran' letIn late
  · intro trigger ticket admitted none_begun
    rcases story with ⟨last, here, awaits⟩ | begun | ⟨before, after, e, split, ran', letIn, late⟩
    · obtain rfl := Option.some.inj (here.symm.trans admitted)
      have count := started_run? ran
      rw [none_begun, List.length_nil, Nat.add_zero] at count
      cases awaits with
      | admitted => exact begins_of_admitted admitted (Or.inr (congrArg some count.symm))
    · rw [hasBegun_of_phase? admitted] at begun
      exact nomatch begun
    · obtain ⟨other, result, covered⟩ := coveredBy_of_late kept_asked split ran' letIn late
      have mem := covered.mem_begunIn.2
      rw [none_begun] at mem
      exact nomatch mem
  · intro result ended alone
    rcases story with ⟨last, here, awaits⟩ | begun | ⟨before, after, e, split, ran', letIn, late⟩
    · obtain rfl := Option.some.inj (here.symm.trans ended)
      exact nomatch awaits
    · rcases (hasBegun_run?_iff ran).mp begun with before | mem
      · exact nomatch unbegun.symm.trans before
      · exact mem
    · obtain ⟨other, result, covered⟩ := coveredBy_of_late kept_asked split ran' letIn late
      obtain ⟨ne, mem⟩ := covered.mem_begunIn
      exact absurd (alone other mem) ne
  · obtain ⟨last, here, -⟩ := phase?_run_induction (P := fun _ => True) found trivial
      (fun _ _ _ _ _ _ => trivial) ran
    exact exists_ended (gateKept_run? kept_asked ran) here

private theorem undelayed_of_admitted {first : Config L π} {trigger : Trigger}
    (found : first.phase? id = some (.admitted trigger none)) (ran : run? moves first = some d) :
    first.Undelayed id trigger moves d := by
  have unbegun : first.hasBegun id = false := hasBegun_of_phase? found
  have story := untimed_run? found ran
  refine ⟨?_, ?_, ?_⟩
  · intro ticket
    have apart : ∀ {phase : Phase π}, phase.hasBegun = false → phase ≠ .admitted trigger none →
        d.phase? id ≠ some phase := by
      intro phase unbegun' ne here
      rcases story with admitted | begun
      · exact ne (Option.some.inj (here.symm.trans admitted))
      · rw [hasBegun_of_phase? here, unbegun'] at begun
        exact nomatch begun
    exact ⟨apart rfl (by simp), apart rfl (by simp)⟩
  · intro admitted
    exact begins_of_admitted admitted (Or.inl rfl)
  · intro result ended
    rcases story with admitted | begun
    · exact nomatch ended.symm.trans admitted
    · rcases (hasBegun_run?_iff ran).mp begun with before | mem
      · exact nomatch unbegun.symm.trans before
      · exact mem

/-- However requests come and step, one of them is inside at a time.  An explicit request is served
without a reload of its own only if that of another one began after it took its ticket and has ended
before the answer; if none has begun when it is let in, it begins one; if it is answered and none but its
own has begun, it has reloaded; and it can always come to its answer.  Any other request takes a free gate
at once, never waits and is answered by its own reload, or it is dropped, while somebody is inside or the
gate was handed to somebody who waits. -/
theorem Reachable.single_flight (reached : c.Reachable) :
    (∀ i j, c.state.stance? i = some .inside → c.state.stance? j = some .inside → i = j) ∧
    (∀ asked moves d, c.move? .request = some asked → run? moves asked = some d →
      asked.Accounted c.state.requests.length moves d) ∧
    ∀ m next phase, m ≠ .request → c.move? m = some next →
      next.phase? c.state.requests.length = some phase →
      (∃ trigger, phase = .admitted trigger none ∧ c.state.holder = none ∧
        next.state.holder = some c.state.requests.length ∧
        ∀ moves d, run? moves next = some d →
          next.Undelayed c.state.requests.length trigger moves d) ∨
      phase = .ended (.outcome .coalesced) ∧ ∃ other, c.state.holder = some other ∧
        (c.state.stance? other = some .inside ∨ c.state.stance? other = some .waiting) := by
  have kept := reached.gateKept
  refine ⟨?_, ?_, ?_⟩
  · intro i j first second
    exact Option.some.inj ((kept.inside i first).symm.trans (kept.inside j second))
  · intro asked moves d moved ran
    exact accounted_of_request kept moved ran
  · intro m next phase uncalled moved made
    rcases admitted_or_dropped kept uncalled moved made with ⟨trigger, rfl, free, holds⟩ | dropped
    · exact Or.inl ⟨trigger, rfl, free, holds, fun moves d ran => undelayed_of_admitted made ran⟩
    · exact Or.inr dropped

def watchedPlan : Plan Unit :=
  { clockPlan with declaration := { clockPlan.declaration with hotReload := some ⟨.sync, 1⟩ } }

def crowded? : Option (Config (String × Bool) Unit) :=
  runOf? watchedPlan refusing ⟨⟨0, .empty, ⟨.empty, "/", "x86_64"⟩, .empty⟩, [], ()⟩
    [.wait 5, .request, .step 0, .step 0, .request, .step 1]

def queueing : List (Move (String × Bool) Unit) :=
  [.step 2, .step 0, .step 0, .step 0, .step 1, .step 1, .step 1, .step 1, .step 1, .step 2, .step 2, .step 2]

def isServed (c : Config L π) (id : Nat) : Bool :=
  match c.phase? id with
  | some (.ended (.outcome .coalesced)) => true
  | _ => false

theorem ended_of_isServed (served : c.isServed id = true) : c.phase? id = some (.ended (.outcome .coalesced)) := by
  unfold isServed at served
  split at served
  · next here => exact here
  · exact nomatch served

theorem crowded_single_flight :
    ∃ (c asked d looked : Config (String × Bool) Unit) (other : Nat) (result : ReloadEnd),
      c.Reachable ∧ c.move? .request = some asked ∧ run? queueing asked = some d ∧
      d.phase? 2 = some (.ended (.outcome .coalesced)) ∧ asked.CoveredBy 2 queueing other result ∧
      c.move? .access = some looked ∧ looked.phase? 2 = some (.ended (.outcome .coalesced)) ∧
      ∃ holder, c.state.holder = some holder ∧
        (c.state.stance? holder = some .inside ∨ c.state.stance? holder = some .waiting) := by
  have answered : (crowded?.bind fun c => (c.move? .request).bind fun asked =>
      (run? queueing asked).map fun d => (c.state.requests.length, isServed d 2)) = some (2, true) := by
    decide +kernel
  have dropped : (crowded?.bind fun c => (c.move? .access).map fun looked => isServed looked 2) =
      some true := by decide +kernel
  obtain ⟨c, ran, answered⟩ := Option.bind_eq_some_iff.mp answered
  obtain ⟨asked, moved, answered⟩ := Option.bind_eq_some_iff.mp answered
  obtain ⟨d, later, answered⟩ := Option.map_eq_some_iff.mp answered
  obtain ⟨count, served⟩ := Prod.mk.inj answered
  rw [ran, Option.bind_some] at dropped
  obtain ⟨looked, accessed, unserved⟩ := Option.map_eq_some_iff.mp dropped
  have reached : c.Reachable := ⟨_, _, _, _, ran⟩
  have ended := ended_of_isServed served
  have gone := ended_of_isServed unserved
  obtain ⟨-, explicit, others⟩ := reached.single_flight
  rw [count] at explicit others
  obtain ⟨other, result, covered⟩ := (explicit asked queueing d moved later).covered ended
  rcases others .access looked _ (by simp) accessed gone with ⟨trigger, admitted, -⟩ | ⟨-, taken⟩
  · exact nomatch admitted
  · exact ⟨c, asked, d, looked, other, result, reached, moved, later, ended, covered, accessed, gone, taken⟩

end Config
end LiveConfig
