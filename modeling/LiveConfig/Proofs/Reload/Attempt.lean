import LiveConfig.Proofs.Pipeline.Precedence
import LiveConfig.Proofs.Reload.Gate

/-!
What happens between the time a request gets the gate and the time its reload is concluded.

As long as a request holds the gate, no other one goes on inside, so the published snapshot is that of
the beginning until one step of the request concludes its reload.  `Toward` says so move by move; what
holds of a whole attempt follows from it by induction.
-/
namespace LiveConfig

variable {L π : Type}

def Phase.isLoading : Phase π → Bool
  | .loading _ _ => true
  | _ => false

namespace Pipeline

def withChain (p : Pipeline π) (chain : LoaderChain π) : Pipeline π := { p with chain }

/-- A pass begins with an error exactly by the locators, whatever the loaders are. -/
theorem start_error {p : Pipeline π} {w after : World π} {e : ConfigError}
    (started : p.start w = (.error e, after)) :
    (p.resolution w).result = .error e ∧
      ∀ chain, (p.withChain chain).start w = (.error e, after) := by
  have resolved : (p.resolution w).result = .error e := by
    unfold start at started
    unfold resolution
    dsimp only at started
    split at started
    · next failed =>
      rw [failed, Except.error.inj (Prod.mk.inj started).1]
    · simp at started
  refine ⟨resolved, ?_⟩
  intro chain
  have elsewhere : ((p.withChain chain).resolution w).result = .error e := resolved
  unfold resolution at resolved elsewhere
  simp only [start, resolved] at started
  simp only [start, elsewhere]
  exact started

end Pipeline

namespace ReloadState

variable {r : ReloadSetup L π} {s t : ReloadState L π} {id : Nat}

/-- Steps before and after a pass do not depend on what reloads work with. -/
theorem step?_congr {phase : Phase π} (found : s.requests[id]? = some phase)
    (aside : ∀ trigger, phase ≠ .begun trigger) (unloaded : phase.isLoading = false)
    (r r' : ReloadSetup L π) : s.step? r id = s.step? r' id := by
  unfold step?
  rw [found]
  cases phase with
  | begun trigger => exact absurd rfl (aside trigger)
  | loading trigger pass => exact nomatch unloaded
  | ticketed | queued | admitted | concluded | ended => rfl

theorem endPass_of_conclude {trigger : Trigger} {pass : LoadPass π} {candidate : Candidate} {w : World π}
    {result : ReloadEnd} {next : Snapshot} {after : Scene L π}
    (finished : r.pipeline.finish pass.outcome s.scene.world = (candidate, w))
    (concluded : Reload.conclude r.hooks trigger candidate s.current { s.scene with world := w } =
      (result, next, after)) :
    endPass r s id trigger pass =
      { s with current := next, scene := after }.setPhase id (.concluded result) := by
  simp only [endPass, finished, concluded]

theorem getElem?_setPhase {old phase : Phase π} (found : s.requests[id]? = some old) :
    (s.setPhase id phase).requests[id]? = some phase := by
  have lt : id < s.requests.length := (List.getElem?_eq_some_iff.mp found).1
  simp [setPhase, lt]

end ReloadState

namespace Config

open ReloadState (getElem?_setPhase)

variable {c d next : Config L π} {id : Nat} {m : Move L π} {result : ReloadEnd}

def withSetup (c : Config L π) (setup : ReloadSetup L π) : Config L π := { c with setup }

def withChain (c : Config L π) (chain : LoaderChain π) : Config L π :=
  c.withSetup { c.setup with pipeline := c.setup.pipeline.withChain chain }

def withHooks (c : Config L π) (hooks : Listeners L π) : Config L π :=
  c.withSetup { c.setup with hooks }

def Unloaded (c : Config L π) (m : Move L π) (next : Config L π) : Prop :=
  ∀ chain, (c.withChain chain).move? m = some (next.withChain chain)

/-- Only the steps of requests depend on more than the declaration. -/
theorem move?_withSetup (moved : c.move? m = some next) (outer : m.stepper? = none)
    {setup : ReloadSetup L π} (same : setup.pipeline.declaration = c.declaration) :
    (c.withSetup setup).move? m = some (next.withSetup setup) := by
  cases m with
  | step id => exact nomatch outer
  | tick order =>
    obtain ⟨t, h, u, state, timer, reload, stepped, rfl⟩ := stepTimer?_eq_some_iff.mp moved
    have reload' : (c.withSetup setup).declaration.hotReload = some h := by
      rw [← reload, ← same]
      rfl
    exact stepTimer?_eq_some_iff.mpr ⟨t, h, u, state, timer, reload', stepped, rfl⟩
  | access =>
    obtain rfl := Option.some.inj moved
    have due : c.state.isCheckDue setup = c.state.isCheckDue c.setup := by
      unfold ReloadState.isCheckDue
      rw [same]
      rfl
    change some (Config.mk setup (c.state.access setup).2 c.cancelled c.dropped c.timer) =
      some (Config.mk setup (c.state.access c.setup).2 c.cancelled c.dropped c.timer)
    unfold ReloadState.access
    rw [due]
  | stop =>
    obtain rfl := Option.some.inj moved
    change some (c.withSetup setup).stopReloading = some (c.stopReloading.withSetup setup)
    have name : (c.withSetup setup).declaration.name = c.declaration.name := by
      rw [← same]
      rfl
    unfold stopReloading
    by_cases cancelled : c.cancelled = true
    · rw [if_pos cancelled, if_pos (show (c.withSetup setup).cancelled = true from cancelled)]
    · rw [if_neg cancelled, if_neg (show ¬ (c.withSetup setup).cancelled = true from cancelled), name]
      rfl
  | request | register | unregister | drop | wait | surround =>
    obtain rfl := Option.some.inj moved
    rfl

private theorem unloaded_of_stepper?_none (moved : c.move? m = some next) (outer : m.stepper? = none) :
    c.Unloaded m next := by
  intro chain
  have same : next.setup = c.setup := (move?_cases moved).1
  unfold withChain
  rw [same]
  exact move?_withSetup moved outer rfl

/-- The listeners play no part in a move, unless a request concludes with its candidate. -/
theorem move?_withHooks (moved : c.move? m = some next)
    (silent : ∀ id, m = .step id → c.finished? id = none) (hooks : Listeners L π) :
    (c.withHooks hooks).move? m = some (next.withHooks hooks) := by
  have same : next.setup = c.setup := (move?_cases moved).1
  unfold withHooks
  rw [same]
  cases m with
  | step id =>
    have unfinished := silent id rfl
    obtain ⟨state, stepped, rfl⟩ := Option.map_eq_some_iff.mp moved
    have alike : c.state.step? { c.setup with hooks } id = c.state.step? c.setup id := by
      unfold ReloadState.step?
      split
      · rfl
      · next phase found =>
        cases phase with
        | loading trigger pass =>
          unfold finished? at unfinished
          rw [show c.phase? id = some (.loading trigger pass) from found] at unfinished
          dsimp only at unfinished ⊢
          unfold ReloadState.continuePass?
          split
          · next done =>
            rw [done] at unfinished
            exact nomatch unfinished
          · rfl
        | ticketed | queued | admitted | begun | concluded | ended => rfl
    change Option.map _ (c.state.step? { c.setup with hooks } id) = _
    rw [alike, stepped]
    rfl
  | request | access | tick | register | unregister | stop | drop | wait | surround =>
    exact move?_withSetup moved rfl rfl

private theorem unloaded_step {phase : Phase π} (moved : c.move? (.step id) = some next)
    (found : c.phase? id = some phase) (aside : ∀ trigger, phase ≠ .begun trigger)
    (unloaded : phase.isLoading = false) : c.Unloaded (.step id) next := by
  intro chain
  obtain ⟨state, stepped, rfl⟩ := Option.map_eq_some_iff.mp moved
  change Option.map _ (c.state.step? (c.withChain chain).setup id) = _
  rw [ReloadState.step?_congr found aside unloaded _ c.setup, stepped]
  rfl

def isLoading (c : Config L π) (id : Nat) : Bool := (c.phase? id).any Phase.isLoading

private theorem isLoading_of_phase? {phase : Phase π} (found : c.phase? id = some phase) :
    c.isLoading id = phase.isLoading := by
  unfold isLoading
  rw [found]
  rfl

inductive Concluding (c : Config L π) (id : Nat) (next : Snapshot) : ReloadEnd → Prop where
  | coalesced (same : next = c.snapshot) (silent : c.callsBy id = []) :
      Concluding c id next (.outcome .coalesced)
  | failed {e : ConfigError} (same : next = c.snapshot) (silent : c.callsBy id = [])
      (unresolved : (c.setup.pipeline.resolution c.world).result = .error e) :
      Concluding c id next (.failed e)
  | finished {candidate : Candidate} {result : ReloadEnd} (found : c.candidate? id = some candidate)
      (conclusion : Reload.Conclusion c.snapshot candidate (c.callsBy id) next result)
      (asks : ∀ call ∈ c.callsBy id, call.isQuestion = true →
        Transaction.Asks (c.setup.hooks c.snapshot) c.state.scene.registry.registrations call)
      (delivers : ∀ version changes, result = .outcome (.applied version changes) →
        Transaction.Delivers (c.setup.hooks next).kind c.state.scene.registry.registrations changes next
          (c.callsBy id)) :
      Concluding c id next result

structure Beside (c : Config L π) (id : Nat) (m : Move L π) (next : Config L π) : Prop where
  moved : c.move? m = some next
  other : m.stepper? ≠ some id
  setup : next.setup = c.setup
  snapshot : next.snapshot = c.snapshot
  phase : next.phase? id = c.phase? id
  unloaded : c.Unloaded m next

structure GoesOn (c : Config L π) (id : Nat) (next : Config L π) : Prop where
  moved : c.move? (.step id) = some next
  setup : next.setup = c.setup
  snapshot : next.snapshot = c.snapshot
  underway : ∃ phase, next.phase? id = some phase ∧ phase.isUnderway = true
  silent : c.callsBy id = []
  stays : c.isLoading id = true → next.isLoading id = true
  unloaded : next.isLoading id = false → c.Unloaded (.step id) next

structure Concludes (c : Config L π) (id : Nat) (result : ReloadEnd) (next : Config L π) : Prop where
  moved : c.move? (.step id) = some next
  concluded : next.phase? id = some (.concluded result)
  concluding : c.Concluding id next.snapshot result
  unloaded : ∀ e, result = .failed e → c.isLoading id = false ∧ c.Unloaded (.step id) next

theorem silent_of_unloaded {phase : Phase π} (found : c.phase? id = some phase)
    (unloaded : phase.isLoading = false) : c.callsBy id = [] := by
  unfold callsBy finished?
  rw [found]
  cases phase with
  | loading => exact nomatch unloaded
  | ticketed | queued | admitted | begun | concluded | ended => rfl

private theorem silent_of_ready {trigger : Trigger} {pass : LoadPass π} {ready : Nat}
    (found : c.phase? id = some (.loading trigger pass)) (waits : pass.ready? = some ready) :
    c.callsBy id = [] := by
  unfold callsBy finished?
  rw [found]
  dsimp only
  rw [waits]

theorem loading_of_finished? {candidate : Candidate} {w : World π}
    (finished : c.finished? id = some (candidate, w)) :
    ∃ trigger pass, c.phase? id = some (.loading trigger pass) ∧ pass.ready? = none ∧
      c.setup.pipeline.finish pass.outcome c.world = (candidate, w) := by
  unfold finished? at finished
  split at finished
  · next trigger pass found =>
    split at finished
    · next done => exact ⟨trigger, pass, found, done, Option.some.inj finished⟩
    · exact nomatch finished
  · exact nomatch finished

/-- How a request concludes with its candidate depends on what the listeners make of it alone. -/
theorem step?_of_finished {candidate : Candidate} {w : World π}
    (finished : c.finished? id = some (candidate, w)) :
    ∃ trigger, ∀ (hooks : Listeners L π) {result published after},
      Reload.conclude hooks trigger candidate c.snapshot { c.state.scene with world := w } =
          (result, published, after) →
        c.state.step? { c.setup with hooks } id =
          some ({ c.state with current := published, scene := after }.setPhase id (.concluded result)) := by
  obtain ⟨trigger, pass, found, done, finish⟩ := loading_of_finished? finished
  refine ⟨trigger, ?_⟩
  intro hooks result published after concluded
  have here : c.state.requests[id]? = some (.loading trigger pass) := found
  have finish' : ({ c.setup with hooks } : ReloadSetup L π).pipeline.finish pass.outcome
      c.state.scene.world = (candidate, w) := finish
  simp only [ReloadState.step?, ReloadState.continuePass?, here, done,
    ReloadState.endPass_of_conclude finish' concluded]

/-- The end of a pass concludes the reload, and makes the calls that its listeners record. -/
theorem concluding_endPass {trigger : Trigger} {pass : LoadPass π}
    (found : c.phase? id = some (.loading trigger pass)) (done : pass.ready? = none) :
    ∃ result, (c.state.endPass c.setup id trigger pass).requests[id]? = some (.concluded result) ∧
      c.Concluding id (c.state.endPass c.setup id trigger pass).current result ∧
      ∀ e, result ≠ .failed e := by
  rcases finish : c.setup.pipeline.finish pass.outcome c.world with ⟨candidate, w⟩
  have finished : c.finished? id = some (candidate, w) := by
    unfold finished?
    rw [found]
    dsimp only
    rw [done, finish]
  obtain ⟨calls, result, next, after, plain, recorded, conclusion, asks, delivers, -⟩ :=
    Reload.conclude_recording c.setup.hooks trigger candidate c.snapshot { c.state.scene with world := w }
  have made : c.callsBy id = calls := by
    unfold callsBy
    rw [found, finished]
    dsimp only
    rw [recorded]
    rfl
  have here : c.candidate? id = some candidate := by
    unfold candidate?
    rw [finished]
    rfl
  rw [ReloadState.endPass_of_conclude finish plain]
  refine ⟨result, getElem?_setPhase found, .finished here ?_ ?_ ?_, conclusion.ne_failed⟩
  · rw [made]
    exact conclusion
  · rw [made]
    exact asks
  · rw [made]
    exact delivers

theorem step_of_move? (moved : c.move? (.step id) = some next) :
    next.setup = c.setup ∧ c.state.step? c.setup id = some next.state := by
  obtain ⟨state, stepped, rfl⟩ := Option.map_eq_some_iff.mp moved
  exact ⟨rfl, stepped⟩

theorem move?_of_step? {state : ReloadState L π} (stepped : c.state.step? c.setup id = some state) :
    c.move? (.step id) = some { c with state } := by
  change (c.state.step? c.setup id).map _ = _
  rw [stepped]
  rfl

theorem of_setPhase {s : ReloadState L π} {old phase : Phase π} (after : s.setPhase id phase = next.state)
    (found : s.requests[id]? = some old) : next.phase? id = some phase ∧ next.snapshot = s.current := by
  unfold phase? snapshot
  rw [← after]
  exact ⟨getElem?_setPhase found, rfl⟩

/-- A request that is not loading before a step nor after it goes on without the loaders. -/
theorem GoesOn.of_unloaded {phase after : Phase π} (found : c.phase? id = some phase)
    (moved : c.move? (.step id) = some next) (aside : ∀ trigger, phase ≠ .begun trigger)
    (unloaded : phase.isLoading = false) (snapshot : next.snapshot = c.snapshot)
    (reached : next.phase? id = some after) (underway : after.isUnderway = true) : c.GoesOn id next := by
  refine ⟨moved, (step_of_move? moved).1, snapshot, ⟨after, reached, underway⟩,
    silent_of_unloaded found unloaded, ?_, ?_⟩
  · intro loading
    rw [isLoading_of_phase? found, unloaded] at loading
    exact nomatch loading
  · intro _
    exact unloaded_step moved found aside unloaded

private theorem GoesOn.of_loading {trigger : Trigger} {pass : LoadPass π}
    (moved : c.move? (.step id) = some next) (snapshot : next.snapshot = c.snapshot)
    (reached : next.phase? id = some (.loading trigger pass)) (silent : c.callsBy id = []) :
    c.GoesOn id next := by
  have loading := isLoading_of_phase? reached
  refine ⟨moved, (step_of_move? moved).1, snapshot, ⟨_, reached, rfl⟩, silent, fun _ => loading, ?_⟩
  intro unloaded
  rw [loading] at unloaded
  exact nomatch unloaded

private theorem unloaded_of_start_error {trigger : Trigger} {e : ConfigError} {w : World π}
    (found : c.phase? id = some (.begun trigger))
    (started : c.setup.pipeline.start c.world = (.error e, w)) (moved : c.move? (.step id) = some next) :
    c.Unloaded (.step id) next := by
  intro chain
  have same : c.state.step? (c.withChain chain).setup id = c.state.step? c.setup id := by
    unfold ReloadState.step?
    rw [show c.state.requests[id]? = some (.begun trigger) from found]
    dsimp only
    unfold ReloadState.beginPass
    rw [show c.setup.pipeline.start c.state.scene.world = (.error e, w) from started,
      show (c.withChain chain).setup.pipeline.start c.state.scene.world = (.error e, w) from
        (Pipeline.start_error started).2 chain]
  obtain ⟨state, stepped, rfl⟩ := Option.map_eq_some_iff.mp moved
  change (c.state.step? (c.withChain chain).setup id).map _ = _
  rw [same, stepped]
  rfl

/-- A request that has the gate and is still to conclude goes on or concludes. -/
theorem goesOn_or_concludes {phase : Phase π} (found : c.phase? id = some phase)
    (underway : phase.isUnderway = true) (moved : c.move? (.step id) = some next) :
    c.GoesOn id next ∨ ∃ result, c.Concludes id result next := by
  obtain ⟨setup, stepped⟩ := step_of_move? moved
  have here : c.state.requests[id]? = some phase := found
  unfold ReloadState.step? at stepped
  rw [here] at stepped
  cases phase with
  | ticketed | concluded | ended => exact nomatch underway
  | queued ticket =>
    dsimp only at stepped
    split at stepped
    · obtain ⟨reached, snapshot⟩ := of_setPhase (Option.some.inj stepped) here
      exact Or.inl (.of_unloaded found moved (by simp) rfl snapshot reached rfl)
    · exact nomatch stepped
  | admitted trigger ticket =>
    have after := Option.some.inj stepped
    unfold ReloadState.startReload at after
    split at after
    · obtain ⟨reached, snapshot⟩ := of_setPhase after here
      exact Or.inr ⟨_, moved, reached, .coalesced snapshot (silent_of_unloaded found rfl), by simp⟩
    · obtain ⟨reached, snapshot⟩ := of_setPhase after here
      exact Or.inl (.of_unloaded found moved (by simp) rfl snapshot reached rfl)
  | begun trigger =>
    have after := Option.some.inj stepped
    have silent := silent_of_unloaded found rfl
    unfold ReloadState.beginPass at after
    split at after
    · next e w started =>
      obtain ⟨reached, snapshot⟩ := of_setPhase after here
      have unresolved := (Pipeline.start_error started).1
      refine Or.inr ⟨.failed e, moved, reached, .failed snapshot silent unresolved, ?_⟩
      intro _ _
      exact ⟨isLoading_of_phase? found, unloaded_of_start_error found started moved⟩
    · obtain ⟨reached, snapshot⟩ := of_setPhase after here
      exact Or.inl (.of_loading moved snapshot reached silent)
  | loading trigger pass =>
    dsimp only at stepped
    unfold ReloadState.continuePass? at stepped
    split at stepped
    · next done =>
      have after := Option.some.inj stepped
      obtain ⟨result, reached, concluding, whole⟩ := concluding_endPass found done
      rw [after] at reached concluding
      exact Or.inr ⟨result, moved, reached, concluding, fun e failed => absurd failed (whole e)⟩
    · next ready waits =>
      split at stepped
      · obtain ⟨reached, snapshot⟩ := of_setPhase (Option.some.inj stepped) here
        exact Or.inl (.of_loading moved snapshot reached (silent_of_ready found waits))
      · exact nomatch stepped

/-- While a request holds the gate and does not step itself, all that matters to it stays. -/
theorem beside {phase : Phase π} (kept : c.state.GateKept) (holds : c.state.holder = some id)
    (found : c.phase? id = some phase) (moved : c.move? m = some next) (other : m.stepper? ≠ some id) :
    c.Beside id m next ∧ next.state.holder = some id := by
  obtain ⟨setup, ⟨id', rfl, stepped⟩ | ⟨outer, arrival⟩⟩ := move?_cases moved
  · have ne : id ≠ id' := fun same => other (congrArg some same.symm)
    obtain ⟨phase', found', passage⟩ := ReloadState.step?_passage stepped
    have others : next.phase? id = c.phase? id := passage.others ne
    cases passage with
    | enters free => exact absurd (free.symm.trans holds) (by simp)
    | queues _ current holder =>
      exact ⟨⟨moved, other, setup, current, others, unloaded_step moved found' (by simp) rfl⟩,
        holder.trans holds⟩
    | goesOn _ enters =>
      -- Who steps inside holds the gate, and there is one gate.
      have holds' : c.state.holder = some id' := by
        rcases enters with inside | holds'
        · exact kept.inside id' (inside ▸ ReloadState.stance?_eq_some found')
        · exact holds'
      exact absurd (Option.some.inj (holds.symm.trans holds')) ne
    | leaves =>
      have holds' := kept.inside id' (ReloadState.stance?_eq_some found')
      exact absurd (Option.some.inj (holds.symm.trans holds')) ne
  · have stays : next.phase? id = c.phase? id := (arrival.requests found).trans found.symm
    exact ⟨⟨moved, other, setup, arrival.current, stays, unloaded_of_stepper?_none moved outer⟩,
      arrival.holder holds⟩

private theorem holder_of_step {phase : Phase π} (found : c.phase? id = some phase)
    (underway : phase.isUnderway = true) (holds : c.state.holder = some id)
    (moved : c.move? (.step id) = some next) : next.state.holder = some id := by
  obtain ⟨phase', found', passage⟩ := ReloadState.step?_passage (step_of_move? moved).2
  obtain rfl := Option.some.inj (found'.symm.trans found)
  cases passage with
  | enters | queues | leaves => exact nomatch underway
  | goesOn _ _ _ holder => exact holder.trans holds

private theorem phase?_ended_move? {result : ReloadEnd} (ended : c.phase? id = some (.ended result))
    (moved : c.move? m = some next) : next.phase? id = some (.ended result) := by
  obtain ⟨-, ⟨id', rfl, stepped⟩ | ⟨-, arrival⟩⟩ := move?_cases moved
  · obtain ⟨phase, found, passage⟩ := ReloadState.step?_passage stepped
    by_cases same : id = id'
    · subst same
      obtain rfl := Option.some.inj (found.symm.trans ended)
      cases passage with
      | goesOn underway => exact nomatch underway
    · exact (passage.others same).trans ended
  · exact arrival.requests ended

theorem phase?_ended_run? {result : ReloadEnd} {moves : List (Move L π)}
    (ended : c.phase? id = some (.ended result)) (ran : run? moves c = some d) :
    d.phase? id = some (.ended result) := by
  induction moves generalizing c with
  | nil =>
    obtain rfl := Option.some.inj ran
    exact ended
  | cons m rest ih =>
    obtain ⟨next, moved, later⟩ := run?_cons_eq_some ran
    exact ih (phase?_ended_move? ended moved) later

inductive Stays (id : Nat) : Config L π → List (Move L π) → Config L π → Prop where
  | nil (c : Config L π) : Stays id c [] c
  | cons {c next d : Config L π} {m : Move L π} {rest : List (Move L π)} (here : c.Beside id m next)
      (later : Stays id next rest d) : Stays id c (m :: rest) d

inductive Toward (id : Nat) (result : ReloadEnd) : Config L π → List (Move L π) → Config L π → Prop where
  | beside {c next d : Config L π} {m : Move L π} {rest : List (Move L π)} (here : c.Beside id m next)
      (later : Toward id result next rest d) : Toward id result c (m :: rest) d
  | goesOn {c next d : Config L π} {rest : List (Move L π)} (here : c.GoesOn id next)
      (later : Toward id result next rest d) : Toward id result c (.step id :: rest) d
  | concludes {c next d : Config L π} {rest : List (Move L π)} (here : c.Concludes id result next)
      (later : Stays id next rest d) : Toward id result c (.step id :: rest) d

theorem stepper?_eq_some (h : m.stepper? = some id) : m = .step id := by
  cases m with
  | step => exact congrArg Move.step (Option.some.inj h)
  | request | access | tick | register | unregister | stop | drop | wait | surround => exact nomatch h

private theorem stays_of_concluded {moves : List (Move L π)} {first : ReloadEnd} (kept : c.state.GateKept)
    (holds : c.state.holder = some id) (found : c.phase? id = some (.concluded first))
    (ran : run? moves c = some d) (concluded : d.phase? id = some (.concluded result)) :
    Stays id c moves d ∧ first = result := by
  induction moves generalizing c with
  | nil =>
    obtain rfl := Option.some.inj ran
    have same := Option.some.inj (found.symm.trans concluded)
    exact ⟨.nil c, Phase.concluded.inj same⟩
  | cons m rest ih =>
    obtain ⟨next, moved, later⟩ := run?_cons_eq_some ran
    by_cases own : m.stepper? = some id
    · obtain rfl := stepper?_eq_some own
      -- With one more step the request has ended for good, and could not be found concluded.
      have ended : next.phase? id = some (.ended first) := by
        have stepped := (step_of_move? moved).2
        unfold ReloadState.step? at stepped
        rw [show c.state.requests[id]? = some (.concluded first) from found] at stepped
        have here : c.state.release.requests[id]? = some (.concluded first) := by
          unfold ReloadState.release
          split
          · exact found
          · exact found
        exact (of_setPhase (Option.some.inj stepped) here).1
      exact absurd ((phase?_ended_run? ended later).symm.trans concluded) (by simp)
    · obtain ⟨here, holds'⟩ := beside kept holds found moved own
      obtain ⟨stays, same⟩ := ih (gateKept_move? kept moved) holds' (here.phase.trans found) later
      exact ⟨.cons here stays, same⟩

theorem toward_of_underway {moves : List (Move L π)} {phase : Phase π} (kept : c.state.GateKept)
    (holds : c.state.holder = some id) (found : c.phase? id = some phase)
    (underway : phase.isUnderway = true) (ran : run? moves c = some d)
    (concluded : d.phase? id = some (.concluded result)) : Toward id result c moves d := by
  induction moves generalizing c phase with
  | nil =>
    obtain rfl := Option.some.inj ran
    obtain rfl := Option.some.inj (found.symm.trans concluded)
    exact nomatch underway
  | cons m rest ih =>
    obtain ⟨next, moved, later⟩ := run?_cons_eq_some ran
    have kept' := gateKept_move? kept moved
    by_cases own : m.stepper? = some id
    · obtain rfl := stepper?_eq_some own
      have holds' := holder_of_step found underway holds moved
      rcases goesOn_or_concludes found underway moved with here | ⟨first, here⟩
      · obtain ⟨phase', found', underway'⟩ := here.underway
        exact .goesOn here (ih kept' holds' found' underway' later)
      · obtain ⟨stays, rfl⟩ := stays_of_concluded kept' holds' here.concluded later concluded
        exact .concludes here stays
    · obtain ⟨here, holds'⟩ := beside kept holds found moved own
      exact .beside here (ih kept' holds' (here.phase.trans found) underway later)

theorem Attempt.toward {moves : List (Move L π)} (reached : c.Reachable)
    (attempt : c.Attempt id moves d result) : Toward id result c moves d := by
  obtain ⟨holds, fresh, ran, concluded⟩ := attempt
  rcases fresh with ⟨ticket, found⟩ | ⟨trigger, ticket, found⟩
  · exact toward_of_underway reached.gateKept holds found rfl ran concluded
  · exact toward_of_underway reached.gateKept holds found rfl ran concluded

private theorem callsOf_cons {rest : List (Move L π)} (moved : c.move? m = some next) :
    callsOf id (m :: rest) c =
      (if m.stepper? = some id then c.callsBy id else []) ++ callsOf id rest next := by
  simp only [callsOf, moved]

private theorem Beside.callsOf_cons {rest : List (Move L π)} (here : c.Beside id m next) :
    callsOf id (m :: rest) c = callsOf id rest next := by
  rw [Config.callsOf_cons here.moved, if_neg here.other, List.nil_append]

theorem run?_cons {rest : List (Move L π)} (moved : c.move? m = some next)
    (ran : run? rest next = some d) : run? (m :: rest) c = some d := by
  simp only [run?, moved]
  exact ran

/-- While a request does not step, nothing is published, and no call is made for it. -/
private theorem Stays.silent {moves : List (Move L π)} (stays : Stays id c moves d) :
    d.snapshot = c.snapshot ∧ callsOf id moves c = [] := by
  induction stays with
  | nil => exact ⟨rfl, rfl⟩
  | cons here _ ih =>
    obtain ⟨snapshot, calls⟩ := ih
    exact ⟨snapshot.trans here.snapshot, here.callsOf_cons.trans calls⟩

private theorem Stays.unloaded {moves : List (Move L π)} (stays : Stays id c moves d) (chain : LoaderChain π) :
    run? moves (c.withChain chain) = some (d.withChain chain) := by
  induction stays with
  | nil => rfl
  | cons here _ ih => exact run?_cons (here.unloaded chain) ih

/-- An attempt concludes by one step of its request.  Until then the snapshot is that of the beginning,
from then on it is that of the step, and all calls of the attempt are made in it. -/
theorem Toward.concluding_step {moves : List (Move L π)} (toward : Toward id result c moves d) :
    ∃ before after m next,
      moves = before ++ .step id :: after ∧ run? before c = some m ∧ m.setup = c.setup ∧
      m.snapshot = c.snapshot ∧ m.Concludes id result next ∧ d.snapshot = next.snapshot ∧
      callsOf id moves c = m.callsBy id := by
  induction toward with
  | beside here _ ih =>
    obtain ⟨before, after, m, next, rfl, ran, setup, snapshot, concludes, last, calls⟩ := ih
    exact ⟨_ :: before, after, m, next, rfl, run?_cons here.moved ran, setup.trans here.setup,
      snapshot.trans here.snapshot, concludes, last, here.callsOf_cons.trans calls⟩
  | goesOn here _ ih =>
    obtain ⟨before, after, m, next, rfl, ran, setup, snapshot, concludes, last, calls⟩ := ih
    refine ⟨_ :: before, after, m, next, rfl, run?_cons here.moved ran, setup.trans here.setup,
      snapshot.trans here.snapshot, concludes, last, ?_⟩
    rw [callsOf_cons here.moved, here.silent, ite_self, List.nil_append]
    exact calls
  | @concludes c next d rest here later =>
    obtain ⟨snapshot, calls⟩ := later.silent
    refine ⟨[], rest, c, next, rfl, rfl, rfl, rfl, here, snapshot, ?_⟩
    rw [callsOf_cons here.moved, calls, List.append_nil]
    exact if_pos rfl

/-- An attempt that fails calls no loader: with any others it takes the same course. -/
theorem Toward.unloaded {moves : List (Move L π)} {e : ConfigError}
    (toward : Toward id (.failed e) c moves d) :
    c.isLoading id = false ∧ ∀ chain, run? moves (c.withChain chain) = some (d.withChain chain) := by
  induction toward with
  | beside here _ ih =>
    obtain ⟨idle, unloaded⟩ := ih
    unfold isLoading at idle ⊢
    rw [here.phase] at idle
    exact ⟨idle, fun chain => run?_cons (here.unloaded chain) (unloaded chain)⟩
  | goesOn here _ ih =>
    obtain ⟨idle, unloaded⟩ := ih
    refine ⟨?_, fun chain => run?_cons (here.unloaded idle chain) (unloaded chain)⟩
    by_contra loading
    rw [here.stays (by simpa using loading)] at idle
    exact nomatch idle
  | concludes here later =>
    obtain ⟨idle, unloaded⟩ := here.unloaded e rfl
    exact ⟨idle, fun chain => run?_cons (unloaded chain) (later.unloaded chain)⟩

end Config
end LiveConfig
