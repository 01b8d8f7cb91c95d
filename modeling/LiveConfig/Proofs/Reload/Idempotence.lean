import LiveConfig.Proofs.Listener.Verdicts
import LiveConfig.Proofs.Pipeline.Repetition
import LiveConfig.Proofs.Reload.Freshness

/-!
Reloading again.

As long as the surroundings stay calm, all passes lead to one candidate.  Listeners who decide on each
change alone have let pass of it what they ever will, so a reload after one that has come to its end finds
only what was refused, and that is refused again.
-/
namespace LiveConfig

open ListenerCall (vetoedKeys)
open Transaction (decided)

variable {L π : Type}

/-- The listeners decide on each change alone, and take part in the same way whatever is published. -/
structure Listeners.DecideBy (hooks : Listeners L π) (verdict : L → Change → Verdict)
    (listeners : List L) : Prop where
  kind : ∀ l ∈ listeners, ∀ published other, (hooks published).kind l = (hooks other).kind l
  decides : ∀ l ∈ listeners, ∀ published, (hooks published).DecidesBy verdict l

namespace Config

variable {c d e f next : Config L π} {id : Nat} {m : Move L π} {moves : List (Move L π)}
  {result : ReloadEnd}

def Always (P : Config L π → Prop) : List (Move L π) → Config L π → Prop
  | [], _ => True
  | m :: rest, c => P c ∧ ∀ next, c.move? m = some next → Always P rest next

structure Reloads (c : Config L π) (id : Nat) (moves : List (Move L π)) (d : Config L π)
    (result : ReloadEnd) : Prop where
  begun : ∃ trigger, c.phase? id = some (.begun trigger)
  runs : run? moves c = some d
  concluded : d.phase? id = some (.concluded result)

def reload? (c : Config L π) (id : Nat) (moves : List (Move L π)) : Option (ReloadEnd × Config L π) :=
  match c.phase? id with
  | some (.begun _) => (run? moves c).bind fun d =>
    match d.phase? id with
    | some (.concluded result) => some (result, d)
    | _ => none
  | _ => none

private theorem reloads_of_reload? (reload : c.reload? id moves = some (result, d)) :
    c.Reloads id moves d result := by
  unfold reload? at reload
  split at reload
  · next trigger begun =>
    obtain ⟨d', ran, shown⟩ := Option.bind_eq_some_iff.mp reload
    split at shown
    · next concluded =>
      obtain ⟨rfl, rfl⟩ := by simpa only [Option.some.injEq, Prod.mk.injEq] using shown
      exact ⟨⟨trigger, begun⟩, ran, concluded⟩
    · exact nomatch shown
  · exact nomatch reload

private theorem Always.cons {P : Config L π → Prop} (here : P c) (moved : c.move? m = some next)
    (later : Always P moves next) : Always P (m :: moves) c := by
  refine ⟨here, fun other moved' => ?_⟩
  obtain rfl := Option.some.inj (moved.symm.trans moved')
  exact later

private theorem always_of_throughout {P : Config L π → Prop} {p : Config L π → Bool}
    (holds : ∀ c, p c = true → P c) (ran : run? moves c = some d) (all : throughout p moves c = true) :
    Always P moves c := by
  induction moves generalizing c with
  | nil => trivial
  | cons m rest ih =>
    obtain ⟨next, moved, later⟩ := run?_cons_eq_some ran
    rw [throughout_cons moved, Bool.and_eq_true] at all
    exact .cons (holds c all.1) moved (ih later all.2)

private theorem always_append {P : Config L π → Prop} {first second : List (Move L π)}
    (ran : run? first c = some d) :
    Always P (first ++ second) c ↔ Always P first c ∧ Always P second d := by
  induction first generalizing c with
  | nil =>
    obtain rfl := Option.some.inj ran
    exact (iff_of_eq (true_and _)).symm
  | cons m rest ih =>
    obtain ⟨next, moved, later⟩ := run?_cons_eq_some ran
    constructor
    · rintro ⟨here, goesOn⟩
      obtain ⟨earlier, others⟩ := (ih later).mp (goesOn next moved)
      exact ⟨.cons here moved earlier, others⟩
    · rintro ⟨⟨here, goesOn⟩, others⟩
      exact .cons here moved ((ih later).mpr ⟨goesOn next moved, others⟩)

private theorem Reloads.toward (kept : c.state.GateKept) (reload : c.Reloads id moves d result) :
    Toward id result c moves d := by
  obtain ⟨⟨trigger, found⟩, ran, concluded⟩ := reload
  have holds := kept.inside id (ReloadState.stance?_eq_some found)
  exact toward_of_underway kept holds found rfl ran concluded

def LoadsLead (calm : Outside → π → Prop) (outcome : LoadOutcome) (c : Config L π) : Prop :=
  ∀ id trigger pass, c.phase? id = some (.loading trigger pass) →
    c.setup.pipeline.Leads calm outcome pass

variable {calm : Outside → π → Prop} {outcome : LoadOutcome}

/-- After a step of a reload that has begun, its pass is under way, or it is concluded. -/
private theorem loading_or_concluded {phase : Phase π} (found : c.phase? id = some phase)
    (reloads : phase.isReloading = true) (moved : c.move? (.step id) = some next) :
    (∃ trigger pass, next.phase? id = some (.loading trigger pass)) ∨
      ∃ result, next.phase? id = some (.concluded result) := by
  obtain ⟨old, new, before, reached, follows⟩ := follows_of_step moved
  obtain rfl := Option.some.inj (found.symm.trans before)
  generalize next.state.started = started at follows
  cases follows with
  | loads => exact Or.inl ⟨_, _, reached⟩
  | concludes => exact Or.inr ⟨_, reached⟩
  | enters | queues | isLetIn | isServed | begins | leaves => exact nomatch reloads

/-- A step after which a pass is under way has begun it, or went on with it. -/
theorem loads_of_step {trigger : Trigger} {pass : LoadPass π} (moved : c.move? (.step id) = some next)
    (found : next.phase? id = some (.loading trigger pass)) :
    next.state.scene.registry = c.state.scene.registry ∧
      (c.setup.pipeline.start c.world = (.ok pass, next.world) ∨
        ∃ first old now, c.phase? id = some (.loading first old) ∧
          LoadPass.resume now old c.world = (pass, next.world)) := by
  obtain ⟨old, new, before, reached, follows⟩ := follows_of_step moved
  obtain rfl := Option.some.inj (reached.symm.trans found)
  have stepped := (step_of_move? moved).2
  have here : c.state.requests[id]? = some old := before
  unfold ReloadState.step? at stepped
  rw [here] at stepped
  rcases follows.isReloading rfl with reloads | begins
  · cases old with
    | begun first =>
      have after := Option.some.inj stepped
      unfold ReloadState.beginPass at after
      split at after
      · exact nomatch (of_setPhase after here).1.symm.trans found
      · next began w started =>
        obtain ⟨-, rfl⟩ :=
          Phase.loading.inj (Option.some.inj ((of_setPhase after here).1.symm.trans found))
        have world : w = next.world := congrArg (·.scene.world) after
        subst world
        exact ⟨congrArg (·.scene.registry) after.symm, Or.inl started⟩
    | loading first earlier =>
      dsimp only at stepped
      unfold ReloadState.continuePass? at stepped
      split at stepped
      · next done =>
        obtain ⟨result, ended, -⟩ := concluding_endPass before done
        rw [Option.some.inj stepped] at ended
        exact nomatch ended.symm.trans found
      · split at stepped
        · have after := Option.some.inj stepped
          obtain ⟨-, rfl⟩ :=
            Phase.loading.inj (Option.some.inj ((of_setPhase after here).1.symm.trans found))
          have world : (LoadPass.resume c.state.now earlier c.world).2 = next.world :=
            congrArg (·.scene.world) after
          exact ⟨congrArg (·.scene.registry) after.symm,
            Or.inr ⟨first, earlier, c.state.now, before, by rw [← world]; rfl⟩⟩
        · exact nomatch stepped
    | ticketed | queued | admitted | concluded | ended => exact nomatch reloads
  · exact nomatch begins

/-- A step of a pass on the way to an outcome leads to one, and the surroundings stay calm. -/
theorem leads_of_step (repeats : c.setup.pipeline.Repeats calm outcome) (within : c.world.Within calm)
    (all : c.LoadsLead calm outcome) (moved : c.move? (.step id) = some next) {trigger : Trigger}
    {pass : LoadPass π} (found : next.phase? id = some (.loading trigger pass)) :
    c.setup.pipeline.Leads calm outcome pass ∧ next.world.Within calm := by
  obtain ⟨-, started | ⟨first, old, now, before, resumed⟩⟩ := loads_of_step moved found
  · exact repeats.leads within started
  · have leads := (all id first old before).resume repeats.outlasts now within
    rw [resumed] at leads
    exact leads

private theorem loadsLead_move? (repeats : c.setup.pipeline.Repeats calm outcome)
    (within : c.world.Within calm) (all : c.LoadsLead calm outcome) (moved : c.move? m = some next) :
    next.LoadsLead calm outcome := by
  intro id trigger pass found
  rw [(move?_cases moved).1]
  by_cases own : m.stepper? = some id
  · obtain rfl := stepper?_eq_some own
    exact (leads_of_step repeats within all moved found).1
  · cases before : c.phase? id with
    | none =>
      have unbegun := hasBegun_eq_false_of_new before moved
      rw [hasBegun_of_phase? found] at unbegun
      exact nomatch unbegun
    | some old =>
      obtain rfl := Option.some.inj ((phase?_of_other before moved own).symm.trans found)
      exact all id trigger pass before

/-- Who has just begun a reload is alone inside, so no pass is under way. -/
private theorem Reloads.loadsLead (kept : c.state.GateKept) (reload : c.Reloads id moves d result) :
    c.LoadsLead calm outcome := by
  obtain ⟨⟨trigger, begun⟩, -, -⟩ := reload
  have holds := kept.inside id (ReloadState.stance?_eq_some begun)
  intro other trigger pass found
  have holds' := kept.inside other (ReloadState.stance?_eq_some found)
  obtain rfl := Option.some.inj (holds.symm.trans holds')
  exact nomatch begun.symm.trans found

/-- How a step concludes with a candidate, and the calls that it makes. -/
private theorem conclude_of_concludes {candidate : Candidate} {w : World π}
    (finished : c.finished? id = some (candidate, w)) (here : c.Concludes id result next) :
    ∃ trigger s after, s.registry = c.state.scene.registry ∧
      Reload.conclude c.setup.hooks trigger candidate c.snapshot s = (result, next.snapshot, after) ∧
      (Reload.conclude c.setup.hooks.recording trigger candidate c.snapshot (s.keeping [])).2.2.calls =
        c.callsBy id := by
  obtain ⟨trigger, pass, found, done, finish⟩ := loading_of_finished? finished
  rcases plain : Reload.conclude c.setup.hooks trigger candidate c.snapshot
    { c.state.scene with world := w } with ⟨last, published, after⟩
  have before : c.state.requests[id]? = some (.loading trigger pass) := found
  have stepped := (step_of_move? here.moved).2
  have finish' : c.setup.pipeline.finish pass.outcome c.state.scene.world = (candidate, w) := finish
  simp only [ReloadState.step?, ReloadState.continuePass?, before, done,
    ReloadState.endPass_of_conclude finish' plain] at stepped
  obtain ⟨ended, snapshot⟩ := of_setPhase (Option.some.inj stepped) before
  obtain rfl := Phase.concluded.inj (Option.some.inj (ended.symm.trans here.concluded))
  refine ⟨trigger, { c.state.scene with world := w }, after, rfl, plain.trans (by rw [snapshot]), ?_⟩
  unfold callsBy
  rw [found, finished]

structure Repeatable (setup : ReloadSetup L π) (calm : Outside → π → Prop) (outcome : LoadOutcome)
    (candidate : Candidate) (verdict : L → Change → Verdict) (listeners asked : List L) : Prop where
  repeats : setup.pipeline.Repeats calm outcome
  finishes : ∀ w, (setup.pipeline.finish outcome w).1 = candidate
  decides : ∀ l ∈ listeners, ∀ published, (setup.hooks published).DecidesBy verdict l
  asks : ∀ published,
    listeners.filter (fun l => (setup.hooks published).kind l = .transactional) = asked

/-- Nothing disturbs a configuration: its surroundings are calm, and the same listeners are registered. -/
structure Undisturbed (calm : Outside → π → Prop) (listeners : List L) (c : Config L π) : Prop where
  within : c.world.Within calm
  registered : c.state.scene.registry.registrations = listeners

/-- A reload comes to its conclusion undisturbed, if only time passes and it takes its steps. -/
theorem exists_conclusion (c : Config L π) {listeners : List L} {phase : Phase π} (kept : c.state.GateKept)
    (repeats : c.setup.pipeline.Repeats calm outcome) (undisturbed : c.Undisturbed calm listeners)
    (all : c.LoadsLead calm outcome) (found : c.phase? id = some phase)
    (reloads : phase.isReloading = true) :
    ∃ moves d result, run? moves c = some d ∧ (∀ m ∈ moves, m.isProgress = true) ∧
      d.phase? id = some (.concluded result) ∧ Always (Undisturbed calm listeners) moves c := by
  have inside := Phase.stance_of_isReloading reloads
  have holds := kept.inside id (inside ▸ ReloadState.stance?_eq_some found)
  have live : phase.stance ≠ .apart := by
    rw [inside]
    exact nofun
  obtain ⟨time, next, moved⟩ := exists_step found live holds
  let waited : Config L π := c.setWorld (c.world.waitUntil time)
  have waits : c.move? (.wait time) = some waited := rfl
  have steady : waited.setup.pipeline.Repeats calm outcome := repeats
  have still : waited.Undisturbed calm listeners :=
    ⟨repeats.outlasts _ time undisturbed.within, undisturbed.registered⟩
  have lead := loadsLead_move? repeats undisturbed.within all waits
  have ran : run? [.wait time, .step id] c = some next := run?_cons waits (run?_cons moved rfl)
  have own : ∀ m ∈ ([.wait time, .step id] : List (Move L π)), m.isProgress = true := by
    simp [Move.isProgress]
  have always : Always (Undisturbed calm listeners) [.wait time, .step id] c :=
    .cons undisturbed waits (.cons still moved trivial)
  have nearer := ReloadState.rankOf_step? (step_of_move? moved).2
  rcases loading_or_concluded (c := waited) found reloads moved with
    ⟨trigger, pass, reached⟩ | ⟨result, reached⟩
  · -- The pass is under way, but its rank has fallen.
    have registry := (loads_of_step moved reached).1
    have within := (leads_of_step steady still.within lead moved reached).2
    have later : next.Undisturbed calm listeners :=
      ⟨within, (congrArg ListenerRegistry.registrations registry).trans still.registered⟩
    have setup : next.setup = waited.setup := (move?_cases moved).1
    obtain ⟨more, d, result, goesOn, progress, concluded, always'⟩ := exists_conclusion next
      (gateKept_move? (gateKept_move? kept waits) moved) (setup ▸ steady) later
      (loadsLead_move? steady still.within lead moved) reached rfl
    refine ⟨_ ++ more, d, result, run?_append ran goesOn, ?_, concluded,
      (always_append ran).mpr ⟨always, always'⟩⟩
    intro m mem
    rcases List.mem_append.mp mem with mem | mem
    · exact own m mem
    · exact progress m mem
  · exact ⟨_, next, result, ran, own, reached, always⟩
termination_by c.state.rankOf id
decreasing_by exact nearer

/-- The listeners would let pass nothing more of a candidate. -/
def Exhausted (verdict : L → Change → Verdict) (asked : List L) (candidate : Candidate)
    (c : Config L π) : Prop :=
  decided verdict asked (.between c.snapshot.properties candidate.properties) = .empty

section

variable {candidate : Candidate} {verdict : L → Change → Verdict} {listeners asked : List L}

private theorem exists_repeatable {setup : ReloadSetup L π} {w : World π}
    (steady : setup.pipeline.Steady calm) (pure : setup.pipeline.declaration.substitutors.IsPure)
    (decide : setup.hooks.DecideBy verdict listeners) (here : w.Within calm) :
    ∃ outcome candidate asked, Repeatable setup calm outcome candidate verdict listeners asked := by
  obtain ⟨outcome, repeats⟩ := steady.exists_repeats pure here
  let published : Snapshot := ⟨.empty, 0, []⟩
  refine ⟨outcome, (setup.pipeline.finish outcome w).1,
    listeners.filter fun l => (setup.hooks published).kind l = .transactional, repeats, ?_,
    decide.decides, ?_⟩
  · exact fun v => Pipeline.finish_alike pure outcome v w
  · intro other
    apply List.filter_congr
    intro l mem
    rw [decide.kind l mem other published]

variable (repeatable : Repeatable c.setup calm outcome candidate verdict listeners asked)

include repeatable

private theorem finished_eq (all : c.LoadsLead calm outcome) {made : Candidate} {w : World π}
    (finished : c.finished? id = some (made, w)) : made = candidate := by
  obtain ⟨trigger, pass, found, done, finish⟩ := loading_of_finished? finished
  rw [(all id trigger pass found).pursues.outcome_eq done] at finish
  exact (congrArg Prod.fst finish).symm.trans (repeatable.finishes c.world)

/-- A reload concludes with listeners who decide on each change alone, and asks always the same ones. -/
theorem conclude_of_undisturbed {w : World π} (undisturbed : c.Undisturbed calm listeners)
    (finished : c.finished? id = some (candidate, w)) (here : c.Concludes id result next) :
    ∃ trigger s after,
      Reload.conclude c.setup.hooks trigger candidate c.snapshot s = (result, next.snapshot, after) ∧
      (Reload.conclude c.setup.hooks.recording trigger candidate c.snapshot (s.keeping [])).2.2.calls =
        c.callsBy id ∧
      (∀ l ∈ s.registry.registrations, (c.setup.hooks c.snapshot).DecidesBy verdict l) ∧
      Reload.askedOf c.setup.hooks c.snapshot s = asked := by
  obtain ⟨trigger, s, after, registry, concluded, recorded⟩ := conclude_of_concludes finished here
  have registered : s.registry.registrations = listeners := registry ▸ undisturbed.registered
  refine ⟨trigger, s, after, concluded, recorded, ?_, ?_⟩
  · exact fun l mem => repeatable.decides l (registered ▸ mem) c.snapshot
  · unfold Reload.askedOf
    rw [registered, repeatable.asks c.snapshot]

/-- A reload that is not in vain exhausts its candidate: what it leaves are the changes that were
refused. -/
theorem Concludes.exhausts {w : World π} (undisturbed : c.Undisturbed calm listeners)
    (finished : c.finished? id = some (candidate, w)) (here : c.Concludes id result next)
    (settled : result.isSettled = true) :
    next.Exhausted verdict asked candidate ∧
      (∀ l change answer, .beforeChange l change answer ∈ c.callsBy id →
        change ∈ (ChangeSet.between c.snapshot.properties candidate.properties).changes) ∧
      ∀ change, change ∈ (ChangeSet.between next.snapshot.properties candidate.properties).changes ↔
        ∃ l, .beforeChange l change (.ok .vetoKey) ∈ c.callsBy id := by
  obtain ⟨trigger, s, after, concluded, recorded, decides, asks⟩ :=
    conclude_of_undisturbed repeatable undisturbed finished here
  obtain ⟨calls, made, refused⟩ := Reload.refused_of_conclude concluded settled
  rw [recorded] at made
  subst made
  refine ⟨?_, refused⟩
  have nothing := Reload.decided_of_conclude decides concluded settled
  rw [asks] at nothing
  exact nothing

/-- A reload with an exhausted candidate changes nothing. -/
theorem Concludes.unchanged {w : World π} (undisturbed : c.Undisturbed calm listeners)
    (exhausted : c.Exhausted verdict asked candidate) (finished : c.finished? id = some (candidate, w))
    (here : c.Concludes id result next) : result = .outcome .unchanged ∧ next.snapshot = c.snapshot := by
  obtain ⟨trigger, s, after, concluded, -, decides, asks⟩ :=
    conclude_of_undisturbed repeatable undisturbed finished here
  unfold Exhausted at exhausted
  rw [← asks] at exhausted
  obtain ⟨last, unchanged⟩ := Reload.conclude_of_decided decides exhausted
  obtain ⟨same, snapshot, -⟩ := by simpa only [Prod.mk.injEq] using concluded.symm.trans unchanged
  exact ⟨same, snapshot⟩

/-- Where the candidate is exhausted, no move publishes anything. -/
private theorem snapshot_of_exhausted
    (undisturbed : c.Undisturbed calm listeners) (all : c.LoadsLead calm outcome)
    (exhausted : c.Exhausted verdict asked candidate) (moved : c.move? m = some next) :
    next.snapshot = c.snapshot := by
  rcases move?_publishes moved with ⟨same, -⟩ | ⟨id, result, rfl, here, -⟩
  · exact same
  · have concluding := here.concluding
    cases concluding with
    | coalesced same | failed same => exact same
    | finished found =>
      obtain ⟨⟨made, w⟩, finished, rfl⟩ := Option.map_eq_some_iff.mp found
      obtain rfl := finished_eq repeatable all finished
      exact (here.unchanged repeatable undisturbed exhausted finished).2

private theorem loadsLead_run? (always : Always (Undisturbed calm listeners) moves c) (all : c.LoadsLead calm outcome)
    (ran : run? moves c = some d) : d.LoadsLead calm outcome ∧ d.setup = c.setup := by
  induction moves generalizing c with
  | nil =>
    obtain rfl := Option.some.inj ran
    exact ⟨all, rfl⟩
  | cons m rest ih =>
    obtain ⟨next, moved, later⟩ := run?_cons_eq_some ran
    have setup := (move?_cases moved).1
    rw [← setup] at repeatable
    obtain ⟨leads, same⟩ := ih repeatable (always.2 next moved)
      (loadsLead_move? (setup ▸ repeatable.repeats) always.1.within all moved) later
    exact ⟨leads, same.trans setup⟩

private theorem snapshot_run_of_exhausted
    (always : Always (Undisturbed calm listeners) moves c) (all : c.LoadsLead calm outcome)
    (exhausted : c.Exhausted verdict asked candidate) (ran : run? moves c = some d) :
    d.snapshot = c.snapshot := by
  induction moves generalizing c with
  | nil =>
    obtain rfl := Option.some.inj ran
    rfl
  | cons m rest ih =>
    obtain ⟨next, moved, later⟩ := run?_cons_eq_some ran
    have same := snapshot_of_exhausted repeatable always.1 all exhausted moved
    have leads := loadsLead_move? repeatable.repeats always.1.within all moved
    have still : next.Exhausted verdict asked candidate := by
      unfold Exhausted
      rw [same]
      exact exhausted
    rw [← (move?_cases moved).1] at repeatable
    exact (ih repeatable (always.2 next moved) leads still later).trans same

/-- A reload concludes by one step, before which its passes lead to the candidate and nothing was
disturbed. -/
private theorem Reloads.concluding_step
    (kept : c.state.GateKept) (always : Always (Undisturbed calm listeners) moves c)
    (all : c.LoadsLead calm outcome) (reload : c.Reloads id moves d result) :
    ∃ m next : Config L π, m.setup = c.setup ∧ m.snapshot = c.snapshot ∧ m.LoadsLead calm outcome ∧
      m.Undisturbed calm listeners ∧ m.Concludes id result next ∧ d.snapshot = next.snapshot ∧
      callsOf id moves c = m.callsBy id := by
  obtain ⟨before, after, m, next, rfl, ran, setup, snapshot, here, last, calls⟩ :=
    (reload.toward kept).concluding_step
  obtain ⟨earlier, later⟩ := (always_append ran).mp always
  exact ⟨m, next, setup, snapshot, (loadsLead_run? repeatable earlier all ran).1, later.1, here, last,
    calls⟩

/-- A reload that was not in vain exhausts its candidate, and leaves what was refused. -/
theorem Reloads.exhausts
    (kept : c.state.GateKept) (always : Always (Undisturbed calm listeners) moves c)
    (reload : c.Reloads id moves d result) (settled : result.isSettled = true) :
    d.Exhausted verdict asked candidate ∧ (∃ pass, c.setup.pipeline.Leads calm outcome pass) ∧
      ∀ change, change ∈ (ChangeSet.between d.snapshot.properties candidate.properties).changes ↔
        ∃ l, .beforeChange l change (.ok .vetoKey) ∈ callsOf id moves c := by
  obtain ⟨m, next, setup, -, leads, undisturbed, here, last, calls⟩ :=
    reload.concluding_step repeatable kept always (reload.loadsLead kept)
  rw [← setup] at repeatable ⊢
  have concluding := here.concluding
  cases concluding with
  | coalesced | failed => exact nomatch settled
  | finished found =>
    obtain ⟨⟨made, w⟩, finished, rfl⟩ := Option.map_eq_some_iff.mp found
    obtain rfl := finished_eq repeatable leads finished
    obtain ⟨trigger, pass, loading, -⟩ := loading_of_finished? finished
    obtain ⟨exhausted, -, refused⟩ := here.exhausts repeatable undisturbed finished settled
    unfold Exhausted at exhausted ⊢
    rw [calls, last]
    exact ⟨exhausted, ⟨pass, leads _ _ _ loading⟩, refused⟩

/-- A reload with an exhausted candidate asks about what is left of it, and is refused all of that. -/
theorem Reloads.unchanged
    (kept : c.state.GateKept) (always : Always (Undisturbed calm listeners) moves c)
    (all : c.LoadsLead calm outcome) (exhausted : c.Exhausted verdict asked candidate)
    (resolves : ∀ w : World π, w.Within calm → ∀ e, (c.setup.pipeline.resolution w).result ≠ .error e)
    (reload : c.Reloads id moves d result) :
    result = .outcome .unchanged ∧ d.snapshot = c.snapshot ∧
      (∀ call ∈ callsOf id moves c, call.isQuestion = true) ∧
      (∀ l change answer, .beforeChange l change answer ∈ callsOf id moves c →
        change ∈ (ChangeSet.between c.snapshot.properties candidate.properties).changes) ∧
      ∀ change, change ∈ (ChangeSet.between c.snapshot.properties candidate.properties).changes ↔
        ∃ l, .beforeChange l change (.ok .vetoKey) ∈ callsOf id moves c := by
  obtain ⟨m, next, setup, snapshot, leads, undisturbed, here, last, calls⟩ :=
    reload.concluding_step repeatable kept always all
  rw [← setup] at repeatable resolves
  have concluding := here.concluding
  cases concluding with
  | coalesced =>
    -- A reload that has begun is served by no other one.
    obtain ⟨⟨trigger, begun⟩, ran, concluded⟩ := reload
    have own : d.hasBegun id = true := by
      apply (hasBegun_run?_iff ran).mpr
      rw [hasBegun_of_phase? begun]
      exact Or.inl rfl
    rw [hasBegun_of_phase? concluded] at own
    exact nomatch own
  | @failed e _ _ unresolved => exact absurd unresolved (resolves m.world undisturbed.within e)
  | finished found conclusion =>
    obtain ⟨⟨made, w⟩, finished, rfl⟩ := Option.map_eq_some_iff.mp found
    obtain rfl := finished_eq repeatable leads finished
    have still : m.Exhausted verdict asked made := by
      unfold Exhausted
      rw [snapshot]
      exact exhausted
    obtain ⟨rfl, same⟩ := here.unchanged repeatable undisturbed still finished
    obtain ⟨-, proposed, refused⟩ := here.exhausts repeatable undisturbed finished rfl
    rw [snapshot] at proposed same
    rw [same] at refused
    rw [calls]
    exact ⟨rfl, last.trans same, conclusion.of_unchanged, proposed, refused⟩

end

/-- Reloading is idempotent under vetoes of keys.  After a reload that has published, or had nothing to
publish, another one comes to its conclusion as well.  It finds exactly the changes that were refused, has
them refused again, tells nobody of anything and leaves the snapshot as it is; provided that in the meantime
nothing is disturbed, and that the listeners decide on each change alone and substitutors by their
arguments. -/
theorem Reachable.reload_again {first second : Nat} {moves between : List (Move L π)} {trigger : Trigger}
    {calm : Outside → π → Prop} {verdict : L → Change → Verdict} {listeners : List L}
    (reached : c.Reachable) (reload : c.Reloads first moves d result) (settled : result.isSettled = true)
    (ran : run? between d = some e) (begun : e.phase? second = some (.begun trigger))
    (pure : c.declaration.substitutors.IsPure) (steady : c.setup.pipeline.Steady calm)
    (decide : c.setup.hooks.DecideBy verdict listeners)
    (always : Always (Undisturbed calm listeners) (moves ++ between) c)
    (undisturbed : e.Undisturbed calm listeners) :
    (∃ again f ended, (∀ m ∈ again, m.isProgress = true) ∧ e.Reloads second again f ended ∧
      Always (Undisturbed calm listeners) again e) ∧
    ∀ again f ended, e.Reloads second again f ended → Always (Undisturbed calm listeners) again e →
      ended = .outcome .unchanged ∧ f.snapshot = d.snapshot ∧
      (∀ call ∈ callsOf second again e, call.isQuestion = true) ∧
      ∀ change,
        ((∃ l answer, .beforeChange l change answer ∈ callsOf second again e) ↔
          ∃ l, .beforeChange l change (.ok .vetoKey) ∈ callsOf first moves c) ∧
        ((∃ l, .beforeChange l change (.ok .vetoKey) ∈ callsOf second again e) ↔
          ∃ l, .beforeChange l change (.ok .vetoKey) ∈ callsOf first moves c) := by
  have kept := reached.gateKept
  have kept_e := gateKept_run? (gateKept_run? kept reload.runs) ran
  obtain ⟨outcome, candidate, asked, repeatable⟩ :=
    exists_repeatable steady pure decide undisturbed.within
  obtain ⟨always_first, always_between⟩ := (always_append reload.runs).mp always
  obtain ⟨exhausted, ⟨pass, leads⟩, refused⟩ := reload.exhausts repeatable kept always_first settled
  obtain ⟨all, setup⟩ := loadsLead_run? repeatable always_first (reload.loadsLead kept) reload.runs
  rw [← setup] at repeatable
  have snapshot := snapshot_run_of_exhausted repeatable always_between all exhausted ran
  obtain ⟨all_e, setup_e⟩ := loadsLead_run? repeatable always_between all ran
  rw [← setup_e] at repeatable
  constructor
  · obtain ⟨again, f, ended, runs, progress, concluded, always_again⟩ :=
      exists_conclusion e kept_e repeatable.repeats undisturbed all_e begun rfl
    exact ⟨again, f, ended, progress, ⟨⟨trigger, begun⟩, runs, concluded⟩, always_again⟩
  · intro again f ended reload' always_again
    have exhausted_e : e.Exhausted verdict asked candidate := by
      unfold Exhausted
      rw [snapshot]
      exact exhausted
    have resolves : ∀ w : World π, w.Within calm → ∀ fault,
        (e.setup.pipeline.resolution w).result ≠ .error fault := by
      rw [setup_e, setup]
      exact fun w within => leads.resolution_ne_error steady pure within
    obtain ⟨rfl, same, questions, proposed, refused'⟩ :=
      reload'.unchanged repeatable kept_e always_again all_e exhausted_e resolves
    rw [snapshot] at same proposed refused'
    refine ⟨rfl, same, questions, fun change => ⟨?_, (refused' change).symm.trans (refused change)⟩⟩
    rw [← refused change]
    constructor
    · rintro ⟨l, answer, mem⟩
      exact proposed l change answer mem
    · intro left
      obtain ⟨l, mem⟩ := (refused' change).mp left
      exact ⟨l, _, mem⟩

def storedPlan : Plan Unit :=
  { clockPlan with
    declaration := { clockPlan.declaration with sources := ⟨["mem:settings"], .first⟩ }
    loaders := [MemoryStore.loader "main"] }

def storing (value : String) : World Unit :=
  let stores : TextMap MemoryStore :=
    .ofList [("main", .ofList [("settings", .ofList [("a", value), ("b", value)])])]
  ⟨⟨0, .empty, ⟨.empty, "/", "x86_64"⟩, stores⟩, [], ()⟩

def keepsStores (w : World Unit) (outside : Outside) (_ : Unit) : Prop :=
  outside.stores = w.outside.stores

private theorem storedPlan_steady (w : World Unit) : storedPlan.pipeline.Steady (keepsStores w) where
  outlasts _ _ within := within
  environment _ _ _ _ := rfl
  substitutes _ := by
    intro s mem
    exact nomatch mem
  loads _ _ _ _ l _ loader accepting := by
    obtain rfl := List.mem_singleton.mp (List.mem_of_find?_eq_some accepting)
    refine ⟨(MemoryStore.load ((w.outside.stores.get? "main").getD .empty) l).toOption, ?_, ?_, ?_⟩
    · intro pause mem
      exact nomatch mem
    · exact fun outside plugins calm => calm
    · intro outside plugins calm
      unfold MemoryStore.loader Load.ofResult
      dsimp only
      rw [show outside.stores = w.outside.stores from calm]

private theorem refusing_decideBy (listeners : List (String × Bool)) :
    Listeners.DecideBy refusing (fun l c => if c.key = l.1 then .vetoKey else .accept) listeners where
  kind _ _ _ _ := rfl
  decides l _ published _ := by
    refine ⟨fun c s => ?_, fun set s => rfl⟩
    unfold refusing
    dsimp only
    split
    · rfl
    · rfl

def stored? : Option (Config (String × Bool) Unit) :=
  runOf? storedPlan refusing (storing "old")
    [.register ("a", false), .surround (storing "new"), .request, .step 0, .step 0]

def isUndisturbed (c : Config (String × Bool) Unit) : Bool :=
  c.world.outside.stores = (storing "new").outside.stores &&
    c.state.scene.registry.registrations = [("a", false)]

theorem stored_reloaded_again :
    ∃ (c d e f : Config (String × Bool) Unit) (result ended : ReloadEnd),
      c.Reachable ∧ c.snapshot.properties = .ofList [("a", "old"), ("b", "old")] ∧
      c.Reloads 0 [.step 0, .step 0] d result ∧ result.isApplied = true ∧
      d.snapshot.properties = .ofList [("a", "old"), ("b", "new")] ∧
      e.Reloads 1 [.step 1, .step 1] f ended ∧ ended = .outcome .unchanged ∧ f.snapshot = d.snapshot ∧
      ∃ l change, .beforeChange l change (.ok .vetoKey) ∈ callsOf 1 [.step 1, .step 1] e ∧
        change.key = "a" := by
  have runs : (stored?.bind fun c => (c.reload? 0 [.step 0, .step 0]).bind fun (result, d) =>
      (run? [.step 0, .request, .step 1, .step 1] d).bind fun e =>
      (e.reload? 1 [.step 1, .step 1]).map fun _ =>
        (c.snapshot.properties, result.isApplied, d.snapshot.properties,
          vetoedKeys (callsOf 0 [.step 0, .step 0] c),
          throughout isUndisturbed ([.step 0, .step 0] ++ [.step 0, .request, .step 1, .step 1]) c,
          throughout isUndisturbed [.step 1, .step 1] e)) =
      some (.ofList [("a", "old"), ("b", "old")], true, .ofList [("a", "old"), ("b", "new")], ["a"], true,
        true) := by
    decide +kernel
  have plan : stored?.map (·.setup) = some ⟨storedPlan.pipeline, refusing⟩ := rfl
  obtain ⟨c, ran, runs⟩ := Option.bind_eq_some_iff.mp runs
  obtain ⟨⟨result, d⟩, first, runs⟩ := Option.bind_eq_some_iff.mp runs
  obtain ⟨e, between, runs⟩ := Option.bind_eq_some_iff.mp runs
  obtain ⟨⟨ended, f⟩, second, values⟩ := Option.map_eq_some_iff.mp runs
  obtain ⟨old, applied, new, refused, calm, calm_again⟩ := by simpa only [Prod.mk.injEq] using values
  rw [ran] at plan
  have setup : c.setup = ⟨storedPlan.pipeline, refusing⟩ := Option.some.inj plan
  have reached : c.Reachable := ⟨_, _, _, _, ran⟩
  have reload := reloads_of_reload? first
  have reload' := reloads_of_reload? second
  have settled : result.isSettled = true := by
    unfold ReloadEnd.isApplied at applied
    split at applied
    · rfl
    all_goals exact nomatch applied
  have pure : c.declaration.substitutors.IsPure := by
    unfold declaration
    rw [setup]
    intro s mem
    exact nomatch mem
  have steady : c.setup.pipeline.Steady (keepsStores (storing "new")) := by
    rw [setup]
    exact storedPlan_steady _
  have decide : c.setup.hooks.DecideBy (fun l c => if c.key = l.1 then .vetoKey else .accept)
      [("a", false)] := by
    rw [setup]
    exact refusing_decideBy _
  have undisturbed : ∀ c, isUndisturbed c = true →
      c.Undisturbed (keepsStores (storing "new")) [("a", false)] := by
    intro c calm
    obtain ⟨stores, listeners⟩ := by simpa [isUndisturbed] using calm
    exact ⟨stores, listeners⟩
  have always := always_of_throughout undisturbed (run?_append reload.runs between) calm
  have always_again := always_of_throughout undisturbed reload'.runs calm_again
  obtain ⟨trigger, begun⟩ := reload'.begun
  obtain ⟨-, unchanged⟩ := reached.reload_again reload settled between begun pure steady decide always
    always_again.1
  obtain ⟨last, same, -, again⟩ := unchanged _ f ended reload' always_again
  obtain ⟨l, change, vetoed, key⟩ := ListenerCall.mem_vetoedKeys.mp (refused ▸ List.mem_singleton_self "a")
  obtain ⟨l', vetoed'⟩ := (again change).2.mpr ⟨l, vetoed⟩
  exact ⟨c, d, e, f, result, ended, reached, old, reload, applied, new, reload', last, same, l', change,
    vetoed', key⟩

end Config
end LiveConfig
