import LiveConfig.Proofs.Reload.Coalescing

/-!
Whether the published properties are fresh when a request is answered.

As long as nobody has to be asked, a pass that finds its sources is published as it is.  So of all reloads
that have begun since a request one is enough that does not fail.  A request that reloads itself is told
if it fails; but one that is served by the reload of another is not.
-/
namespace LiveConfig

variable {L π : Type}

namespace Phase

def isFruitless : Phase π → Bool
  | .begun _ | .loading _ _ | .concluded (.failed _) | .ended (.failed _) => true
  | .concluded (.outcome _) | .concluded (.panicked _) | .ended (.outcome _) | .ended (.panicked _)
  | .ticketed _ | .queued _ | .admitted _ _ => false

private theorem isFruitless_of_isReloading {phase : Phase π} (reloads : phase.isReloading = true) :
    phase.isFruitless = true := by
  cases phase with
  | begun | loading => rfl
  | ticketed | queued | admitted | concluded | ended => exact nomatch reloads

private theorem isReloading_of_isBegun {phase : Phase π} (begun : phase.isBegun = true) :
    phase.isReloading = true := by
  cases phase with
  | begun => rfl
  | loading | ticketed | queued | admitted | concluded | ended => exact nomatch begun

theorem stance_of_isReloading {phase : Phase π} (reloads : phase.isReloading = true) :
    phase.stance = .inside := by
  cases phase with
  | begun | loading => rfl
  | ticketed | queued | admitted | concluded | ended => exact nomatch reloads

private theorem isUnderway_of_isReloading {phase : Phase π} (reloads : phase.isReloading = true) :
    phase.isUnderway = true := by
  cases phase with
  | begun | loading => rfl
  | ticketed | queued | admitted | concluded | ended => exact nomatch reloads

theorem Follows.isReloading {started after : Nat} {old new : Phase π}
    (follows : Follows started old new after) (reloads : new.isReloading = true) :
    old.isReloading = true ∨ new.isBegun = true := by
  cases follows with
  | begins => exact Or.inr rfl
  | loads before => exact Or.inl before
  | enters | queues | isLetIn | isServed | concludes | leaves => exact nomatch reloads

private theorem Follows.of_isReloading {started after : Nat} {old new : Phase π}
    (follows : Follows started old new after) (reloads : old.isReloading = true) :
    new.isBegun = false ∧
      (new.isReloading = true ∨ ∃ result, new = .concluded result ∧ result.isCoalesced = false) := by
  cases follows with
  | loads => exact ⟨rfl, Or.inl rfl⟩
  | concludes _ own => exact ⟨rfl, Or.inr ⟨_, rfl, own⟩⟩
  | enters | queues | isLetIn | isServed | begins | leaves => exact nomatch reloads

private theorem Follows.of_isFruitless {started after : Nat} {old new : Phase π}
    (follows : Follows started old new after) (fruitless : old.isFruitless = true)
    (concluded : old.isReloading = false) : new.isFruitless = true := by
  cases follows with
  | leaves result =>
    cases result with
    | failed => rfl
    | outcome | panicked => exact nomatch fruitless
  | loads reloads | concludes reloads => exact nomatch concluded.symm.trans reloads
  | enters | queues | isLetIn | isServed | begins => exact nomatch fruitless

end Phase

namespace Config

variable {c d asked next : Config L π} {id : Nat} {m : Move L π} {moves : List (Move L π)}
  {candidate : Candidate}

def isUnasked (c : Config L π) : Bool :=
  c.state.scene.registry.registrations.all fun l => (c.setup.hooks c.snapshot).kind l ≠ .transactional

/-- What is published are the properties of a candidate of some request that has begun its reload in the
run, and so after all that was there before it. -/
def FreshSince (asked : Config L π) (moves : List (Move L π)) (d : Config L π) : Prop :=
  ∃ before after id e candidate, moves = before ++ .step id :: after ∧ run? before asked = some e ∧
    id ∈ begunIn before asked ∧ e.candidate? id = some candidate ∧
    d.snapshot.properties = candidate.properties

private theorem FreshSince.concat (fresh : asked.FreshSince moves c)
    (same : next.snapshot.properties = c.snapshot.properties) : asked.FreshSince (moves ++ [m]) next := by
  obtain ⟨before, after, id, e, candidate, rfl, ran, mem, found, properties⟩ := fresh
  refine ⟨before, after ++ [m], id, e, candidate, ?_, ran, mem, found, same.trans properties⟩
  rw [List.append_assoc, List.cons_append]

private theorem isReloading_of_candidate? (found : c.candidate? id = some candidate) :
    ∃ phase, c.phase? id = some phase ∧ phase.isReloading = true := by
  obtain ⟨⟨_, w⟩, finished, rfl⟩ := Option.map_eq_some_iff.mp found
  obtain ⟨trigger, pass, loading, -⟩ := loading_of_finished? finished
  exact ⟨_, loading, rfl⟩

private theorem properties_of_candidate? (unasked : c.isUnasked = true) (moved : c.move? (.step id) = some next)
    (found : c.candidate? id = some candidate) :
    next.snapshot.properties = candidate.properties := by
  obtain ⟨⟨made, w⟩, finished, rfl⟩ := Option.map_eq_some_iff.mp found
  obtain ⟨trigger, ends⟩ := step?_of_finished finished
  have silent : ∀ l ∈ c.state.scene.registry.registrations,
      (c.setup.hooks c.snapshot).kind l ≠ .transactional := by
    intro l mem
    exact of_decide_eq_true (List.all_eq_true.mp unasked l mem)
  have properties := Reload.conclude_of_unasked (s := { c.state.scene with world := w }) silent trigger
    made
  rcases plain : Reload.conclude c.setup.hooks trigger made c.snapshot
    { c.state.scene with world := w } with ⟨result, published, after⟩
  rw [plain] at properties
  have state := Option.some.inj ((ends c.setup.hooks plain).symm.trans (step_of_move? moved).2)
  exact (congrArg (fun s => s.current.properties) state.symm).trans properties

private theorem begunIn_concat {before : List (Move L π)} {e : Config L π} (ran : run? before asked = some e)
    (moved : e.move? m = some next) :
    begunIn (before ++ [m]) asked = begunIn before asked ++ next.begunBy m := by
  rw [begunIn_append ran, begunIn_cons moved]
  exact congrArg _ (List.append_nil _)

private theorem isBegun_of_mem_begunBy (mem : id ∈ next.begunBy m) :
    ∃ phase, next.phase? id = some phase ∧ phase.isBegun = true :=
  (Option.any_eq_true _ _).mp (List.mem_filter.mp mem).2

private theorem reloading_before {phase : Phase π} (moved : c.move? m = some next)
    (found : next.phase? id = some phase) (reloads : phase.isReloading = true) :
    id ∈ next.begunBy m ∨ ∃ old, c.phase? id = some old ∧ old.isReloading = true := by
  by_cases own : m.stepper? = some id
  · obtain rfl := stepper?_eq_some own
    obtain ⟨old, new, before, reached, follows⟩ := follows_of_step moved
    obtain rfl := Option.some.inj (reached.symm.trans found)
    rcases follows.isReloading reloads with goesOn | begins
    · exact Or.inr ⟨old, before, goesOn⟩
    · rw [begunBy_step reached, if_pos begins]
      exact Or.inl (List.mem_singleton_self id)
  · cases before : c.phase? id with
    | none =>
      have unbegun := hasBegun_eq_false_of_new before moved
      rw [hasBegun_of_phase? found, Phase.hasBegun_of_isReloading reloads] at unbegun
      exact nomatch unbegun
    | some old =>
      obtain rfl := Option.some.inj ((phase?_of_other before moved own).symm.trans found)
      exact Or.inr ⟨old, rfl, reloads⟩

/-- Once a reload has begun in a run, those that had begun before it are over. -/
private theorem mem_begunIn_of_isReloading (kept : asked.state.GateKept) (ran : run? moves asked = some d)
    (some_begun : begunIn moves asked ≠ []) {phase : Phase π} (found : d.phase? id = some phase)
    (reloads : phase.isReloading = true) : id ∈ begunIn moves asked := by
  have since := run?_induction (P := fun moves d => begunIn moves asked ≠ [] →
    ∀ id phase, d.phase? id = some phase → phase.isReloading = true → id ∈ begunIn moves asked)
    (fun none_begun => absurd rfl none_begun) ?_ ran
  · exact since some_begun id phase found reloads
  · intro before e m next led since moved some_begun id phase found reloads
    rw [begunIn_concat led moved] at some_begun ⊢
    by_cases nobody : next.begunBy m = []
    · rw [nobody, List.append_nil] at some_begun ⊢
      rcases reloading_before moved found reloads with begins | ⟨old, earlier, goesOn⟩
      · rw [nobody] at begins
        exact nomatch begins
      · exact since some_begun id old earlier goesOn
    -- Whoever begins is alone inside.
    · obtain ⟨other, begins⟩ := List.exists_mem_of_ne_nil _ nobody
      obtain ⟨begun, here, is_begun⟩ := isBegun_of_mem_begunBy begins
      have kept_next := gateKept_move? (gateKept_run? kept led) moved
      have inside : ∀ {id phase}, next.phase? id = some phase → phase.isReloading = true →
          next.state.holder = some id := by
        intro id phase found reloads
        apply kept_next.inside id
        rw [← Phase.stance_of_isReloading reloads]
        exact ReloadState.stance?_eq_some found
      have first := inside here (Phase.isReloading_of_isBegun is_begun)
      obtain rfl := Option.some.inj (first.symm.trans (inside found reloads))
      exact List.mem_append_right _ begins

/-- Without a candidate a reload can only go on or fail. -/
theorem isFruitless_move? {old new : Phase π} (moved : c.move? m = some next)
    (unfinished : ∀ id, m = .step id → c.candidate? id = none) (before : c.phase? id = some old)
    (after : next.phase? id = some new) (fruitless : old.isFruitless = true) : new.isFruitless = true := by
  by_cases own : m.stepper? = some id
  · obtain rfl := stepper?_eq_some own
    obtain ⟨old', new', before', after', follows⟩ := follows_of_step moved
    obtain rfl := Option.some.inj (before'.symm.trans before)
    obtain rfl := Option.some.inj (after'.symm.trans after)
    by_cases reloads : old'.isReloading = true
    · rcases (follows.of_isReloading reloads).2 with goesOn | ⟨result, rfl, own⟩
      · exact Phase.isFruitless_of_isReloading goesOn
      · rcases goesOn_or_concludes before (Phase.isUnderway_of_isReloading reloads) moved with
          here | ⟨last, here⟩
        · obtain ⟨phase, reached, underway⟩ := here.underway
          obtain rfl := Option.some.inj (reached.symm.trans after)
          exact nomatch underway
        · obtain rfl := Phase.concluded.inj (Option.some.inj (here.concluded.symm.trans after))
          have concluding := here.concluding
          cases concluding with
          | coalesced => exact nomatch own
          | failed => rfl
          | finished found => exact nomatch found.symm.trans (unfinished id rfl)
    · exact follows.of_isFruitless fruitless (by simpa using reloads)
  · obtain rfl := Option.some.inj ((phase?_of_other before moved own).symm.trans after)
    exact fruitless

/-- Either a move publishes a candidate, or it leaves what is published, and nothing comes of any
reload. -/
theorem publishes_or_fruitless (unasked : c.isUnasked = true) (moved : c.move? m = some next) :
    (∃ id candidate, m = .step id ∧ c.candidate? id = some candidate ∧
      next.snapshot.properties = candidate.properties) ∨
    next.snapshot = c.snapshot ∧ ∀ id old new, c.phase? id = some old → next.phase? id = some new →
      old.isFruitless = true → new.isFruitless = true := by
  by_cases finishes : ∃ id candidate, m = .step id ∧ c.candidate? id = some candidate
  · obtain ⟨id, candidate, rfl, found⟩ := finishes
    exact Or.inl ⟨id, candidate, rfl, found, properties_of_candidate? unasked moved found⟩
  · have unfinished : ∀ id, m = .step id → c.candidate? id = none := by
      intro id step
      apply Option.eq_none_iff_forall_ne_some.mpr
      intro candidate found
      exact finishes ⟨id, candidate, step, found⟩
    refine Or.inr ⟨?_, fun id old new => isFruitless_move? moved unfinished⟩
    rcases move?_publishes moved with ⟨same, -⟩ | ⟨id, result, rfl, here, -⟩
    · exact same
    · have concluding := here.concluding
      cases concluding with
      | coalesced same | failed same => exact same
      | finished found => exact nomatch found.symm.trans (unfinished id rfl)

/-- What is published is fresh, unless nothing has come of any reload that has begun since. -/
theorem fresh_or_fruitless (kept : asked.state.GateKept) (ran : run? moves asked = some d)
    (unasked : throughout isUnasked moves asked = true) :
    asked.FreshSince moves d ∨
      ∀ id ∈ begunIn moves asked, ∀ phase, d.phase? id = some phase → phase.isFruitless = true := by
  refine run?_induction (P := fun moves d => throughout isUnasked moves asked = true →
    asked.FreshSince moves d ∨
      ∀ id ∈ begunIn moves asked, ∀ phase, d.phase? id = some phase → phase.isFruitless = true)
    ?_ ?_ ran unasked
  · exact fun _ => Or.inr fun id mem => nomatch mem
  · intro before e m next led inv moved unasked
    rw [throughout_append led, throughout_cons moved, Bool.and_eq_true, Bool.and_eq_true] at unasked
    obtain ⟨earlier, here, -⟩ := unasked
    rw [begunIn_concat led moved]
    rcases publishes_or_fruitless here moved with ⟨id, candidate, rfl, found, properties⟩ | ⟨same, fruitless⟩
    -- An old reload can publish only as long as none has begun since.
    · obtain ⟨phase, loading, reloads⟩ := isReloading_of_candidate? found
      by_cases none_begun : begunIn before asked = []
      · obtain ⟨old, new, before', after', follows⟩ := follows_of_step moved
        obtain rfl := Option.some.inj (before'.symm.trans loading)
        rw [none_begun, begunBy_step after', (follows.of_isReloading reloads).1]
        exact Or.inr fun id mem => nomatch mem
      · have mem := mem_begunIn_of_isReloading kept led none_begun loading reloads
        exact Or.inl ⟨before, [], id, e, candidate, rfl, led, mem, found, properties⟩
    · rcases inv earlier with fresh | nothing
      · exact Or.inl (fresh.concat (congrArg Snapshot.properties same))
      · refine Or.inr fun id mem phase after => ?_
        rcases List.mem_append.mp mem with mem | mem
        · have begun : e.hasBegun id = true := (hasBegun_run?_iff led).mpr (Or.inr mem)
          obtain ⟨old, found, -⟩ := (Option.any_eq_true _ _).mp begun
          exact fruitless id old phase found after (nothing id mem old found)
        · obtain ⟨begun, here, is_begun⟩ := isBegun_of_mem_begunBy mem
          obtain rfl := Option.some.inj (here.symm.trans after)
          exact Phase.isFruitless_of_isReloading (Phase.isReloading_of_isBegun is_begun)

/-- As long as nobody has to be asked, an explicit request that is answered with an outcome finds published
what some pass made of the sources that began after the request was made; if it is served by another one,
that is so if the reload of that one has not failed. -/
theorem Reachable.answered_fresh (reached : c.Reachable) (moved : c.move? .request = some asked)
    (ran : run? moves asked = some d) (unasked : throughout isUnasked moves asked = true)
    {outcome : ReloadOutcome}
    (ended : d.phase? c.state.requests.length = some (.ended (.outcome outcome)))
    (served : outcome = .coalesced → ∃ other result,
      asked.CoveredBy c.state.requests.length moves other result ∧ ∀ e, result ≠ .failed e) :
    asked.FreshSince moves d := by
  have kept := gateKept_move? reached.gateKept moved
  rcases fresh_or_fruitless kept ran unasked with fresh | nothing
  · exact fresh
  · by_cases coalesced : outcome = .coalesced
    · obtain ⟨other, result, covered, unfailed⟩ := served coalesced
      have fruitless := nothing other covered.mem_begunIn.2 _ (covered.phase? ran)
      cases result with
      | failed e => exact absurd rfl (unfailed e)
      | outcome | panicked => exact nomatch fruitless
    · have begun : d.hasBegun c.state.requests.length = true := by
        rw [hasBegun_of_phase? ended]
        cases outcome with
        | coalesced => exact absurd rfl coalesced
        | unchanged | applied | vetoed => rfl
      rcases (hasBegun_run?_iff ran).mp begun with before | mem
      · rw [hasBegun_of_phase? (request_awaits moved).1] at before
        exact nomatch before
      · exact nomatch nothing _ mem _ ended

def namedPlan : Plan Unit :=
  { clockPlan with
    declaration := { clockPlan.declaration with sources := ⟨["clock:$\x7bAT\x7d"], .first⟩ }
    environment := none }

def surroundings (now : Nat) (vars : List (String × String)) : World Unit :=
  let process : Environment.Process :=
    ⟨.ofList (vars.map fun (key, value) => (key, .text value)), "/", "x86_64"⟩
  ⟨⟨now, .empty, process, .empty⟩, [], ()⟩

def named? : Option (Config (String × Bool) Unit) :=
  runOf? namedPlan refusing (surroundings 0 [("AT", "now")])
    [.wait 5, .request, .step 0, .step 0, .step 0, .request, .step 1]

def servingAfter (m : Move (String × Bool) Unit) (steps : Nat) : List (Move (String × Bool) Unit) :=
  [.step 2, m, .step 0, .step 0] ++ List.replicate steps (.step 1) ++ List.replicate 3 (.step 2)

def hasFailed (c : Config L π) (id : Nat) : Bool :=
  match c.phase? id with
  | some (.ended (.failed _)) => true
  | _ => false

private theorem exists_served (moves : List (Move (String × Bool) Unit)) (failed : Bool)
    (runs : (named?.bind fun c => (c.move? .request).bind fun asked => (run? moves asked).map fun d =>
      (c.state.requests.length, d.isServed 2, throughout isUnasked moves asked, begunIn moves asked,
        d.hasFailed 1)) = some (2, true, true, [1], failed)) :
    ∃ (c asked d : Config (String × Bool) Unit) (result : ReloadEnd),
      named? = some c ∧ c.move? .request = some asked ∧ run? moves asked = some d ∧
      c.Reachable ∧ c.state.requests.length = 2 ∧ throughout isUnasked moves asked = true ∧
      begunIn moves asked = [1] ∧ d.phase? 2 = some (.ended (.outcome .coalesced)) ∧
      asked.CoveredBy 2 moves 1 result ∧ (failed = true ↔ ∃ e, result = .failed e) := by
  obtain ⟨c, ran, runs⟩ := Option.bind_eq_some_iff.mp runs
  obtain ⟨asked, moved, runs⟩ := Option.bind_eq_some_iff.mp runs
  obtain ⟨d, later, values⟩ := Option.map_eq_some_iff.mp runs
  obtain ⟨count, served, unasked, begun, fails⟩ := by simpa only [Prod.mk.injEq] using values
  have reached : c.Reachable := ⟨_, _, _, _, ran⟩
  have ended := ended_of_isServed served
  have account := accounted_of_request reached.gateKept moved later
  rw [count] at account
  obtain ⟨other, result, covered⟩ := account.covered ended
  have mem := covered.mem_begunIn.2
  rw [begun] at mem
  obtain rfl := List.mem_singleton.mp mem
  refine ⟨c, asked, d, result, ran, moved, later, reached, count, unasked, begun, ended, covered, ?_⟩
  unfold hasFailed at fails
  rw [covered.phase? later] at fails
  subst fails
  cases result with
  | failed e => simp
  | outcome | panicked => simp

theorem named_answered_fresh :
    let moves := servingAfter (.wait 9) 5
    ∃ c asked d : Config (String × Bool) Unit,
      named? = some c ∧ c.move? .request = some asked ∧ run? moves asked = some d ∧
      d.phase? 2 = some (.ended (.outcome .coalesced)) ∧
      d.snapshot.properties = .ofList [("a", "9"), ("b", "9")] ∧ asked.FreshSince moves d := by
  intro moves
  obtain ⟨c, asked, d, result, ran, moved, later, reached, count, unasked, -, ended, covered, fails⟩ :=
    exists_served moves false (by decide +kernel)
  have published : (named?.bind fun c => (c.move? .request).bind fun asked =>
      (run? moves asked).map fun d => d.snapshot.properties) = some (.ofList [("a", "9"), ("b", "9")]) := by
    decide +kernel
  rw [ran, Option.bind_some, moved, Option.bind_some, later] at published
  have unfailed : ∀ e, result ≠ .failed e := fun e same => nomatch fails.mpr ⟨e, same⟩
  rw [← count] at ended covered
  have fresh := reached.answered_fresh moved later unasked ended fun _ => ⟨1, result, covered, unfailed⟩
  rw [count] at ended
  exact ⟨c, asked, d, ran, moved, later, ended, Option.some.inj published, fresh⟩

/-- A request is served by the reload of another one that has failed, and what is published comes of a pass
from before it. -/
theorem named_coalesced_stale :
    let moves := servingAfter (.surround (surroundings 9 [])) 4
    ∃ (c asked d : Config (String × Bool) Unit) (e : ConfigError),
      named? = some c ∧ c.Reachable ∧ c.move? .request = some asked ∧ run? moves asked = some d ∧
      throughout isUnasked moves asked = true ∧ c.state.requests.length = 2 ∧
      d.phase? 2 = some (.ended (.outcome .coalesced)) ∧ asked.CoveredBy 2 moves 1 (.failed e) ∧
      ¬ asked.FreshSince moves d := by
  intro moves
  obtain ⟨c, asked, d, result, ran, moved, later, reached, count, unasked, begun, ended, covered, fails⟩ :=
    exists_served moves true (by decide +kernel)
  obtain ⟨e, rfl⟩ := fails.mp rfl
  -- The only reload that has begun since never comes to a candidate.
  have fruitless : (named?.bind fun c => (c.move? .request).map fun asked =>
      (List.range moves.length).all fun n =>
        ((run? (moves.take n) asked).bind fun e => e.candidate? 1).isNone) = some true := by
    decide +kernel
  rw [ran, Option.bind_some, moved] at fruitless
  refine ⟨c, asked, d, e, ran, reached, moved, later, unasked, count, ended, covered, ?_⟩
  rintro ⟨before, after, id, at_end, candidate, split, led, mem, found, -⟩
  have since : id ∈ begunIn moves asked := by
    rw [split, begunIn_append led]
    exact List.mem_append_left _ mem
  rw [begun] at since
  obtain rfl := List.mem_singleton.mp since
  have here : before = moves.take before.length := by rw [split, List.take_left]
  have within : before.length < moves.length := by
    rw [split, List.length_append, List.length_cons]
    omega
  have nothing := List.all_eq_true.mp (Option.some.inj fruitless) before.length (List.mem_range.mpr within)
  rw [← here, led, Option.bind_some, found] at nothing
  exact nomatch nothing

end Config
end LiveConfig
