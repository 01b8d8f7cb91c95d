import LiveConfig.Proofs.Reload.Attempt

/-!
What is published, and under which version.

A move publishes at most one snapshot, and then under the next version.  Those that publish without a
panic are the ones that conclude a request as applied, so the version counts these.
-/
namespace LiveConfig

open ListenerCall (vetoedKeys)

variable {L π : Type}

def ReloadEnd.isApplied : ReloadEnd → Bool
  | .outcome (.applied _ _) => true
  | .outcome .unchanged | .outcome .vetoed | .outcome .coalesced | .failed _ | .panicked _ => false

def ReloadEnd.isPanic : ReloadEnd → Bool
  | .panicked _ => true
  | .outcome _ | .failed _ => false

def Phase.result? : Phase π → Option ReloadEnd
  | .concluded result | .ended result => some result
  | .ticketed _ | .queued _ | .admitted _ _ | .begun _ | .loading _ _ => none

private theorem countP_set_of_getElem? {α : Type} (p : α → Bool) {items : List α} {i : Nat} {old new : α}
    (found : items[i]? = some old) :
    (items.set i new).countP p + (if p old then 1 else 0) =
      items.countP p + (if p new then 1 else 0) := by
  induction items generalizing i with
  | nil => exact nomatch found
  | cons first rest ih =>
    cases i with
    | zero =>
      obtain rfl := Option.some.inj found
      rw [List.set_cons_zero, List.countP_cons, List.countP_cons]
      omega
    | succ i =>
      have := ih found
      rw [List.set_cons_succ, List.countP_cons, List.countP_cons]
      omega

namespace Config

variable {c d next : Config L π} {id : Nat} {m : Move L π} {result : ReloadEnd}

def resultCount (p : ReloadEnd → Bool) (c : Config L π) : Nat :=
  c.state.requests.countP fun phase => phase.result?.any p

private theorem resultCount_of_set (p : ReloadEnd → Bool) {old new : Phase π} (found : c.phase? id = some old)
    (requests : next.state.requests = c.state.requests.set id new) :
    next.resultCount p + (if old.result?.any p then 1 else 0) =
      c.resultCount p + (if new.result?.any p then 1 else 0) := by
  unfold resultCount
  rw [requests]
  exact countP_set_of_getElem? _ found

private theorem result?_eq_none_of_underway {phase : Phase π} (underway : phase.isUnderway = true) :
    phase.result? = none := by
  cases phase with
  | queued | admitted | begun | loading => rfl
  | ticketed | concluded | ended => exact nomatch underway

/-- A move concludes a reload, or it calls no listener, publishes nothing and adds no result but that of a
dropped request. -/
theorem move?_publishes (moved : c.move? m = some next) :
    (next.snapshot = c.snapshot ∧ c.callsIn m = [] ∧
      ∀ p, p (.outcome .coalesced) = false → next.resultCount p = c.resultCount p) ∨
    ∃ id result, m = .step id ∧ c.Concludes id result next ∧
      ∀ p, next.resultCount p = c.resultCount p + if p result then 1 else 0 := by
  obtain ⟨-, ⟨id, rfl, stepped⟩ | ⟨outer, arrival⟩⟩ := move?_cases moved
  · obtain ⟨phase, found, passage⟩ := ReloadState.step?_passage stepped
    cases passage with
    | enters _ current _ _ requests =>
      exact Or.inl ⟨current, silent_of_unloaded found rfl, fun p _ => resultCount_of_set p found requests⟩
    | queues _ current _ _ requests =>
      exact Or.inl ⟨current, silent_of_unloaded found rfl, fun p _ => resultCount_of_set p found requests⟩
    | leaves current _ _ requests =>
      refine Or.inl ⟨current, silent_of_unloaded found rfl, fun p _ => ?_⟩
      have count := resultCount_of_set p found requests
      exact Nat.add_right_cancel count
    -- Only a step inside the gate can conclude a reload.
    | @goesOn _ after _ underway _ _ _ _ requests =>
      have count := fun p => resultCount_of_set p found requests
      have reached : next.phase? id = some after := by
        have lt : id < c.state.requests.length := (List.getElem?_eq_some_iff.mp found).1
        unfold phase?
        rw [requests, List.getElem?_set_self lt]
      rcases goesOn_or_concludes found underway moved with here | ⟨result, here⟩
      · obtain ⟨phase', reached', underway'⟩ := here.underway
        obtain rfl := Option.some.inj (reached.symm.trans reached')
        refine Or.inl ⟨here.snapshot, here.silent, fun p _ => ?_⟩
        have same := count p
        rw [result?_eq_none_of_underway underway, result?_eq_none_of_underway underway'] at same
        exact same
      · obtain rfl := Option.some.inj (reached.symm.trans here.concluded)
        refine Or.inr ⟨id, result, rfl, here, fun p => ?_⟩
        have more := count p
        rw [result?_eq_none_of_underway underway] at more
        exact more
  · refine Or.inl ⟨arrival.current, callsIn_of_outer outer, ?_⟩
    intro p dropped
    unfold resultCount
    cases arrival with
    | aside _ _ _ requests => rw [requests]
    | apart which _ _ _ requests =>
      rw [requests, List.countP_append]
      rcases which with rfl | rfl
      · rfl
      · simp [Phase.result?, dropped]
    | admitted _ _ _ _ requests =>
      rw [requests, List.countP_append]
      rfl

/-- A request has its result from before, or is dropped, or concludes with this very move. -/
theorem result_of_move? (moved : c.move? m = some next) {phase : Phase π}
    (found : next.phase? id = some phase) (ended : phase.result? = some result) :
    (∃ before, c.phase? id = some before ∧ before.result? = some result) ∨
      result = .outcome .coalesced ∨ m = .step id ∧ c.Concludes id result next := by
  obtain ⟨-, ⟨stepper, rfl, stepped⟩ | ⟨-, arrival⟩⟩ := move?_cases moved
  · obtain ⟨before, here, passage⟩ := ReloadState.step?_passage stepped
    by_cases same : id = stepper
    · subst same
      have lt : id < c.state.requests.length := (List.getElem?_eq_some_iff.mp here).1
      have set_to : ∀ {new : Phase π}, next.state.requests = c.state.requests.set id new → new = phase := by
        intro new requests
        unfold phase? at found
        rw [requests, List.getElem?_set_self lt] at found
        exact Option.some.inj found
      cases passage with
      | enters _ _ _ _ requests | queues _ _ _ _ requests =>
        obtain rfl := set_to requests
        exact nomatch ended
      | leaves _ _ _ requests =>
        obtain rfl := set_to requests
        exact Or.inl ⟨_, here, ended⟩
      | goesOn underway =>
        rcases goesOn_or_concludes here underway moved with on | ⟨concluded, concludes⟩
        · obtain ⟨after, reached, underway'⟩ := on.underway
          obtain rfl := Option.some.inj (reached.symm.trans found)
          rw [result?_eq_none_of_underway underway'] at ended
          exact nomatch ended
        · obtain rfl := Option.some.inj (concludes.concluded.symm.trans found)
          obtain rfl := Option.some.inj ended
          exact Or.inr (Or.inr ⟨rfl, concludes⟩)
    · refine Or.inl ⟨phase, ?_, ended⟩
      exact (passage.others same).symm.trans found
  · unfold phase? at found
    have appended : ∀ {new : Phase π}, next.state.requests = c.state.requests ++ [new] →
        c.phase? id = some phase ∨ new = phase := by
      intro new requests
      rw [requests, List.getElem?_append] at found
      split at found
      · exact Or.inl found
      · exact Or.inr (List.mem_singleton.mp (List.mem_of_getElem? found)).symm
    cases arrival with
    | aside _ _ _ requests =>
      rw [requests] at found
      exact Or.inl ⟨phase, found, ended⟩
    | apart which _ _ _ requests =>
      rcases appended requests with old | rfl
      · exact Or.inl ⟨phase, old, ended⟩
      · rcases which with rfl | rfl
        · exact nomatch ended
        · exact Or.inr (Or.inl (Option.some.inj ended).symm)
    | admitted _ _ _ _ requests =>
      rcases appended requests with old | rfl
      · exact Or.inl ⟨phase, old, ended⟩
      · exact nomatch ended

private theorem Concluding.publishes {published : Snapshot} (concluding : c.Concluding id published result) :
    (published = c.snapshot ∧ result.isApplied = false) ∨
      (published.version = c.snapshot.version + 1 ∧
        (result.isApplied = true ∧ result.isPanic = false ∨
          result.isApplied = false ∧ result.isPanic = true)) := by
  cases concluding with
  | coalesced same => exact Or.inl ⟨same, rfl⟩
  | failed same => exact Or.inl ⟨same, rfl⟩
  | finished _ conclusion =>
    cases conclusion with
    | refused which =>
      refine Or.inl ⟨rfl, ?_⟩
      rcases which with rfl | rfl
      · rfl
      · rfl
    | brokenAsking => exact Or.inl ⟨rfl, rfl⟩
    | applied succeeds => exact Or.inr ⟨succeeds.version, Or.inl ⟨rfl, rfl⟩⟩
    | brokenTelling _ _ succeeds => exact Or.inr ⟨succeeds.version, Or.inr ⟨rfl, rfl⟩⟩

/-- The snapshot stays, or another one is published under the next version. -/
theorem snapshot_move? (moved : c.move? m = some next) :
    next.snapshot = c.snapshot ∨ next.snapshot.version = c.snapshot.version + 1 := by
  rcases move?_publishes moved with ⟨same, -⟩ | ⟨id, result, -, here, -⟩
  · exact Or.inl same
  · rcases here.concluding.publishes with ⟨same, -⟩ | ⟨version, -⟩
    · exact Or.inl same
    · exact Or.inr version

/-- Versions never go back, and the snapshot changes only together with its version. -/
theorem snapshot_run? {moves : List (Move L π)} (ran : run? moves c = some d) :
    c.snapshot.version ≤ d.snapshot.version ∧
      (d.snapshot.version = c.snapshot.version → d.snapshot = c.snapshot) := by
  induction moves generalizing c with
  | nil =>
    obtain rfl := Option.some.inj ran
    exact ⟨Nat.le_refl _, fun _ => rfl⟩
  | cons m rest ih =>
    obtain ⟨next, moved, later⟩ := run?_cons_eq_some ran
    obtain ⟨le, same⟩ := ih later
    rcases snapshot_move? moved with stays | version
    · rw [stays] at le same
      exact ⟨le, same⟩
    · refine ⟨by omega, ?_⟩
      intro eq
      omega

/-- The version counts the requests that were applied, but for panics, each of which may have come before
or after the snapshot was published. -/
theorem Reachable.version_bounds (reached : c.Reachable) :
    1 + c.resultCount ReloadEnd.isApplied ≤ c.snapshot.version ∧
      c.snapshot.version ≤ 1 + c.resultCount ReloadEnd.isApplied + c.resultCount ReloadEnd.isPanic := by
  apply reached.induction
  · intro p hooks w first built
    obtain ⟨candidate, after, state⟩ := Plan.state_of_build built
    unfold resultCount snapshot
    rw [state]
    exact ⟨Nat.le_refl _, Nat.le_refl _⟩
  · intro c m next bounds moved
    rcases move?_publishes moved with ⟨same, -, counts⟩ | ⟨id, result, -, here, counts⟩
    · rw [same, counts _ rfl, counts _ rfl]
      exact bounds
    · have applied := counts ReloadEnd.isApplied
      have panics := counts ReloadEnd.isPanic
      rcases here.concluding.publishes with ⟨same, quiet⟩ | ⟨version, ⟨yes, no⟩ | ⟨no, yes⟩⟩
      · rw [quiet] at applied
        rw [same]
        simp only [Bool.false_eq_true, if_false] at applied
        omega
      · rw [yes] at applied
        rw [no] at panics
        simp only [Bool.false_eq_true, if_false, if_true] at applied panics
        omega
      · rw [no] at applied
        rw [yes] at panics
        simp only [Bool.false_eq_true, if_false, if_true] at applied panics
        omega

/-- An attempt that applies changes publishes the next version of what its request has resolved: the keys
that listeners refused keep their values or stay absent, and all others are as in the candidate.  The
changes are the difference from the snapshot before to that after, and from the snapshot before to the
candidate without the refused keys.  Without listeners who are asked, the candidate is published as it
is.  As long as no listener breaks off, the version is one more than the number of requests that were
applied, and in every run the snapshot changes only together with its version. -/
theorem Reachable.applied_publishes (reached : c.Reachable) :
    (∀ id moves d version changes, c.Attempt id moves d (.outcome (.applied version changes)) →
      ∃ before after m candidate,
        moves = before ++ .step id :: after ∧ run? before c = some m ∧ m.candidate? id = some candidate ∧
        version = c.snapshot.version + 1 ∧ d.snapshot.version = version ∧
        d.snapshot.Succeeds c.snapshot candidate (vetoedKeys (callsOf id moves c)) ∧
        d.snapshot.Changed c.snapshot candidate (vetoedKeys (callsOf id moves c)) changes ∧
        ((∀ l ∈ m.state.scene.registry.registrations, (c.setup.hooks c.snapshot).kind l ≠ .transactional) →
          d.snapshot.properties = candidate.properties)) ∧
    (c.resultCount ReloadEnd.isPanic = 0 →
      c.snapshot.version = 1 + c.resultCount ReloadEnd.isApplied) ∧
    ∀ moves d, run? moves c = some d → c.snapshot.version ≤ d.snapshot.version ∧
      (d.snapshot.version = c.snapshot.version → d.snapshot = c.snapshot) := by
  refine ⟨?_, ?_, ?_⟩
  · intro id moves d version changes attempt
    obtain ⟨before, after, m, next, split, ran, setup, snapshot, here, last, calls⟩ :=
      (attempt.toward reached).concluding_step
    have concluding := here.concluding
    rw [← last] at concluding
    cases concluding with
    | @finished candidate _ found conclusion asks =>
      rw [← calls] at conclusion asks
      rw [snapshot] at conclusion asks
      rw [setup] at asks
      obtain ⟨number, succeeds, changed⟩ := conclusion.of_applied
      refine ⟨before, after, m, candidate, split, ran, found, number.trans succeeds.version, number.symm,
        succeeds, changed, ?_⟩
      intro unasked
      have unrefused : vetoedKeys (callsOf id moves c) = [] := by
        apply ListenerCall.vetoedKeys_eq_nil
        intro call mem question
        obtain ⟨-, listens, kind⟩ := asks call mem question
        exact unasked call.listener listens kind
      rw [unrefused] at succeeds
      exact succeeds.eq_of_refused_nil
  · intro quiet
    obtain ⟨lower, upper⟩ := reached.version_bounds
    omega
  · intro moves d ran
    exact snapshot_run? ran

def clockPlan : Plan Unit where
  declaration := ⟨"clock", ⟨["clock:now"], .first⟩, none, none, .standard, [], ⟨[]⟩, .empty⟩
  loaders := [⟨fun _ => true, fun _ _ => .ofResult fun outside =>
    .ok (.ofList [("a", toString outside.now), ("b", toString outside.now)])⟩]
  standardLoaders := false
  imports := []
  importFault := none
  roots := []
  environment := some .empty

def refusing : Listeners (String × Bool) Unit := fun _ => {
  kind := fun _ => .transactional
  beforeChange := fun l c => return if c.key = l.1 then .vetoKey else .accept
  beforeBatch := fun _ _ => return .accept
  changed := fun l _ => if l.2 then throw ⟨some "told"⟩ else return
  reloaded := fun _ _ _ => return
  note := fun line s => s.note line }

def clockRequest? (breaks : Bool) : Option (Config (String × Bool) Unit) :=
  runOf? clockPlan refusing ⟨⟨0, .empty, ⟨.empty, "/", "x86_64"⟩, .empty⟩, [], ()⟩
    [.register ("a", breaks), .wait 5, .request, .step 0]

private def result? (c : Config (String × Bool) Unit) : Option (ReloadOutcome ⊕ Panic) :=
  match c.phase? 0 with
  | some (.concluded (.outcome outcome)) => some (.inl outcome)
  | some (.concluded (.panicked p)) => some (.inr p)
  | _ => none

theorem exists_clockAttempt (breaks : Bool) (result : ReloadOutcome ⊕ Panic)
    (concludes : ((clockRequest? breaks).bind fun c =>
      (run? [.step 0, .step 0, .step 0] c).bind result?) = some result) :
    ∃ c d, clockRequest? breaks = some c ∧ run? [.step 0, .step 0, .step 0] c = some d ∧ c.Reachable ∧
      c.Attempt 0 [.step 0, .step 0, .step 0] d (result.elim .outcome .panicked) := by
  have admitted : ((clockRequest? breaks).bind fun c => c.phase? 0) =
      some (.admitted .explicit (some 0)) := by cases breaks <;> rfl
  have holder : ((clockRequest? breaks).bind fun c => c.state.holder) = some 0 := by
    cases breaks <;> decide +kernel
  obtain ⟨c, ran, found⟩ := Option.bind_eq_some_iff.mp admitted
  rw [ran, Option.bind_some] at concludes holder
  obtain ⟨d, moved, shown⟩ := Option.bind_eq_some_iff.mp concludes
  have concluded : d.phase? 0 = some (.concluded (result.elim .outcome .panicked)) := by
    unfold result? at shown
    split at shown
    · next eq => rw [eq, ← Option.some.inj shown, Sum.elim_inl]
    · next eq => rw [eq, ← Option.some.inj shown, Sum.elim_inr]
    · exact nomatch shown
  exact ⟨c, d, ran, moved, ⟨_, _, _, _, ran⟩, holder, Or.inr ⟨_, _, found⟩, moved, concluded⟩

theorem clock_applied_publishes :
    let changes : ChangeSet := ⟨[⟨"b", some "0", some "5"⟩], List.pairwise_singleton _ _⟩
    ∃ (c d : Config (String × Bool) Unit) (candidate : Candidate),
      c.Reachable ∧ c.Attempt 0 [.step 0, .step 0, .step 0] d (.outcome (.applied 2 changes)) ∧
      d.snapshot.properties = .ofList [("a", "0"), ("b", "5")] ∧ c.snapshot.version = 1 ∧
      d.snapshot.Succeeds c.snapshot candidate ["a"] ∧
      d.snapshot.Changed c.snapshot candidate ["a"] changes := by
  intro changes
  obtain ⟨c, d, ran, moved, reached, attempt⟩ :=
    exists_clockAttempt false (.inl (.applied 2 changes)) (by decide +kernel)
  have calls : (clockRequest? false).map (fun c =>
      vetoedKeys (callsOf 0 [.step 0, .step 0, .step 0] c)) = some ["a"] := by decide +kernel
  have next : ((clockRequest? false).bind fun c => (run? [.step 0, .step 0, .step 0] c).map
      fun d => d.snapshot.properties) = some (.ofList [("a", "0"), ("b", "5")]) := by decide +kernel
  rw [ran] at calls
  rw [ran, Option.bind_some, moved] at next
  have refused : vetoedKeys (callsOf 0 [.step 0, .step 0, .step 0] c) = ["a"] := Option.some.inj calls
  obtain ⟨publishes, -, -⟩ := reached.applied_publishes
  obtain ⟨before, after, m, candidate, -, -, -, version, -, succeeds, changed, -⟩ :=
    publishes 0 _ d 2 changes attempt
  rw [refused] at succeeds changed
  exact ⟨c, d, candidate, reached, attempt, Option.some.inj next, by omega, succeeds, changed⟩

end Config
end LiveConfig
