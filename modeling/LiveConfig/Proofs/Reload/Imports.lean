import LiveConfig.Proofs.Reload.Publication

/-!
Imports stay: nothing that happens to a configuration takes an imported key from it.

Every candidate has the imports, since these are laid over what was loaded.  So a candidate and the
published snapshot never differ in an imported key; listeners are neither asked about one nor told of it,
and whatever they refuse, the next snapshot has the imports again.
-/
namespace LiveConfig

variable {L π : Type}

def TextMap.Includes (m part : PropertyMap) : Prop :=
  ∀ key value, part.get? key = some value → m.get? key = some value

def Spares (imports : PropertyMap) (changes : List Change) : Prop :=
  ∀ change ∈ changes, imports.get? change.key = none

private theorem ChangeSet.spares_between {old new imports : PropertyMap} (before : old.Includes imports)
    (after : new.Includes imports) : Spares imports (between old new).changes := by
  intro change mem
  obtain ⟨eq_old, eq_new, ne⟩ := mem_between.mp mem
  cases found : imports.get? change.key with
  | none => rfl
  | some value =>
    rw [eq_old, eq_new, before _ _ found, after _ _ found] at ne
    exact absurd rfl ne

private theorem Pipeline.finish_includes (p : Pipeline π) (outcome : LoadOutcome) (w : World π) :
    (p.finish outcome w).1.properties.Includes p.imports := by
  intro key value found
  rw [p.get?_finish, found]
  rfl

private theorem Pipeline.run_includes {p : Pipeline π} {w after : World π} {c : Candidate}
    (ran : p.run w = (.ok c, after)) : c.properties.Includes p.imports := by
  unfold run at ran
  split at ran
  · exact nomatch (Prod.mk.inj ran).1
  · next pass started _ =>
    obtain rfl := Except.ok.inj (Prod.mk.inj ran).1
    exact p.finish_includes _ _

/-- Whether a key was refused or not, both snapshot and candidate have its import. -/
theorem Snapshot.Succeeds.includes {next current : Snapshot} {c : Candidate} {refused : List String}
    {imports : PropertyMap} (succeeds : next.Succeeds current c refused)
    (published : current.properties.Includes imports) (candidate : c.properties.Includes imports) :
    next.properties.Includes imports := by
  intro key value found
  by_cases mem : key ∈ refused
  · exact (succeeds.kept key mem).trans (published key value found)
  · exact (succeeds.taken key mem).trans (candidate key value found)

private theorem Reload.Conclusion.includes {current next : Snapshot} {c : Candidate}
    {calls : List (ListenerCall L)} {result : ReloadEnd} {imports : PropertyMap}
    (conclusion : Conclusion current c calls next result) (published : current.properties.Includes imports)
    (candidate : c.properties.Includes imports) : next.properties.Includes imports := by
  cases conclusion with
  | refused | brokenAsking => exact published
  | applied succeeds => exact succeeds.includes published candidate
  | brokenTelling _ _ succeeds => exact succeeds.includes published candidate

private theorem Expander.substitutors_withArguments {σ : Type} (e : Expander σ) (arguments : PropertyMap) :
    (e.withArguments arguments).substitutors = e.substitutors := by
  unfold withArguments
  split <;> rfl

namespace View

def bare (v : View π) : View π := { v with imports := .empty }

variable {v : View π} (included : v.snapshot.properties.Includes v.imports)

include included

/-- A layer of entries that the snapshot has as well changes no lookup. -/
private theorem lookup?_bare (arguments : PropertyMap) (key : String) :
    (v.expander.withArguments arguments).lookup? key =
      (v.bare.expander.withArguments arguments).lookup? key := by
  have layer : v.expander.lookup? key = v.bare.expander.lookup? key := by
    unfold bare expander
    rw [Expander.lookup?_eq_findSome?, Expander.lookup?_eq_findSome?]
    simp only [List.findSome?_cons, TextMap.get?_empty]
    cases found : v.imports.get? key with
    | none => rfl
    | some value => rw [included key value found]
  unfold Expander.withArguments
  by_cases none_given : arguments.isEmpty = true
  · rw [if_pos none_given, if_pos none_given]
    exact layer
  · rw [if_neg none_given, if_neg none_given, Expander.lookup?_eq_findSome?,
      Expander.lookup?_eq_findSome?, List.findSome?_cons, List.findSome?_cons]
    cases arguments.get? key with
    | none => exact layer
    | some value => rfl

omit included in
private theorem substitutors_bare (v : View π) (arguments : PropertyMap) :
    (v.expander.withArguments arguments).substitutors =
      (v.bare.expander.withArguments arguments).substitutors := by
  rw [Expander.substitutors_withArguments, Expander.substitutors_withArguments]
  rfl

private theorem expand_bare (arguments : PropertyMap) (text : String) (plugins : π) :
    (v.expander.withArguments arguments).expand text plugins =
      (v.bare.expander.withArguments arguments).expand text plugins :=
  Expander.expand_congr (lookup?_bare included arguments) (v.substitutors_bare arguments) text plugins

private theorem read_bare (rules : Rules) (target : Target) (a : Accessor π) (arguments : PropertyMap)
    (plugins : π) :
    v.read rules target a arguments plugins = v.bare.read rules target a arguments plugins := by
  have key : (v.declaration.keyOf a).resolve (v.expander.withArguments arguments) plugins =
      (v.bare.declaration.keyOf a).resolve (v.bare.expander.withArguments arguments) plugins :=
    KeyTemplate.resolve_congr (lookup?_bare included arguments) (v.substitutors_bare arguments) _ _
  have text : ∀ raw plugins, v.expander.expand raw plugins = v.bare.expander.expand raw plugins :=
    expand_bare included .empty
  unfold read
  dsimp only
  rw [key]
  simp only [text]
  rfl

private theorem expanded?_bare (key : String) (plugins : π) :
    v.expanded? key plugins = v.bare.expanded? key plugins := by
  have text : ∀ raw plugins, v.expander.expand raw plugins = v.bare.expander.expand raw plugins :=
    expand_bare included .empty
  unfold expanded? expandValue
  simp only [text]
  rfl

end View

namespace Config

variable {c next : Config L π} {id : Nat} {m : Move L π}

private theorem candidate_includes {candidate : Candidate} (found : c.candidate? id = some candidate) :
    candidate.properties.Includes c.setup.pipeline.imports := by
  obtain ⟨⟨candidate, w⟩, finished, rfl⟩ := Option.map_eq_some_iff.mp found
  obtain ⟨_, pass, -, -, finish⟩ := loading_of_finished? finished
  have includes := c.setup.pipeline.finish_includes pass.outcome c.world
  rw [finish] at includes
  exact includes

/-- What listeners see while a request concludes comes from the difference to its candidate. -/
theorem shown_of_callsBy {call : ListenerCall L} (mem : call ∈ c.callsBy id) :
    ∃ candidate, c.candidate? id = some candidate ∧
      call.shown ⊆ (ChangeSet.between c.snapshot.properties candidate.properties).changes := by
  unfold callsBy at mem
  split at mem
  · next trigger _ candidate w _ finished =>
    obtain ⟨calls, result, _, after, -, recorded, -, -, -, shown⟩ := Reload.conclude_recording
      c.setup.hooks trigger candidate c.snapshot { c.state.scene with world := w }
    dsimp only at mem
    rw [recorded] at mem
    refine ⟨candidate, ?_, shown call mem⟩
    unfold candidate?
    rw [finished]
    rfl
  · exact nomatch mem

/-- The published snapshot has the imports, and no request has reported a change of an imported key. -/
structure ImportsStay (imports : PropertyMap) (c : Config L π) : Prop where
  setup : c.setup.pipeline.imports = imports
  published : c.snapshot.properties.Includes imports
  reported : ∀ id phase version changes, c.phase? id = some phase →
    phase.result? = some (.outcome (.applied version changes)) → Spares imports changes.changes

namespace ImportsStay

variable {imports : PropertyMap}

private theorem of_build {p : Plan π} {hooks : Listeners L π} {w : World π} {first : Config L π}
    (built : (p.build hooks w).1 = .ok first) : first.ImportsStay (Import.combined p.imports) := by
  unfold Plan.build at built
  split at built
  · exact nomatch built
  · split at built
    · exact nomatch built
    · next candidate after ran =>
      obtain rfl := Except.ok.inj built
      refine ⟨rfl, Pipeline.run_includes ran, ?_⟩
      intro id phase version changes found
      exact nomatch found

private theorem calls (stay : c.ImportsStay imports) (m : Move L π) :
    ∀ call ∈ c.callsIn m, Spares imports call.shown := by
  intro call mem change shown
  unfold callsIn at mem
  split at mem
  · obtain ⟨candidate, found, part⟩ := shown_of_callsBy mem
    have includes := candidate_includes found
    rw [stay.setup] at includes
    exact ChangeSet.spares_between stay.published includes change (part shown)
  · exact nomatch mem

private theorem move? (stay : c.ImportsStay imports) (moved : c.move? m = some next) :
    next.ImportsStay imports := by
  have setup : next.setup = c.setup := (move?_cases moved).1
  refine ⟨by rw [setup, stay.setup], ?_, ?_⟩
  · rcases move?_publishes moved with ⟨same, -⟩ | ⟨id, result, -, here, -⟩
    · rw [same]
      exact stay.published
    · cases here.concluding with
      | coalesced same | failed same =>
        rw [same]
        exact stay.published
      | finished found conclusion =>
        have candidate := candidate_includes found
        rw [stay.setup] at candidate
        exact conclusion.includes stay.published candidate
  · intro id phase version changes found ended
    rcases result_of_move? moved found ended with ⟨before, here, earlier⟩ | dropped | ⟨rfl, here⟩
    · exact stay.reported id before version changes here earlier
    · exact nomatch dropped
    · cases here.concluding with
      | finished found conclusion =>
        obtain ⟨-, -, changed⟩ := conclusion.of_applied
        have candidate := candidate_includes found
        rw [stay.setup] at candidate
        intro change mem
        rw [changed.left] at mem
        exact ChangeSet.spares_between stay.published candidate change (ChangeSet.dropping_subset _ _ mem)

private theorem run? {moves : List (Move L π)} {d : Config L π} (stay : c.ImportsStay imports)
    (ran : Config.run? moves c = some d) : d.ImportsStay imports :=
  Config.run?_induction (P := fun _ => ImportsStay imports) stay
    (fun _ _ _ _ _ stay moved => stay.move? moved) ran

end ImportsStay

/-- Whatever happens to a configuration after it was built, its imports win.  The published snapshot has
each imported key with the value of the earliest import that defines it.  No listener is asked about a
change of an imported key or told of one, not even by a reload that a listener breaks off, and no request
reports one.  So the snapshot alone decides what placeholders stand for: every expansion and every read,
with arguments or without, is the same without the layer of the imports. -/
theorem imports_win {p : Plan π} {hooks : Listeners L π} {w : World π} {moves : List (Move L π)}
    (ran : runOf? p hooks w moves = some c) :
    (∀ key value, (p.imports.findSome? fun m => m.get? key) = some value →
      c.snapshot.get? key = some value) ∧
    (∀ m, ∀ call ∈ c.callsIn m, ∀ change ∈ call.shown, ∀ imported ∈ p.imports,
      imported.get? change.key = none) ∧
    (∀ id phase version changes, c.phase? id = some phase →
      phase.result? = some (.outcome (.applied version changes)) →
      ∀ change ∈ changes.changes, ∀ imported ∈ p.imports, imported.get? change.key = none) ∧
    (∀ arguments text plugins, (c.view.expander.withArguments arguments).expand text plugins =
      (c.view.bare.expander.withArguments arguments).expand text plugins) ∧
    (∀ rules target a arguments plugins,
      c.view.read rules target a arguments plugins = c.view.bare.read rules target a arguments plugins) ∧
    ∀ key plugins, c.view.expanded? key plugins = c.view.bare.expanded? key plugins := by
  obtain ⟨first, built, led⟩ := build_of_runOf? ran
  have stay := (ImportsStay.of_build built).run? led
  have spared : ∀ {changes : List Change}, Spares (Import.combined p.imports) changes →
      ∀ change ∈ changes, ∀ imported ∈ p.imports, imported.get? change.key = none := by
    intro changes spares change mem
    have absent := spares change mem
    rw [Import.get?_combined] at absent
    exact List.findSome?_eq_none_iff.mp absent
  have included : c.view.snapshot.properties.Includes c.view.imports := by
    have same : c.view.imports = Import.combined p.imports := stay.setup
    rw [same]
    exact stay.published
  refine ⟨?_, ?_, ?_, View.expand_bare included, View.read_bare included, View.expanded?_bare included⟩
  · intro key value found
    rw [← Import.get?_combined] at found
    exact stay.published key value found
  · intro m call mem
    exact spared (stay.calls m call mem)
  · intro id phase version changes found ended
    exact spared (stay.reported id phase version changes found ended)

/-- A source has new values for two keys, and one of these is imported. -/
theorem clockPlan_imports_win :
    let p : Plan Unit :=
      { clockPlan with imports := [.ofList [("a", "x")], .ofList [("a", "y"), ("c", "$\x7ba\x7d")]] }
    let w : World Unit := ⟨⟨0, .empty, ⟨.empty, "/", "x86_64"⟩, .empty⟩, [], ()⟩
    let moves : List (Move (String × Bool) Unit) :=
      [.register ("c", false), .wait 5, .request, .step 0, .step 0, .step 0]
    ∃ c d, runOf? p refusing w moves = some c ∧ c.move? (.step 0) = some d ∧
      (c.callsIn (.step 0)).length = 3 ∧
      (∀ call ∈ c.callsIn (.step 0), ∀ change ∈ call.shown, change.key ≠ "a") ∧
      d.snapshot.version = 2 ∧ d.snapshot.get? "b" = some "5" ∧ d.snapshot.get? "a" = some "x" ∧
      (d.view.expanded? "c" ()).value = some "x" ∧ (d.view.bare.expanded? "c" ()).value = some "x" := by
  intro p w moves
  have calls : (runOf? p refusing w moves).map (fun c => (c.callsIn (.step 0)).length) = some 3 := by
    decide +kernel
  have after : ((runOf? p refusing w moves).bind fun c => (c.move? (.step 0)).map fun d =>
      (d.snapshot.version, d.snapshot.get? "b", (d.view.expanded? "c" ()).value)) =
        some (2, some "5", some "x") := by
    decide +kernel
  obtain ⟨c, ran, three⟩ := Option.map_eq_some_iff.mp calls
  rw [ran, Option.bind_some] at after
  obtain ⟨d, moved, values⟩ := Option.map_eq_some_iff.mp after
  obtain ⟨version, b, expanded⟩ := by simpa only [Prod.mk.injEq] using values
  obtain ⟨-, spared, -⟩ := imports_win ran
  have step : run? [.step 0] c = some d := by simp only [run?, moved]
  obtain ⟨imported, -, -, -, -, same⟩ := imports_win (runOf?_append ran step)
  refine ⟨c, d, ran, moved, three, ?_, version, b, imported "a" "x" (by decide +kernel), expanded, ?_⟩
  · rintro call mem change shown eq
    have absent := spared _ call mem change shown (.ofList [("a", "x")]) List.mem_cons_self
    rw [eq] at absent
    exact absurd absent (Option.some_ne_none "x")
  · rw [← same]
    exact expanded

end Config
end LiveConfig
