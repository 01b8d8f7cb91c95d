import LiveConfig.Proofs.Expansion.Purity
import LiveConfig.Proofs.Loading.Agreement

/-!
Passes in surroundings that do not change what sources give.

Such surroundings are called calm.  The loads of a pass may change the state of the plugins and take their
time, but all of them stay calm, and whenever a load ends it gives the same.  So all passes over the same
sources have the same outcome.
-/
namespace LiveConfig

variable {π : Type}

def World.Within (calm : Outside → π → Prop) (w : World π) : Prop := calm w.outside w.plugins

def Outlasts (calm : Outside → π → Prop) : Prop :=
  ∀ (w : World π) (time : Nat), w.Within calm → (w.waitUntil time).Within calm

/-- A load leaves calm surroundings calm, and gives the same in all of them. -/
structure Load.Steady (calm : Outside → π → Prop) (load : Load π) (found : Option PropertyMap) :
    Prop where
  pauses : ∀ pause ∈ load.pauses, ∀ outside plugins, calm outside plugins →
    calm outside (pause.effect plugins)
  finish : ∀ outside plugins, calm outside plugins → calm outside (load.finish outside plugins).plugins
  gives : ∀ outside plugins, calm outside plugins →
    (load.finish outside plugins).result.toOption = found

theorem World.within_noteAll {calm : Outside → π → Prop} {w : World π} (within : w.Within calm)
    (lines : List LogLine) : (w.noteAll lines).Within calm := by
  unfold noteAll
  induction lines generalizing w with
  | nil => exact within
  | cons line rest ih => exact ih (w := w.note line) within

namespace LoadPass

variable {calm : Outside → π → Prop} {found : Option PropertyMap}

def SteadySource (calm : Outside → π → Prop) (source : PendingSource π) (found : Option PropertyMap) :
    Prop :=
  match source.2 with
  | none => found = none
  | some load => load.Steady calm found

theorem exists_steadySources (chain : LoaderChain π) (cx : LoadContext) {locators : List Locator}
    (loads : ∀ l ∈ locators, ∀ loader, chain.find? l = some loader →
      ∃ found, (loader.load cx l).Steady calm found) :
    ∃ founds, List.Forall₂ (SteadySource calm) (pending chain cx locators) founds := by
  induction locators with
  | nil => exact ⟨[], .nil⟩
  | cons l rest ih =>
    obtain ⟨founds, tail⟩ := ih fun l mem => loads l (List.mem_cons_of_mem _ mem)
    have head : ∃ found, SteadySource calm (l, (chain.find? l).map fun loader => loader.load cx l)
        found := by
      cases accepting : chain.find? l with
      | none => exact ⟨none, rfl⟩
      | some loader => exact loads l List.mem_cons_self loader accepting
    obtain ⟨found, head⟩ := head
    exact ⟨found :: founds, .cons head tail⟩

def Gives (calm : Outside → π → Prop) (found : Option PropertyMap) : Flight π → Prop
  | .waiting _ load => load.Steady calm found
  | .landed end? => end? = found

private theorem gives_proceed {finish : Outside → π → Loaded π} {pauses : List (Pause π)}
    (steady : Load.Steady calm ⟨pauses, finish⟩ found) (l : Locator) {w : World π} (within : w.Within calm) :
    Gives calm found (Flight.proceed l finish pauses w).1 ∧
      (Flight.proceed l finish pauses w).2.Within calm := by
  induction pauses generalizing w with
  | nil =>
    have after : ({ w with plugins := (finish w.outside w.plugins).plugins } : World π).Within calm :=
      steady.finish w.outside w.plugins within
    have noted := World.within_noteAll after (finish w.outside w.plugins).log
    have given := steady.gives w.outside w.plugins within
    unfold Flight.proceed Flight.land
    dsimp only at given ⊢
    cases result : (finish w.outside w.plugins).result with
    | ok m =>
      rw [result] at given
      exact ⟨given, noted⟩
    | error e =>
      rw [result] at given
      exact ⟨given, noted⟩
  | cons pause rest ih =>
    have later : Load.Steady calm ⟨rest, finish⟩ found :=
      ⟨fun p mem => steady.pauses p (List.mem_cons_of_mem _ mem), steady.finish, steady.gives⟩
    have paused : ({ w with plugins := pause.effect w.plugins } : World π).Within calm :=
      steady.pauses pause List.mem_cons_self w.outside w.plugins within
    unfold Flight.proceed
    dsimp only
    split
    · exact ih later paused
    · exact ⟨later, paused⟩

private theorem gives_start {l : Locator} {load? : Option (Load π)} (steady : SteadySource calm (l, load?) found)
    {w : World π} (within : w.Within calm) :
    Gives calm found (Flight.start l load? w).1 ∧ (Flight.start l load? w).2.Within calm := by
  cases load? with
  | none => exact ⟨Eq.symm steady, within⟩
  | some load =>
    have whole : Load.Steady calm ⟨load.pauses, load.finish⟩ found := steady
    exact gives_proceed whole l within

def BoardGives (calm : Outside → π → Prop) (found : List (Option PropertyMap))
    (board : List (Option (Flight π))) : Prop :=
  ∀ (place : Nat) (f : Flight π) (m? : Option PropertyMap), board[place]? = some (some f) →
    found[place]? = some m? → Gives calm m? f

private theorem boardGives_replicate_none (found : List (Option PropertyMap)) (n : Nat) :
    BoardGives calm found (List.replicate n none) := by
  intro place f m? here
  rw [List.getElem?_replicate] at here
  split at here
  · exact nomatch here
  · exact nomatch here

private theorem boardGives_turn {found : List (Option PropertyMap)} {before after : List (Option (Flight π))}
    {f? : Option (Flight π)} {f : Flight π} (gives : BoardGives calm found (before ++ f? :: after))
    (here : ∀ m?, found[before.length]? = some m? → Gives calm m? f) :
    BoardGives calm found (before ++ some f :: after) := by
  intro place g m? on_board there
  by_cases same : place = before.length
  · subst same
    have landed := Option.some.inj ((getElem?_here before after (some f)).symm.trans on_board)
    obtain rfl := Option.some.inj landed
    exact here m? there
  · exact gives place g m? ((getElem?_elsewhere same).trans on_board) there

variable {policy : LoadPolicy} {sources : List (PendingSource π)} {founds : List (Option PropertyMap)}
  {s t : Scene π}

private theorem steadySource_at (steady : List.Forall₂ (SteadySource calm) sources founds) {place : Nat}
    {source : PendingSource π} {m? : Option PropertyMap} (here : sources[place]? = some source)
    (there : founds[place]? = some m?) : SteadySource calm source m? := by
  obtain ⟨lt, rfl⟩ := List.getElem?_eq_some_iff.mp here
  obtain ⟨lt', rfl⟩ := List.getElem?_eq_some_iff.mp there
  exact (List.forall₂_iff_get.mp steady).2 place lt lt'

private theorem boardGives_step (outlasts : Outlasts calm)
    (steady : List.Forall₂ (SteadySource calm) sources founds) (within : s.world.Within calm)
    (gives : BoardGives calm founds s.board) (step : Step Idles policy sources s t) :
    BoardGives calm founds t.board ∧ t.world.Within calm := by
  cases step with
  | @begins before after l load? here may w seen =>
    obtain ⟨lt, -⟩ := List.getElem?_eq_some_iff.mp here
    have at_place := List.getElem?_eq_getElem (steady.length_eq ▸ lt)
    obtain ⟨-, stays⟩ := gives_start (steadySource_at steady here at_place) within
    refine ⟨boardGives_turn gives fun m? there => ?_, stays⟩
    exact (gives_start (steadySource_at steady here there) within).1
  | @goesOn before after l load? here ready load w seen =>
    have waits : ∀ m?, founds[before.length]? = some m? → load.Steady calm m? := fun m? there =>
      gives before.length (.waiting ready load) m? (getElem?_here before after _) there
    obtain ⟨lt, -⟩ := List.getElem?_eq_some_iff.mp here
    have at_place := List.getElem?_eq_getElem (steady.length_eq ▸ lt)
    obtain ⟨-, stays⟩ := gives_proceed (waits _ at_place) l within
    refine ⟨boardGives_turn gives fun m? there => ?_, stays⟩
    exact (gives_proceed (waits m? there) l within).1
  | surrounds board change seen =>
    cases change with
    | note line => exact ⟨gives, within⟩
    | wait time => exact ⟨gives, outlasts _ time within⟩

private theorem boardGives_course (outlasts : Outlasts calm)
    (steady : List.Forall₂ (SteadySource calm) sources founds) (within : s.world.Within calm)
    (gives : BoardGives calm founds s.board) (course : Course Idles policy sources s t) :
    BoardGives calm founds t.board ∧ t.world.Within calm := by
  induction course with
  | refl => exact ⟨gives, within⟩
  | tail _ step ih => exact boardGives_step outlasts steady ih.2 ih.1 step

def outcomeOf (counted : List (Locator × PropertyMap)) : LoadOutcome :=
  ⟨combined (counted.map (·.2)), counted.map (·.1)⟩

private theorem madeOf_outcomeOf (counted : List (Locator × PropertyMap)) :
    MadeOf (outcomeOf counted) counted := by
  refine ⟨rfl, fun key => ?_⟩
  simp only [outcomeOf, combined]
  rw [TextMap.get?_foldl_completedBy, TextMap.get?_empty, Option.none_or, List.findSome?_map]
  rfl

def Pursues (calm : Outside → π → Prop) (policy : LoadPolicy) (outcome : LoadOutcome) (p : LoadPass π) :
    Prop :=
  ∃ (sources : List (PendingSource π)) (founds : List (Option PropertyMap))
    (board : List (Option (Flight π))),
    List.Forall₂ (SteadySource calm) sources founds ∧ Stands sources policy p board ∧
      BoardGives calm founds board ∧
      outcome = outcomeOf (policy.counted (loaded (sources.map (·.1)) founds))

private theorem madeOf_of_stands {p : LoadPass π} {board : List (Option (Flight π))}
    (same : founds.length = sources.length) (stands : Stands sources policy p board)
    (gives : BoardGives calm founds board) (ended : p.ready? = none) :
    MadeOf p.outcome (policy.counted (loaded (sources.map (·.1)) founds)) := by
  -- A load that has ended gave what its source gives.
  have given : ∀ {place : Nat} {m? : Option PropertyMap}, place < sources.length →
      board[place]? = some (some (.landed m?)) → founds[place]? = some m? := by
    intro place m? lt landed
    have at_place := List.getElem?_eq_getElem (same.symm ▸ lt)
    rw [at_place, show m? = founds[place] from gives place _ _ landed at_place]
  cases stands with
  | loading => simp [ready?] at ended
  | @found before rest source m parts =>
    have missed : ∀ place < (before.map (·.1)).length, founds[place]? = some none := by
      intro place lt
      rw [List.length_map] at lt
      apply given (by rw [parts, List.length_append]; omega)
      rw [List.getElem?_append_left (by rwa [List.length_replicate])]
      exact List.getElem?_replicate_of_lt lt
    have here : founds[(before.map (·.1)).length]? = some (some m) := by
      rw [List.length_map]
      apply given (by rw [parts, List.length_append, List.length_cons]; omega)
      rw [List.getElem?_append_right (Nat.le_of_eq List.length_replicate), List.length_replicate,
        Nat.sub_self]
      rfl
    obtain ⟨later, taken⟩ := loaded_of_first source.1 (rest.map (·.1)) missed here
    rw [parts, List.map_append, List.map_cons, taken]
    exact ⟨rfl, fun key => by simp [outcome, LoadPolicy.counted]⟩
  | missed =>
    have nothing : founds = List.replicate sources.length none := by
      apply List.ext_getElem (by rw [same, List.length_replicate])
      intro place lt lt'
      rw [List.length_replicate] at lt'
      rw [List.getElem_replicate]
      exact (List.getElem?_eq_some_iff.mp (given lt' (List.getElem?_replicate_of_lt lt'))).2
    have skipped := loaded_replicate_none (sources.map (·.1))
    rw [List.length_map] at skipped
    rw [nothing, skipped]
    exact ⟨rfl, fun key => rfl⟩
  | @all loads names =>
    have each : loads.map foundBy = founds := by
      have length := congrArg List.length names
      rw [List.length_map, List.length_map] at length
      apply List.ext_getElem (by rw [List.length_map, same, length])
      intro place lt lt'
      rw [List.length_map] at lt
      rw [List.getElem_map]
      have landed : (loads.map fun load => some load.flight)[place]? =
          some (some (.landed (foundBy loads[place]))) := by
        rw [List.getElem?_map, List.getElem?_eq_getElem lt, Option.map_some,
          ← landed_of_ended ended (List.getElem_mem lt)]
      exact ((List.getElem?_eq_some_iff.mp (given (length ▸ lt) landed)).2).symm
    have made := madeOf_outcome_merge loads
    rw [foundIn_eq_loaded, names, each] at made
    exact made

theorem Pursues.outcome_eq {outcome : LoadOutcome} {p : LoadPass π} (h : Pursues calm policy outcome p)
    (ended : p.ready? = none) : p.outcome = outcome := by
  obtain ⟨sources, founds, board, steady, stands, gives, rfl⟩ := h
  exact (madeOf_of_stands steady.length_eq.symm stands gives ended).unique (madeOf_outcomeOf _)

theorem Pursues.resume {outcome : LoadOutcome} {p : LoadPass π} (outlasts : Outlasts calm)
    (h : Pursues calm policy outcome p) (now : Nat) {w : World π} (within : w.Within calm) :
    Pursues calm policy outcome (resume now p w).1 ∧ (resume now p w).2.Within calm := by
  obtain ⟨sources, founds, board, steady, stands, gives, rfl⟩ := h
  obtain ⟨t, course, world, stands'⟩ := course_resume stands now w []
  obtain ⟨gives', stays⟩ := boardGives_course outlasts steady within gives course
  exact ⟨⟨sources, founds, t.board, steady, stands', gives', rfl⟩, world ▸ stays⟩

theorem pursues_start (outlasts : Outlasts calm) (chain : LoaderChain π) (cx : LoadContext)
    (policy : LoadPolicy) (sources : List Locator)
    (steady : List.Forall₂ (SteadySource calm) (pending chain cx sources) founds) {w : World π}
    (within : w.Within calm) :
    Pursues calm policy (outcomeOf (policy.counted (loaded sources founds)))
        (start chain cx policy sources w).1 ∧
      (start chain cx policy sources w).2.Within calm := by
  obtain ⟨t, course, world, stands⟩ := course_start chain cx policy sources w
  obtain ⟨gives, stays⟩ := boardGives_course outlasts steady within (boardGives_replicate_none _ _) course
  have names : (pending chain cx sources).map (·.1) = sources := by
    simp [pending, Function.comp_def]
  refine ⟨⟨_, founds, t.board, steady, stands, gives, ?_⟩, world ▸ stays⟩
  rw [names]

end LoadPass
end LiveConfig
