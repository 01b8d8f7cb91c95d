import LiveConfig.Proofs.Expansion.Purity
import LiveConfig.Proofs.Pipeline.Precedence

/-!
The keys under which fallbacks are recorded, and the keys that reads look up.

A pass resolves the keys of all accessors before any fallback is there, and a read resolves the key of its
accessor when all of them are.  Both come to the same key, unless the references from the template lead to
a key that a fallback alone defines.
-/
namespace LiveConfig

variable {L π : Type}

def View.keyRead (v : View π) (a : Accessor π) (arguments : PropertyMap) (plugins : π) : String :=
  ((v.declaration.keyOf a).resolve (v.expander.withArguments arguments) plugins).text

/-- A read that finds its key does not ask for the fallback of the accessor. -/
private theorem View.read_without_fallback {v : View π} {a : Accessor π} {arguments : PropertyMap} {plugins : π}
    (there : (v.snapshot.get? (v.keyRead a arguments plugins)).isSome = true) (rules : Rules) (target : Target) :
    v.read rules target { a with fallback := none } arguments plugins =
      v.read rules target a arguments plugins := by
  obtain ⟨raw, found⟩ := Option.isSome_iff_exists.mp there
  have looked : v.raw? ((v.declaration.keyOf a).resolve (v.expander.withArguments arguments) plugins).text =
      some raw := found
  have same : v.declaration.keyOf { a with fallback := none } = v.declaration.keyOf a := rfl
  unfold View.read
  dsimp only
  rw [same, looked, Option.some_or, Option.some_or]
  rfl

namespace KeyTemplate

/-- By pure substitutors a template is resolved to the same key in all states of the plugins. -/
theorem text_resolve_eq {e : Expander π} (pure : e.substitutors.IsPure) (t : KeyTemplate)
    (plugins other : π) : (t.resolve e plugins).text = (t.resolve e other).text := by
  have keeps : e.substitutors.Keeps fun _ => True := fun _ _ _ _ _ => trivial
  exact (t.resolve_alike pure keeps trivial trivial).1

end KeyTemplate

namespace Pipeline

variable {p : Pipeline π}

/-- Each fallback is recorded under the key of its accessor. -/
theorem mem_fallbacks {e : Expander π} (pure : e.substitutors.IsPure) {accessors : List (Accessor π)}
    {a : Accessor π} (mem : a ∈ accessors) {value : String} (fallback : a.fallback = some value)
    (plugins : π) (w : World π) :
    (((p.declaration.keyOf a).resolve e plugins).text, value) ∈ (p.fallbacks e accessors w).1 := by
  induction accessors generalizing w with
  | nil => exact nomatch mem
  | cons first rest ih =>
    rcases List.mem_cons.mp mem with rfl | later
    · simp only [fallbacks, fallback]
      rw [KeyTemplate.text_resolve_eq pure _ plugins w.plugins]
      exact List.mem_cons_self
    · simp only [fallbacks]
      cases first.fallback with
      | none => exact ih later w
      | some other => exact List.mem_cons_of_mem _ (ih later _)

/-- Keys that are recorded are there afterwards, from a fallback if from nowhere else. -/
theorem isSome_addFallbacks {m : PropertyMap} {w : World π} {key value : String}
    (recorded : (key, value) ∈ (p.fallbacks (p.expander m) p.declaration.accessors w).1) :
    ((p.addFallbacks m w).1.get? key).isSome = true := by
  have given : (p.declaration.fallbackFor? (p.expander m) key p.declaration.accessors w.plugins).isSome =
      true := by
    rw [← p.entryOf?_fallbacks, Option.isSome_iff_ne_none]
    intro missing
    exact entryOf?_eq_none_iff.mp missing _ recorded rfl
  rw [get?_addFallbacks, Option.isSome_or, given, Bool.or_true]

private theorem isSome_lookup?_expander {m : PropertyMap} {key : String} (there : (m.get? key).isSome = true) :
    ((p.expander m).lookup? key).isSome = true := by
  obtain ⟨value, found⟩ := Option.isSome_iff_exists.mp there
  unfold expander
  rw [Expander.lookup?_eq_findSome?]
  simp only [List.findSome?_cons, found]
  cases p.imports.get? key with
  | none => rfl
  | some imported => rfl

/-- Fallbacks change no lookup but those of keys that they alone define. -/
theorem lookup?_addFallbacks {m : PropertyMap} {w : World π} {key : String}
    (free : m.get? key = none → (p.addFallbacks m w).1.get? key = none) :
    (p.expander m).lookup? key = (p.expander (p.addFallbacks m w).1).lookup? key := by
  unfold expander
  rw [Expander.lookup?_eq_findSome?, Expander.lookup?_eq_findSome?]
  have same : m.get? key = (p.addFallbacks m w).1.get? key := by
    cases found : m.get? key with
    | none => rw [free found]
    | some value => rw [get?_addFallbacks, found, Option.some_or]
  simp only [List.findSome?_cons, same]

end Pipeline

namespace Plan

/-- A configuration is built with substitutors that depend on nothing but their arguments.  Then the
fallback of each accessor is recorded under one key, to which its template is resolved before there are
any fallbacks, and this key is published and found by placeholders.  A read of the accessor without
arguments looks up the same key, if the references from the template lead to no key that a fallback alone
defines; so it finds a value there, and does not fall back again. -/
theorem fallback_keys {p : Plan π} (hooks : Listeners L π) {w : World π} {locators : List Locator}
    (imported : p.importFault = none) (resolved : (p.pipeline.resolution w).result = .ok locators)
    (pure : p.declaration.substitutors.IsPure) :
    let (loaded, w') := p.pipeline.load locators w
    let merged := applyImports loaded.properties [p.pipeline.imports]
    let before := p.pipeline.expander merged
    ∃ config, (p.build hooks w).1 = .ok config ∧
      ∀ a ∈ p.declaration.accessors, ∀ value, a.fallback = some value →
        ∃ recorded, (recorded, value) ∈ (p.pipeline.fallbacks before p.declaration.accessors w').1 ∧
          (∀ plugins, ((p.declaration.keyOf a).resolve before plugins).text = recorded) ∧
          (config.snapshot.get? recorded).isSome = true ∧
          (config.view.expander.lookup? recorded).isSome = true ∧
          ((∀ key, (p.declaration.keyOf a).Reaches before key → merged.get? key = none →
              config.snapshot.get? key = none) →
            ∀ plugins, config.view.keyRead a .empty plugins = recorded ∧
              ∀ rules target, config.view.read rules target { a with fallback := none } .empty plugins =
                config.view.read rules target a .empty plugins) := by
  have ran := Pipeline.run_of_resolution resolved
  obtain ⟨config, built, snapshot⟩ := build_of_run hooks imported ran
  dsimp only
  generalize p.pipeline.load locators w = course at ran snapshot ⊢
  obtain ⟨loaded, w'⟩ := course
  let merged := applyImports loaded.properties [p.pipeline.imports]
  have published : config.snapshot.properties = (p.pipeline.addFallbacks merged w').1 := by
    rw [snapshot]
    rfl
  have declared : config.view.declaration = p.declaration :=
    congrArg (fun setup => setup.pipeline.declaration) (setup_of_build built)
  have after : config.view.expander = p.pipeline.expander config.snapshot.properties := by
    unfold View.expander Config.view Config.declaration Pipeline.expander
    dsimp only
    rw [setup_of_build built]
  refine ⟨config, built, ?_⟩
  intro a mem value fallback
  have recorded := Pipeline.mem_fallbacks (p := p.pipeline) (e := p.pipeline.expander merged) pure mem
    fallback w'.plugins w'
  have there := Pipeline.isSome_addFallbacks recorded
  rw [← published] at there
  refine ⟨_, recorded, fun plugins => KeyTemplate.text_resolve_eq pure _ _ _, there, ?_, ?_⟩
  · rw [after]
    exact Pipeline.isSome_lookup?_expander there
  · intro free plugins
    have agree : ∀ key, (p.declaration.keyOf a).Reaches (p.pipeline.expander merged) key →
        (p.pipeline.expander merged).lookup? key = config.view.expander.lookup? key := by
      intro key reached
      have undefined : merged.get? key = none →
          (p.pipeline.addFallbacks merged w').1.get? key = none := by
        rw [← published]
        exact free key reached
      rw [after, published]
      exact Pipeline.lookup?_addFallbacks undefined
    have same := KeyTemplate.resolve_congr_of_reaches (by rw [after]; rfl) agree plugins
    have key : config.view.keyRead a .empty plugins =
        ((p.declaration.keyOf a).resolve (p.pipeline.expander merged) w'.plugins).text := by
      unfold View.keyRead
      rw [declared]
      exact (congrArg Expanded.text same.symm).trans (KeyTemplate.text_resolve_eq pure _ _ _)
    refine ⟨key, fun rules target => View.read_without_fallback ?_ rules target⟩
    rw [key]
    exact there

def chosenKey : Accessor Stock.Journal :=
  { Accessor.ofName "url" with key := "$\x7benv\x7d.url", fallback := some "local" }

def chosenKeyPlan (imports : List PropertyMap) : Plan Stock.Journal where
  declaration := {
    name := "chosen"
    sources := ⟨["mem:none"], .first⟩
    keyPrefix := none
    hotReload := none
    features := .standard
    accessors := [chosenKey, { Accessor.ofName "env" with fallback := some "dev" }]
    substitutors := ⟨[]⟩
    editors := .empty }
  loaders := []
  standardLoaders := false
  imports := imports
  importFault := none
  roots := []
  environment := some .empty

private theorem chosenKeyPlan_pure (imports : List PropertyMap) :
    (chosenKeyPlan imports).declaration.substitutors.IsPure := by
  intro s mem
  exact nomatch mem

theorem chosenKeyPlan_fallback_keys :
    let p := chosenKeyPlan [.ofList [("env", "prod")]]
    let w : World Stock.Journal := ⟨⟨0, .empty, ⟨.empty, "/", "x86_64"⟩, .empty⟩, [], .empty⟩
    p.importFault = none ∧ (p.pipeline.resolution w).result = .ok [⟨.memory, "none"⟩] ∧
      p.declaration.substitutors.IsPure ∧
      ∃ config, (p.build Stock.StockListener.hooks w).1 = .ok config ∧
        config.view.keyRead chosenKey .empty .empty = "prod.url" ∧
        (config.snapshot.get? "prod.url").isSome = true := by
  intro p w
  have resolved : (p.pipeline.resolution w).result = .ok [⟨.memory, "none"⟩] :=
    ok_of_toOption (by decide +kernel)
  have pure := chosenKeyPlan_pure [.ofList [("env", "prod")]]
  obtain ⟨config, built, keys⟩ :=
    fallback_keys Stock.StockListener.hooks (rfl : p.importFault = none) resolved pure
  obtain ⟨recorded, -, resolves, there, -, read⟩ := keys chosenKey List.mem_cons_self "local" rfl
  have key : recorded = "prod.url" := by
    rw [← resolves .empty]
    decide +kernel
  subst key
  refine ⟨rfl, resolved, pure, config, built, (read ?_ .empty).1, there⟩
  let merged := applyImports (p.pipeline.load [⟨.memory, "none"⟩] w).1.properties [p.pipeline.imports]
  have imported : merged.get? "env" = some "prod" := by decide +kernel
  have chosen : (p.pipeline.expander merged).lookup? "env" = some "prod" := by decide +kernel
  have parts : (p.pipeline.expander merged).keysIn (segments chosenKey.key.toList) = ["env"] := by
    decide +kernel
  rintro key ⟨-, ⟨first, mem, reached⟩ | ⟨-, text, has, -⟩⟩ undefined
  · -- The template refers to the imported key, whose value refers to nothing.
    change first ∈ (p.pipeline.expander merged).keysIn (segments chosenKey.key.toList) at mem
    rw [parts] at mem
    obtain rfl := List.mem_singleton.mp mem
    rcases Relation.ReflTransGen.cases_head reached with rfl | ⟨next, ⟨raw, found, inside⟩, -⟩
    · exact nomatch undefined.symm.trans imported
    · obtain rfl := Option.some.inj (found.symm.trans chosen)
      exact nomatch inside
  · exact nomatch has

/-- What chooses the key is not there yet when the fallback is recorded, so it is recorded under another key
than the one that is read. -/
theorem chosenKeyPlan_recorded_elsewhere :
    let p := chosenKeyPlan []
    let w : World Stock.Journal := ⟨⟨0, .empty, ⟨.empty, "/", "x86_64"⟩, .empty⟩, [], .empty⟩
    p.declaration.substitutors.IsPure ∧ chosenKey ∈ p.declaration.accessors ∧
      ∃ config, (p.build Stock.StockListener.hooks w).1 = .ok config ∧
        config.view.keyRead chosenKey .empty .empty = "dev.url" ∧
        config.snapshot.get? "dev.url" = none ∧ config.view.expander.lookup? "dev.url" = none ∧
        config.snapshot.get? ".url" = some "local" := by
  intro p w
  have values : (p.build Stock.StockListener.hooks w).1.toOption.map (fun config =>
      (config.view.keyRead chosenKey .empty .empty, config.snapshot.get? "dev.url",
        config.view.expander.lookup? "dev.url", config.snapshot.get? ".url")) =
      some ("dev.url", none, none, some "local") := by
    decide +kernel
  obtain ⟨config, some_built, eq⟩ := Option.map_eq_some_iff.mp values
  simp only [Prod.mk.injEq] at eq
  exact ⟨chosenKeyPlan_pure [], List.mem_cons_self, config, ok_of_toOption some_built, eq⟩

end Plan
end LiveConfig
