import LiveConfig.Config
import LiveConfig.Proofs.Expansion.Layers
import LiveConfig.Proofs.Loading.Policy
import LiveConfig.Stock.Listeners
import LiveConfig.Stock.Loaders

/-!
Which value a key gets: that of the earliest import that defines it, else that of the sources that count,
else the fallback of the first accessor that stands for the key.  This is what a pass makes of a
declaration, and what a new configuration publishes.
-/
namespace LiveConfig

/-- The fallback for a key: that of the first accessor that has one and whose key, resolved with the
plugins as the accessors before it left them, is the key. -/
def Declaration.fallbackFor? {π : Type} (d : Declaration π) (e : Expander π) (key : String) :
    List (Accessor π) → π → Option String
  | [], _ => none
  | a :: rest, plugins =>
    match a.fallback with
    | none => d.fallbackFor? e key rest plugins
    | some value =>
      let resolved := (d.keyOf a).resolve e plugins
      if resolved.text = key then some value else d.fallbackFor? e key rest resolved.plugins

private theorem Declaration.fallbackFor?_congr {π : Type} (d : Declaration π) {e f : Expander π}
    (lookups : ∀ key, e.lookup? key = f.lookup? key) (same : e.substitutors = f.substitutors)
    (key : String) (accessors : List (Accessor π)) (plugins : π) :
    d.fallbackFor? e key accessors plugins = d.fallbackFor? f key accessors plugins := by
  induction accessors generalizing plugins with
  | nil => rfl
  | cons a rest ih =>
    unfold fallbackFor?
    simp only [ih, KeyTemplate.resolve_congr lookups same]

private theorem World.plugins_noteAll {π : Type} (w : World π) (lines : List LogLine) :
    (w.noteAll lines).plugins = w.plugins := by
  unfold noteAll
  induction lines generalizing w with
  | nil => rfl
  | cons line rest ih =>
    rw [List.foldl_cons, ih]
    rfl

theorem Import.get?_combined (imports : List PropertyMap) (key : String) :
    (combined imports).get? key = imports.findSome? fun m => m.get? key := by
  unfold combined
  rw [TextMap.get?_foldl_completedBy, TextMap.get?_empty, Option.none_or]

namespace Pipeline

variable {π : Type}

def resolution (p : Pipeline π) (w : World π) : Resolution.Resolved π (List Locator) :=
  Resolution.resolve ⟨p.environmentIn w.outside, p.imports, p.declaration.substitutors⟩ p.declaration
    w.plugins

def load (p : Pipeline π) (locators : List Locator) (w : World π) : LoadOutcome × World π :=
  let resolved := p.resolution w
  let (pass, w) := LoadPass.start p.chain ⟨p.environmentIn w.outside, p.roots⟩
    p.declaration.sources.policy locators ({ w with plugins := resolved.plugins }.noteAll resolved.log)
  pass.settle w

theorem run_of_resolution {p : Pipeline π} {w : World π} {locators : List Locator}
    (resolved : (p.resolution w).result = .ok locators) :
    p.run w =
      (.ok (p.finish (p.load locators w).1 (p.load locators w).2).1,
        (p.finish (p.load locators w).1 (p.load locators w).2).2) := by
  unfold resolution at resolved
  simp only [run, start, resolved]
  rfl

theorem entryOf?_fallbacks (p : Pipeline π) (e : Expander π) (key : String)
    (accessors : List (Accessor π)) (w : World π) :
    entryOf? key (p.fallbacks e accessors w).1 =
      p.declaration.fallbackFor? e key accessors w.plugins := by
  induction accessors generalizing w with
  | nil => rfl
  | cons a rest ih =>
    cases fallback : a.fallback with
    | none =>
      simp only [fallbacks, Declaration.fallbackFor?, fallback]
      exact ih w
    | some value =>
      simp only [fallbacks, Declaration.fallbackFor?, fallback, entryOf?]
      rw [ih, World.plugins_noteAll]

theorem get?_addFallbacks (p : Pipeline π) (m : PropertyMap) (w : World π) (key : String) :
    (p.addFallbacks m w).1.get? key =
      (m.get? key).or
        (p.declaration.fallbackFor? (p.expander m) key p.declaration.accessors w.plugins) := by
  unfold addFallbacks
  rw [← entryOf?_fallbacks]
  exact TextMap.get?_foldl_insertIfNew _ m key

private theorem get?_applyImports_singleton (m imports : PropertyMap) (key : String) :
    (applyImports m [imports]).get? key = (imports.get? key).or (m.get? key) :=
  TextMap.get?_overriddenBy m imports key

theorem get?_finish (p : Pipeline π) (outcome : LoadOutcome) (w : World π) (key : String) :
    (p.finish outcome w).1.properties.get? key =
      (p.imports.get? key).or ((outcome.properties.get? key).or
        (p.declaration.fallbackFor? ⟨[p.imports, outcome.properties], p.declaration.substitutors⟩ key
          p.declaration.accessors w.plugins)) := by
  -- Accessors look keys up in the merged map, which gives what the two layers give.
  have lookups : ∀ key, (p.expander (applyImports outcome.properties [p.imports])).lookup? key =
      (Expander.mk [p.imports, outcome.properties] p.declaration.substitutors).lookup? key := by
    intro key
    simp only [expander, Expander.lookup?_eq_findSome?, List.findSome?_cons,
      get?_applyImports_singleton]
    cases p.imports.get? key <;> simp
  calc (p.finish outcome w).1.properties.get? key
      = (p.addFallbacks (applyImports outcome.properties [p.imports]) w).1.get? key := rfl
    _ = ((applyImports outcome.properties [p.imports]).get? key).or _ := get?_addFallbacks ..
    _ = _ := by
      rw [get?_applyImports_singleton, Option.or_assoc,
        p.declaration.fallbackFor?_congr lookups rfl]

end Pipeline

namespace Plan

variable {L π : Type}

theorem build_of_run {p : Plan π} (hooks : Listeners L π) {w after : World π} {c : Candidate}
    (imported : p.importFault = none) (ran : p.pipeline.run w = (.ok c, after)) :
    ∃ config, (p.build hooks w).1 = .ok config ∧ config.snapshot = ⟨c.properties, 1, c.sources⟩ := by
  simp only [build, imported, ran]
  exact ⟨_, rfl, rfl⟩

theorem setup_of_build {p : Plan π} {hooks : Listeners L π} {w : World π} {config : Config L π}
    (built : (p.build hooks w).1 = .ok config) : config.setup = ⟨p.pipeline, hooks⟩ := by
  unfold build at built
  split at built
  · exact nomatch built
  · split at built
    · exact nomatch built
    · obtain rfl := Except.ok.inj built
      rfl

def layeredPlan : Plan Stock.Journal where
  declaration := {
    name := "layers"
    sources := ⟨["one:$\x7bx\x7d", "two:y"], .merge⟩
    keyPrefix := some "p."
    hotReload := none
    features := .standard
    accessors := [
      { Accessor.ofName "first" with key := "u", fallback := some "first" },
      { Accessor.ofName "second" with key := "$\x7bv\x7d", fallback := some "second" },
      { Accessor.ofName "third" with key := "w", fallback := some "third" }]
    substitutors := ⟨[]⟩
    editors := .empty }
  loaders := [
    Stock.fixedLoader "one" (.ofList [("a", "1"), ("b", "1")]),
    Stock.failingLoader "two"]
  standardLoaders := false
  imports := [.ofList [("a", "0"), ("v", "u")], .ofList [("a", "9"), ("x", "z")]]
  importFault := none
  roots := []
  environment := some .empty

end Plan
end LiveConfig
