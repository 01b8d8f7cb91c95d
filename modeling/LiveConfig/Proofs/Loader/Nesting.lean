import LiveConfig.Proofs.Pipeline.Precedence
import LiveConfig.Proofs.Reload.Gate

/-!
Chains of loaders inside one another, and the loaders of a configuration.

A chain is a loader itself, so it may be put into another one.  It accepts a locator if one of its loaders
does, and loads with the first of these; so whoever asks a chain of chains is answered by the first leaf
that accepts, as if the leaves were in one chain.  A configuration asks its own loaders in the order in
which they were added and then the standard ones.
-/
namespace LiveConfig

variable {L π : Type}

/-- A chain that was made by adding loaders and chains one after another, behind those that were there or in
front of them. -/
inductive NestedChain (π : Type) where
  | empty
  | append (c : NestedChain π) (loader : Loader π)
  | prepend (c : NestedChain π) (loader : Loader π)
  | appendChain (c inner : NestedChain π)
  | prependChain (c inner : NestedChain π)

namespace NestedChain

def chain : NestedChain π → LoaderChain π
  | empty => .empty
  | append c loader => c.chain.append loader
  | prepend c loader => c.chain.prepend loader
  | appendChain c inner => c.chain.append inner.chain.loader
  | prependChain c inner => c.chain.prepend inner.chain.loader

def leaves : NestedChain π → List (Loader π)
  | empty => []
  | append c loader => c.leaves ++ [loader]
  | prepend c loader => loader :: c.leaves
  | appendChain c inner => c.leaves ++ inner.leaves
  | prependChain c inner => inner.leaves ++ c.leaves

end NestedChain

def Loader.load? (loader : Loader π) (cx : LoadContext) (l : Locator) : Option (Load π) :=
  if loader.accepts l then some (loader.load cx l) else none

namespace LoaderChain

def load? (c : LoaderChain π) (cx : LoadContext) (l : Locator) : Option (Load π) :=
  (c.find? l).map fun loader => loader.load cx l

private theorem load?_eq_findSome? (c : LoaderChain π) (cx : LoadContext) (l : Locator) :
    c.load? cx l = c.loaders.findSome? fun loader => loader.load? cx l := by
  unfold load? find?
  induction c.loaders with
  | nil => rfl
  | cons loader rest ih =>
    cases accepted : loader.accepts l with
    | true => simp [accepted, Loader.load?]
    | false => simpa [accepted, Loader.load?] using ih

/-- Whether a chain accepts a locator, and what it loads, is decided by the loads of its loaders. -/
theorem load?_loader (c : LoaderChain π) (cx : LoadContext) (l : Locator) : c.loader.load? cx l = c.load? cx l := by
  unfold Loader.load? load? loader
  cases found : c.find? l with
  | none => simp [found]
  | some loader => simp [found]

private theorem loader_congr {c d : LoaderChain π} (same : ∀ cx l, c.load? cx l = d.load? cx l) :
    c.loader = d.loader := by
  have accepts : c.loader.accepts = d.loader.accepts := by
    funext l
    have found := congrArg Option.isSome (same ⟨.empty, []⟩ l)
    rwa [load?, load?, Option.isSome_map, Option.isSome_map] at found
  have loads : c.loader.load = d.loader.load := by
    funext cx l
    have found := same cx l
    unfold load? at found
    unfold loader
    dsimp only
    cases first : c.find? l with
    | none =>
      rw [first] at found
      rw [Option.map_eq_none_iff.mp found.symm]
    | some loader =>
      rw [first] at found
      obtain ⟨other, second, eq⟩ := Option.map_eq_some_iff.mp found.symm
      rw [second]
      exact eq.symm
  calc c.loader = ⟨c.loader.accepts, c.loader.load⟩ := rfl
    _ = ⟨d.loader.accepts, d.loader.load⟩ := by rw [accepts, loads]

end LoaderChain

private theorem LoadPass.start_congr {c d : LoaderChain π} {cx : LoadContext} (same : ∀ l, c.load? cx l = d.load? cx l)
    (policy : LoadPolicy) (sources : List Locator) (w : World π) :
    start c cx policy sources w = start d cx policy sources w := by
  have alike : pending c cx sources = pending d cx sources :=
    List.map_congr_left fun l _ => congrArg (Prod.mk l) (same l)
  unfold start
  rw [alike]

namespace NestedChain

/-- In the order of the leaves, the first that accepts loads. -/
theorem load?_chain (tree : NestedChain π) (cx : LoadContext) (l : Locator) :
    tree.chain.load? cx l = tree.leaves.findSome? fun loader => loader.load? cx l := by
  induction tree with
  | empty => rfl
  | append c loader ih =>
    rw [LoaderChain.load?_eq_findSome?] at ih ⊢
    simp only [chain, leaves, LoaderChain.append, List.findSome?_append, ih]
  | prepend c loader ih =>
    rw [LoaderChain.load?_eq_findSome?] at ih ⊢
    simp only [chain, leaves, LoaderChain.prepend, List.findSome?_cons, ih]
  | appendChain c inner ih ih_inner =>
    rw [LoaderChain.load?_eq_findSome?] at ih ⊢
    simp only [chain, leaves, LoaderChain.append, List.findSome?_append, ih, ← ih_inner, List.findSome?_cons,
      List.findSome?_nil, LoaderChain.load?_loader]
    cases inner.chain.load? cx l <;> rfl
  | prependChain c inner ih ih_inner =>
    rw [LoaderChain.load?_eq_findSome?] at ih ⊢
    simp only [chain, leaves, LoaderChain.prepend, List.findSome?_append, ih, ← ih_inner, List.findSome?_cons,
      LoaderChain.load?_loader]
    cases inner.chain.load? cx l <;> rfl

private theorem load?_flat (tree : NestedChain π) (cx : LoadContext) (l : Locator) :
    tree.chain.load? cx l = (LoaderChain.mk tree.leaves).load? cx l := by
  rw [load?_chain, LoaderChain.load?_eq_findSome?]

end NestedChain

private theorem Plan.loaders_chain (p : Plan π) :
    p.chain.loaders = p.loaders ++ (if p.standardLoaders then LoaderChain.standard else .empty).loaders := by
  unfold chain
  rw [List.foldl_reverse]
  induction p.loaders with
  | nil => rfl
  | cons loader rest ih => rw [List.foldr_cons, LoaderChain.prepend, ih, List.cons_append]

private theorem Plan.find?_chain (p : Plan π) (l : Locator) :
    p.chain.find? l = (p.loaders.find? fun loader => loader.accepts l).or
      (if p.standardLoaders then LoaderChain.standard.find? l else none) := by
  unfold LoaderChain.find?
  rw [p.loaders_chain, List.find?_append]
  cases p.standardLoaders with
  | true => rfl
  | false => rfl

/-- Whatever is done with a configuration, its passes stay those of its plan. -/
theorem Config.setup_run? {p : Plan π} {hooks : Listeners L π} {w : World π} {moves : List (Move L π)}
    {c : Config L π} (ran : runOf? p hooks w moves = some c) : c.setup = ⟨p.pipeline, hooks⟩ := by
  obtain ⟨first, built, led⟩ := build_of_runOf? ran
  exact run?_induction (P := fun _ c => c.setup = ⟨p.pipeline, hooks⟩) (Plan.setup_of_build built)
    (fun _ _ _ _ _ setup moved => (move?_cases moved).1.trans setup) led

namespace NestedChain

/-- A chain of chains is the same loader as its leaves in one chain: it accepts the same locators, and loads
them in the same way or refuses them with the same error.  So passes over the two are the same from the start,
under either policy, with what they log and find.  And however long a configuration has run, it loads a locator
with the first of its own loaders that accepts it, in the order in which these were added, and otherwise with
the first standard one, if it has those. -/
theorem first_leaf_loads :
    (∀ tree : NestedChain π, tree.chain.loader = (LoaderChain.mk tree.leaves).loader ∧
      ∀ cx policy sources w, LoadPass.start tree.chain cx policy sources w =
        LoadPass.start ⟨tree.leaves⟩ cx policy sources w) ∧
    ∀ (p : Plan π) (hooks : Listeners L π) w moves c, Config.runOf? p hooks w moves = some c →
      ∀ l, c.setup.pipeline.chain.find? l = (p.loaders.find? fun loader => loader.accepts l).or
        (if p.standardLoaders then LoaderChain.standard.find? l else none) := by
  constructor
  · intro tree
    refine ⟨LoaderChain.loader_congr tree.load?_flat, fun cx policy sources w => ?_⟩
    exact LoadPass.start_congr (tree.load?_flat cx) policy sources w
  · intro p hooks w moves c ran l
    rw [Config.setup_run? ran]
    exact p.find?_chain l

open Stock (Journal failingLoader fixedLoader)

def threefold (first rest : PropertyMap) : NestedChain Journal :=
  .appendChain (.append .empty (failingLoader "one"))
    (.prependChain (.append .empty (fixedLoader "*" rest)) (.append .empty (fixedLoader "one" first)))

/-- A loader of its own takes the variables from the standard one. -/
theorem threefold_first_leaf_loads :
    let m : PropertyMap := .ofList [("a", "1")]
    let p : Plan Journal :=
      { Plan.layeredPlan with loaders := [fixedLoader "one" m, (threefold m m).chain.loader], standardLoaders := true }
    let w : World Journal := ⟨⟨0, .empty, ⟨.empty, "/", "x86_64"⟩, .empty⟩, [], .empty⟩
    let cx : LoadContext := ⟨⟨.ofList [("HOME", "/")], .empty⟩, []⟩
    (∀ other, (((threefold other m).chain.loader.load cx ⟨.env, "HOME"⟩).finish w.outside .empty).result = .ok m) ∧
      ∃ c, Config.runOf? p Stock.StockListener.hooks w [.request, .step 0, .stop] = some c ∧
        ∀ l, l.scheme = .env → (c.setup.pipeline.chain.find? l).map (fun loader => loader.load cx l) =
          some ((threefold m m).chain.loader.load cx l) := by
  intro m p w cx
  have leads : (Config.runOf? p Stock.StockListener.hooks w [.request, .step 0, .stop]).isSome = true := by
    decide +kernel
  obtain ⟨c, ran⟩ := Option.isSome_iff_exists.mp leads
  obtain ⟨trees, configurations⟩ := first_leaf_loads (L := Stock.StockListener) (π := Journal)
  refine ⟨fun other => ?_, c, ran, fun l env => ?_⟩
  · rw [(trees (threefold other m)).1]
    rfl
  · rw [configurations p _ w _ c ran l]
    obtain ⟨scheme, path⟩ := l
    obtain rfl : scheme = .env := env
    rfl

end NestedChain
end LiveConfig
