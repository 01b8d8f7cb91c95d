import LiveConfig.Proofs.Loading.Steady
import LiveConfig.Proofs.Pipeline.Precedence

/-!
A pipeline that runs again in calm surroundings: its passes have one outcome, and lead to one candidate.
-/
namespace LiveConfig
namespace Pipeline

open LoadPass (Pursues)

variable {π : Type} {p : Pipeline π} {calm : Outside → π → Prop}

/-- In calm surroundings the environment is the same and the loads of a pass all give the same, and neither
the time nor what the pass does itself changes that. -/
structure Steady (p : Pipeline π) (calm : Outside → π → Prop) : Prop where
  outlasts : Outlasts calm
  environment : ∀ w v : World π, w.Within calm → v.Within calm →
    p.environmentIn w.outside = p.environmentIn v.outside
  substitutes : ∀ outside, p.declaration.substitutors.Keeps (calm outside)
  loads : ∀ w : World π, w.Within calm → ∀ locators, (p.resolution w).result = .ok locators →
    ∀ l ∈ locators, ∀ loader, p.chain.find? l = some loader →
      ∃ found, (loader.load ⟨p.environmentIn w.outside, p.roots⟩ l).Steady calm found

private theorem Steady.resolution_eq (steady : p.Steady calm) (pure : p.declaration.substitutors.IsPure)
    {w v : World π} (here : w.Within calm) (there : v.Within calm) :
    (p.resolution w).result = (p.resolution v).result := by
  have keeps : p.declaration.substitutors.Keeps fun _ => True := fun _ _ _ _ _ => trivial
  unfold resolution
  rw [steady.environment w v here there]
  exact (Resolution.resolve_alike ⟨p.environmentIn v.outside, p.imports, p.declaration.substitutors⟩ pure
    keeps p.declaration trivial trivial).1

private theorem within_resolution (steady : p.Steady calm) (pure : p.declaration.substitutors.IsPure)
    {w : World π} (here : w.Within calm) :
    ({ w with plugins := (p.resolution w).plugins }.noteAll (p.resolution w).log).Within calm := by
  have kept := (Resolution.resolve_alike
    ⟨p.environmentIn w.outside, p.imports, p.declaration.substitutors⟩ pure
    (steady.substitutes w.outside) p.declaration here here).2
  exact World.within_noteAll (w := { w with plugins := (p.resolution w).plugins }) kept _

structure Leads (p : Pipeline π) (calm : Outside → π → Prop) (outcome : LoadOutcome) (pass : LoadPass π) :
    Prop where
  pursues : Pursues calm p.declaration.sources.policy outcome pass
  begins : ∃ (w after : World π) (first : LoadPass π), w.Within calm ∧ p.start w = (.ok first, after)

structure Repeats (p : Pipeline π) (calm : Outside → π → Prop) (outcome : LoadOutcome) : Prop where
  outlasts : Outlasts calm
  starts : ∀ {w after : World π} {pass : LoadPass π}, w.Within calm → p.start w = (.ok pass, after) →
    Pursues calm p.declaration.sources.policy outcome pass ∧ after.Within calm

theorem Repeats.leads {outcome : LoadOutcome} (repeats : p.Repeats calm outcome) {w after : World π}
    {pass : LoadPass π} (here : w.Within calm) (started : p.start w = (.ok pass, after)) :
    p.Leads calm outcome pass ∧ after.Within calm := by
  obtain ⟨pursues, stays⟩ := repeats.starts here started
  exact ⟨⟨pursues, w, after, pass, here, started⟩, stays⟩

theorem Leads.resume {outcome : LoadOutcome} {pass : LoadPass π} (leads : p.Leads calm outcome pass)
    (outlasts : Outlasts calm) (now : Nat) {w : World π} (here : w.Within calm) :
    p.Leads calm outcome (LoadPass.resume now pass w).1 ∧ (LoadPass.resume now pass w).2.Within calm := by
  obtain ⟨pursues, stays⟩ := leads.pursues.resume outlasts now here
  exact ⟨⟨pursues, leads.begins⟩, stays⟩

/-- A pass that begins has locators, and loads them. -/
theorem locators_of_start {w after : World π} {pass : LoadPass π}
    (started : p.start w = (.ok pass, after)) :
    ∃ locators, (p.resolution w).result = .ok locators ∧
      LoadPass.start p.chain ⟨p.environmentIn w.outside, p.roots⟩ p.declaration.sources.policy locators
        ({ w with plugins := (p.resolution w).plugins }.noteAll (p.resolution w).log) =
        (pass, after) := by
  unfold start at started
  unfold resolution
  dsimp only at started ⊢
  split at started
  · cases (Prod.mk.inj started).1
  · next locators found =>
    obtain ⟨pass_eq, rfl⟩ := Prod.mk.inj started
    obtain rfl := Except.ok.inj pass_eq
    exact ⟨locators, found, rfl⟩

/-- Where some pass has begun, the locators are never the error. -/
theorem Leads.resolution_ne_error {outcome : LoadOutcome} {pass : LoadPass π}
    (leads : p.Leads calm outcome pass) (steady : p.Steady calm)
    (pure : p.declaration.substitutors.IsPure) {v : World π} (there : v.Within calm) (e : ConfigError) :
    (p.resolution v).result ≠ .error e := by
  obtain ⟨w, after, first, here, started⟩ := leads.begins
  obtain ⟨locators, found, -⟩ := locators_of_start started
  rw [← steady.resolution_eq pure here there, found]
  exact nofun

theorem Steady.exists_repeats (steady : p.Steady calm) (pure : p.declaration.substitutors.IsPure)
    {w : World π} (here : w.Within calm) : ∃ outcome, p.Repeats calm outcome := by
  cases resolved : (p.resolution w).result with
  | error e =>
    refine ⟨⟨.empty, []⟩, steady.outlasts, ?_⟩
    intro v after pass there started
    obtain ⟨locators, found, -⟩ := locators_of_start started
    have failed := (steady.resolution_eq pure there here).trans resolved
    cases found.symm.trans failed
  | ok locators =>
    let cx : LoadContext := ⟨p.environmentIn w.outside, p.roots⟩
    obtain ⟨founds, sources⟩ :=
      LoadPass.exists_steadySources p.chain cx (steady.loads w here locators resolved)
    refine ⟨LoadPass.outcomeOf (p.declaration.sources.policy.counted (LoadPass.loaded locators founds)),
      steady.outlasts, ?_⟩
    intro v after pass there started
    obtain ⟨locators', found, loads⟩ := locators_of_start started
    have again := (steady.resolution_eq pure there here).trans resolved
    obtain rfl := Except.ok.inj (found.symm.trans again)
    have same : p.environmentIn v.outside = cx.environment := steady.environment v w there here
    rw [same] at loads
    have pursues := LoadPass.pursues_start steady.outlasts p.chain cx p.declaration.sources.policy
      locators' sources (within_resolution steady pure there)
    rw [loads] at pursues
    exact pursues

end Pipeline
end LiveConfig
