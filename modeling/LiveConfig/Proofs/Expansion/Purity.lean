import LiveConfig.Pipeline
import LiveConfig.Proofs.Expansion.Keeping

/-!
Expansion by pure substitutors: the state of the plugins makes no difference to the text, and what all
substitutors keep is kept by a whole expansion.

Two expansions from different states go on alike, so both facts are one induction over pairs of runs.
-/
namespace LiveConfig

variable {σ : Type}

def SubstitutorRegistry.Keeps (r : SubstitutorRegistry σ) (kept : σ → Prop) : Prop :=
  ∀ s ∈ r.entries, ∀ argument plugins, kept plugins → kept (s.apply argument plugins).2

namespace ExpansionRun

structure Alike (kept : σ → Prop) (r s : ExpansionRun σ) : Prop where
  values : r.kept = s.kept
  cuts : r.cuts = s.cuts
  overflowed : r.overflowed = s.overflowed
  left : kept r.plugins
  right : kept s.plugins

def SameText (kept : σ → Prop) (a b : String × ExpansionRun σ) : Prop :=
  a.1 = b.1 ∧ Alike kept a.2 b.2

variable {kept : σ → Prop} {r s : ExpansionRun σ}

private theorem Alike.limit (alike : Alike kept r s) (text : String) :
    SameText kept (r.limit text) (s.limit text) := by
  unfold ExpansionRun.limit
  split
  · exact ⟨rfl, alike⟩
  · exact ⟨rfl, alike.values, congrArg (· + 1) alike.cuts, rfl, alike.left, alike.right⟩

end ExpansionRun

namespace Expander

open ExpansionRun (Alike SameText)

variable {e : Expander σ} {kept : σ → Prop}

private theorem fill_alike {resolve : String → ExpansionRun σ → String × ExpansionRun σ}
    (resolves : ∀ inner r s, Alike kept r s → SameText kept (resolve inner r) (resolve inner s))
    (parts : List Segment) (out : String) {r s : ExpansionRun σ} (alike : Alike kept r s) :
    SameText kept (fill resolve parts out r) (fill resolve parts out s) := by
  induction parts generalizing out r s with
  | nil => exact alike.limit out
  | cons part rest ih =>
    cases part with
    | plain cs => exact ih _ alike
    | placeholder inner =>
      obtain ⟨text, first⟩ := resolves (String.ofList inner) r s alike
      obtain ⟨longer, limited⟩ := first.limit (out ++ (resolve (String.ofList inner) r).1)
      simp only [fill]
      rw [← text, ← longer, ← limited.overflowed]
      split
      · exact ⟨rfl, limited⟩
      · exact ih _ limited

private theorem expandText_alike {resolve : String → ExpansionRun σ → String × ExpansionRun σ}
    (resolves : ∀ inner r s, Alike kept r s → SameText kept (resolve inner r) (resolve inner s))
    (value : String) {r s : ExpansionRun σ} (alike : Alike kept r s) :
    SameText kept (expandText resolve value r) (expandText resolve value s) := by
  unfold expandText
  dsimp only
  split
  · exact fill_alike resolves _ _ alike
  · exact ⟨rfl, alike⟩

/-- A key that is cut short is so in both runs. -/
private theorem cut_alike {r s : ExpansionRun σ} (alike : Alike kept r s) (line : LogLine) :
    SameText kept ("", r.cut line) ("", s.cut line) :=
  ⟨rfl, alike.values, congrArg (· + 1) alike.cuts, alike.overflowed, alike.left, alike.right⟩

private theorem resolve_alike_of_below (pure : e.substitutors.IsPure) (keeps : e.substitutors.Keeps kept)
    {deeper : Nat} {path : List String} {inner : String} {r s : ExpansionRun σ} (alike : Alike kept r s)
    (below : ∀ d, deeper = d + 1 → ∀ other r s, Alike kept r s →
      SameText kept (e.resolve d (inner :: path) other r) (e.resolve d (inner :: path) other s)) :
    SameText kept (e.resolve deeper path inner r) (e.resolve deeper path inner s) := by
  unfold resolve
  rw [← alike.overflowed, ← alike.values]
  split
  · exact ⟨rfl, alike⟩
  · split
    · next called argument call =>
      have mem := mem_entries_of_call? call
      exact ⟨pure _ mem _ _ _, alike.values, alike.cuts, alike.overflowed, keeps _ mem _ _ alike.left,
        keeps _ mem _ _ alike.right⟩
    · split
      · exact ⟨rfl, alike⟩
      · split
        · exact cut_alike alike _
        · cases deeper with
          | zero => exact cut_alike alike _
          | succ d =>
            cases e.lookup? inner with
            | none =>
              exact ⟨rfl, alike.values, alike.cuts, alike.overflowed, alike.left, alike.right⟩
            | some raw =>
              obtain ⟨text, after⟩ := expandText_alike (below d rfl) raw alike
              dsimp only
              rw [← text, ← after.cuts, ← alike.cuts]
              -- Both runs keep the value, or neither does.
              split
              · exact ⟨rfl, congrArg ((inner, _) :: ·) after.values, rfl, after.overflowed, after.left,
                  after.right⟩
              · exact ⟨rfl, after⟩

private theorem resolve_alike (pure : e.substitutors.IsPure) (keeps : e.substitutors.Keeps kept) (deeper : Nat)
    (path : List String) (inner : String) (r s : ExpansionRun σ) (alike : Alike kept r s) :
    SameText kept (e.resolve deeper path inner r) (e.resolve deeper path inner s) := by
  induction deeper generalizing path inner r s with
  | zero =>
    apply resolve_alike_of_below pure keeps alike
    intro d eq
    exact nomatch eq
  | succ deeper ih =>
    apply resolve_alike_of_below pure keeps alike
    intro d eq
    obtain rfl : deeper = d := Nat.succ.inj eq
    exact ih (inner :: path)

private theorem expand_alike (pure : e.substitutors.IsPure) (keeps : e.substitutors.Keeps kept) (value : String)
    {plugins other : σ} (here : kept plugins) (there : kept other) :
    (e.expand value plugins).text = (e.expand value other).text ∧
      kept (e.expand value plugins).plugins := by
  have alike : Alike kept (.start plugins) (.start other) := ⟨rfl, rfl, rfl, here, there⟩
  obtain ⟨text, after⟩ := expandText_alike (resolve_alike pure keeps maxExpansionDepth []) value alike
  exact ⟨text, after.left⟩

end Expander

private theorem KeyTemplate.part_alike {e : Expander σ} {kept : σ → Prop} (pure : e.substitutors.IsPure)
    (keeps : e.substitutors.Keeps kept) (t : KeyTemplate) (text : String) {plugins other : σ}
    (here : kept plugins) (there : kept other) :
    (t.part e text plugins).text = (t.part e text other).text ∧ kept (t.part e text plugins).plugins := by
  unfold part
  split
  · exact Expander.expand_alike pure keeps text here there
  · exact ⟨rfl, here⟩

theorem KeyTemplate.resolve_alike {e : Expander σ} {kept : σ → Prop} (pure : e.substitutors.IsPure)
    (keeps : e.substitutors.Keeps kept) (t : KeyTemplate) {plugins other : σ} (here : kept plugins)
    (there : kept other) :
    (t.resolve e plugins).text = (t.resolve e other).text ∧ kept (t.resolve e plugins).plugins := by
  obtain ⟨key, after⟩ := t.part_alike pure keeps t.key here there
  obtain ⟨-, after'⟩ := t.part_alike pure keeps t.key there here
  unfold resolve
  dsimp only
  cases t.keyPrefix with
  | none => exact ⟨key, after⟩
  | some keyPrefix =>
    dsimp only
    split
    · obtain ⟨front, last⟩ := t.part_alike pure keeps keyPrefix after after'
      exact ⟨by rw [front, key], last⟩
    · exact ⟨key, after⟩

namespace Resolution

variable {kept : σ → Prop}

private theorem resolveAll_alike (setting : Setting σ) (pure : setting.substitutors.IsPure)
    (keeps : setting.substitutors.Keeps kept) (templates : List String) {plugins other : σ}
    (here : kept plugins) (there : kept other) :
    (resolveAll setting templates plugins).result = (resolveAll setting templates other).result ∧
      kept (resolveAll setting templates plugins).plugins := by
  induction templates generalizing plugins other with
  | nil => exact ⟨rfl, here⟩
  | cons template rest ih =>
    obtain ⟨text, after⟩ := Expander.expand_alike (e := setting.expander) pure keeps template here there
    obtain ⟨-, after'⟩ := Expander.expand_alike (e := setting.expander) pure keeps template there here
    have same : (resolveOne setting template plugins).result =
        (resolveOne setting template other).result := by
      unfold resolveOne
      dsimp only
      rw [text]
    obtain ⟨more, last⟩ := ih after after'
    simp only [resolveAll]
    rw [← same]
    cases (resolveOne setting template plugins).result with
    | error e => exact ⟨rfl, after⟩
    | ok l => exact ⟨congrArg (Except.map (l :: ·)) more, last⟩

theorem resolve_alike (setting : Setting σ) (pure : setting.substitutors.IsPure)
    (keeps : setting.substitutors.Keeps kept) (d : Declaration σ) {plugins other : σ}
    (here : kept plugins) (there : kept other) :
    (resolve setting d plugins).result = (resolve setting d other).result ∧
      kept (resolve setting d plugins).plugins := by
  unfold resolve
  split
  · dsimp only
    exact resolveAll_alike setting pure keeps _ here there
  · exact resolveAll_alike setting pure keeps _ here there

end Resolution

namespace Pipeline

private theorem fallbacks_alike {p : Pipeline σ} {e : Expander σ} (pure : e.substitutors.IsPure)
    (accessors : List (Accessor σ)) (w v : World σ) :
    (p.fallbacks e accessors w).1 = (p.fallbacks e accessors v).1 := by
  have keeps : e.substitutors.Keeps fun _ => True := fun _ _ _ _ _ => trivial
  induction accessors generalizing w v with
  | nil => rfl
  | cons a rest ih =>
    simp only [fallbacks]
    cases a.fallback with
    | none => exact ih w v
    | some value =>
      have here : (fun _ => True) w.plugins := trivial
      have there : (fun _ => True) v.plugins := trivial
      obtain ⟨key, -⟩ := (p.declaration.keyOf a).resolve_alike pure keeps here there
      dsimp only
      rw [key, ih]

/-- What comes of the loaded properties does not depend on the world. -/
theorem finish_alike {p : Pipeline σ} (pure : p.declaration.substitutors.IsPure) (outcome : LoadOutcome)
    (w v : World σ) : (p.finish outcome w).1 = (p.finish outcome v).1 := by
  have same : ∀ m, (p.addFallbacks m w).1 = (p.addFallbacks m v).1 := by
    intro m
    unfold addFallbacks
    dsimp only
    rw [fallbacks_alike (e := p.expander m) pure p.declaration.accessors w v]
  unfold finish
  dsimp only
  rw [same]

end Pipeline
end LiveConfig
