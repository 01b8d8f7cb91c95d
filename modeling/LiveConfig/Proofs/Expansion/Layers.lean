import LiveConfig.Proofs.Expansion.Recursion

/-!
Expansion sees its layers only through the first value that they give to a key, and only for the keys to
which the references from a text lead.  Expanders with the same substitutors whose layers agree on these
keys expand the text alike, so layers may be merged or repeated, and entries for other keys added.
-/
namespace LiveConfig

namespace Expander

variable {σ : Type} {e f : Expander σ}

theorem lookup?_eq_findSome? (layers : List PropertyMap) (s : SubstitutorRegistry σ) (key : String) :
    (Expander.mk layers s).lookup? key = layers.findSome? fun m => m.get? key := rfl

def Reaches (e : Expander σ) (parts : List Segment) (key : String) : Prop :=
  ∃ first ∈ e.keysIn parts, Relation.ReflTransGen e.Refers first key

section

variable {resolve resolve' : String → ExpansionRun σ → String × ExpansionRun σ}

private theorem fill_congr {parts : List Segment}
    (same : ∀ inner, .placeholder inner ∈ parts →
      resolve (String.ofList inner) = resolve' (String.ofList inner))
    (out : String) (r : ExpansionRun σ) : fill resolve parts out r = fill resolve' parts out r := by
  induction parts generalizing out r with
  | nil => rfl
  | cons part rest ih =>
    have later := ih fun inner mem => same inner (List.mem_cons_of_mem _ mem)
    cases part with
    | plain cs => exact later _ r
    | placeholder inner =>
      unfold fill
      rw [same inner List.mem_cons_self]
      simp only [later]

private theorem expandText_congr {value : String}
    (same : ∀ inner, .placeholder inner ∈ segments value.toList →
      resolve (String.ofList inner) = resolve' (String.ofList inner))
    (r : ExpansionRun σ) : expandText resolve value r = expandText resolve' value r := by
  unfold expandText
  dsimp only
  rw [fill_congr same]

end

private theorem call?_congr (same : e.substitutors = f.substitutors) (inner : String) :
    e.call? inner = f.call? inner := by
  unfold call?
  rw [same]

private theorem resolve_congr_of_reaches (same : e.substitutors = f.substitutors) (deeper : Nat)
    (path : List String) {inner : String}
    (agree : e.call? inner = none → ∀ key, Relation.ReflTransGen e.Refers inner key →
      e.lookup? key = f.lookup? key) :
    e.resolve deeper path inner = f.resolve deeper path inner := by
  induction deeper generalizing path inner with
  | zero =>
    funext r
    unfold resolve
    rw [call?_congr same]
  | succ deeper ih =>
    funext r
    unfold resolve
    rw [← call?_congr same]
    cases call : e.call? inner with
    | some found => rfl
    | none =>
      rw [← agree call inner .refl]
      cases found : e.lookup? inner with
      | none => rfl
      | some raw =>
        -- The value refers to the keys of its placeholders, so it leads no further than its key.
        have below : ∀ next, .placeholder next ∈ segments raw.toList →
            e.resolve deeper (inner :: path) (String.ofList next) =
              f.resolve deeper (inner :: path) (String.ofList next) := by
          intro next mem
          apply ih
          intro next_call key reached
          have refers : e.Refers inner (String.ofList next) := ⟨raw, found, mem_keysIn mem next_call⟩
          exact agree call key (.head refers reached)
        simp only [expandText_congr below]

private theorem expand_congr_of_reaches (same : e.substitutors = f.substitutors) {value : String}
    (agree : ∀ key, e.Reaches (segments value.toList) key → e.lookup? key = f.lookup? key)
    (plugins : σ) : e.expand value plugins = f.expand value plugins := by
  have below : ∀ inner, .placeholder inner ∈ segments value.toList →
      e.resolve maxExpansionDepth [] (String.ofList inner) =
        f.resolve maxExpansionDepth [] (String.ofList inner) := by
    intro inner mem
    apply resolve_congr_of_reaches same
    intro call key reached
    exact agree key ⟨_, mem_keysIn mem call, reached⟩
  unfold expand
  rw [expandText_congr below]

theorem expand_congr (lookups : ∀ key, e.lookup? key = f.lookup? key)
    (same : e.substitutors = f.substitutors) (value : String) (plugins : σ) :
    e.expand value plugins = f.expand value plugins :=
  expand_congr_of_reaches same (fun key _ => lookups key) plugins

end Expander

namespace KeyTemplate

variable {σ : Type} {e f : Expander σ}

def Reaches (t : KeyTemplate) (e : Expander σ) (key : String) : Prop :=
  t.expands = true ∧
    (e.Reaches (segments t.key.toList) key ∨
      t.prefixes = true ∧ ∃ text ∈ t.keyPrefix, e.Reaches (segments text.toList) key)

private theorem part_congr (same : e.substitutors = f.substitutors) (t : KeyTemplate) {text : String}
    (agree : t.expands = true → ∀ key, e.Reaches (segments text.toList) key →
      e.lookup? key = f.lookup? key) (plugins : σ) : t.part e text plugins = t.part f text plugins := by
  unfold part
  split
  · next expands => exact Expander.expand_congr_of_reaches same (agree expands) plugins
  · rfl

theorem resolve_congr_of_reaches (same : e.substitutors = f.substitutors) {t : KeyTemplate}
    (agree : ∀ key, t.Reaches e key → e.lookup? key = f.lookup? key) (plugins : σ) :
    t.resolve e plugins = t.resolve f plugins := by
  have front := t.part_congr same
    (fun expands key reached => agree key ⟨expands, Or.inl reached⟩) plugins
  unfold resolve
  rw [front]
  cases has : t.keyPrefix with
  | none => rfl
  | some text =>
    dsimp only
    split
    · next prefixes =>
      rw [t.part_congr same fun expands key reached =>
        agree key ⟨expands, Or.inr ⟨prefixes, text, has, reached⟩⟩]
    · rfl

theorem resolve_congr (lookups : ∀ key, e.lookup? key = f.lookup? key)
    (same : e.substitutors = f.substitutors) (t : KeyTemplate) (plugins : σ) :
    t.resolve e plugins = t.resolve f plugins :=
  resolve_congr_of_reaches same (fun key _ => lookups key) plugins

end KeyTemplate
end LiveConfig
