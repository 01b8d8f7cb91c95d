import LiveConfig.Proofs.Expansion.Recursion
import Mathlib.Data.List.Perm.Subperm
import Mathlib.Data.List.Dedup

/-!
How often the values of keys are expanded.

Within one expansion a value is kept unless it was cut short, so its key is expanded again only if all its
expansions before were cut short.  As long as nothing is cut short no key is expanded twice.  Cycles are
cut at every turn; there the bound on the number of keys does not hold.
-/
namespace LiveConfig

structure Visit where
  key : String
  whole : Bool
  deriving DecidableEq, Repr

namespace ExpansionRun

variable {σ : Type} {r middle after : ExpansionRun σ}

def Warned (r : ExpansionRun σ) : Prop := ∃ line ∈ r.log, line.level = .warn

structure Grows (r after : ExpansionRun σ) : Prop where
  kept : ∀ key, entryOf? key after.kept = none → entryOf? key r.kept = none
  cuts : r.cuts ≤ after.cuts
  warned : r.Warned → after.Warned
  told : (r.overflowed = true → r.Warned) →
    (after.overflowed = true → after.Warned) ∧ (r.cuts < after.cuts → after.Warned)

private theorem Grows.refl (r : ExpansionRun σ) : r.Grows r :=
  ⟨fun _ none => none, Nat.le_refl _, fun warned => warned,
    fun told => ⟨told, fun lt => absurd lt (Nat.lt_irrefl _)⟩⟩

private theorem Grows.trans (first : r.Grows middle) (second : middle.Grows after) : r.Grows after where
  kept key none := first.kept key (second.kept key none)
  cuts := Nat.le_trans first.cuts second.cuts
  warned h := second.warned (first.warned h)
  told h := by
    obtain ⟨overflowed, cut⟩ := first.told h
    obtain ⟨overflowed', cut'⟩ := second.told overflowed
    refine ⟨overflowed', fun lt => ?_⟩
    by_cases here : r.cuts < middle.cuts
    · exact second.warned (cut here)
    · exact cut' (by have := first.cuts; omega)

private theorem grows_keep (r : ExpansionRun σ) (key text : String) :
    r.Grows { r with kept := (key, text) :: r.kept } where
  kept other lost := by
    rw [entryOf?] at lost
    split at lost
    · cases lost
    · exact lost
  cuts := Nat.le_refl _
  warned h := h
  told h := ⟨h, fun lt => absurd lt (Nat.lt_irrefl _)⟩

end ExpansionRun

namespace Expander

variable {σ : Type}

def calls (resolve : String → ExpansionRun σ → String × ExpansionRun σ) :
    List Segment → String → ExpansionRun σ → List (String × ExpansionRun σ)
  | [], _, _ => []
  | .plain cs :: rest, out, r => calls resolve rest (out ++ String.ofList cs) r
  | .placeholder inner :: rest, out, r =>
    let (text, after) := resolve (String.ofList inner) r
    let (out, after) := after.limit (out ++ text)
    (String.ofList inner, r) :: if after.overflowed then [] else calls resolve rest out after

def callsIn (resolve : String → ExpansionRun σ → String × ExpansionRun σ) (value : String)
    (r : ExpansionRun σ) : List (String × ExpansionRun σ) :=
  let cs := value.toList
  if Text.occursIn ['$', '\x7b'] cs then calls resolve (segments cs) "" r else []

def pending? (e : Expander σ) (path : List String) (inner : String) (r : ExpansionRun σ) :
    Option String :=
  if r.overflowed || (e.call? inner).isSome || (entryOf? inner r.kept).isSome || path.contains inner
  then none
  else e.lookup? inner

/-- The values that are expanded to resolve a placeholder, in the order in which they are done. -/
def visits (e : Expander σ) : Nat → List String → String → ExpansionRun σ → List Visit
  | 0, _, _, _ => []
  | deeper + 1, path, inner, r =>
    match e.pending? path inner r with
    | none => []
    | some raw =>
      let below := e.resolve deeper (inner :: path)
      (callsIn below raw r).flatMap (fun (key, r) => visits e deeper (inner :: path) key r) ++
        [⟨inner, (expandText below raw r).2.cuts = r.cuts⟩]

def keys (e : Expander σ) : List String := e.layers.flatMap TextMap.keys

/-- From one state to another some values are expanded: those of keys that were not kept before and are
not in the path.  Whole values are kept, and a key is met again only after values that were cut short. -/
structure Expands (e : Expander σ) (path : List String) (r : ExpansionRun σ) (visits : List Visit)
    (after : ExpansionRun σ) : Prop where
  grows : r.Grows after
  unkept : ∀ v ∈ visits, entryOf? v.key r.kept = none
  off_path : ∀ v ∈ visits, v.key ∉ path
  defined : ∀ v ∈ visits, v.key ∈ e.keys
  keeps : ∀ v ∈ visits, v.whole = true → entryOf? v.key after.kept ≠ none
  cuts : ∀ v ∈ visits, v.whole = false → r.cuts < after.cuts
  apart : visits.Pairwise fun a b => a.key = b.key → a.whole = false

section

variable {e : Expander σ} {path : List String} {r middle after : ExpansionRun σ}
  {first second : List Visit}

private theorem Expands.append (left : e.Expands path r first middle) (right : e.Expands path middle second after) :
    e.Expands path r (first ++ second) after where
  grows := left.grows.trans right.grows
  unkept v mem := by
    rcases List.mem_append.mp mem with mem | mem
    · exact left.unkept v mem
    · exact left.grows.kept _ (right.unkept v mem)
  off_path v mem := (List.mem_append.mp mem).elim (left.off_path v) (right.off_path v)
  defined v mem := (List.mem_append.mp mem).elim (left.defined v) (right.defined v)
  keeps v mem whole := by
    rcases List.mem_append.mp mem with mem | mem
    · exact fun lost => left.keeps v mem whole (right.grows.kept _ lost)
    · exact right.keeps v mem whole
  cuts v mem cut := by
    rcases List.mem_append.mp mem with mem | mem
    · exact Nat.lt_of_lt_of_le (left.cuts v mem cut) right.grows.cuts
    · exact Nat.lt_of_le_of_lt left.grows.cuts (right.cuts v mem cut)
  apart := by
    refine List.pairwise_append.mpr ⟨left.apart, right.apart, ?_⟩
    -- What is kept from the first part is not expanded in the second.
    intro a mem_a b mem_b same
    apply Bool.eq_false_iff.mpr
    intro whole
    apply left.keeps a mem_a whole
    rw [same]
    exact right.unkept b mem_b

private theorem pending?_eq_some {inner raw : String} (pending : e.pending? path inner r = some raw) :
    r.overflowed = false ∧ e.call? inner = none ∧ entryOf? inner r.kept = none ∧ inner ∉ path ∧
      e.lookup? inner = some raw := by
  unfold pending? at pending
  split at pending
  · exact nomatch pending
  · next free =>
    simp only [Bool.or_eq_true, not_or, Bool.not_eq_true, Option.isSome_eq_false_iff,
      Option.isNone_iff_eq_none] at free
    obtain ⟨⟨⟨whole, uncalled⟩, unkept⟩, off_path⟩ := free
    exact ⟨whole, uncalled, unkept, by simpa using off_path, pending⟩

/-- A value is done, and is kept if nothing in it was cut short. -/
private theorem Expands.done {inner raw text : String} (pending : e.pending? path inner r = some raw)
    (below : e.Expands (inner :: path) r first after) :
    e.Expands path r (first ++ [⟨inner, after.cuts = r.cuts⟩])
      (if after.cuts = r.cuts then { after with kept := (inner, text) :: after.kept } else after) := by
  obtain ⟨-, -, unkept, off_path, found⟩ := pending?_eq_some pending
  have defined : inner ∈ e.keys := mem_keys_of_lookup? found
  have others : ∀ v ∈ first, v.key ≠ inner ∧ v.key ∉ path := by
    intro v mem
    have off := below.off_path v mem
    rw [List.mem_cons, not_or] at off
    exact off
  have apart : (first ++ [(⟨inner, after.cuts = r.cuts⟩ : Visit)]).Pairwise
      fun a b => a.key = b.key → a.whole = false := by
    refine List.pairwise_append.mpr ⟨below.apart, List.pairwise_singleton _ _, ?_⟩
    intro a mem_a b mem_b same
    rw [List.mem_singleton.mp mem_b] at same
    exact absurd same (others a mem_a).1
  have last : ∀ {P : Visit → Prop}, (∀ v ∈ first, P v) → P ⟨inner, after.cuts = r.cuts⟩ →
      ∀ v ∈ first ++ [⟨inner, after.cuts = r.cuts⟩], P v := by
    intro P all one v mem
    rcases List.mem_append.mp mem with mem | mem
    · exact all v mem
    · exact List.mem_singleton.mp mem ▸ one
  have grows := below.grows
  have cuts := grows.cuts
  by_cases whole : after.cuts = r.cuts
  · rw [if_pos whole]
    have keep := after.grows_keep inner text
    refine ⟨grows.trans keep, last below.unkept unkept, last (fun v mem => (others v mem).2) off_path,
      last below.defined defined, last ?_ ?_, last ?_ ?_, apart⟩
    · exact fun v mem is_whole lost => below.keeps v mem is_whole (keep.kept _ lost)
    · simp [entryOf?]
    · exact below.cuts
    · simp [whole]
  · rw [if_neg whole]
    refine ⟨grows, last below.unkept unkept, last (fun v mem => (others v mem).2) off_path,
      last below.defined defined, last below.keeps ?_, last below.cuts ?_, apart⟩
    · simp [whole]
    · intro _
      omega

end
end Expander
end LiveConfig
