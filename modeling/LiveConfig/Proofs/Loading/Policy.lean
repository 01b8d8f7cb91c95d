import LiveConfig.Loading
import LiveConfig.Proofs.TextMap.Lookup
import Mathlib.Data.List.Forall2

/-!
What a pass over sources finds, by policy.

Each source is related to what its load ended with.  The outcome of a pass counts the first source that
was loaded, or all of them, and a key has the value of the first counted source that defines it.  This
holds however long the loads wait and in whatever order they end.
-/
namespace LiveConfig

def LoadPolicy.counted {α : Type} : LoadPolicy → List α → List α
  | .first, loaded => loaded.take 1
  | .merge, loaded => loaded

namespace LoadPass

variable {π : Type}

/-- What the load of a source can end with: the map that its loader gives in some surroundings, or none
if it fails there.  A source that no loader accepts ends with none. -/
def MayFind (source : PendingSource π) (found : Option PropertyMap) : Prop :=
  match source.2 with
  | none => found = none
  | some load => ∃ outside plugins, found = (load.finish outside plugins).result.toOption

def loaded (sources : List Locator) (found : List (Option PropertyMap)) :
    List (Locator × PropertyMap) :=
  (sources.zip found).filterMap fun (l, m?) => m?.map fun m => (l, m)

structure MadeOf (outcome : LoadOutcome) (counted : List (Locator × PropertyMap)) : Prop where
  contributing : outcome.contributing = counted.map (·.1)
  value : ∀ key, outcome.properties.get? key = counted.findSome? fun (_, m) => m.get? key

def LoadOf (source : PendingSource π) : Flight π → Prop
  | .waiting _ load => ∃ begun, source.2 = some begun ∧ load.finish = begun.finish
  | .landed found => MayFind source found

def Underway (source : PendingSource π) (load : SourceLoad π) : Prop :=
  load.source = source.1 ∧ LoadOf source load.flight

def foundBy (load : SourceLoad π) : Option PropertyMap :=
  match load.flight with
  | .landed found => found
  | .waiting _ _ => none

theorem madeOf_outcome_merge (loads : List (SourceLoad π)) :
    MadeOf (LoadPass.merge loads).outcome (foundIn loads) := by
  refine ⟨rfl, fun key => ?_⟩
  simp only [outcome, combined]
  rw [TextMap.get?_foldl_completedBy, TextMap.get?_empty, Option.none_or, List.findSome?_map]
  rfl

inductive Follows (sources : List (PendingSource π)) : LoadPolicy → LoadPass π → Prop
  | loading {before rest : List (PendingSource π)} {l : Locator} {begun load : Load π}
      (total ready : Nat) (parts : sources = before ++ (l, some begun) :: rest)
      (none_before : ∀ s ∈ before, MayFind s none) (finish : load.finish = begun.finish) :
      Follows sources .first (.first total l ready load rest)
  | found {before rest : List (PendingSource π)} {source : PendingSource π} {m : PropertyMap}
      (parts : sources = before ++ source :: rest) (none_before : ∀ s ∈ before, MayFind s none)
      (here : MayFind source (some m)) : Follows sources .first (.ended ⟨m, [source.1]⟩)
  | missed (none_found : ∀ s ∈ sources, MayFind s none) :
      Follows sources .first (.ended ⟨.empty, []⟩)
  | all {loads : List (SourceLoad π)} (underway : List.Forall₂ Underway sources loads) :
      Follows sources .merge (.merge loads)

theorem loaded_append {first second : List Locator} {found more : List (Option PropertyMap)}
    (same : first.length = found.length) :
    loaded (first ++ second) (found ++ more) = loaded first found ++ loaded second more := by
  simp only [loaded]
  rw [List.zip_append same, List.filterMap_append]

theorem loaded_replicate_none (sources : List Locator) :
    loaded sources (List.replicate sources.length none) = [] := by
  induction sources with
  | nil => rfl
  | cons l rest ih => simpa [loaded, List.replicate_succ] using ih

end LoadPass
end LiveConfig
