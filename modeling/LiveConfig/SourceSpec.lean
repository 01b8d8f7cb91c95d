/-!
Source specifications: where a configuration looks for properties, and what it does with several
sources.
-/
namespace LiveConfig

inductive LoadPolicy where
  | first
  | merge
  deriving DecidableEq, Repr

namespace LoadPolicy

def name : LoadPolicy → String
  | .first => "FIRST"
  | .merge => "MERGE"

def listing : LoadPolicy → String
  | .first => "First"
  | .merge => "Merge"

end LoadPolicy

structure SourceSpec where
  locators : List String
  policy : LoadPolicy
  deriving DecidableEq

def SourceSpec.empty : SourceSpec := ⟨[], .first⟩

end LiveConfig
