import LiveConfig.Loading
import LiveConfig.Resolution

/-!
The pipeline: a pass from a declaration to its property map.

A pass takes the environment, resolves the locators and loads the sources.  Then imports replace what
was loaded, and the fallbacks of accessors fill up what is still missing.
-/
namespace LiveConfig

structure Pipeline (π : Type) where
  declaration : Declaration π
  chain : LoaderChain π
  imports : PropertyMap
  roots : List String
  environment : Option Environment

def applyImports (m : PropertyMap) (imports : List PropertyMap) : PropertyMap :=
  imports.reverse.foldl TextMap.overriddenBy m

structure Candidate where
  properties : PropertyMap
  sources : List Locator
  deriving DecidableEq

namespace Pipeline

variable {π : Type}

def environmentIn (p : Pipeline π) (outside : Outside) : Environment :=
  p.environment.getD (Environment.capture outside.process)

def start (p : Pipeline π) (w : World π) : Except ConfigError (LoadPass π) × World π :=
  let environment := p.environmentIn w.outside
  let resolved :=
    Resolution.resolve ⟨environment, p.imports, p.declaration.substitutors⟩ p.declaration w.plugins
  let w := { w with plugins := resolved.plugins }.noteAll resolved.log
  match resolved.result with
  | .error e => (.error e, w)
  | .ok locators =>
    let (pass, w) :=
      LoadPass.start p.chain ⟨environment, p.roots⟩ p.declaration.sources.policy locators w
    (.ok pass, w)

def expander (p : Pipeline π) (m : PropertyMap) : Expander π :=
  ⟨[p.imports, m], p.declaration.substitutors⟩

def fallbacks (p : Pipeline π) (e : Expander π) :
    List (Accessor π) → World π → List (String × String) × World π
  | [], w => ([], w)
  | a :: rest, w =>
    match a.fallback with
    | none => fallbacks p e rest w
    | some value =>
      let key := (p.declaration.keyOf a).resolve e w.plugins
      let (more, w) := fallbacks p e rest ({ w with plugins := key.plugins }.noteAll key.log)
      ((key.text, value) :: more, w)

def addFallbacks (p : Pipeline π) (m : PropertyMap) (w : World π) : PropertyMap × World π :=
  let (found, w) := p.fallbacks (p.expander m) p.declaration.accessors w
  (found.foldl (fun m (key, value) => m.insertIfNew key value) m, w)

def resolvedLine (p : Pipeline π) (c : Candidate) : LogLine :=
  ⟨.debug, "property map resolved", [
    ("action", .text "resolved"),
    ("declaration", .text p.declaration.name),
    ("sources", .number c.sources.length),
    ("properties", .number c.properties.size)]⟩

def finish (p : Pipeline π) (outcome : LoadOutcome) (w : World π) : Candidate × World π :=
  let (m, w) := p.addFallbacks (applyImports outcome.properties [p.imports]) w
  let c : Candidate := ⟨m, outcome.contributing⟩
  (c, w.note (p.resolvedLine c))

def run (p : Pipeline π) (w : World π) : Except ConfigError Candidate × World π :=
  match p.start w with
  | (.error e, w) => (.error e, w)
  | (.ok pass, w) =>
    let (outcome, w) := pass.settle w
    let (c, w) := p.finish outcome w
    (.ok c, w)

end Pipeline
end LiveConfig
