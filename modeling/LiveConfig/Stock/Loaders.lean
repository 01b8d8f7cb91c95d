import LiveConfig.Loader.Basic
import LiveConfig.Stock.Journal

/-!
Stock loaders: with fixed results, always failing, or recording their loads.
-/
namespace LiveConfig.Stock

def acceptsScheme (scheme : String) (l : Locator) : Bool := scheme = "*" || l.scheme.name = scheme

def fixedLoader (scheme : String) (m : PropertyMap) : Loader Journal where
  accepts := acceptsScheme scheme
  load _ _ := .ofResult fun _ => .ok m

def failingLoader (scheme : String) : Loader Journal where
  accepts := acceptsScheme scheme
  load _ l := .ofResult fun _ => .error (.sourceUnavailable l.text (.told "always fails"))

def recordedLoader (name : String) (delay : Nat) (loader : Loader Journal) : Loader Journal :=
  loader.delayed (fun l j => j.record (.load l.text name)) (if delay = 0 then none else some delay)

end LiveConfig.Stock
