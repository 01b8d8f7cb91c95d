import LiveConfig.Config
import LiveConfig.Stock.Listeners

/-!
Steps of a session with a configuration, and what each of them answers.
-/
namespace LiveConfig.Session

open Stock (StockListener Journal)

inductive Read where
  | get (name : String) (arguments : PropertyMap)
  | resolve (key : String) (fallback : Option String)

inductive Step where
  | read (target : Target) (read : Read) (view : Option Nat)
  | getOr (target : Target) (name fallback : String)
  | openView
  | raw (key : String) (view : Option Nat)
  | expanded (key : String) (view : Option Nat)
  | toMap (view : Option Nat)
  | snapshot (key : String) (view : Option Nat)
  | property (key : String)
  | propertyNames
  | sources
  | version
  | reloadMode
  | isReloading
  | stopReloading
  | declaration
  | listings
  | made
  | reload
  | listen (listener : StockListener)
  | unlisten (label : String)
  | storeSet (store map key value : String)
  | storeUnset (store map key : String)
  | storeInsert (store map : String) (properties : PropertyMap)
  | storeRemove (store map : String)
  | storeContains (store map : String)
  | writeFile (path : String) (node : FileNode)
  | deleteFile (path : String)
  | setProcess (vars : TextMap Text.Raw)
  | sleep (millis : Nat)
  | leap (millis : Nat)

inductive Reply where
  | nothing
  | flag (b : Bool)
  | number (n : Nat)
  | registered (id : Nat)
  | text (s : String)
  | optionalText (s : Option String)
  | texts (ts : List String)
  | optionalMap (m : Option PropertyMap)
  | expanded (s : Option String)
  | expandedMap (m : PropertyMap)
  | value (target : Target) (v : Value)
  | mode (m : Option ReloadMode)
  | outcome (o : ReloadOutcome)
  | snapshot (s : Snapshot) (key : String)
  | declaration (d : Declaration Journal)
  | listings (config view : String)

abbrev Answer := Except Failure Reply

end LiveConfig.Session
