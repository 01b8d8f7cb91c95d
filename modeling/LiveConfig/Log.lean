/-!
Log lines: what a configuration reports about its work.
-/
namespace LiveConfig

inductive LogLevel where
  | trace
  | debug
  | info
  | warn
  | error
  deriving DecidableEq, Repr

inductive LogValue where
  | number (n : Nat)
  | text (s : String)
  deriving DecidableEq, Repr

structure LogLine where
  level : LogLevel
  message : String
  fields : List (String × LogValue)
  deriving DecidableEq, Repr

end LiveConfig
