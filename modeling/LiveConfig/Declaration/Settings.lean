import LiveConfig.SourceSpec
import LiveConfig.Time.Duration
import LiveConfig.Text.Quoted

/-!
Settings of a declaration: when a configuration looks for changes by itself, and which features its
accessors use.
-/
namespace LiveConfig

inductive ReloadMode where
  | sync
  | async
  deriving DecidableEq, Repr

def ReloadMode.listing : ReloadMode → String
  | .sync => "Sync"
  | .async => "Async"

def ReloadMode.name : ReloadMode → String
  | .sync => "SYNC"
  | .async => "ASYNC"

structure HotReload where
  mode : ReloadMode
  intervalMillis : Nat
  deriving DecidableEq, Repr

namespace HotReload

def ofDuration (mode : ReloadMode) (interval : Time.Duration) : HotReload :=
  ⟨mode, interval.wholeMillis % Nat.pow 2 64⟩

def interval (h : HotReload) : Time.Duration := .ofMillis h.intervalMillis

theorem inNanos_interval_eq_zero_iff {h : HotReload} : h.interval.inNanos = 0 ↔ h.intervalMillis = 0 := by
  rw [interval, Time.Duration.inNanos_ofMillis]
  exact Nat.mul_eq_zero.trans (or_iff_left (by decide))

def standard : HotReload := .ofDuration .sync ⟨5, 0⟩

def listing (h : HotReload) : String :=
  Text.listingOfStruct "HotReload"
    [("mode", h.mode.listing), ("interval_ms", toString h.intervalMillis)]

end HotReload

structure Features where
  expandVariables : Bool
  applyPrefix : Bool
  propertyEditors : Bool
  deriving DecidableEq, Repr

namespace Features

def standard : Features := ⟨true, true, true⟩

def listing (f : Features) : String :=
  Text.listingOfStruct "Features" [
    ("expand_variables", Text.listingOfBool f.expandVariables),
    ("apply_prefix", Text.listingOfBool f.applyPrefix),
    ("property_editors", Text.listingOfBool f.propertyEditors)]

end Features

def SourceSpec.listing (s : SourceSpec) : String :=
  Text.listingOfStruct "SourceSpec" [
    ("locators", Text.listingOfList (s.locators.map Text.quoted)),
    ("policy", s.policy.listing)]

end LiveConfig
