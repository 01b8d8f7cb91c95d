import LiveConfig.Proofs.Declaration.Building

/-!
The interval between two looks for changes, and the span of time that was asked for.

The interval is the span rounded down to whole milliseconds, as long as their number fits into sixty-four bits.
A longer span loses its high bits: it makes a shorter interval, or none at all, and then the declaration is refused
as if no time had been asked for.
-/
namespace LiveConfig

namespace Time.Duration

structure IsValid (d : Duration) : Prop where
  seconds : d.seconds < Nat.pow 2 64
  nanos : d.nanos < 1000000000

def roundedDown (d : Duration) : Duration := ⟨d.seconds, d.nanos / 1000000 * 1000000⟩

variable {d : Duration} {m n : Nat}

theorem ofMillis_inj : ofMillis m = ofMillis n ↔ m = n := by
  constructor
  · intro same
    have nanos := congrArg inNanos same
    rw [inNanos_ofMillis, inNanos_ofMillis] at nanos
    exact Nat.eq_of_mul_eq_mul_right (by decide) nanos
  · rintro rfl
    rfl

theorem wholeMillis_eq (valid : d.IsValid) : d.wholeMillis = d.inNanos / 1000000 := by
  have nanos := valid.nanos
  simp only [wholeMillis, inNanos]
  omega

theorem ofMillis_wholeMillis (valid : d.IsValid) : ofMillis d.wholeMillis = d.roundedDown := by
  have nanos := valid.nanos
  simp only [ofMillis, wholeMillis, roundedDown, mk.injEq]
  omega

end Time.Duration

open Time (Duration)

variable {σ : Type} {mode : ReloadMode} {d : Duration}

namespace HotReload

private theorem intervalMillis_ofDuration (valid : d.IsValid) :
    (ofDuration mode d).intervalMillis = d.inNanos / 1000000 % Nat.pow 2 64 := by
  rw [← Duration.wholeMillis_eq valid]
  rfl

private theorem interval_ofDuration_eq_iff (valid : d.IsValid) :
    (ofDuration mode d).interval = d.roundedDown ↔ d.inNanos < Nat.pow 2 64 * 1000000 := by
  unfold interval
  rw [← Duration.ofMillis_wholeMillis valid, Duration.ofMillis_inj, intervalMillis_ofDuration valid,
    Duration.wholeMillis_eq valid, Nat.mod_eq_iff_lt (by decide), Nat.div_lt_iff_lt_mul (by decide)]

private theorem inNanos_interval_ofDuration_eq_zero_iff (mode : ReloadMode) (valid : d.IsValid) :
    (ofDuration mode d).interval.inNanos = 0 ↔ Nat.pow 2 64 ∣ d.inNanos / 1000000 := by
  rw [inNanos_interval_eq_zero_iff, intervalMillis_ofDuration valid, Nat.dvd_iff_mod_eq_zero]

end HotReload

namespace Draft

variable {draft : Draft σ} {before after : List (Call σ)}

/-- A draft is refused for its interval after its name has been looked at and before anything else is. -/
theorem build_eq_zeroInterval_iff :
    draft.build = .error (.definition .zeroInterval) ↔
      ¬ Text.Blank draft.name ∧ ∃ h, draft.hotReload = some h ∧ h.interval.inNanos = 0 := by
  rw [build_eq_error_iff]
  constructor
  · rintro ⟨fault, first, same⟩
    obtain rfl := ConfigError.definition.inj same
    cases first with
    | interval named reloads zero => exact ⟨named, _, reloads, zero⟩
    | accessor _ _ _ _ _ here => exact nomatch here
  · rintro ⟨named, h, reloads, zero⟩
    exact ⟨_, .interval named reloads zero, rfl⟩

/-- No later call that leaves the settings alone takes them back. -/
private theorem ofCalls_hotReload (name : String) (last : ∀ call ∈ after, call.settings? = none) :
    (ofCalls name (before ++ .reloading mode d :: after)).hotReload = some (.ofDuration mode d) := by
  have kept : after.filterMap Call.settings? = [] := List.filterMap_eq_nil_iff.mpr last
  rw [ofCalls, List.foldl_append, List.foldl_cons, foldl_take_hotReload, kept]
  rfl

/-- The interval has the lower sixty-four bits of the number of whole milliseconds.  It is the span rounded down just
for the spans whose number has no other bits, and a draft with such a span is refused for the interval only if the
span is shorter than a millisecond. -/
theorem build_reloading (mode : ReloadMode) (valid : d.IsValid) (name : String) (before : List (Call σ))
    (last : ∀ call ∈ after, call.settings? = none) :
    let draft := ofCalls name (before ++ .reloading mode d :: after)
    let interval := (HotReload.ofDuration mode d).interval
    interval.inNanos = d.inNanos / 1000000 % Nat.pow 2 64 * 1000000 ∧
      (interval = d.roundedDown ↔ d.inNanos < Nat.pow 2 64 * 1000000) ∧
      (draft.build = .error (.definition .zeroInterval) ↔ ¬ Text.Blank name ∧ Nat.pow 2 64 ∣ d.inNanos / 1000000) ∧
      (d.inNanos < Nat.pow 2 64 * 1000000 →
        (draft.build = .error (.definition .zeroInterval) ↔ ¬ Text.Blank name ∧ d.inNanos < 1000000)) ∧
      ∀ decl, draft.build = .ok decl → decl.hotReload = some (.ofDuration mode d) ∧ 0 < interval.inNanos := by
  intro draft interval
  have settings : draft.hotReload = some (.ofDuration mode d) := ofCalls_hotReload name last
  have named : draft.name = name := foldl_take_name
  have refused : draft.build = .error (.definition .zeroInterval) ↔
      ¬ Text.Blank name ∧ Nat.pow 2 64 ∣ d.inNanos / 1000000 := by
    rw [build_eq_zeroInterval_iff, named, settings,
      ← HotReload.inNanos_interval_ofDuration_eq_zero_iff mode valid]
    simp only [Option.some.injEq, exists_eq_left']
  refine ⟨?_, HotReload.interval_ofDuration_eq_iff valid, refused, fun fits => ?_, fun decl built => ?_⟩
  · rw [show interval.inNanos = _ from Duration.inNanos_ofMillis _, HotReload.intervalMillis_ofDuration valid]
  · have fits : d.inNanos / 1000000 < Nat.pow 2 64 := (Nat.div_lt_iff_lt_mul (by decide)).mpr fits
    rw [refused, Nat.dvd_iff_mod_eq_zero, Nat.mod_eq_of_lt fits, Nat.div_eq_zero_iff_lt (by decide)]
  · obtain ⟨formed, rfl⟩ := build_eq_ok_iff.mp built
    exact ⟨settings, formed.timed _ settings⟩

theorem build_reloading_of_seconds :
    (Duration.mk 5 250999999).IsValid ∧
      (HotReload.ofDuration .async ⟨5, 250999999⟩).interval = ⟨5, 250000000⟩ ∧
      (ofCalls "app.Config" [Call.reloading .async ⟨5, 250999999⟩, .accessor (.ofName "port" : Accessor Unit)]).build ≠
        .error (.definition .zeroInterval) := by
  have valid : (Duration.mk 5 250999999).IsValid := ⟨by decide, by decide⟩
  have last : ∀ call ∈ [Call.accessor (.ofName "port" : Accessor Unit)], call.settings? = none := by
    simp [Call.settings?]
  obtain ⟨-, rounded, -, refused, -⟩ := build_reloading .async valid "app.Config" [] last
  have fits : (Duration.mk 5 250999999).inNanos < Nat.pow 2 64 * 1000000 := by decide
  exact ⟨valid, rounded.mpr fits, fun zero => absurd ((refused fits).mp zero).2 (by decide)⟩

/-- A span of `2 ^ 64` milliseconds makes no interval at all, and a draft that asks for it is refused. -/
theorem build_reloading_wrapped :
    let d : Duration := ⟨18446744073709551, 616000000⟩
    d.IsValid ∧ ¬ d.inNanos < 1000000 ∧ (HotReload.ofDuration .sync d).interval ≠ d.roundedDown ∧
      (ofCalls "app.Config" [(.reloading .sync d : Call Unit)]).build = .error (.definition .zeroInterval) := by
  exact ⟨⟨by decide, by decide⟩, by decide, by decide, build_eq_zeroInterval_iff.mpr ⟨by decide, _, rfl, by decide⟩⟩

end Draft

end LiveConfig
