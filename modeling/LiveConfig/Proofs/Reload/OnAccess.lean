import LiveConfig.Proofs.Pipeline.Precedence
import LiveConfig.Proofs.Reload.Gate

/-!
Reads that look for changes.

Where reads look for changes, a read asks for a reload if the interval has passed since the last read that asked,
or since the configuration was built.  Nothing else moves that time: not how the reload ends, not that it is
dropped, and no request of anybody else.  So what the reads of a run do follows from their own times.
-/
namespace LiveConfig

variable {L π : Type}

namespace ReloadState

variable {r : ReloadSetup L π} {s : ReloadState L π}

def IsDue (r : ReloadSetup L π) (s : ReloadState L π) : Prop :=
  ∃ interval, r.pipeline.declaration.hotReload = some ⟨.sync, interval⟩ ∧ interval ≤ s.now - s.lastCheck

inductive Look (r : ReloadSetup L π) (s : ReloadState L π) : Option Nat → ReloadState L π → Prop where
  | passes (early : ¬ s.IsDue r) : Look r s none s
  | enters (due : s.IsDue r) (free : s.holder = none) : Look r s (some s.requests.length) { s with
      lastCheck := s.now
      holder := some s.requests.length
      requests := s.requests ++ [.admitted .access none] }
  | dropped (due : s.IsDue r) (held : s.holder ≠ none) : Look r s (some s.requests.length)
      (note { s with lastCheck := s.now, requests := s.requests ++ [.ended (.outcome .coalesced)] }
        (skippedLine .access))

private theorem isCheckDue_iff : s.isCheckDue r = true ↔ s.IsDue r := by
  unfold isCheckDue IsDue
  split
  · next interval settings =>
    rw [settings]
    simp
  · next other =>
    constructor
    · exact nofun
    · rintro ⟨interval, settings, -⟩
      exact absurd settings (other interval)

theorem look_access (r : ReloadSetup L π) (s : ReloadState L π) : s.Look r (s.access r).1 (s.access r).2 := by
  unfold access
  by_cases due : s.isCheckDue r = true
  · rw [if_pos due]
    by_cases free : s.holder = none
    · have asked : ({ s with lastCheck := s.now }.tryRequest .access) = (s.requests.length, { s with
          lastCheck := s.now
          holder := some s.requests.length
          requests := s.requests ++ [.admitted .access none] }) := by
        simp [tryRequest, isFree, free]
      rw [asked]
      exact .enters (isCheckDue_iff.mp due) free
    · have asked : ({ s with lastCheck := s.now }.tryRequest .access) = (s.requests.length,
          note { s with lastCheck := s.now, requests := s.requests ++ [.ended (.outcome .coalesced)] }
            (skippedLine .access)) := by
        simp [tryRequest, isFree, free]
      rw [asked]
      exact .dropped (isCheckDue_iff.mp due) free
  · rw [if_neg due]
    exact .passes fun looks => due (isCheckDue_iff.mpr looks)

private theorem fst_access (r : ReloadSetup L π) (s : ReloadState L π) :
    (s.access r).1 = if s.isCheckDue r then some s.requests.length else none := by
  unfold access
  split
  · exact congrArg some (fst_tryRequest _ .access)
  · rfl

private theorem Look.isSome_iff {request? : Option Nat} {t : ReloadState L π} (look : s.Look r request? t) :
    request?.isSome = true ↔ s.IsDue r := by
  cases look with
  | passes early => exact ⟨nofun, fun due => absurd due early⟩
  | enters due | dropped due => exact ⟨fun _ => due, fun _ => rfl⟩

end ReloadState

namespace Config

open ReloadState (Look)

structure Access where
  time : Nat
  request? : Option Nat

def Access.asks (a : Access) : Bool := a.request?.isSome

def accessBy? (c : Config L π) : Move L π → Option Access
  | .access => some ⟨c.state.now, (c.state.access c.setup).1⟩
  | _ => none

def accessesIn : List (Move L π) → Config L π → List Access
  | [], _ => []
  | m :: rest, c =>
    (c.accessBy? m).toList ++
      match c.move? m with
      | some next => accessesIn rest next
      | none => []

/-- The time of the last read that has asked for a reload, or else the time of the build. -/
def lastAsked (built : Nat) (accesses : List Access) : Nat :=
  ((accesses.filter (·.asks)).getLast?.map (·.time)).getD built

structure Spaced (built interval : Nat) (before : List Access) (a : Access) : Prop where
  asks_iff : a.asks = true ↔ lastAsked built before + interval ≤ a.time
  since_build : a.asks = true → built + interval ≤ a.time
  apart : a.asks = true → ∀ b ∈ before, b.asks = true → b.time + interval ≤ a.time

section
variable {built : Nat} {accesses : List Access} {a : Access}

private theorem lastAsked_append (built : Nat) (first second : List Access) :
    lastAsked built (first ++ second) = lastAsked (lastAsked built first) second := by
  unfold lastAsked
  rw [List.filter_append, List.getLast?_append]
  cases (second.filter (·.asks)).getLast? <;> rfl

private theorem lastAsked_singleton (built : Nat) (a : Access) :
    lastAsked built [a] = if a.asks then a.time else built := by
  unfold lastAsked
  rw [List.filter_singleton]
  cases a.asks <;> rfl

/-- Where time goes forward, no read before has asked later. -/
private theorem time_le_lastAsked (forward : (accesses.map (·.time)).Pairwise (· ≤ ·)) (mem : a ∈ accesses)
    (asks : a.asks = true) : a.time ≤ lastAsked built accesses := by
  induction accesses using List.reverseRecOn with
  | nil => exact nomatch mem
  | append_singleton before last ih =>
    rw [List.map_append, List.pairwise_append] at forward
    obtain ⟨earlier, -, ends⟩ := forward
    rw [lastAsked_append, lastAsked_singleton]
    rcases List.mem_append.mp mem with old | new
    · split
      · exact ends a.time (List.mem_map_of_mem old) last.time (by simp)
      · exact ih earlier old
    · obtain rfl := List.mem_singleton.mp new
      rw [if_pos asks]

private theorem built_le_lastAsked (since : ∀ a ∈ accesses, built ≤ a.time) : built ≤ lastAsked built accesses := by
  induction accesses using List.reverseRecOn with
  | nil => exact Nat.le_refl built
  | append_singleton before last ih =>
    rw [lastAsked_append, lastAsked_singleton]
    split
    · exact since last (by simp)
    · exact ih fun a mem => since a (List.mem_append_left _ mem)

private theorem lastAsked_le {time : Nat} (since : built ≤ time) (past : ∀ a ∈ accesses, a.time ≤ time) :
    lastAsked built accesses ≤ time := by
  induction accesses using List.reverseRecOn with
  | nil => exact since
  | append_singleton before last ih =>
    rw [lastAsked_append, lastAsked_singleton]
    split
    · exact past last (by simp)
    · exact ih fun a mem => past a (List.mem_append_left _ mem)

private theorem spaced_of_asks_iff {interval : Nat} (forward : (accesses.map (·.time)).Pairwise (· ≤ ·))
    (since : ∀ b ∈ accesses, built ≤ b.time)
    (asks_iff : a.asks = true ↔ lastAsked built accesses + interval ≤ a.time) : Spaced built interval accesses a where
  asks_iff := asks_iff
  since_build asks := (Nat.add_le_add_right (built_le_lastAsked since) _).trans (asks_iff.mp asks)
  apart asks _ mem asked :=
    (Nat.add_le_add_right (time_le_lastAsked forward mem asked) _).trans (asks_iff.mp asks)

end

end Config

namespace ReloadState

variable {r : ReloadSetup L π} {s t : ReloadState L π} {id : Nat}

private theorem lastCheck_tryRequest (s : ReloadState L π) (trigger : Trigger) :
    (s.tryRequest trigger).2.lastCheck = s.lastCheck := by
  unfold tryRequest
  split
  · rfl
  · rfl

/-- The steps of a request do not touch the time of the last look, however they end. -/
private theorem lastCheck_step? (stepped : s.step? r id = some t) : t.lastCheck = s.lastCheck := by
  unfold step? at stepped
  split at stepped
  · exact nomatch stepped
  · split at stepped
    · obtain rfl := Option.some.inj stepped
      unfold enter
      split
      · rfl
      · rfl
    · split at stepped
      · obtain rfl := Option.some.inj stepped
        rfl
      · exact nomatch stepped
    · obtain rfl := Option.some.inj stepped
      unfold startReload
      split
      · rfl
      · rfl
    · obtain rfl := Option.some.inj stepped
      unfold beginPass
      split
      · rfl
      · rfl
    · unfold continuePass? at stepped
      split at stepped
      · obtain rfl := Option.some.inj stepped
        rfl
      · split at stepped
        · obtain rfl := Option.some.inj stepped
          rfl
        · exact nomatch stepped
    · obtain rfl := Option.some.inj stepped
      unfold release
      split
      · rfl
      · rfl
    · exact nomatch stepped

end ReloadState

namespace Config

variable {c d next : Config L π} {m : Move L π} {moves : List (Move L π)}

theorem accessBy?_access : c.accessBy? .access =
    some ⟨c.state.now, if c.state.isCheckDue c.setup then some c.state.requests.length else none⟩ := by
  rw [accessBy?, ReloadState.fst_access]

private theorem accessBy?_of_ne (other : m ≠ .access) : c.accessBy? m = none := by
  unfold accessBy?
  split
  · exact absurd rfl other
  · rfl

private theorem eq_access_of_accessBy? {a : Access} (read : c.accessBy? m = some a) : m = .access := by
  by_contra other
  exact nomatch (accessBy?_of_ne other).symm.trans read

private theorem Outer.lastCheck {s : ReloadState L π} (change : c.Outer m s) :
    s.lastCheck = lastAsked c.state.lastCheck (c.accessBy? m).toList := by
  cases change with
  | called => rfl
  | ticked => exact ReloadState.lastCheck_tryRequest c.state .timer
  | aside other =>
    rw [accessBy?_of_ne other]
    rfl
  | looked due =>
    rw [ReloadState.lastCheck_tryRequest, accessBy?_access, if_pos due]
    exact (lastAsked_singleton _ ⟨c.state.now, some _⟩).symm
  | early early =>
    rw [accessBy?_access, if_neg early]
    exact (lastAsked_singleton _ ⟨c.state.now, none⟩).symm

/-- Only a read that asks for a reload moves the time of the last look, and moves it to its own. -/
theorem lastCheck_move? (moved : c.move? m = some next) :
    next.state.lastCheck = lastAsked c.state.lastCheck (c.accessBy? m).toList := by
  obtain ⟨-, ⟨id, rfl, stepped⟩ | ⟨-, change⟩⟩ := step_or_outer moved
  · exact ReloadState.lastCheck_step? stepped
  · exact change.lastCheck

theorem accessesIn_cons {rest : List (Move L π)} (moved : c.move? m = some next) :
    accessesIn (m :: rest) c = (c.accessBy? m).toList ++ accessesIn rest next := by
  simp only [accessesIn, moved]

theorem accessesIn_singleton (moved : c.move? m = some next) : accessesIn [m] c = (c.accessBy? m).toList := by
  rw [accessesIn_cons moved]
  exact List.append_nil _

theorem accessesIn_append {first second : List (Move L π)} {e : Config L π} (ran : run? first c = some e) :
    accessesIn (first ++ second) c = accessesIn first c ++ accessesIn second e := by
  induction first generalizing c with
  | nil =>
    obtain rfl := Option.some.inj ran
    rfl
  | cons m rest ih =>
    obtain ⟨next, moved, later⟩ := run?_cons_eq_some ran
    rw [List.cons_append, accessesIn_cons moved, accessesIn_cons moved, ih later, List.append_assoc]

/-- The time of the last look is that of the last read that has asked, wherever a run leads. -/
theorem lastCheck_run? (ran : run? moves c = some d) :
    d.setup = c.setup ∧ d.state.lastCheck = lastAsked c.state.lastCheck (accessesIn moves c) := by
  apply run?_induction (P := fun before e =>
    e.setup = c.setup ∧ e.state.lastCheck = lastAsked c.state.lastCheck (accessesIn before c)) _ _ ran
  · exact ⟨rfl, rfl⟩
  · rintro before e m next led ⟨setup, last⟩ moved
    refine ⟨(move?_cases moved).1.trans setup, ?_⟩
    rw [lastCheck_move? moved, last, accessesIn_append led, accessesIn_singleton moved, lastAsked_append]

/-- Each read of a run begins where the moves before it lead, and those before it are theirs. -/
private theorem exists_run_of_mem_accessesIn {before later : List Access} {a : Access} (ran : run? moves c = some d)
    (split : accessesIn moves c = before ++ a :: later) :
    ∃ first e, run? first c = some e ∧ accessesIn first c = before ∧ e.accessBy? .access = some a := by
  induction moves generalizing c before with
  | nil => exact absurd split (by simp [accessesIn])
  | cons m rest ih =>
    obtain ⟨next, moved, more⟩ := run?_cons_eq_some ran
    rw [accessesIn_cons moved] at split
    -- A read of the rest is reached through the first move, which may have been a read before it.
    have goes_on {before' : List Access} (split : accessesIn rest next = before' ++ a :: later) :
        ∃ first e, run? first c = some e ∧ accessesIn first c = (c.accessBy? m).toList ++ before' ∧
          e.accessBy? .access = some a := by
      obtain ⟨first, e, led, reads, here⟩ := ih more split
      refine ⟨m :: first, e, ?_, ?_, here⟩
      · simp only [run?, moved]
        exact led
      · rw [accessesIn_cons moved, reads]
    cases read : c.accessBy? m with
    | none =>
      rw [read] at split goes_on
      exact goes_on split
    | some b =>
      rw [read] at split goes_on
      cases before with
      | nil =>
        obtain ⟨rfl, -⟩ := List.cons.inj split
        exact ⟨[], c, rfl, rfl, eq_access_of_accessBy? read ▸ read⟩
      | cons first before =>
        obtain ⟨rfl, tail⟩ := List.cons.inj split
        exact goes_on tail

private theorem asks_iff_isDue {e : Config L π} {a : Access} (here : e.accessBy? .access = some a) :
    a.asks = true ↔ e.state.IsDue e.setup := by
  obtain rfl := Option.some.inj here
  exact (ReloadState.look_access e.setup e.state).isSome_iff

/-- The read at a split of a run asks for a reload just if one is due by the reads before it. -/
private theorem asks_iff_of_split {before later : List Access} {a : Access} (ran : run? moves c = some d)
    (split : accessesIn moves c = before ++ a :: later) :
    a.asks = true ↔ ∃ interval, c.declaration.hotReload = some ⟨.sync, interval⟩ ∧
      interval ≤ a.time - lastAsked c.state.lastCheck before := by
  obtain ⟨first, e, led, reads, here⟩ := exists_run_of_mem_accessesIn ran split
  obtain ⟨setup, last⟩ := lastCheck_run? led
  have time : a.time = e.state.now := by
    obtain rfl := Option.some.inj here
    rfl
  rw [asks_iff_isDue here, ReloadState.IsDue, setup, last, reads, time]
  rfl

theorem lastCheck_of_ne_access (other : m ≠ .access) (moved : c.move? m = some next) :
    next.state.lastCheck = c.state.lastCheck := by
  rw [lastCheck_move? moved, accessBy?_of_ne other]
  rfl

section
variable {p : Plan π} {hooks : Listeners L π} {w : World π} {first : Config L π}

private theorem declaration_of_build (built : (p.build hooks w).1 = .ok first) : first.declaration = p.declaration := by
  unfold declaration
  rw [Plan.setup_of_build built]
  rfl

private theorem lastCheck_of_build (built : (p.build hooks w).1 = .ok first) :
    first.state.lastCheck = first.state.now := by
  obtain ⟨candidate, after, state⟩ := Plan.state_of_build built
  rw [state]
  rfl

theorem lastCheck_eq_lastAsked (built : (p.build hooks w).1 = .ok first) (ran : run? moves first = some d) :
    d.state.lastCheck = lastAsked first.state.now (accessesIn moves first) := by
  rw [← lastCheck_of_build built]
  exact (lastCheck_run? ran).2

theorem spaced_of_split {interval : Nat} {before later : List Access} {a : Access}
    (built : (p.build hooks w).1 = .ok first) (ran : run? moves first = some d)
    (since : ∀ a ∈ accessesIn moves first, first.state.now ≤ a.time)
    (forward : ((accessesIn moves first).map (·.time)).Pairwise (· ≤ ·))
    (reload : p.declaration.hotReload = some ⟨.sync, interval⟩)
    (split : accessesIn moves first = before ++ a :: later) : Spaced first.state.now interval before a := by
  have mem : a ∈ accessesIn moves first := by
    rw [split]
    simp
  rw [split, List.map_append, List.pairwise_append] at forward
  obtain ⟨order, -, ends⟩ := forward
  have past : ∀ b ∈ before, b.time ≤ a.time := by
    intro b earlier
    exact ends b.time (List.mem_map_of_mem earlier) a.time (by simp)
  have since_before : ∀ b ∈ before, first.state.now ≤ b.time := by
    intro b earlier
    apply since b
    rw [split]
    exact List.mem_append_left _ earlier
  apply spaced_of_asks_iff order since_before
  -- No read before is later than this one, so the difference in the check is that of the two times.
  have last_le : lastAsked first.state.now before ≤ a.time := lastAsked_le (since a mem) past
  rw [asks_iff_of_split ran split, declaration_of_build built, lastCheck_of_build built, reload,
    ← Nat.le_sub_iff_add_le' last_le]
  constructor
  · rintro ⟨_, ⟨⟩, due⟩
    exact due
  · intro due
    exact ⟨interval, rfl, due⟩

theorem request?_eq_none_of_mem {a : Access} (built : (p.build hooks w).1 = .ok first)
    (ran : run? moves first = some d) (other : ∀ interval, p.declaration.hotReload ≠ some ⟨.sync, interval⟩)
    (mem : a ∈ accessesIn moves first) : a.request? = none := by
  obtain ⟨before, later, split⟩ := List.append_of_mem mem
  have quiet : ¬ a.asks = true := by
    rw [asks_iff_of_split ran split, declaration_of_build built]
    rintro ⟨interval, reload, -⟩
    exact other interval reload
  exact Option.not_isSome_iff_eq_none.mp quiet

end

end Config
end LiveConfig
