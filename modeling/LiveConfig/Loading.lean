import LiveConfig.Loader.Basic
import LiveConfig.SourceSpec

/-!
Loading: how the property maps of several sources become one.

A pass under way is plain data.  `LoadPass.start` loads as far as no load has to wait,
`LoadPass.resume` goes on with the loads whose wait is over, and `LoadPass.settle` lets the time run
until the pass has ended.  A source that no loader accepts, or that fails to load, is left out.
-/
namespace LiveConfig

structure LoadOutcome where
  properties : PropertyMap
  contributing : List Locator
  deriving DecidableEq

inductive Flight (π : Type) where
  | waiting (ready : Nat) (load : Load π)
  | landed (found : Option PropertyMap)

variable {π : Type}

namespace Flight

def skippedLine (l : Locator) : LogLine :=
  ⟨.debug, "no loader accepts source", [("action", .text "source_skipped"), ("source", .text l.text)]⟩

def loadedLine (l : Locator) (m : PropertyMap) : LogLine :=
  ⟨.debug, "loaded configuration source",
    [("action", .text "source_loaded"), ("source", .text l.text), ("keys", .number m.size)]⟩

def unavailableLine (l : Locator) (e : ConfigError) : LogLine :=
  ⟨.warn, "skipping unavailable source",
    [("action", .text "source_unavailable"), ("source", .text l.text), ("error", .text e.message)]⟩

def land (l : Locator) (loaded : Loaded π) (w : World π) : Flight π × World π :=
  let w := { w with plugins := loaded.plugins }.noteAll loaded.log
  match loaded.result with
  | .ok m => (.landed (some m), w.note (loadedLine l m))
  | .error e => (.landed none, w.note (unavailableLine l e))

def proceed (l : Locator) (finish : Outside → π → Loaded π) :
    List (Pause π) → World π → Flight π × World π
  | [], w => land l (finish w.outside w.plugins) w
  | pause :: rest, w =>
    let w := { w with plugins := pause.effect w.plugins }
    match pause.delay with
    | none => proceed l finish rest w
    | some delay => (.waiting (w.now + delay) ⟨rest, finish⟩, w)

def start (l : Locator) (load? : Option (Load π)) (w : World π) : Flight π × World π :=
  match load? with
  | none => (.landed none, w.note (skippedLine l))
  | some load => proceed l load.finish load.pauses w

def resume (l : Locator) (now : Nat) (f : Flight π) (w : World π) : Flight π × World π :=
  match f with
  | .waiting ready load => if ready ≤ now then proceed l load.finish load.pauses w else (f, w)
  | .landed _ => (f, w)

def ready? : Flight π → Option Nat
  | .waiting ready _ => some ready
  | .landed _ => none

def weight : Flight π → Nat
  | .waiting _ load => load.pauses.length + 1
  | .landed _ => 0

private theorem weight_land (l : Locator) (loaded : Loaded π) (w : World π) :
    (land l loaded w).1.weight = 0 := by
  unfold land
  cases loaded.result <;> rfl

private theorem weight_proceed_le (l : Locator) (finish : Outside → π → Loaded π) (pauses : List (Pause π))
    (w : World π) : (proceed l finish pauses w).1.weight ≤ pauses.length := by
  induction pauses generalizing w with
  | nil => simp [proceed, weight_land]
  | cons pause rest ih =>
    simp only [proceed]
    split
    · exact Nat.le_succ_of_le (ih _)
    · simp [weight]

private theorem weight_resume_le (l : Locator) (now : Nat) (f : Flight π) (w : World π) :
    (resume l now f w).1.weight ≤ f.weight := by
  cases f with
  | landed => simp [resume]
  | waiting ready load =>
    simp only [resume]
    split
    · exact Nat.le_succ_of_le (weight_proceed_le ..)
    · exact Nat.le_refl _

private theorem weight_resume_lt (l : Locator) {now ready : Nat} {f : Flight π} (w : World π)
    (h : f.ready? = some ready) (le : ready ≤ now) : (resume l now f w).1.weight < f.weight := by
  cases f with
  | landed => simp [ready?] at h
  | waiting r load =>
    simp only [ready?, Option.some.injEq] at h
    subst h
    simp only [resume, le, if_true, weight]
    exact Nat.lt_succ_of_le (weight_proceed_le ..)

end Flight

structure SourceLoad (π : Type) where
  source : Locator
  flight : Flight π

abbrev PendingSource (π : Type) := Locator × Option (Load π)

/-- A pass, by policy: the source that is loaded now and the ones after it, or all sources at once; a
pass over one source after another ends with its outcome. -/
inductive LoadPass (π : Type) where
  | first (total : Nat) (source : Locator) (ready : Nat) (load : Load π) (rest : List (PendingSource π))
  | merge (loads : List (SourceLoad π))
  | ended (outcome : LoadOutcome)

namespace LoadPass

def noneLoadedLine (total : Nat) : LogLine :=
  ⟨.debug, "no source could be loaded",
    [("action", .text "load_first"), ("sources", .number total)]⟩

def startFirst (total : Nat) : List (PendingSource π) → World π → LoadPass π × World π
  | [], w => (.ended ⟨.empty, []⟩, w.note (noneLoadedLine total))
  | (l, load?) :: rest, w =>
    match Flight.start l load? w with
    | (.landed (some m), w) => (.ended ⟨m, [l]⟩, w)
    | (.landed none, w) => startFirst total rest w
    | (.waiting ready load, w) => (.first total l ready load rest, w)

def startAll : List (PendingSource π) → World π → List (SourceLoad π) × World π
  | [], w => ([], w)
  | (l, load?) :: rest, w =>
    let (flight, w) := Flight.start l load? w
    let (loads, w) := startAll rest w
    (⟨l, flight⟩ :: loads, w)

def resumeAll (now : Nat) : List (SourceLoad π) → World π → List (SourceLoad π) × World π
  | [], w => ([], w)
  | load :: rest, w =>
    let (flight, w) := load.flight.resume load.source now w
    let (loads, w) := resumeAll now rest w
    (⟨load.source, flight⟩ :: loads, w)

def sumOf (ns : List Nat) : Nat := ns.foldr (· + ·) 0

@[simp] theorem sumOf_cons (n : Nat) (ns : List Nat) : sumOf (n :: ns) = n + sumOf ns := rfl

def weightOf (loads : List (SourceLoad π)) : Nat := sumOf (loads.map fun load => load.flight.weight)

theorem weightOf_cons (load : SourceLoad π) (rest : List (SourceLoad π)) :
    weightOf (load :: rest) = load.flight.weight + weightOf rest := rfl

private theorem weight_resumeAll_le (now : Nat) (loads : List (SourceLoad π)) (w : World π) :
    weightOf (resumeAll now loads w).1 ≤ weightOf loads := by
  induction loads generalizing w with
  | nil => simp [resumeAll]
  | cons load rest ih =>
    have le := Flight.weight_resume_le load.source now load.flight w
    have := ih (load.flight.resume load.source now w).2
    simp only [resumeAll, weightOf_cons]
    omega

private theorem weight_resumeAll_lt {now ready : Nat} {loads : List (SourceLoad π)} {load : SourceLoad π}
    (w : World π) (mem : load ∈ loads) (h : load.flight.ready? = some ready) (le : ready ≤ now) :
    weightOf (resumeAll now loads w).1 < weightOf loads := by
  induction loads generalizing w with
  | nil => simp at mem
  | cons first rest ih =>
    have rest_le := weight_resumeAll_le now rest (first.flight.resume first.source now w).2
    have first_le := Flight.weight_resume_le first.source now first.flight w
    simp only [resumeAll, weightOf_cons]
    rcases List.mem_cons.mp mem with rfl | mem
    · have := Flight.weight_resume_lt load.source w h le
      omega
    · have := ih (first.flight.resume first.source now w).2 mem
      omega

def earliest? (loads : List (SourceLoad π)) : Option Nat :=
  (loads.filterMap fun load => load.flight.ready?).min?

private theorem weight_resumeAll_earliest_lt {ready : Nat} {loads : List (SourceLoad π)} (w : World π)
    (h : earliest? loads = some ready) : weightOf (resumeAll ready loads w).1 < weightOf loads := by
  obtain ⟨load, mem, eq⟩ := List.mem_filterMap.mp (List.min?_mem h)
  exact weight_resumeAll_lt w mem eq (Nat.le_refl _)

def resumeByTime (now : Nat) (loads : List (SourceLoad π)) (w : World π) :
    List (SourceLoad π) × World π :=
  match _h : earliest? loads with
  | none => (loads, w)
  | some ready =>
    if ready ≤ now then
      let next := resumeAll ready loads w
      resumeByTime now next.1 next.2
    else (loads, w)
termination_by weightOf loads
decreasing_by exact weight_resumeAll_earliest_lt _ (by assumption)

private theorem weight_resumeByTime_le (now : Nat) (loads : List (SourceLoad π)) (w : World π) :
    weightOf (resumeByTime now loads w).1 ≤ weightOf loads := by
  fun_induction resumeByTime now loads w with
  | case1 => exact Nat.le_refl _
  | case2 loads w ready h le next ih =>
    exact Nat.le_trans ih (Nat.le_of_lt (weight_resumeAll_earliest_lt w h))
  | case3 => exact Nat.le_refl _

private theorem weight_resumeByTime_lt {now ready : Nat} {loads : List (SourceLoad π)} (w : World π)
    (h : earliest? loads = some ready) (le : ready ≤ now) :
    weightOf (resumeByTime now loads w).1 < weightOf loads := by
  unfold resumeByTime
  split
  · simp_all
  · next first eq =>
    obtain rfl : first = ready := Option.some.inj (eq.symm.trans h)
    simp only [le, if_true]
    exact Nat.lt_of_le_of_lt (weight_resumeByTime_le ..) (weight_resumeAll_earliest_lt w h)

-- More loads than this go on in the order of their times.
def orderedLimit : Nat := 30

def resumeLoads (now : Nat) (loads : List (SourceLoad π)) (w : World π) :
    List (SourceLoad π) × World π :=
  if loads.length ≤ orderedLimit then resumeAll now loads w else resumeByTime now loads w

private theorem weight_resumeLoads_lt {now ready : Nat} {loads : List (SourceLoad π)} (w : World π)
    (h : earliest? loads = some ready) (le : ready ≤ now) :
    weightOf (resumeLoads now loads w).1 < weightOf loads := by
  unfold resumeLoads
  split
  · obtain ⟨load, mem, eq⟩ := List.mem_filterMap.mp (List.min?_mem h)
    exact weight_resumeAll_lt w mem eq le
  · exact weight_resumeByTime_lt w h le

def pending (chain : LoaderChain π) (cx : LoadContext) (sources : List Locator) :
    List (PendingSource π) :=
  sources.map fun l => (l, (chain.find? l).map fun loader => loader.load cx l)

def start (chain : LoaderChain π) (cx : LoadContext) (policy : LoadPolicy) (sources : List Locator)
    (w : World π) : LoadPass π × World π :=
  match policy with
  | .first => startFirst sources.length (pending chain cx sources) w
  | .merge =>
    let (loads, w) := startAll (pending chain cx sources) w
    (.merge loads, w)

def resume (now : Nat) (p : LoadPass π) (w : World π) : LoadPass π × World π :=
  match p with
  | .first total l ready load rest =>
    match Flight.resume l now (.waiting ready load) w with
    | (.landed (some m), w) => (.ended ⟨m, [l]⟩, w)
    | (.landed none, w) => startFirst total rest w
    | (.waiting ready load, w) => (.first total l ready load rest, w)
  | .merge loads =>
    let (loads, w) := resumeLoads now loads w
    (.merge loads, w)
  | .ended outcome => (.ended outcome, w)

def ready? : LoadPass π → Option Nat
  | .first _ _ ready _ _ => some ready
  | .merge loads => earliest? loads
  | .ended _ => none

def foundIn (loads : List (SourceLoad π)) : List (Locator × PropertyMap) :=
  loads.filterMap fun load =>
    match load.flight with
    | .landed (some m) => some (load.source, m)
    | _ => none

def combined (maps : List PropertyMap) : PropertyMap := maps.foldl TextMap.completedBy .empty

def outcome : LoadPass π → LoadOutcome
  | .first _ _ _ _ _ => ⟨.empty, []⟩
  | .merge loads =>
    let found := foundIn loads
    ⟨combined (found.map (·.2)), found.map (·.1)⟩
  | .ended outcome => outcome

def pendingWeight (source : PendingSource π) : Nat :=
  match source.2 with
  | some load => load.pauses.length
  | none => 0

def weight : LoadPass π → Nat
  | .first _ _ _ load rest => load.pauses.length + 1 + sumOf (rest.map pendingWeight)
  | .merge loads => weightOf loads
  | .ended _ => 0

private theorem weight_start_le (l : Locator) (load? : Option (Load π)) (w : World π) :
    (Flight.start l load? w).1.weight ≤ pendingWeight (l, load?) := by
  cases load? with
  | none => simp [Flight.start, Flight.weight]
  | some load => exact Flight.weight_proceed_le ..

private theorem weight_startFirst_le (total : Nat) (sources : List (PendingSource π)) (w : World π) :
    (startFirst total sources w).1.weight ≤ sumOf (sources.map pendingWeight) := by
  induction sources generalizing w with
  | nil => simp [startFirst, weight]
  | cons source rest ih =>
    obtain ⟨l, load?⟩ := source
    have le := weight_start_le l load? w
    simp only [startFirst, List.map_cons, sumOf_cons]
    split
    · simp [weight]
    · exact Nat.le_trans (ih _) (Nat.le_add_left ..)
    · next eq =>
      rw [eq] at le
      simp only [Flight.weight] at le
      simp only [weight]
      omega

/-- Whatever is ready at a time goes on then. -/
theorem weight_resume_lt {now ready : Nat} {p : LoadPass π} (w : World π)
    (h : p.ready? = some ready) (le : ready ≤ now) : (resume now p w).1.weight < p.weight := by
  cases p with
  | ended => simp [ready?] at h
  | first total l r load rest =>
    simp only [ready?, Option.some.injEq] at h
    subst h
    have lt := Flight.weight_resume_lt (π := π) (f := .waiting r load) l w rfl le
    simp only [Flight.weight] at lt
    simp only [resume]
    split
    · simp only [weight]
      omega
    · have := weight_startFirst_le total rest
      simp only [weight]
      exact Nat.lt_of_le_of_lt (this _) (by omega)
    · next eq =>
      rw [eq] at lt
      simp only at lt
      simp only [weight]
      omega
  | merge loads =>
    exact weight_resumeLoads_lt w h le

def settle (p : LoadPass π) (w : World π) : LoadOutcome × World π :=
  match _h : p.ready? with
  | none => (p.outcome, w)
  | some ready =>
    let w := w.waitUntil ready
    let next := p.resume (max ready w.now) w
    settle next.1 next.2
termination_by p.weight
decreasing_by exact weight_resume_lt _ (by assumption) (Nat.le_max_left ..)

end LoadPass

def Load.settle (load : Load π) (w : World π) : Except ConfigError PropertyMap × World π :=
  let w := load.pauses.foldl
    (fun w pause => { w with plugins := pause.effect w.plugins }.waitUntil
      (w.now + pause.delay.getD 0)) w
  let loaded := load.finish w.outside w.plugins
  (loaded.result, { w with plugins := loaded.plugins }.noteAll loaded.log)

end LiveConfig
