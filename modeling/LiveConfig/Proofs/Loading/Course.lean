import LiveConfig.Proofs.Loading.Policy
import Mathlib.Logic.Relation

/-!
The course of a pass, in whatever order its loads go on.

A board shows of every source how far its load has come.  A step begins a load, goes on with one that
waits, or changes the surroundings, and what is seen of the loads is written down.  A pass stands on a
board, and it goes on by steps.
-/
namespace LiveConfig

inductive LoadEvent where
  | begun (place : Nat)
  | ended (place : Nat) (found : Option PropertyMap)
  deriving DecidableEq

def LoadEvent.place : LoadEvent → Nat
  | .begun place => place
  | .ended place _ => place

variable {π : Type}

/-- Whether a load may begin, given the loads of the sources before: sources are taken one after another
until one gives a map, or all at once. -/
def LoadPolicy.MayBegin : LoadPolicy → List (Option (Flight π)) → Prop
  | .first, before => ∀ f ∈ before, f = some (.landed none)
  | .merge, _ => True

namespace LoadPass

def ending (place : Nat) : Flight π → List LoadEvent
  | .waiting _ _ => []
  | .landed found => [.ended place found]

def beginning (place : Nat) (load? : Option (Load π)) (f : Flight π) : List LoadEvent :=
  match load? with
  | none => []
  | some _ => .begun place :: ending place f

structure Scene (π : Type) where
  board : List (Option (Flight π))
  world : World π
  seen : List LoadEvent

def Scene.initial (sources : List (PendingSource π)) (w : World π) : Scene π :=
  ⟨List.replicate sources.length none, w, []⟩

inductive Step (around : World π → World π → Prop) (policy : LoadPolicy)
    (sources : List (PendingSource π)) : Scene π → Scene π → Prop
  | begins {before after : List (Option (Flight π))} {l : Locator} {load? : Option (Load π)}
      (here : sources[before.length]? = some (l, load?)) (may : policy.MayBegin before) (w : World π)
      (seen : List LoadEvent) :
      Step around policy sources ⟨before ++ none :: after, w, seen⟩
        ⟨before ++ some (Flight.start l load? w).1 :: after, (Flight.start l load? w).2,
          seen ++ beginning before.length load? (Flight.start l load? w).1⟩
  | goesOn {before after : List (Option (Flight π))} {l : Locator} {load? : Option (Load π)}
      (here : sources[before.length]? = some (l, load?)) (ready : Nat) (load : Load π) (w : World π)
      (seen : List LoadEvent) :
      Step around policy sources ⟨before ++ some (.waiting ready load) :: after, w, seen⟩
        ⟨before ++ some (Flight.proceed l load.finish load.pauses w).1 :: after,
          (Flight.proceed l load.finish load.pauses w).2,
          seen ++ ending before.length (Flight.proceed l load.finish load.pauses w).1⟩
  | surrounds (board : List (Option (Flight π))) {w v : World π} (change : around w v)
      (seen : List LoadEvent) : Step around policy sources ⟨board, w, seen⟩ ⟨board, v, seen⟩

abbrev Course (around : World π → World π → Prop) (policy : LoadPolicy)
    (sources : List (PendingSource π)) : Scene π → Scene π → Prop :=
  Relation.ReflTransGen (Step around policy sources)

inductive Idles : World π → World π → Prop
  | note (w : World π) (line : LogLine) : Idles w (w.note line)
  | wait (w : World π) (time : Nat) : Idles w (w.waitUntil time)

/-- The board on which a pass stands.  Under the policy that takes the first, the sources before the one
that is loaded have ended without a map, and the sources after it are not begun. -/
inductive Stands (sources : List (PendingSource π)) :
    LoadPolicy → LoadPass π → List (Option (Flight π)) → Prop
  | loading {before rest : List (PendingSource π)} {l : Locator} {load? : Option (Load π)}
      (total ready : Nat) (load : Load π) (parts : sources = before ++ (l, load?) :: rest) :
      Stands sources .first (.first total l ready load rest)
        (List.replicate before.length (some (.landed none)) ++
          some (.waiting ready load) :: List.replicate rest.length none)
  | found {before rest : List (PendingSource π)} {source : PendingSource π} (m : PropertyMap)
      (parts : sources = before ++ source :: rest) :
      Stands sources .first (.ended ⟨m, [source.1]⟩)
        (List.replicate before.length (some (.landed none)) ++
          some (.landed (some m)) :: List.replicate rest.length none)
  | missed :
      Stands sources .first (.ended ⟨.empty, []⟩) (List.replicate sources.length (some (.landed none)))
  | all {loads : List (SourceLoad π)} (names : loads.map (·.source) = sources.map (·.1)) :
      Stands sources .merge (.merge loads) (loads.map fun load => some load.flight)

theorem getElem?_here {α : Type} (before after : List α) (a : α) :
    (before ++ a :: after)[before.length]? = some a := by
  rw [List.getElem?_append_right (Nat.le_refl _), Nat.sub_self]
  rfl

theorem getElem?_elsewhere {α : Type} {before after : List α} {a b : α} {place : Nat}
    (ne : place ≠ before.length) : (before ++ a :: after)[place]? = (before ++ b :: after)[place]? := by
  simp only [List.getElem?_append, List.getElem?_cons]
  split
  · rfl
  · rw [if_neg (by omega), if_neg (by omega)]

section

variable {sources : List (PendingSource π)}

theorem source_at {before rest : List (PendingSource π)} {source : PendingSource π}
    (parts : sources = before ++ source :: rest) : sources[before.length]? = some source := by
  rw [parts]
  exact getElem?_here before rest source

private theorem exists_source_at {before rest : List Locator} {l : Locator}
    (names : sources.map (·.1) = before ++ l :: rest) :
    ∃ load?, sources[before.length]? = some (l, load?) := by
  have at_place : (sources.map (·.1))[before.length]? = some l := by
    rw [names]
    exact getElem?_here before rest l
  rw [List.getElem?_map, Option.map_eq_some_iff] at at_place
  obtain ⟨⟨_, load?⟩, here, rfl⟩ := at_place
  exact ⟨load?, here⟩

private theorem course_begins (policy : LoadPolicy) {before : List (Option (Flight π))}
    (after : List (Option (Flight π))) {l : Locator} {load? : Option (Load π)}
    (here : sources[before.length]? = some (l, load?)) (may : policy.MayBegin before) (w : World π)
    (seen : List LoadEvent) :
    ∃ later, Course Idles policy sources ⟨before ++ none :: after, w, seen⟩
      ⟨before ++ some (Flight.start l load? w).1 :: after, (Flight.start l load? w).2, later⟩ :=
  ⟨_, .single (.begins here may w seen)⟩

private theorem course_resumes (policy : LoadPolicy) {before : List (Option (Flight π))}
    (after : List (Option (Flight π))) {l : Locator} {load? : Option (Load π)}
    (here : sources[before.length]? = some (l, load?)) (now : Nat) (f : Flight π) (w : World π)
    (seen : List LoadEvent) :
    ∃ later, Course Idles policy sources ⟨before ++ some f :: after, w, seen⟩
      ⟨before ++ some (f.resume l now w).1 :: after, (f.resume l now w).2, later⟩ := by
  cases f with
  | landed found => exact ⟨seen, .refl⟩
  | waiting ready load =>
    simp only [Flight.resume]
    split
    · exact ⟨_, .single (.goesOn here ready load w seen)⟩
    · exact ⟨seen, .refl⟩

private theorem course_startFirst (total : Nat) (before : List (PendingSource π))
    {rest : List (PendingSource π)} (parts : sources = before ++ rest) (w : World π) (seen : List LoadEvent) :
    ∃ t, Course Idles .first sources
        ⟨List.replicate before.length (some (.landed none)) ++ List.replicate rest.length none, w, seen⟩
        t ∧
      t.world = (startFirst total rest w).2 ∧
      Stands sources .first (startFirst total rest w).1 t.board := by
  -- Sources that found none pass from the rest to those before.
  induction rest generalizing before w seen with
  | nil =>
    rw [List.append_nil] at parts
    subst parts
    rw [List.length_nil, List.replicate_zero, List.append_nil]
    exact ⟨_, .single (.surrounds _ (.note w (noneLoadedLine total)) seen), rfl, .missed⟩
  | cons source rest ih =>
    obtain ⟨l, load?⟩ := source
    have here : sources[(List.replicate before.length (some (Flight.landed (π := π) none))).length]? =
        some (l, load?) := by
      rw [List.length_replicate]
      exact source_at parts
    obtain ⟨later, begun⟩ := course_begins .first (List.replicate rest.length none) here
      (fun f mem => List.eq_of_mem_replicate mem) w seen
    rw [List.length_cons, List.replicate_succ]
    simp only [startFirst]
    split
    · next m w' eq =>
      rw [eq] at begun
      exact ⟨_, begun, rfl, .found m parts⟩
    · next w' eq =>
      rw [eq] at begun
      obtain ⟨t, course, world, stands⟩ := ih _ (parts.trans (List.append_cons ..)) w' later
      rw [List.length_append, List.length_singleton, List.replicate_succ', List.append_assoc,
        List.singleton_append] at course
      exact ⟨t, begun.trans course, world, stands⟩
    · next ready load w' eq =>
      rw [eq] at begun
      exact ⟨_, begun, rfl, .loading total ready load parts⟩

private theorem course_startAll (before : List (PendingSource π)) {rest : List (PendingSource π)}
    (parts : sources = before ++ rest) (board : List (Option (Flight π)))
    (same : board.length = before.length) (w : World π) (seen : List LoadEvent) :
    ∃ later, Course Idles .merge sources ⟨board ++ List.replicate rest.length none, w, seen⟩
      ⟨board ++ (startAll rest w).1.map (fun load => some load.flight), (startAll rest w).2, later⟩ := by
  induction rest generalizing before board w seen with
  | nil => exact ⟨seen, .refl⟩
  | cons source rest ih =>
    obtain ⟨l, load?⟩ := source
    have here : sources[board.length]? = some (l, load?) := by
      rw [same]
      exact source_at parts
    obtain ⟨begun, first⟩ := course_begins .merge (List.replicate rest.length none) here trivial w seen
    have longer : (board ++ [some (Flight.start l load? w).1]).length = (before ++ [(l, load?)]).length := by
      rw [List.length_append, List.length_append, same]
      rfl
    obtain ⟨later, others⟩ := ih _ (parts.trans (List.append_cons ..)) _ longer
      (Flight.start l load? w).2 begun
    rw [List.append_assoc, List.append_assoc] at others
    exact ⟨later, first.trans others⟩

private theorem names_startAll (sources : List (PendingSource π)) (w : World π) :
    (startAll sources w).1.map (·.source) = sources.map (·.1) := by
  induction sources generalizing w with
  | nil => rfl
  | cons source rest ih => exact congrArg (source.1 :: ·) (ih _)

private theorem names_resumeAll (now : Nat) (loads : List (SourceLoad π)) (w : World π) :
    (resumeAll now loads w).1.map (·.source) = loads.map (·.source) := by
  induction loads generalizing w with
  | nil => rfl
  | cons load rest ih => exact congrArg (load.source :: ·) (ih _)

private theorem course_resumeAll (now : Nat) (before : List Locator) {loads : List (SourceLoad π)}
    (names : sources.map (·.1) = before ++ loads.map (·.source))
    (board : List (Option (Flight π))) (same : board.length = before.length) (w : World π)
    (seen : List LoadEvent) :
    ∃ later, Course Idles .merge sources
      ⟨board ++ loads.map (fun load => some load.flight), w, seen⟩
      ⟨board ++ (resumeAll now loads w).1.map (fun load => some load.flight),
        (resumeAll now loads w).2, later⟩ := by
  induction loads generalizing before board w seen with
  | nil => exact ⟨seen, .refl⟩
  | cons load rest ih =>
    obtain ⟨load?, here⟩ := exists_source_at names
    rw [← same] at here
    obtain ⟨resumed, first⟩ := course_resumes .merge (rest.map fun load => some load.flight) here now
      load.flight w seen
    have longer : (board ++ [some (load.flight.resume load.source now w).1]).length =
        (before ++ [load.source]).length := by
      rw [List.length_append, List.length_append, same]
      rfl
    obtain ⟨later, others⟩ := ih _ (names.trans (List.append_cons ..)) _ longer
      (load.flight.resume load.source now w).2 resumed
    rw [List.append_assoc, List.append_assoc] at others
    exact ⟨later, first.trans others⟩

private theorem course_resumeByTime (now : Nat) {loads : List (SourceLoad π)}
    (names : loads.map (·.source) = sources.map (·.1)) (w : World π) (seen : List LoadEvent) :
    (resumeByTime now loads w).1.map (·.source) = sources.map (·.1) ∧
      ∃ later, Course Idles .merge sources ⟨loads.map (fun load => some load.flight), w, seen⟩
        ⟨(resumeByTime now loads w).1.map (fun load => some load.flight),
          (resumeByTime now loads w).2, later⟩ := by
  fun_induction resumeByTime now loads w generalizing seen with
  | case1 => exact ⟨names, seen, .refl⟩
  | case2 loads w ready _ _ _ ih =>
    obtain ⟨resumed, first⟩ := course_resumeAll ready [] names.symm [] rfl w seen
    obtain ⟨kept, later, others⟩ := ih ((names_resumeAll ready loads w).trans names) resumed
    exact ⟨kept, later, first.trans others⟩
  | case3 => exact ⟨names, seen, .refl⟩

private theorem course_resumeLoads (now : Nat) {loads : List (SourceLoad π)}
    (names : loads.map (·.source) = sources.map (·.1)) (w : World π) (seen : List LoadEvent) :
    (resumeLoads now loads w).1.map (·.source) = sources.map (·.1) ∧
      ∃ later, Course Idles .merge sources ⟨loads.map (fun load => some load.flight), w, seen⟩
        ⟨(resumeLoads now loads w).1.map (fun load => some load.flight),
          (resumeLoads now loads w).2, later⟩ := by
  unfold resumeLoads
  split
  · exact ⟨(names_resumeAll now loads w).trans names,
      course_resumeAll now [] names.symm [] rfl w seen⟩
  · exact course_resumeByTime now names w seen

end

/-- A pass begins by steps. -/
theorem course_start (chain : LoaderChain π) (cx : LoadContext) (policy : LoadPolicy)
    (sources : List Locator) (w : World π) :
    ∃ t, Course Idles policy (pending chain cx sources) (.initial (pending chain cx sources) w) t ∧
      t.world = (start chain cx policy sources w).2 ∧
      Stands (pending chain cx sources) policy (start chain cx policy sources w).1 t.board := by
  cases policy with
  | first => exact course_startFirst sources.length [] rfl w []
  | merge =>
    have whole : pending chain cx sources = [] ++ pending chain cx sources := rfl
    obtain ⟨later, course⟩ := course_startAll [] whole [] rfl w []
    exact ⟨_, course, rfl, .all (names_startAll ..)⟩

/-- A pass goes on by steps. -/
theorem course_resume {sources : List (PendingSource π)} {policy : LoadPolicy} {p : LoadPass π}
    {board : List (Option (Flight π))} (stands : Stands sources policy p board) (now : Nat)
    (w : World π) (seen : List LoadEvent) :
    ∃ t, Course Idles policy sources ⟨board, w, seen⟩ t ∧ t.world = (resume now p w).2 ∧
      Stands sources policy (resume now p w).1 t.board := by
  cases stands with
  | @loading before rest l load? total ready load parts =>
    have here : sources[(List.replicate before.length (some (Flight.landed (π := π) none))).length]? =
        some (l, load?) := by
      rw [List.length_replicate]
      exact source_at parts
    obtain ⟨later, resumed⟩ := course_resumes .first (List.replicate rest.length none) here now
      (.waiting ready load) w seen
    simp only [resume]
    split
    · next m w' eq =>
      rw [eq] at resumed
      exact ⟨_, resumed, rfl, .found m parts⟩
    · next w' eq =>
      rw [eq] at resumed
      obtain ⟨t, course, world, stands⟩ :=
        course_startFirst total _ (parts.trans (List.append_cons ..)) w' later
      rw [List.length_append, List.length_singleton, List.replicate_succ', List.append_assoc,
        List.singleton_append] at course
      exact ⟨t, resumed.trans course, world, stands⟩
    · next ready' load' w' eq =>
      rw [eq] at resumed
      exact ⟨_, resumed, rfl, .loading total ready' load' parts⟩
  | found m parts => exact ⟨_, .refl, rfl, .found m parts⟩
  | missed => exact ⟨_, .refl, rfl, .missed⟩
  | @all loads names =>
    obtain ⟨kept, later, course⟩ := course_resumeLoads now names w seen
    exact ⟨_, course, rfl, .all kept⟩

end LoadPass
end LiveConfig
