import LiveConfig.Expansion
import LiveConfig.Proofs.TextMap.Lookup
import Mathlib.Logic.Relation

/-!
Expansion as plain recursion: nothing is kept and nothing is limited.

A placeholder that calls a substitutor stands for its result.  A key that is being expanded already, or
that no layer defines, stands for nothing, and any other key for its value, expanded with the key added
to the path.  What a key stands for depends on the path only if the references from its value lead into
the path or around a cycle.
-/
namespace LiveConfig.Expander

variable {σ : Type}

def unvisited (e : Expander σ) (path : List String) : Nat :=
  ((e.layers.flatMap TextMap.keys).filter fun key => !path.contains key).length

theorem mem_keys_of_lookup? {e : Expander σ} {key raw : String} (found : e.lookup? key = some raw) :
    key ∈ e.layers.flatMap TextMap.keys := by
  obtain ⟨layer, mem, value⟩ := List.exists_of_findSome?_eq_some found
  apply List.mem_flatMap.mpr
  refine ⟨layer, mem, ?_⟩
  exact List.mem_map.mpr ⟨(key, raw), mem_of_entryOf? value, rfl⟩

private theorem unvisited_cons_lt {e : Expander σ} {path : List String} {key raw : String}
    (fresh : path.contains key = false) (found : e.lookup? key = some raw) :
    e.unvisited (key :: path) < e.unvisited path := by
  unfold unvisited
  have narrower : ((e.layers.flatMap TextMap.keys).filter fun k => !(key :: path).contains k) =
      ((e.layers.flatMap TextMap.keys).filter fun k => !path.contains k).filter (· != key) := by
    rw [List.filter_filter]
    apply List.filter_congr
    intro k _
    simp only [List.contains_cons, Bool.not_or, bne]
  rw [narrower]
  apply List.length_filter_lt_length_iff_exists.mpr
  refine ⟨key, List.mem_filter.mpr ⟨mem_keys_of_lookup? found, ?_⟩, ?_⟩
  · rw [fresh]
    rfl
  · simp

/-- What segments come to while the values of the keys in `path` are being expanded.  Substitutors are
called with the plugins in one state. -/
def spell (e : Expander σ) (plugins : σ) (path : List String) : List Segment → String
  | [] => ""
  | .plain cs :: rest => String.ofList cs ++ spell e plugins path rest
  | .placeholder inner :: rest =>
    let key := String.ofList inner
    let text :=
      match e.call? key with
      | some (s, argument) => (s.apply argument plugins).1
      | none =>
        if _fresh : path.contains key = false then
          match _found : e.lookup? key with
          | none => ""
          | some raw => spell e plugins (key :: path) (segments raw.toList)
        else ""
    text ++ spell e plugins path rest
termination_by segments => (e.unvisited path, segments.length)
decreasing_by
  · exact Prod.Lex.right _ (Nat.lt_succ_self _)
  · exact Prod.Lex.left _ _ (unvisited_cons_lt (by assumption) (by assumption))
  · exact Prod.Lex.right _ (Nat.lt_succ_self _)

def standsFor (e : Expander σ) (plugins : σ) (path : List String) (key : String) : String :=
  match e.call? key with
  | some (s, argument) => (s.apply argument plugins).1
  | none =>
    if path.contains key then ""
    else
      match e.lookup? key with
      | none => ""
      | some raw => e.spell plugins (key :: path) (segments raw.toList)

def expandPlainly (e : Expander σ) (value : String) (plugins : σ) : String :=
  e.spell plugins [] (segments value.toList)

@[simp] theorem spell_nil (e : Expander σ) (plugins : σ) (path : List String) :
    e.spell plugins path [] = "" := by
  rw [spell]

@[simp] theorem spell_plain (e : Expander σ) (plugins : σ) (path : List String) (cs : List Char)
    (rest : List Segment) :
    e.spell plugins path (.plain cs :: rest) = String.ofList cs ++ e.spell plugins path rest := by
  rw [spell]

@[simp] theorem spell_placeholder (e : Expander σ) (plugins : σ) (path : List String)
    (inner : List Char) (rest : List Segment) :
    e.spell plugins path (.placeholder inner :: rest) =
      e.standsFor plugins path (String.ofList inner) ++ e.spell plugins path rest := by
  rw [spell]
  unfold standsFor
  cases e.call? (String.ofList inner) with
  | some call => rfl
  | none =>
    cases fresh : path.contains (String.ofList inner) with
    | true => rfl
    | false =>
      simp only [dite_true, Bool.false_eq_true, if_false]
      congr 1
      split <;> simp_all

def keysIn (e : Expander σ) : List Segment → List String
  | [] => []
  | .plain _ :: rest => keysIn e rest
  | .placeholder inner :: rest =>
    let key := String.ofList inner
    if (e.call? key).isNone then key :: keysIn e rest else keysIn e rest

theorem mem_keysIn {e : Expander σ} {inner : List Char} {parts : List Segment}
    (mem : .placeholder inner ∈ parts) (call : e.call? (String.ofList inner) = none) :
    String.ofList inner ∈ e.keysIn parts := by
  induction parts with
  | nil => exact nomatch mem
  | cons part rest ih =>
    rcases List.mem_cons.mp mem with rfl | mem
    · simp [keysIn, call]
    · have later := ih mem
      cases part with
      | plain cs => exact later
      | placeholder other =>
        simp only [keysIn]
        split
        · exact List.mem_cons_of_mem _ later
        · exact later

def Refers (e : Expander σ) (key other : String) : Prop :=
  ∃ raw, e.lookup? key = some raw ∧ other ∈ e.keysIn (segments raw.toList)

def Grounded (e : Expander σ) (key : String) : Prop := Acc (fun other key => e.Refers key other) key

def LeadsTo (e : Expander σ) (path : List String) (key : String) : Prop :=
  ∀ j ∈ path, Relation.TransGen e.Refers j key

private theorem grounded_of_refers {e : Expander σ} {key : String}
    (h : ∀ other, e.Refers key other → e.Grounded other) : e.Grounded key := Acc.intro key h

theorem grounded_of_lookup?_none {e : Expander σ} {key : String} (h : e.lookup? key = none) :
    e.Grounded key := by
  apply grounded_of_refers
  rintro other ⟨raw, found, _⟩
  rw [h] at found
  exact nomatch found

theorem grounded_of_lookup? {e : Expander σ} {key raw : String} (found : e.lookup? key = some raw)
    (h : ∀ other ∈ e.keysIn (segments raw.toList), e.Grounded other) : e.Grounded key := by
  apply grounded_of_refers
  rintro other ⟨value, found', mem⟩
  obtain rfl : raw = value := Option.some.inj (found.symm.trans found')
  exact h other mem

private theorem Grounded.not_cyclic {e : Expander σ} {key : String} (h : e.Grounded key) :
    ¬ Relation.TransGen e.Refers key key := by
  induction h with
  | intro key _ ih =>
    intro cycle
    obtain ⟨next, step, back⟩ := Relation.TransGen.head'_iff.mp cycle
    exact ih next step (Relation.TransGen.tail' back step)

/-- A path that leads to a grounded key meets nothing that the key's references lead to. -/
private theorem Grounded.not_mem_path {e : Expander σ} {path : List String} {key other : String}
    (h : e.Grounded key) (leads : e.LeadsTo path key)
    (reached : Relation.ReflTransGen e.Refers key other) : other ∉ path := by
  intro mem
  exact h.not_cyclic (Relation.TransGen.trans_right reached (leads other mem))

theorem standsFor_of_call? {e : Expander σ} {plugins : σ} {path : List String} {key argument : String}
    {s : Substitutor σ} (call : e.call? key = some (s, argument)) :
    e.standsFor plugins path key = (s.apply argument plugins).1 := by
  simp [standsFor, call]

theorem standsFor_of_mem {e : Expander σ} {plugins : σ} {path : List String} {key : String}
    (call : e.call? key = none) (mem : key ∈ path) : e.standsFor plugins path key = "" := by
  simp [standsFor, call, mem]

theorem standsFor_of_lookup?_none {e : Expander σ} {plugins : σ} {path : List String} {key : String}
    (call : e.call? key = none) (missing : e.lookup? key = none) :
    e.standsFor plugins path key = "" := by
  simp [standsFor, call, missing]

theorem standsFor_of_lookup? {e : Expander σ} (plugins : σ) {path : List String} {key raw : String}
    (call : e.call? key = none) (fresh : key ∉ path) (found : e.lookup? key = some raw) :
    e.standsFor plugins path key = e.spell plugins (key :: path) (segments raw.toList) := by
  simp [standsFor, call, fresh, found]

private theorem spell_congr {e : Expander σ} {plugins : σ} {path other : List String} {segments : List Segment}
    (h : ∀ key ∈ e.keysIn segments, e.standsFor plugins path key = e.standsFor plugins other key) :
    e.spell plugins path segments = e.spell plugins other segments := by
  induction segments with
  | nil => simp
  | cons segment rest ih =>
    cases segment with
    | plain cs =>
      rw [spell_plain, spell_plain, ih h]
    | placeholder inner =>
      rw [spell_placeholder, spell_placeholder]
      cases call : e.call? (String.ofList inner) with
      | some found =>
        rw [standsFor_of_call? call, standsFor_of_call? call]
        rw [ih fun key mem => h key (by simpa [keysIn, call] using mem)]
      | none =>
        rw [h (String.ofList inner) (by simp [keysIn, call])]
        rw [ih fun key mem => h key (by simp [keysIn, call, mem])]

/-- A grounded key stands for the same with all paths that its references do not meet. -/
theorem Grounded.standsFor_eq {e : Expander σ} {plugins : σ} {key : String} (h : e.Grounded key)
    {path other : List String}
    (free : ∀ k, Relation.ReflTransGen e.Refers key k → k ∉ path)
    (free' : ∀ k, Relation.ReflTransGen e.Refers key k → k ∉ other) :
    e.standsFor plugins path key = e.standsFor plugins other key := by
  induction h generalizing path other with
  | intro key below ih =>
    have acyclic := Grounded.not_cyclic (Acc.intro key below)
    cases call : e.call? key with
    | some found => rw [standsFor_of_call? call, standsFor_of_call? call]
    | none =>
      cases found : e.lookup? key with
      | none => rw [standsFor_of_lookup?_none call found, standsFor_of_lookup?_none call found]
      | some raw =>
        rw [standsFor_of_lookup? plugins call (free key .refl) found,
          standsFor_of_lookup? plugins call (free' key .refl) found]
        apply spell_congr
        intro next mem
        have refers : e.Refers key next := ⟨raw, found, mem⟩
        -- What the next key leads to is not the key itself, as that would be a cycle.
        have apart : ∀ {path : List String}, (∀ k, Relation.ReflTransGen e.Refers key k → k ∉ path) →
            ∀ k, Relation.ReflTransGen e.Refers next k → k ∉ key :: path := by
          intro path free k reached
          rw [List.mem_cons, not_or]
          refine ⟨?_, free k (Relation.ReflTransGen.head refers reached)⟩
          intro same
          subst same
          exact acyclic (Relation.TransGen.head' refers reached)
        exact ih next refers (apart free) (apart free')

theorem Grounded.standsFor_eq_of_leadsTo {e : Expander σ} {plugins : σ} {key : String}
    (h : e.Grounded key) {path other : List String} (leads : e.LeadsTo path key)
    (leads' : e.LeadsTo other key) :
    e.standsFor plugins path key = e.standsFor plugins other key :=
  h.standsFor_eq (fun _ => h.not_mem_path leads) fun _ => h.not_mem_path leads'

theorem leadsTo_cons {e : Expander σ} {path : List String} {key raw next : String}
    (found : e.lookup? key = some raw) (mem : next ∈ e.keysIn (segments raw.toList))
    (leads : e.LeadsTo path key) : e.LeadsTo (key :: path) next := by
  have refers : e.Refers key next := ⟨raw, found, mem⟩
  intro j inside
  rcases List.mem_cons.mp inside with rfl | inside
  · exact .single refers
  · exact (leads j inside).tail refers

/-- The recursion on segments, begun with a path, comes to expand values with another path. -/
inductive Visits (e : Expander σ) : List String → List Segment → List String → Prop
  | here (path : List String) (segments : List Segment) : Visits e path segments path
  | deeper {path visited : List String} {parts : List Segment} {key raw : String}
      (mem : key ∈ e.keysIn parts) (fresh : key ∉ path) (found : e.lookup? key = some raw)
      (below : Visits e (key :: path) (segments raw.toList) visited) : Visits e path parts visited

def Shallow (e : Expander σ) (path : List String) (segments : List Segment) : Prop :=
  ∀ visited, e.Visits path segments visited → visited.length ≤ maxExpansionDepth

theorem Shallow.below {e : Expander σ} {path : List String} {parts : List Segment} {key raw : String}
    (h : e.Shallow path parts) (mem : key ∈ e.keysIn parts) (fresh : key ∉ path)
    (found : e.lookup? key = some raw) : e.Shallow (key :: path) (segments raw.toList) :=
  fun visited below => h visited (.deeper mem fresh found below)

private theorem length_add_unvisited_le {e : Expander σ} {path visited : List String} {parts : List Segment}
    (h : e.Visits path parts visited) :
    visited.length + e.unvisited visited ≤ path.length + e.unvisited path := by
  induction h with
  | here => exact Nat.le_refl _
  | @deeper path visited _ key raw _ fresh found _ ih =>
    have lt := unvisited_cons_lt (by simpa using fresh : path.contains key = false) found
    simp only [List.length_cons] at ih
    omega

theorem shallow_of_unvisited_le {e : Expander σ} (few : e.unvisited [] ≤ maxExpansionDepth)
    (parts : List Segment) : e.Shallow [] parts := by
  intro visited h
  have le := length_add_unvisited_le h
  simp only [List.length_nil] at le
  omega

end LiveConfig.Expander
