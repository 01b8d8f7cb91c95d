import LiveConfig.Declaration.Basic
import LiveConfig.Proofs.Substitutor.Registration

/-!
Which drafts make a declaration, and what is wrong with the others.

A draft is what a sequence of calls makes of a name.  It is accepted if and only if it is well formed; else the
error is its first fault.  `FirstFault` says which one that is: all that is checked before it is in order.
-/
namespace LiveConfig

def Text.Blank (s : String) : Prop := ∀ c ∈ s.toList, isBlank c = true

private theorem Text.isBlankText_iff {s : String} : isBlankText s = true ↔ Blank s := List.all_eq_true

instance (s : String) : Decidable (Text.Blank s) := decidable_of_iff _ Text.isBlankText_iff

variable {σ : Type}

namespace Accessor

structure IsComplete (a : Accessor σ) : Prop where
  named : ¬ Text.Blank a.name
  keyed : ¬ Text.Blank a.key
  separated : a.separator ≠ some ""

inductive Fault (earlier : List String) (a : Accessor σ) : DefinitionFault → Prop where
  | unnamed (blank : Text.Blank a.name) : Fault earlier a .emptyAccessorName
  | unkeyed (named : ¬ Text.Blank a.name) (blank : Text.Blank a.key) : Fault earlier a (.emptyKey a.name)
  | unseparated (named : ¬ Text.Blank a.name) (keyed : ¬ Text.Blank a.key) (empty : a.separator = some "") :
      Fault earlier a (.emptySeparator a.name)
  | again (complete : a.IsComplete) (known : a.name ∈ earlier) : Fault earlier a (.declaredTwice a.name)

end Accessor

namespace Substitutor

structure ValidName (name : String) : Prop where
  nonempty : name ≠ ""
  plain : ∀ c ∈ name.toList, Text.isBlank c = false ∧ c ∉ [':', '\x7b', '\x7d']

inductive Fault (earlier : List String) (s : Substitutor σ) : DefinitionFault → Prop where
  | invalid (invalid : ¬ ValidName s.name) : Fault earlier s (.invalidSubstitutor s.name)
  | again (valid : ValidName s.name) (known : s.name ∈ earlier) : Fault earlier s (.duplicateSubstitutor s.name)

private theorem isValidName_iff {name : String} : SubstitutorRegistry.isValidName name = true ↔ ValidName name := by
  have nonempty : (!name.isEmpty) = true ↔ name ≠ "" := by simp
  unfold SubstitutorRegistry.isValidName
  rw [Bool.and_eq_true, nonempty, List.all_eq_true]
  have plain : ∀ c, (!(Text.isBlank c || c = ':' || c = '\x7b' || c = '\x7d')) = true ↔
      Text.isBlank c = false ∧ c ∉ [':', '\x7b', '\x7d'] := by
    simp [and_assoc]
  simp only [plain]
  exact ⟨fun valid => ⟨valid.1, valid.2⟩, fun valid => ⟨valid.nonempty, valid.plain⟩⟩

end Substitutor

namespace Draft

structure IsWellFormed (d : Draft σ) : Prop where
  named : ¬ Text.Blank d.name
  timed : ∀ h, d.hotReload = some h → 0 < h.interval.inNanos
  complete : ∀ a ∈ d.accessors, a.IsComplete
  distinct : (d.accessors.map (·.name)).Nodup
  valid : ∀ s ∈ d.substitutors, Substitutor.ValidName s.name
  apart : (d.substitutors.map (·.name)).Nodup

/-- The first fault in the order of the checks: the name, the interval, each accessor in turn, each substitutor in
turn.  Only a fault of a substitutor tells which declaration it is in. -/
inductive FirstFault (d : Draft σ) : DefinitionFault → Prop where
  | name (blank : Text.Blank d.name) : FirstFault d .emptyDeclarationName
  | interval (named : ¬ Text.Blank d.name) {h : HotReload} (reloads : d.hotReload = some h)
      (zero : h.interval.inNanos = 0) : FirstFault d .zeroInterval
  | accessor (named : ¬ Text.Blank d.name) (timed : ∀ h, d.hotReload = some h → 0 < h.interval.inNanos)
      {before after : List (Accessor σ)} {a : Accessor σ} (split : d.accessors = before ++ a :: after)
      (complete : ∀ b ∈ before, b.IsComplete) (distinct : (before.map (·.name)).Nodup) {fault : DefinitionFault}
      (here : a.Fault (before.map (·.name)) fault) : FirstFault d fault
  | substitutor (named : ¬ Text.Blank d.name) (timed : ∀ h, d.hotReload = some h → 0 < h.interval.inNanos)
      (complete : ∀ a ∈ d.accessors, a.IsComplete) (distinct : (d.accessors.map (·.name)).Nodup)
      {before after : List (Substitutor σ)} {s : Substitutor σ} (split : d.substitutors = before ++ s :: after)
      (valid : ∀ t ∈ before, Substitutor.ValidName t.name) (apart : (before.map (·.name)).Nodup)
      {fault : DefinitionFault} (here : s.Fault (before.map (·.name)) fault) :
      FirstFault d (.within ("declaration '" ++ d.name ++ "'") fault)

def declared (d : Draft σ) : Declaration σ :=
  ⟨d.name, d.sources, d.keyPrefix, d.hotReload, d.features, d.accessors, ⟨d.substitutors⟩, d.editors⟩

variable {d : Draft σ} {a : Accessor σ} {as : List (Accessor σ)} {earlier : List String} {fault : DefinitionFault}

private theorem accessorFault?_eq_some_iff : accessorFault? earlier a = some fault ↔ a.Fault earlier fault := by
  unfold accessorFault?
  simp only [Text.isBlankText_iff, List.contains_eq_mem, decide_eq_true_eq]
  constructor
  · intro faulty
    split at faulty
    · next blank =>
      obtain rfl := Option.some.inj faulty
      exact .unnamed blank
    · next named =>
      split at faulty
      · next blank =>
        obtain rfl := Option.some.inj faulty
        exact .unkeyed named blank
      · next keyed =>
        split at faulty
        · next empty =>
          obtain rfl := Option.some.inj faulty
          exact .unseparated named keyed empty
        · next separated =>
          split at faulty
          · next known =>
            obtain rfl := Option.some.inj faulty
            exact .again ⟨named, keyed, separated⟩ known
          · exact nomatch faulty
  · intro faulty
    cases faulty with
    | unnamed blank => rw [if_pos blank]
    | unkeyed named blank => rw [if_neg named, if_pos blank]
    | unseparated named keyed empty => rw [if_neg named, if_neg keyed, if_pos empty]
    | again complete known =>
      rw [if_neg complete.named, if_neg complete.keyed, if_neg complete.separated, if_pos known]

private theorem accessorFault?_eq_none_iff : accessorFault? earlier a = none ↔ a.IsComplete ∧ a.name ∉ earlier := by
  have no_fault : accessorFault? earlier a = none ↔ ∀ fault, ¬ a.Fault earlier fault := by
    simp only [← accessorFault?_eq_some_iff, Option.eq_none_iff_forall_ne_some, ne_eq]
  rw [no_fault]
  constructor
  · intro fine
    have named : ¬ Text.Blank a.name := fun blank => fine _ (.unnamed blank)
    have keyed : ¬ Text.Blank a.key := fun blank => fine _ (.unkeyed named blank)
    have separated : a.separator ≠ some "" := fun empty => fine _ (.unseparated named keyed empty)
    exact ⟨⟨named, keyed, separated⟩, fun known => fine _ (.again ⟨named, keyed, separated⟩ known)⟩
  · rintro ⟨complete, new⟩ fault faulty
    cases faulty with
    | unnamed blank => exact complete.named blank
    | unkeyed _ blank => exact complete.keyed blank
    | unseparated _ _ empty => exact complete.separated empty
    | again _ known => exact new known

private theorem accessorsFault?_cons_eq_none_iff : accessorsFault? earlier (a :: as) = none ↔
    accessorFault? earlier a = none ∧ accessorsFault? (a.name :: earlier) as = none := by
  rw [accessorsFault?]
  cases accessorFault? earlier a <;> simp

private theorem accessorsFault?_eq_none_iff :
    accessorsFault? earlier as = none ↔ (∀ a ∈ as, a.IsComplete ∧ a.name ∉ earlier) ∧ (as.map (·.name)).Nodup := by
  induction as generalizing earlier with
  | nil => simp [accessorsFault?]
  | cons a rest ih =>
    rw [accessorsFault?_cons_eq_none_iff, accessorFault?_eq_none_iff, ih, List.forall_mem_cons, List.map_cons,
      List.nodup_cons]
    simp only [List.mem_cons, not_or, List.mem_map, not_exists, not_and]
    -- What is new behind `a` is new to the earlier names and is not called as `a` is.
    constructor
    · rintro ⟨here, later, distinct⟩
      exact ⟨⟨here, fun b mem => ⟨(later b mem).1, (later b mem).2.2⟩⟩, fun b mem => (later b mem).2.1, distinct⟩
    · rintro ⟨⟨here, later⟩, apart, distinct⟩
      exact ⟨here, fun b mem => ⟨(later b mem).1, apart b mem, (later b mem).2⟩, distinct⟩

/-- The fault of the accessors is that of the first one that has one. -/
theorem accessorsFault?_eq_some_iff : accessorsFault? earlier as = some fault ↔
    ∃ before a after, as = before ++ a :: after ∧ accessorsFault? earlier before = none ∧
      accessorFault? ((before.map (·.name)).reverse ++ earlier) a = some fault := by
  constructor
  · intro faulty
    induction as generalizing earlier with
    | nil => exact nomatch faulty
    | cons first rest ih =>
      rw [accessorsFault?] at faulty
      split at faulty
      · next here =>
        obtain rfl := Option.some.inj faulty
        exact ⟨[], first, rest, rfl, rfl, here⟩
      · next fine =>
        obtain ⟨before, a, after, rfl, all_fine, here⟩ := ih faulty
        refine ⟨first :: before, a, after, rfl, accessorsFault?_cons_eq_none_iff.mpr ⟨fine, all_fine⟩, ?_⟩
        simpa using here
  · rintro ⟨before, a, after, rfl, fine, here⟩
    induction before generalizing earlier with
    | nil =>
      have here : accessorFault? earlier a = some fault := here
      simp only [List.nil_append, accessorsFault?, here]
    | cons first before ih =>
      obtain ⟨first_fine, rest_fine⟩ := accessorsFault?_cons_eq_none_iff.mp fine
      simp only [List.cons_append, accessorsFault?, first_fine]
      exact ih rest_fine (by simpa using here)

private theorem fault_reverse_iff : a.Fault earlier.reverse fault ↔ a.Fault earlier fault := by
  simp [← accessorFault?_eq_some_iff, accessorFault?]

private theorem any_zero_iff {settings : Option HotReload} :
    (settings.any fun h => h.intervalMillis = 0) = true ↔ ∃ h, settings = some h ∧ h.interval.inNanos = 0 := by
  simp [Option.any_eq_true, HotReload.inNanos_interval_eq_zero_iff]

private theorem any_zero_eq_false_iff {settings : Option HotReload} :
    (settings.any fun h => h.intervalMillis = 0) = false ↔ ∀ h, settings = some h → 0 < h.interval.inNanos := by
  rw [← Bool.not_eq_true, any_zero_iff]
  simp [Nat.pos_iff_ne_zero]

private theorem fault?_eq_none_iff :
    d.fault? = none ↔ ¬ Text.Blank d.name ∧ (∀ h, d.hotReload = some h → 0 < h.interval.inNanos) ∧
      (∀ a ∈ d.accessors, a.IsComplete) ∧ (d.accessors.map (·.name)).Nodup := by
  have accessors : accessorsFault? [] d.accessors = none ↔
      (∀ a ∈ d.accessors, a.IsComplete) ∧ (d.accessors.map (·.name)).Nodup := by
    simp [accessorsFault?_eq_none_iff]
  rw [← accessors, ← any_zero_eq_false_iff, ← Text.isBlankText_iff]
  unfold fault?
  cases Text.isBlankText d.name <;> cases d.hotReload.any fun h => h.intervalMillis = 0 <;> simp

private theorem fault?_eq_some_iff : d.fault? = some fault ↔
    (Text.Blank d.name ∧ fault = .emptyDeclarationName) ∨
      (¬ Text.Blank d.name ∧ (∃ h, d.hotReload = some h ∧ h.interval.inNanos = 0) ∧ fault = .zeroInterval) ∨
      (¬ Text.Blank d.name ∧ (∀ h, d.hotReload = some h → 0 < h.interval.inNanos) ∧
        accessorsFault? [] d.accessors = some fault) := by
  rw [← any_zero_eq_false_iff, ← any_zero_iff, ← Text.isBlankText_iff]
  unfold fault?
  cases Text.isBlankText d.name <;> cases d.hotReload.any fun h => h.intervalMillis = 0 <;> simp [eq_comm]

private theorem firstFault_of_fault? (faulty : d.fault? = some fault) : d.FirstFault fault := by
  rcases fault?_eq_some_iff.mp faulty with ⟨blank, rfl⟩ | ⟨named, ⟨h, reloads, zero⟩, rfl⟩ | ⟨named, timed, faulty⟩
  · exact .name blank
  · exact .interval named reloads zero
  · obtain ⟨before, a, after, split, fine, here⟩ := accessorsFault?_eq_some_iff.mp faulty
    rw [List.append_nil, accessorFault?_eq_some_iff, fault_reverse_iff] at here
    obtain ⟨complete, distinct⟩ := accessorsFault?_eq_none_iff.mp fine
    exact .accessor named timed split (fun b mem => (complete b mem).1) distinct here

/-- The fault of the substitutors is that of the first one that has one. -/
theorem ofList_eq_error_iff {entries : List (Substitutor σ)} :
    SubstitutorRegistry.ofList entries = .error fault ↔
      ∃ before s after, entries = before ++ s :: after ∧ (∀ t ∈ before, Substitutor.ValidName t.name) ∧
        (before.map (·.name)).Nodup ∧ s.Fault (before.map (·.name)) fault := by
  have here (before : List (Substitutor σ)) (s : Substitutor σ) : s.Fault (before.map (·.name)) fault ↔
      (SubstitutorRegistry.isValidName s.name = false ∧ fault = .invalidSubstitutor s.name) ∨
        (SubstitutorRegistry.isValidName s.name = true ∧ (∃ t ∈ before, t.name = s.name) ∧
          fault = .duplicateSubstitutor s.name) := by
    rw [← List.mem_map (f := fun t : Substitutor σ => t.name), ← Bool.not_eq_true, Substitutor.isValidName_iff]
    constructor
    · rintro (invalid | ⟨valid, known⟩)
      · exact .inl ⟨invalid, rfl⟩
      · exact .inr ⟨valid, known, rfl⟩
    · rintro (⟨invalid, rfl⟩ | ⟨valid, known, rfl⟩)
      · exact .invalid invalid
      · exact .again valid known
  simp only [SubstitutorRegistry.ofList_eq_error_iff, here, Substitutor.isValidName_iff]

/-- A draft is accepted if and only if it is well formed, and nothing in it is changed then. -/
theorem build_eq_ok_iff {decl : Declaration σ} : d.build = .ok decl ↔ d.IsWellFormed ∧ decl = d.declared := by
  have course : d.build = .ok decl ↔
      d.fault? = none ∧ ∃ r, SubstitutorRegistry.ofList d.substitutors = .ok r ∧
        decl = { d.declared with substitutors := r } := by
    unfold build declared
    cases d.fault? <;> cases SubstitutorRegistry.ofList d.substitutors <;> simp [eq_comm]
  rw [course, fault?_eq_none_iff]
  simp only [SubstitutorRegistry.ofList_eq_ok_iff, Substitutor.isValidName_iff]
  constructor
  · rintro ⟨⟨named, timed, complete, distinct⟩, _, ⟨valid, apart, rfl⟩, rfl⟩
    exact ⟨⟨named, timed, complete, distinct, valid, apart⟩, rfl⟩
  · rintro ⟨formed, rfl⟩
    exact ⟨⟨formed.named, formed.timed, formed.complete, formed.distinct⟩, ⟨d.substitutors⟩,
      ⟨formed.valid, formed.apart, rfl⟩, rfl⟩

theorem build_eq_error_iff {e : ConfigError} :
    d.build = .error e ↔ ∃ fault, d.FirstFault fault ∧ e = .definition fault := by
  have course : d.build = .error e ↔
      (∃ fault, d.fault? = some fault ∧ e = .definition fault) ∨
        (d.fault? = none ∧ ∃ fault, SubstitutorRegistry.ofList d.substitutors = .error fault ∧
          e = .definition (.within ("declaration '" ++ d.name ++ "'") fault)) := by
    unfold build ConfigError.within
    cases d.fault? <;> cases SubstitutorRegistry.ofList d.substitutors <;> simp [eq_comm]
  rw [course]
  constructor
  · rintro (⟨fault, faulty, rfl⟩ | ⟨fine, fault, refused, rfl⟩)
    · exact ⟨fault, firstFault_of_fault? faulty, rfl⟩
    · obtain ⟨named, timed, complete, distinct⟩ := fault?_eq_none_iff.mp fine
      obtain ⟨before, s, after, split, valid, apart, here⟩ := ofList_eq_error_iff.mp refused
      exact ⟨_, .substitutor named timed complete distinct split valid apart here, rfl⟩
  · rintro ⟨fault, first, rfl⟩
    -- Each kind of first fault is found by the check it belongs to, as those before it find nothing.
    cases first with
    | name blank => exact .inl ⟨_, fault?_eq_some_iff.mpr (.inl ⟨blank, rfl⟩), rfl⟩
    | interval named reloads zero =>
      exact .inl ⟨_, fault?_eq_some_iff.mpr (.inr (.inl ⟨named, ⟨_, reloads, zero⟩, rfl⟩)), rfl⟩
    | @accessor named timed before after a split complete distinct _ here =>
      refine .inl ⟨_, fault?_eq_some_iff.mpr (.inr (.inr ⟨named, timed, ?_⟩)), rfl⟩
      refine accessorsFault?_eq_some_iff.mpr ⟨before, a, after, split, ?_, ?_⟩
      · exact accessorsFault?_eq_none_iff.mpr ⟨fun b mem => ⟨complete b mem, List.not_mem_nil⟩, distinct⟩
      · rw [List.append_nil, accessorFault?_eq_some_iff, fault_reverse_iff]
        exact here
    | substitutor named timed complete distinct split valid apart here =>
      exact .inr ⟨fault?_eq_none_iff.mpr ⟨named, timed, complete, distinct⟩, _,
        ofList_eq_error_iff.mpr ⟨_, _, _, split, valid, apart, here⟩, rfl⟩

private theorem declared_accessor?_eq_some_iff (formed : d.IsWellFormed) {name : String} :
    d.declared.accessor? name = some a ↔ a ∈ d.accessors ∧ a.name = name := by
  constructor
  · intro found
    have named := List.find?_some found
    exact ⟨List.mem_of_find?_eq_some found, of_decide_eq_true named⟩
  · rintro ⟨mem, rfl⟩
    exact find?_of_distinct formed.distinct mem

inductive Call (σ : Type) where
  | sources (templates : List String)
  | policy (policy : LoadPolicy)
  | spec (spec : SourceSpec)
  | keyPrefix (keyPrefix : String)
  | reloading (mode : ReloadMode) (interval : Time.Duration)
  | hotReload (settings : Option HotReload)
  | expandVariables (enabled : Bool)
  | applyPrefix (enabled : Bool)
  | propertyEditors (enabled : Bool)
  | accessor (a : Accessor σ)
  | substitutor (s : Substitutor σ)
  | editor (t : Target) (edit : String → σ → Except Refusal Value × σ)

namespace Call

def accessor? : Call σ → Option (Accessor σ)
  | .accessor a => some a
  | _ => none

def substitutor? : Call σ → Option (Substitutor σ)
  | .substitutor s => some s
  | _ => none

def settings? : Call σ → Option (Option HotReload)
  | .reloading mode interval => some (some (.ofDuration mode interval))
  | .hotReload settings => some settings
  | _ => none

end Call

def take (d : Draft σ) : Call σ → Draft σ
  | .sources templates => d.addSources templates
  | .policy policy => d.withPolicy policy
  | .spec spec => d.withSpec spec
  | .keyPrefix keyPrefix => d.withPrefix keyPrefix
  | .reloading mode interval => d.reloading mode interval
  | .hotReload settings => d.withHotReload settings
  | .expandVariables enabled => d.expandVariables enabled
  | .applyPrefix enabled => d.applyPrefix enabled
  | .propertyEditors enabled => d.propertyEditors enabled
  | .accessor a => d.addAccessor a
  | .substitutor s => d.addSubstitutor s
  | .editor t edit => d.addEditor t edit

def ofCalls (name : String) (calls : List (Call σ)) : Draft σ := calls.foldl take (ofName name)

variable {call : Call σ} {calls : List (Call σ)}

private theorem take_name : (d.take call).name = d.name := by
  cases call <;> rfl

private theorem take_accessors : (d.take call).accessors = d.accessors ++ call.accessor?.toList := by
  cases call <;> first | rfl | exact (List.append_nil _).symm

private theorem take_substitutors : (d.take call).substitutors = d.substitutors ++ call.substitutor?.toList := by
  cases call <;> first | rfl | exact (List.append_nil _).symm

private theorem take_hotReload : (d.take call).hotReload = call.settings?.getD d.hotReload := by
  cases call <;> rfl

theorem foldl_take_name : (calls.foldl take d).name = d.name := by
  induction calls generalizing d with
  | nil => rfl
  | cons call rest ih => rw [List.foldl_cons, ih, take_name]

private theorem foldl_take_accessors :
    (calls.foldl take d).accessors = d.accessors ++ calls.filterMap Call.accessor? := by
  induction calls generalizing d with
  | nil => exact (List.append_nil _).symm
  | cons call rest ih =>
    rw [List.foldl_cons, ih, take_accessors, List.append_assoc, List.filterMap_cons]
    cases call.accessor? <;> rfl

private theorem foldl_take_substitutors :
    (calls.foldl take d).substitutors = d.substitutors ++ calls.filterMap Call.substitutor? := by
  induction calls generalizing d with
  | nil => exact (List.append_nil _).symm
  | cons call rest ih =>
    rw [List.foldl_cons, ih, take_substitutors, List.append_assoc, List.filterMap_cons]
    cases call.substitutor? <;> rfl

theorem foldl_take_hotReload :
    (calls.foldl take d).hotReload = ((calls.filterMap Call.settings?).getLast?).getD d.hotReload := by
  induction calls generalizing d with
  | nil => rfl
  | cons call rest ih =>
    rw [List.foldl_cons, ih, take_hotReload, List.filterMap_cons]
    cases call.settings? with
    | none => rfl
    | some settings =>
      rw [List.getLast?_cons]
      cases (rest.filterMap Call.settings?).getLast? <;> rfl

/-- The draft of some calls has the accessors and the substitutors of the calls in their order, and the settings of
the last call that set any.  It is accepted if and only if it is well formed.  Then the accessors are listed as
declared and each is found under its name, and no other.  Else the error is about its first fault. -/
theorem build_ofCalls (name : String) (calls : List (Call σ)) :
    let d := ofCalls name calls
    (d.name = name ∧ d.accessors = calls.filterMap Call.accessor? ∧
        d.substitutors = calls.filterMap Call.substitutor? ∧
        d.hotReload = (calls.filterMap Call.settings?).getLast?.join) ∧
      ((∃ decl, d.build = .ok decl) ↔ d.IsWellFormed) ∧
      (∀ decl, d.build = .ok decl → decl = d.declared ∧ decl.accessors = d.accessors ∧
        ∀ n a, decl.accessor? n = some a ↔ a ∈ d.accessors ∧ a.name = n) ∧
      ∀ e, d.build = .error e ↔ ∃ fault, d.FirstFault fault ∧ e = .definition fault := by
  intro d
  refine ⟨⟨foldl_take_name, foldl_take_accessors, foldl_take_substitutors, ?_⟩, ?_, ?_, fun e => build_eq_error_iff⟩
  · rw [show d.hotReload = _ from foldl_take_hotReload]
    cases (calls.filterMap Call.settings?).getLast? <;> rfl
  · constructor
    · rintro ⟨decl, built⟩
      exact (build_eq_ok_iff.mp built).1
    · intro formed
      exact ⟨d.declared, build_eq_ok_iff.mpr ⟨formed, rfl⟩⟩
  · intro decl built
    obtain ⟨formed, rfl⟩ := build_eq_ok_iff.mp built
    exact ⟨rfl, rfl, fun n a => declared_accessor?_eq_some_iff formed⟩

def twoFaults : List (Call Unit) :=
  [.accessor (.ofName "port"), .reloading .sync ⟨5, 0⟩,
    .accessor { (.ofName "list" : Accessor Unit) with separator := some "" }, .accessor (.ofName "port")]

theorem build_twoFaults :
    (ofCalls "app.Config" twoFaults).build = .error (.definition (.emptySeparator "list")) ∧
      ∃ decl, (ofCalls "app.Config" (twoFaults.take 2)).build = .ok decl := by
  have timed : ∀ h : HotReload, some (HotReload.ofDuration .sync ⟨5, 0⟩) = some h → 0 < h.interval.inNanos := by
    rintro h ⟨⟩
    decide
  have complete : ∀ a ∈ [(.ofName "port" : Accessor Unit)], a.IsComplete := by
    rintro a mem
    obtain rfl := List.mem_singleton.mp mem
    exact ⟨by decide, by decide, nofun⟩
  constructor
  · refine ((build_ofCalls "app.Config" twoFaults).2.2.2 _).mpr ⟨_, ?_, rfl⟩
    have split : (ofCalls "app.Config" twoFaults).accessors = [.ofName "port"] ++
        { (.ofName "list" : Accessor Unit) with separator := some "" } :: [.ofName "port"] := rfl
    exact .accessor (by decide) timed split complete (by decide) (.unseparated (by decide) (by decide) rfl)
  · exact (build_ofCalls "app.Config" (twoFaults.take 2)).2.1.mpr
      ⟨by decide, timed, complete, by decide, nofun, by decide⟩

end Draft
end LiveConfig
