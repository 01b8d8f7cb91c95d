import LiveConfig.Proofs.Expansion.Limit

/-!
What an expansion without the length limit keeps, and what it comes to.

The keys whose values are kept are closed under references, and each of them is grounded.  A text is what
the plain recursion makes of it as long as no value on the way lay too deep, however many references were
cyclic.
-/
namespace LiveConfig

open Expander (Resolver)

variable {σ : Type} {e : Expander σ} {plugins : σ} {path : List String} {w : Watch σ}

namespace Watch

def Keeps (w : Watch σ) (key : String) : Prop := ∃ text, entryOf? key w.run.kept = some text

def isLoss (e : Expander σ) : Sight → Bool
  | .tooDeep key => (e.lookup? key).isSome
  | _ => false

@[simp] theorem isLoss_called (e : Expander σ) (name argument : String) :
    isLoss e (.called name argument) = false := rfl

@[simp] theorem isLoss_lookedUp (e : Expander σ) (key : String) : isLoss e (.lookedUp key) = false := rfl

@[simp] theorem isLoss_tooDeep (e : Expander σ) (key : String) :
    isLoss e (.tooDeep key) = (e.lookup? key).isSome := rfl

def losses (e : Expander σ) (w : Watch σ) : Nat := w.seen.countP (isLoss e)

structure Fit (e : Expander σ) (plugins : σ) (w : Watch σ) : Prop where
  free : w.IsFree
  sound : e.Sound plugins w.run
  defined : ∀ key, w.Keeps key → (e.lookup? key).isSome
  closed : ∀ key other, w.Keeps key → e.Refers key other → (e.lookup? other).isSome → w.Keeps other

structure Comes (e : Expander σ) (plugins : σ) (w : Watch σ) (text : String) (keys : List String)
    (result : String × Watch σ) : Prop where
  fit : result.2.Fit e plugins
  cuts : w.run.cuts ≤ result.2.run.cuts
  losses : w.losses e ≤ result.2.losses e
  lossless : result.2.run.cuts = w.run.cuts → result.2.losses e = w.losses e
  text : result.2.losses e = w.losses e → result.1 = text
  grounded : result.2.run.cuts = w.run.cuts → ∀ key ∈ keys,
    e.Grounded key ∧ ((e.lookup? key).isSome → result.2.Keeps key)
  keeps : ∀ key, w.Keeps key → result.2.Keeps key
  new : ∀ key, result.2.Keeps key → w.Keeps key ∨
    (e.lookup? key).isSome ∧ ∃ source ∈ keys, Relation.ReflTransGen e.Refers source key

theorem Fit.reached (fit : w.Fit e plugins) {key other : String} (kept : w.Keeps key)
    (reached : Relation.ReflTransGen e.Refers key other) (defined : (e.lookup? other).isSome) :
    w.Keeps other := by
  induction reached with
  | refl => exact kept
  | tail _ refers ih =>
    obtain ⟨raw, found, _⟩ := id refers
    exact fit.closed _ _ (ih (Option.isSome_of_eq_some found)) refers defined

private theorem IsFree.cons (free : w.IsFree) {run : ExpansionRun σ} {sight : Sight} (whole : run.overflowed = false)
    (other : sight ≠ .tooLong) : IsFree ⟨run, sight :: w.seen⟩ :=
  ⟨whole, by simp [free.unmet, other.symm]⟩

theorem Fit.see (fit : w.Fit e plugins) {sight : Sight} (other : sight ≠ .tooLong) :
    (w.see sight).Fit e plugins where
  free := fit.free.cons fit.free.whole other
  sound := fit.sound
  defined := fit.defined
  closed := fit.closed

private theorem Comes.refl (fit : w.Fit e plugins) {text : String} {keys : List String}
    (grounded : ∀ key ∈ keys, e.Grounded key ∧ ((e.lookup? key).isSome → w.Keeps key)) :
    w.Comes e plugins text keys (text, w) where
  fit
  cuts := Nat.le_refl _
  losses := Nat.le_refl _
  lossless _ := rfl
  text _ := rfl
  grounded _ := grounded
  keeps _ kept := kept
  new _ kept := .inl kept

private theorem Comes.of_kept_eq {after : Watch σ} {text result : String} {keys : List String}
    (fit : w.Fit e plugins) (free : after.IsFree) (kept : after.run.kept = w.run.kept)
    (cuts : w.run.cuts ≤ after.run.cuts) (losses : w.losses e ≤ after.losses e)
    (lossless : after.run.cuts = w.run.cuts → after.losses e = w.losses e)
    (eq : after.losses e = w.losses e → result = text)
    (grounded : after.run.cuts = w.run.cuts → ∀ key ∈ keys,
      e.Grounded key ∧ ((e.lookup? key).isSome → w.Keeps key)) :
    w.Comes e plugins text keys (result, after) := by
  have same : ∀ key, after.Keeps key ↔ w.Keeps key := fun key => by unfold Keeps; rw [kept]
  refine ⟨⟨free, ⟨free.whole, ?_⟩, ?_, ?_⟩, cuts, losses, lossless, eq, ?_, ?_, ?_⟩
  · rw [kept]
    exact fit.sound.kept
  · exact fun key keeps => fit.defined key ((same key).mp keeps)
  · exact fun key other keeps refers defined =>
      (same other).mpr (fit.closed key other ((same key).mp keeps) refers defined)
  · exact fun unchanged key mem => ⟨(grounded unchanged key mem).1,
      fun defined => (same key).mpr ((grounded unchanged key mem).2 defined)⟩
  · exact fun key => (same key).mpr
  · exact fun key keeps => .inl ((same key).mp keeps)

/-- One part after another. -/
private theorem Comes.append {text later : String} {keys more all : List String} {first second : String × Watch σ}
    (one : w.Comes e plugins text keys first) (two : first.2.Comes e plugins later more second)
    (mem : ∀ key, key ∈ all ↔ key ∈ keys ∨ key ∈ more) :
    w.Comes e plugins (text ++ later) all (first.1 ++ second.1, second.2) := by
  have cuts := one.cuts
  have cuts' := two.cuts
  have losses := one.losses
  have losses' := two.losses
  refine ⟨two.fit, Nat.le_trans cuts cuts', Nat.le_trans losses losses', ?_, ?_, ?_, ?_, ?_⟩
  · intro same
    dsimp only at same ⊢
    rw [two.lossless (by omega), one.lossless (by omega)]
  · intro same
    dsimp only at same ⊢
    rw [one.text (by omega), two.text (by omega)]
  · intro same key inside
    dsimp only at same ⊢
    rcases (mem key).mp inside with inside | inside
    · obtain ⟨grounded, keeps⟩ := one.grounded (by omega) key inside
      exact ⟨grounded, fun defined => two.keeps key (keeps defined)⟩
    · exact two.grounded (by omega) key inside
  · exact fun key keeps => two.keeps key (one.keeps key keeps)
  · intro key keeps
    rcases two.new key keeps with before | ⟨defined, source, inside, reached⟩
    · rcases one.new key before with before | ⟨defined, source, inside, reached⟩
      · exact .inl before
      · exact .inr ⟨defined, source, (mem source).mpr (.inl inside), reached⟩
    · exact .inr ⟨defined, source, (mem source).mpr (.inr inside), reached⟩

theorem fit_start (e : Expander σ) (plugins : σ) : (start plugins).Fit e plugins where
  free := Expander.isFree_start plugins
  sound := Expander.sound_start
  defined key := by rintro ⟨text, found⟩; exact nomatch found
  closed key other := by rintro ⟨text, found⟩; exact nomatch found

theorem keeps_cons {key other text : String} :
    Keeps { w with run := { w.run with kept := (key, text) :: w.run.kept } } other ↔
      other = key ∨ w.Keeps other := by
  unfold Keeps
  by_cases same : key = other
  · simp [entryOf?, same]
  · simp [entryOf?, same, Ne.symm same]

end Watch

namespace Expander

open Watch (Fit Comes)

def ResolvesTo (e : Expander σ) (plugins : σ) (path : List String) (resolve : Resolver (Watch σ))
    (inner : List Char) : Prop :=
  ∀ w, Fit e plugins w → Comes e plugins w (e.standsFor plugins path (String.ofList inner))
    (e.keysIn [.placeholder inner]) (resolve (String.ofList inner) w)

variable {resolve : Resolver (Watch σ)}

private theorem mem_keysIn_cons {part : Segment} {rest : List Segment} {key : String} :
    key ∈ e.keysIn (part :: rest) ↔ key ∈ e.keysIn [part] ∨ key ∈ e.keysIn rest := by
  cases part with
  | plain cs => simp [keysIn]
  | placeholder inner => cases call : e.call? (String.ofList inner) <;> simp [keysIn, call]

theorem mem_keysIn_of_mem {part : Segment} {parts : List Segment} {key : String} (mem : part ∈ parts)
    (inside : key ∈ e.keysIn [part]) : key ∈ e.keysIn parts := by
  induction parts with
  | nil => exact nomatch mem
  | cons first rest ih =>
    rcases List.mem_cons.mp mem with rfl | mem
    · exact mem_keysIn_cons.mpr (.inl inside)
    · exact mem_keysIn_cons.mpr (.inr (ih mem))

theorem fillWatched_nil : fillWatched false resolve [] "" w = ("", w) := rfl

theorem fillWatched_plain (never : NeverCut resolve) (cs : List Char) (rest : List Segment)
    (unmet : w.IsFree) : fillWatched false resolve (.plain cs :: rest) "" w =
      (String.ofList cs ++ (fillWatched false resolve rest "" w).1,
        (fillWatched false resolve rest "" w).2) := by
  rw [fillWatched, String.empty_append, fillWatched_free_eq never rest _ unmet]

theorem fillWatched_placeholder (never : NeverCut resolve) (inner : List Char) (rest : List Segment)
    (unmet : w.IsFree) :
    let first := resolve (String.ofList inner) w
    fillWatched false resolve (.placeholder inner :: rest) "" w =
      (first.1 ++ (fillWatched false resolve rest "" first.2).1,
        (fillWatched false resolve rest "" first.2).2) := by
  have goes := never (String.ofList inner) w unmet
  simp only [fillWatched, Watch.limit, Bool.false_eq_true, if_false, goes.free.whole, String.empty_append]
  rw [fillWatched_free_eq never rest _ goes.free]

theorem fill_comes (never : NeverCut resolve) {parts : List Segment}
    (each : ∀ inner, .placeholder inner ∈ parts → e.ResolvesTo plugins path resolve inner)
    (fit : w.Fit e plugins) :
    w.Comes e plugins (e.spell plugins path parts) (e.keysIn parts) (fillWatched false resolve parts "" w) := by
  induction parts generalizing w with
  | nil =>
    rw [spell_nil]
    exact .refl fit fun key mem => nomatch mem
  | cons part rest ih =>
    have later := fun inner mem => each inner (List.mem_cons_of_mem part mem)
    cases part with
    | plain cs =>
      rw [fillWatched_plain never cs rest fit.free, spell_plain]
      have one : w.Comes e plugins (String.ofList cs) [] (String.ofList cs, w) :=
        .refl fit fun key mem => nomatch mem
      exact one.append (ih later fit) fun key => by simp [keysIn]
    | placeholder inner =>
      rw [fillWatched_placeholder never inner rest fit.free, spell_placeholder]
      have one := each inner List.mem_cons_self w fit
      exact one.append (ih later one.fit) fun key => mem_keysIn_cons

theorem fillWatched_plainSegment (never : NeverCut resolve) (backwards : List Char) (rest : List Segment)
    (unmet : w.IsFree) :
    fillWatched false resolve (Placeholder.plainSegment backwards ++ rest) "" w =
      (String.ofList backwards.reverse ++ (fillWatched false resolve rest "" w).1,
        (fillWatched false resolve rest "" w).2) := by
  unfold Placeholder.plainSegment
  split
  · next empty =>
    rw [List.isEmpty_iff.mp empty]
    simp
  · exact fillWatched_plain never backwards.reverse rest unmet

/-- Without the limit it makes no difference whether a text has an opening mark. -/
theorem expandTextWatched_eq_fill (never : NeverCut resolve) (value : String) (unmet : w.IsFree) :
    expandTextWatched false resolve value w = fillWatched false resolve (segments value.toList) "" w := by
  unfold expandTextWatched
  dsimp only
  split
  · rfl
  · next unmarked =>
    have plain : segments value.toList = Placeholder.plainSegment value.toList.reverse ++ [] := by
      unfold segments
      rw [Placeholder.scan_of_unmarked [] (Bool.eq_false_iff.mpr unmarked), List.append_nil, List.append_nil]
    rw [plain, fillWatched_plainSegment never _ [] unmet]
    simp [fillWatched_nil]

theorem watch_eq_fill (e : Expander σ) (value : String) (plugins : σ) :
    e.watch false value plugins = fillWatched false (e.resolveWatched false maxExpansionDepth [])
      (segments value.toList) "" (.start plugins) :=
  expandTextWatched_eq_fill (e.neverCut_resolve maxExpansionDepth []) value (isFree_start plugins)

/-- The value of a key, with what is kept afterwards. -/
theorem expanded_comes {inner : List Char} {raw : String} {result : String × Watch σ}
    (leads : e.LeadsTo path (String.ofList inner)) (call : e.call? (String.ofList inner) = none) (fresh : String.ofList inner ∉ path)
    (found : e.lookup? (String.ofList inner) = some raw)
    (given : Comes e plugins (w.see (.lookedUp (String.ofList inner)))
      (e.spell plugins (String.ofList inner :: path) (segments raw.toList))
      (e.keysIn (segments raw.toList)) result) :
    Comes e plugins w (e.standsFor plugins path (String.ofList inner)) [String.ofList inner]
      (result.1,
        if result.2.run.cuts = w.run.cuts then
          { result.2 with run := { result.2.run with kept := (String.ofList inner, result.1) :: result.2.run.kept } }
        else result.2) := by
  have value := standsFor_of_lookup? plugins call fresh found
  have new : ∀ key, result.2.Keeps key → w.Keeps key ∨ (e.lookup? key).isSome ∧
      ∃ source ∈ [String.ofList inner], Relation.ReflTransGen e.Refers source key := by
    intro key keeps
    rcases given.new key keeps with before | ⟨defined, source, inside, reached⟩
    · exact .inl before
    · exact .inr ⟨defined, String.ofList inner, List.mem_singleton_self _,
        .head ⟨raw, found, inside⟩ reached⟩
  split
  · next same =>
    -- Nothing was cut, so the value is right, and it refers to keys that are kept or have no value.
    have eq : result.1 = e.standsFor plugins path (String.ofList inner) := by
      rw [value]
      exact given.text (given.lossless same)
    have below := given.grounded same
    have grounded : e.Grounded (String.ofList inner) :=
      grounded_of_lookup? found fun key mem => (below key mem).1
    refine ⟨⟨⟨given.fit.free.whole, given.fit.free.unmet⟩, given.fit.sound.keep grounded leads eq, ?_, ?_⟩,
      given.cuts, given.losses, given.lossless, fun _ => eq, ?_, ?_, ?_⟩
    · intro key keeps
      rcases Watch.keeps_cons.mp keeps with rfl | keeps
      · exact Option.isSome_of_eq_some found
      · exact given.fit.defined key keeps
    · intro key other keeps refers defined
      rcases Watch.keeps_cons.mp keeps with rfl | keeps
      · obtain ⟨raw', found', mem⟩ := refers
        obtain rfl : raw = raw' := Option.some.inj (found.symm.trans found')
        exact Watch.keeps_cons.mpr (.inr ((below other mem).2 defined))
      · exact Watch.keeps_cons.mpr (.inr (given.fit.closed key other keeps refers defined))
    · intro _ key mem
      obtain rfl := List.mem_singleton.mp mem
      exact ⟨grounded, fun _ => Watch.keeps_cons.mpr (.inl rfl)⟩
    · exact fun key keeps => Watch.keeps_cons.mpr (.inr (given.keeps key keeps))
    · intro key keeps
      rcases Watch.keeps_cons.mp keeps with rfl | keeps
      · exact .inr ⟨Option.isSome_of_eq_some found, _, List.mem_singleton_self _, .refl⟩
      · exact new key keeps
  · next cut =>
    exact ⟨given.fit, given.cuts, given.losses, given.lossless, fun same => value ▸ given.text same,
      fun same => absurd same cut, given.keeps, new⟩

private theorem resolve_comes_of_below (pure : e.substitutors.IsPure) {deeper : Nat} {inner : List Char}
    (leads : ∀ key ∈ e.keysIn [.placeholder inner], e.LeadsTo path key)
    (below : ∀ d raw, deeper = d + 1 → e.lookup? (String.ofList inner) = some raw →
      ∀ i, .placeholder i ∈ segments raw.toList → e.LeadsTo path (String.ofList inner) →
      e.ResolvesTo plugins (String.ofList inner :: path)
        (e.resolveWatched false d (String.ofList inner :: path)) i) :
    e.ResolvesTo plugins path (e.resolveWatched false deeper path) inner := by
  intro w fit
  have free := fit.free
  cases call : e.call? (String.ofList inner) with
  | some found =>
    obtain ⟨s, argument⟩ := found
    rw [resolveWatched_of_call? free.whole call, standsFor_of_call? call]
    refine .of_kept_eq fit (free.cons free.whole (by simp)) rfl (Nat.le_refl _) ?_ ?_ ?_ ?_
    · simp [Watch.losses]
    · simp [Watch.losses]
    · exact fun _ => pure s (mem_entries_of_call? call) argument w.run.plugins plugins
    · intro _ key mem
      simp [keysIn, call] at mem
  | none =>
    rw [keysIn_placeholder call] at leads ⊢
    have leads := leads _ (List.mem_singleton_self _)
    unfold resolveWatched
    simp only [free.whole, Bool.false_eq_true, if_false, call]
    split
    · next text kept =>
      obtain ⟨grounded, eq⟩ := fit.sound.kept _ _ kept
      rw [eq path leads]
      refine .refl fit fun key mem => ?_
      obtain rfl := List.mem_singleton.mp mem
      exact ⟨grounded, fun _ => ⟨text, kept⟩⟩
    · split
      · next on_path =>
        rw [standsFor_of_mem call (by simpa using on_path)]
        exact .of_kept_eq fit ⟨free.whole, free.unmet⟩ rfl (Nat.le_succ _) (Nat.le_refl _)
          (fun _ => rfl) (fun _ => rfl) fun same => absurd same (Nat.succ_ne_self _)
      · next off_path =>
        have fresh : String.ofList inner ∉ path := by simpa using off_path
        cases deeper with
        | zero =>
          refine .of_kept_eq fit (free.cons free.whole (by simp)) rfl (Nat.le_succ _) ?_
            (fun same => absurd same (Nat.succ_ne_self _)) ?_ fun same => absurd same (Nat.succ_ne_self _)
          · simp [Watch.losses, List.countP_cons]
          · intro same
            have missing : e.lookup? (String.ofList inner) = none := by
              cases found : e.lookup? (String.ofList inner) with
              | none => rfl
              | some raw => simp [Watch.losses, found] at same
            rw [standsFor_of_lookup?_none call missing]
        | succ d =>
          cases found : e.lookup? (String.ofList inner) with
          | none =>
            rw [standsFor_of_lookup?_none call found]
            refine .of_kept_eq fit (free.cons free.whole (by simp)) rfl (Nat.le_refl _) ?_ ?_ (fun _ => rfl) ?_
            · simp [Watch.losses]
            · simp [Watch.losses]
            · intro _ key mem
              obtain rfl := List.mem_singleton.mp mem
              exact ⟨grounded_of_lookup?_none found, fun defined => by simp [found] at defined⟩
          | some raw =>
            have asked : Fit e plugins (w.see (.lookedUp (String.ofList inner))) := fit.see (by simp)
            have never := e.neverCut_resolve d (String.ofList inner :: path)
            have given := fill_comes never (fun i inside => below d raw rfl found i inside leads) asked
            rw [← expandTextWatched_eq_fill never raw asked.free] at given
            exact expanded_comes leads call fresh found given

theorem resolve_comes (pure : e.substitutors.IsPure) (deeper : Nat) {inner : List Char}
    (leads : ∀ key ∈ e.keysIn [.placeholder inner], e.LeadsTo path key) :
    e.ResolvesTo plugins path (e.resolveWatched false deeper path) inner := by
  induction deeper generalizing path inner with
  | zero =>
    apply resolve_comes_of_below pure leads
    intro d raw eq
    exact nomatch eq
  | succ deeper ih =>
    apply resolve_comes_of_below pure leads
    intro d raw eq found i mem onward
    obtain rfl : deeper = d := Nat.succ.inj eq
    exact ih fun key inside => leadsTo_cons found (mem_keysIn_of_mem mem inside) onward

end Expander
end LiveConfig
