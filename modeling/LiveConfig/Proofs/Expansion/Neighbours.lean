import LiveConfig.Proofs.Expansion.FreeRun

/-!
Texts side by side: what a text expands to does not depend on what stands before it.

The values that the text before leaves behind are those that its own expansion would come to.  There are two
exceptions.  A value that would lie too deep may have been kept nearer to the surface before.  And behind a text
that was cut at the length limit nothing follows, although there may be room for a few bytes.
-/
namespace LiveConfig

open Expander (Resolver)

variable {σ : Type} {e : Expander σ} {plugins : σ} {path : List String} {w v : Watch σ}

namespace Placeholder

private theorem closing?_append {passed cs inner : List Char} (more : List Char)
    (found : closing? passed cs = some inner) :
    closing? passed (cs ++ more) = some inner ∧ inner.length + 1 ≤ passed.length + cs.length := by
  induction cs generalizing passed with
  | nil => exact nomatch found
  | cons c cs ih =>
    simp only [closing?, List.cons_append] at found ⊢
    split at found
    · next closes =>
      obtain rfl := Option.some.inj found
      simp [closes]
    · next other =>
      rw [if_neg other]
      split at found
      · exact nomatch found
      · next inside =>
        rw [if_neg inside]
        obtain ⟨same, le⟩ := ih found
        simp only [List.length_cons] at le ⊢
        exact ⟨same, by omega⟩

/-- A placeholder ends within its text, and text behind it makes no difference. -/
private theorem inner?_append {c : Char} {cs inner : List Char} (more : List Char)
    (found : inner? (c :: cs) = some inner) :
    inner? (c :: (cs ++ more)) = some inner ∧ inner.length + 2 ≤ cs.length := by
  unfold inner? at found
  split at found
  · next d rest eq =>
    obtain ⟨rfl, rfl⟩ := List.cons.inj eq
    split at found
    · exact nomatch found
    · next inside =>
      obtain ⟨same, le⟩ := closing?_append more found
      simp only [List.length_cons, List.length_nil] at le ⊢
      refine ⟨?_, by omega⟩
      simp only [inner?, List.cons_append, if_neg inside]
      exact same
  · exact nomatch found

private theorem inner?_of_ne {c : Char} (cs : List Char) (other : c ≠ '$') : inner? (c :: cs) = none := by
  unfold inner?
  split
  · next eq => exact absurd (List.cons.inj eq).1 other
  · rfl

/-- What was passed as plain text is the beginning of some segment of plain text. -/
private theorem exists_plain_of_passed {c : Char} {plain : List Char} (mem : c ∈ plain) (skip : Nat) (cs : List Char) :
    ∃ run, .plain run ∈ scan skip plain cs ∧ c ∈ run := by
  have whole : ∀ backwards, c ∈ backwards → .plain backwards.reverse ∈ plainSegment backwards := by
    intro backwards inside
    unfold plainSegment
    rw [if_neg (by simpa using List.ne_nil_of_mem inside)]
    exact List.mem_singleton_self _
  induction cs generalizing skip plain with
  | nil => exact ⟨plain.reverse, whole plain mem, List.mem_reverse.mpr mem⟩
  | cons d cs ih =>
    cases skip with
    | succ skip => exact ih mem skip
    | zero =>
      simp only [scan]
      split
      · exact ⟨plain.reverse, List.mem_append_left _ (whole plain mem), List.mem_reverse.mpr mem⟩
      · exact ih (List.mem_cons_of_mem d mem) 0

end Placeholder

def Segment.isClosed : Segment → Bool
  | .plain cs => !cs.contains '$'
  | .placeholder _ => true

def Closed (value : String) : Prop := ∀ part ∈ segments value.toList, part.isClosed = true

instance (value : String) : Decidable (Closed value) :=
  inferInstanceAs (Decidable (∀ part ∈ segments value.toList, part.isClosed = true))

namespace Expander

open Placeholder Watch

variable {resolve : Resolver (Watch σ)}

/-- Plain text in front of the rest of a text. -/
private theorem fillWatched_scan_plain (never : NeverCut resolve) (plain cs : List Char) (unmet : w.IsFree) :
    fillWatched false resolve (scan 0 plain cs) "" w =
      (String.ofList plain.reverse ++ (fillWatched false resolve (segments cs) "" w).1,
        (fillWatched false resolve (segments cs) "" w).2) := by
  induction cs generalizing plain with
  | nil =>
    simp only [scan, segments]
    rw [← List.append_nil (plainSegment plain), fillWatched_plainSegment never plain [] unmet]
    simp [plainSegment, fillWatched_nil]
  | cons c cs ih =>
    unfold segments
    simp only [scan]
    split
    · next inner found =>
      rw [fillWatched_plainSegment never plain _ unmet]
      simp [plainSegment]
    · rw [ih (c :: plain), ih [c], List.reverse_cons, String.ofList_append, String.append_assoc]
      rfl

private theorem fillWatched_scan_append (never : NeverCut resolve) {skip : Nat} {plain as : List Char}
    (bs : List Char) (within : skip ≤ as.length)
    (closed : ∀ part ∈ scan skip plain as, part.isClosed = true) (unmet : w.IsFree) :
    let first := fillWatched false resolve (scan skip plain as) "" w
    let second := fillWatched false resolve (segments bs) "" first.2
    fillWatched false resolve (scan skip plain (as ++ bs)) "" w = (first.1 ++ second.1, second.2) := by
  induction as generalizing skip plain w with
  | nil =>
    obtain rfl : skip = 0 := Nat.le_zero.mp within
    simp only [List.nil_append, fillWatched_scan_plain never plain bs unmet,
      fillWatched_scan_plain never plain [] unmet]
    simp [segments, scan, plainSegment, fillWatched_nil]
  | cons c as ih =>
    cases skip with
    | succ skip => exact ih (Nat.le_of_succ_le_succ within) closed unmet
    | zero =>
      simp only [List.cons_append, scan] at closed ⊢
      cases found : inner? (c :: as) with
      | some inner =>
        obtain ⟨same, le⟩ := inner?_append bs found
        rw [found] at closed
        have later := fun w (unmet : IsFree w) => ih (w := w) le
          (fun part mem => closed part (List.mem_append_right _ (List.mem_cons_of_mem _ mem))) unmet
        have goes := never (String.ofList inner) w unmet
        simp only [same, fillWatched_plainSegment never plain _ unmet,
          fillWatched_placeholder never inner _ unmet, later _ goes.free, String.append_assoc]
      | none =>
        rw [found] at closed
        have other : c ≠ '$' := by
          rintro rfl
          obtain ⟨run, mem, inside⟩ := exists_plain_of_passed (List.mem_cons_self (l := plain)) 0 as
          have clear := closed _ mem
          simp [Segment.isClosed, inside] at clear
        rw [inner?_of_ne _ other]
        exact ih (Nat.zero_le _) closed unmet

/-- The second text goes on with what the first one left. -/
theorem watch_append (e : Expander σ) {a : String} (closed : Closed a) (b : String) (plugins : σ) :
    let first := e.watch false a plugins
    let second := fillWatched false (e.resolveWatched false maxExpansionDepth []) (segments b.toList) "" first.2
    e.watch false (a ++ b) plugins = (first.1 ++ second.1, second.2) := by
  dsimp only
  rw [watch_eq_fill, watch_eq_fill, String.toList_append]
  exact fillWatched_scan_append (e.neverCut_resolve maxExpansionDepth []) b.toList (Nat.zero_le _) closed
    (isFree_start plugins)

/-- Of two runs one keeps whatever the other one does, and if that one cuts or loses nothing on its way,
neither does this one. -/
structure Outdone (e : Expander σ) (w after v later : Watch σ) : Prop where
  keeps : ∀ key, after.Keeps key → later.Keeps key
  cuts : after.run.cuts = w.run.cuts → later.run.cuts = v.run.cuts
  losses : after.losses e = w.losses e → later.losses e = v.losses e

private theorem Outdone.keep {key : String} {after later : String × Watch σ} (given : Outdone e w after.2 v later.2) :
    Outdone e w
      (if after.2.run.cuts = w.run.cuts then
        { after.2 with run := { after.2.run with kept := (key, after.1) :: after.2.run.kept } }
      else after.2)
      v
      (if later.2.run.cuts = v.run.cuts then
        { later.2 with run := { later.2.run with kept := (key, later.1) :: later.2.run.kept } }
      else later.2) := by
  by_cases same : after.2.run.cuts = w.run.cuts
  · rw [if_pos same, if_pos (given.cuts same)]
    refine ⟨fun other keeps => ?_, given.cuts, given.losses⟩
    exact keeps_cons.mpr ((keeps_cons.mp keeps).imp_right (given.keeps other))
  · rw [if_neg same]
    split
    · exact ⟨fun other keeps => keeps_cons.mpr (.inr (given.keeps other keeps)), given.cuts, given.losses⟩
    · exact given

def Outdoes (e : Expander σ) (plugins : σ) (resolve : Resolver (Watch σ)) (inner : List Char) : Prop :=
  ∀ w v, w.Fit e plugins → v.Fit e plugins → (∀ key, w.Keeps key → v.Keeps key) →
    Outdone e w (resolve (String.ofList inner) w).2 v (resolve (String.ofList inner) v).2

private theorem fill_outdoes (never : NeverCut resolve) {parts : List Segment}
    (comes : ∀ inner, .placeholder inner ∈ parts → e.ResolvesTo plugins path resolve inner)
    (each : ∀ inner, .placeholder inner ∈ parts → e.Outdoes plugins resolve inner)
    (fit : w.Fit e plugins) (fit' : v.Fit e plugins) (more : ∀ key, w.Keeps key → v.Keeps key) :
    Outdone e w (fillWatched false resolve parts "" w).2 v (fillWatched false resolve parts "" v).2 := by
  induction parts generalizing w v with
  | nil => exact ⟨more, fun _ => rfl, fun _ => rfl⟩
  | cons part rest ih =>
    have comes_rest := fun inner mem => comes inner (List.mem_cons_of_mem part mem)
    have each_rest := fun inner mem => each inner (List.mem_cons_of_mem part mem)
    cases part with
    | plain cs =>
      rw [fillWatched_plain never cs rest fit.free, fillWatched_plain never cs rest fit'.free]
      exact ih comes_rest each_rest fit fit' more
    | placeholder inner =>
      rw [fillWatched_placeholder never inner rest fit.free, fillWatched_placeholder never inner rest fit'.free]
      have came := comes inner List.mem_cons_self w fit
      have came' := comes inner List.mem_cons_self v fit'
      have one := each inner List.mem_cons_self w v fit fit' more
      have two := ih comes_rest each_rest came.fit came'.fit one.keeps
      have came_rest := fill_comes never comes_rest came.fit
      have cuts := came.cuts
      have cuts_rest := came_rest.cuts
      have losses := came.losses
      have losses_rest := came_rest.losses
      refine ⟨two.keeps, fun same => ?_, fun same => ?_⟩
      · dsimp only at same ⊢
        rw [two.cuts (by omega), one.cuts (by omega)]
      · dsimp only at same ⊢
        rw [two.losses (by omega), one.losses (by omega)]

private theorem resolveWatched_of_kept {deeper : Nat} {inner text : String} (whole : w.run.overflowed = false)
    (call : e.call? inner = none) (kept : entryOf? inner w.run.kept = some text) :
    e.resolveWatched false deeper path inner w = (text, w) := by
  unfold resolveWatched
  simp only [whole, call, kept, Bool.false_eq_true, if_false]

private theorem resolve_outdoes_of_below (pure : e.substitutors.IsPure) {deeper : Nat} {inner : List Char}
    (leads : ∀ key ∈ e.keysIn [.placeholder inner], e.LeadsTo path key)
    (below : ∀ d raw, deeper = d + 1 → e.lookup? (String.ofList inner) = some raw →
      e.LeadsTo path (String.ofList inner) → ∀ i, .placeholder i ∈ segments raw.toList →
      e.ResolvesTo plugins (String.ofList inner :: path)
          (e.resolveWatched false d (String.ofList inner :: path)) i ∧
        e.Outdoes plugins (e.resolveWatched false d (String.ofList inner :: path)) i) :
    e.Outdoes plugins (e.resolveWatched false deeper path) inner := by
  intro w v fit fit' more
  cases call : e.call? (String.ofList inner) with
  | some found =>
    rw [resolveWatched_of_call? fit.free.whole call, resolveWatched_of_call? fit'.free.whole call]
    exact ⟨more, fun _ => rfl, fun _ => by simp [losses]⟩
  | none =>
    cases kept : entryOf? (String.ofList inner) v.run.kept with
    | some text =>
      -- The other run may expand the value; all that it keeps on the way was kept here with it.
      rw [resolveWatched_of_kept fit'.free.whole call kept]
      have came : Comes e plugins w _ _ _ := e.resolve_comes pure deeper leads w fit
      refine ⟨fun key keeps => ?_, fun _ => rfl, fun _ => rfl⟩
      rcases came.new key keeps with before | ⟨defined, source, mem, reached⟩
      · exact more key before
      · rw [keysIn_placeholder call] at mem
        obtain rfl := List.mem_singleton.mp mem
        exact fit'.reached ⟨text, kept⟩ reached defined
    | none =>
      have unkept : entryOf? (String.ofList inner) w.run.kept = none := by
        cases eq : entryOf? (String.ofList inner) w.run.kept with
        | none => rfl
        | some text =>
          obtain ⟨other, found⟩ := more _ ⟨text, eq⟩
          simp [kept] at found
      unfold resolveWatched
      simp only [fit.free.whole, fit'.free.whole, Bool.false_eq_true, if_false, call, kept, unkept]
      split
      · exact ⟨more, fun same => absurd same (Nat.succ_ne_self _), fun _ => rfl⟩
      · cases deeper with
        | zero =>
          refine ⟨more, fun same => absurd same (Nat.succ_ne_self _), fun same => ?_⟩
          simpa [losses, List.countP_cons] using same
        | succ d =>
          cases found : e.lookup? (String.ofList inner) with
          | none => exact ⟨more, fun _ => rfl, fun _ => by simp [losses]⟩
          | some raw =>
            rw [keysIn_placeholder call] at leads
            have inside := below d raw rfl found (leads _ (List.mem_singleton_self _))
            have never := e.neverCut_resolve d (String.ofList inner :: path)
            have asked : Fit e plugins (w.see (.lookedUp (String.ofList inner))) := fit.see (by simp)
            have asked' : Fit e plugins (v.see (.lookedUp (String.ofList inner))) := fit'.see (by simp)
            have given := fill_outdoes never (fun i mem => (inside i mem).1) (fun i mem => (inside i mem).2)
              asked asked' more
            rw [← expandTextWatched_eq_fill never raw asked.free,
              ← expandTextWatched_eq_fill never raw asked'.free] at given
            have unseen : Outdone e w (_ : String × Watch σ).2 v (_ : String × Watch σ).2 :=
              ⟨given.keeps, given.cuts, given.losses⟩
            exact unseen.keep

private theorem resolve_outdoes (pure : e.substitutors.IsPure) (deeper : Nat) {inner : List Char}
    (leads : ∀ key ∈ e.keysIn [.placeholder inner], e.LeadsTo path key) :
    e.Outdoes plugins (e.resolveWatched false deeper path) inner := by
  induction deeper generalizing path inner with
  | zero =>
    apply resolve_outdoes_of_below pure leads
    intro d raw eq
    exact nomatch eq
  | succ deeper ih =>
    apply resolve_outdoes_of_below pure leads
    intro d raw eq found onward i mem
    obtain rfl : deeper = d := Nat.succ.inj eq
    have leads_below : ∀ key ∈ e.keysIn [.placeholder i], e.LeadsTo (String.ofList inner :: path) key :=
      fun key inside => leadsTo_cons found (mem_keysIn_of_mem mem inside) onward
    exact ⟨resolve_comes pure deeper leads_below, ih leads_below⟩

/-- Without the length limit a text expands to the same after any other one, if on its own it loses nothing
for lying too deep. -/
private theorem watch_append_of_lossless (pure : e.substitutors.IsPure) {a b : String} (closed : Closed a)
    (lossless : (e.watch false b plugins).2.losses e = 0) :
    (e.watch false (a ++ b) plugins).1 = (e.watch false a plugins).1 ++ (e.watch false b plugins).1 := by
  have never := e.neverCut_resolve maxExpansionDepth []
  have leads : ∀ inner, ∀ key ∈ e.keysIn [.placeholder inner], e.LeadsTo [] key :=
    fun _ _ _ _ mem => nomatch mem
  have comes : ∀ inner, e.ResolvesTo plugins [] (e.resolveWatched false maxExpansionDepth []) inner :=
    fun inner => resolve_comes pure maxExpansionDepth (leads inner)
  have start := Watch.fit_start e plugins
  have first := fill_comes never (fun inner (_ : .placeholder inner ∈ segments a.toList) => comes inner) start
  have alone := fill_comes never (fun inner (_ : .placeholder inner ∈ segments b.toList) => comes inner) start
  have after := fill_comes never (fun inner (_ : .placeholder inner ∈ segments b.toList) => comes inner) first.fit
  have outdone := fill_outdoes never (fun inner (_ : .placeholder inner ∈ segments b.toList) => comes inner)
    (fun inner _ => resolve_outdoes pure maxExpansionDepth (leads inner)) start first.fit first.keeps
  rw [← e.watch_eq_fill a] at first after outdone
  rw [← e.watch_eq_fill b] at alone outdone
  rw [e.watch_append closed b plugins]
  have same := outdone.losses lossless
  rw [after.text same, alone.text lossless]

private theorem occursIn_eq_false_of_append_right {word as bs : List Char}
    (h : Text.occursIn word (as ++ bs) = false) : Text.occursIn word bs = false := by
  rw [Bool.eq_false_iff, Ne, Text.occursIn_iff] at h ⊢
  exact fun occurs => h (occurs.trans (List.suffix_append as bs).isInfix)

private theorem watch_of_unmarked (e : Expander σ) (capped : Bool) {value : String}
    (unmarked : Text.occursIn ['$', '\x7b'] value.toList = false) (plugins : σ) :
    (e.watch capped value plugins).1 = value := by
  unfold watch expandTextWatched
  rw [if_neg (Bool.eq_false_iff.mp unmarked)]

/-- An expansion that is not too long was cut at the limit or did not need to be. -/
theorem isLongestBeginning_expand {value : String}
    (short : (e.expand value plugins).text.utf8ByteSize ≤ maxExpandedSize) :
    IsLongestBeginning maxExpandedSize (e.watch false value plugins).1 (e.expand value plugins).text := by
  cases marked : Text.occursIn ['$', '\x7b'] value.toList with
  | true => exact e.isLongestBeginning_text marked plugins
  | false =>
    rw [e.expand_eq_watch] at short ⊢
    simp only [e.watch_of_unmarked _ marked] at short ⊢
    exact ⟨List.prefix_rfl, short, fun u begins _ => begins⟩

/-- Texts in which every dollar sign belongs to a placeholder expand side by side to what they expand to on
their own: the first one is not cut at the length limit, the second one loses nothing for lying too deep, and
together they keep the length limit. -/
theorem expand_append (e : Expander σ) (pure : e.substitutors.IsPure) {a b : String} (closed : Closed a)
    (plugins : σ) (lossless : ∀ key, .tooDeep key ∈ (e.watch false b plugins).2.seen → e.lookup? key = none)
    (uncut : (e.expand a plugins).text = (e.watch false a plugins).1)
    (short : (e.expand a plugins).text.utf8ByteSize + (e.expand b plugins).text.utf8ByteSize ≤ maxExpandedSize) :
    (e.expand (a ++ b) plugins).text = (e.expand a plugins).text ++ (e.expand b plugins).text := by
  have none_lost : (e.watch false b plugins).2.losses e = 0 := by
    refine List.countP_eq_zero.mpr fun sight seen loss => ?_
    cases sight with
    | tooDeep key => simp [lossless key seen] at loss
    | called | lookedUp | tooLong => exact nomatch loss
  have whole := watch_append_of_lossless pure closed none_lost
  have longest : IsLongestBeginning maxExpandedSize (e.watch false b plugins).1 (e.expand b plugins).text :=
    isLongestBeginning_expand (by omega)
  cases marked : Text.occursIn ['$', '\x7b'] (a ++ b).toList with
  | true =>
    have joined := e.isLongestBeginning_text marked plugins
    rw [whole, ← uncut] at joined
    exact joined.unique (longest.append_left short)
  | false =>
    -- Then the second text has no opening mark either, and nothing is cut.
    have behind : Text.occursIn ['$', '\x7b'] b.toList = false :=
      occursIn_eq_false_of_append_right (String.toList_append ▸ marked)
    rw [e.watch_of_unmarked false marked, e.watch_of_unmarked false behind, ← uncut] at whole
    have joined : (e.expand (a ++ b) plugins).text = a ++ b := by
      rw [e.expand_eq_watch, e.watch_of_unmarked true marked]
    have second : (e.expand b plugins).text = b := by
      rw [e.expand_eq_watch, e.watch_of_unmarked true behind]
    rw [joined, second]
    exact whole

/-- Two keys whose values refer to each other, met once from each side. -/
theorem mutualReferences_append :
    let before := mutualReferences.expand "$\x7bb\x7d" ()
    let behind := mutualReferences.expand "$\x7ba\x7d$\x7bhide:a\x7d" ()
    mutualReferences.substitutors.IsPure ∧ Closed "$\x7bb\x7d" ∧
      (∀ key, .tooDeep key ∈ (mutualReferences.watch false "$\x7ba\x7d$\x7bhide:a\x7d" ()).2.seen →
        mutualReferences.lookup? key = none) ∧
      before.text = (mutualReferences.watch false "$\x7bb\x7d" ()).1 ∧
      before.text.utf8ByteSize + behind.text.utf8ByteSize ≤ maxExpandedSize ∧
      (mutualReferences.expand ("$\x7bb\x7d" ++ "$\x7ba\x7d$\x7bhide:a\x7d") ()).text =
        before.text ++ behind.text := by
  have pure : mutualReferences.substitutors.IsPure := by
    intro s mem argument _ _
    rw [List.mem_singleton.mp mem]
  have closed : Closed "$\x7bb\x7d" := by decide +kernel
  have seen : (mutualReferences.watch false "$\x7ba\x7d$\x7bhide:a\x7d" ()).2.seen =
      [.called "hide" "a", .lookedUp "b", .lookedUp "a"] := by decide +kernel
  have lossless : ∀ key,
      .tooDeep key ∈ (mutualReferences.watch false "$\x7ba\x7d$\x7bhide:a\x7d" ()).2.seen →
        mutualReferences.lookup? key = none := by
    intro key mem
    rw [seen] at mem
    simp at mem
  have uncut : (mutualReferences.expand "$\x7bb\x7d" ()).text =
      (mutualReferences.watch false "$\x7bb\x7d" ()).1 := by decide +kernel
  have short : (mutualReferences.expand "$\x7bb\x7d" ()).text.utf8ByteSize +
      (mutualReferences.expand "$\x7ba\x7d$\x7bhide:a\x7d" ()).text.utf8ByteSize ≤ maxExpandedSize := by
    decide +kernel
  exact ⟨pure, closed, lossless, uncut, short,
    mutualReferences.expand_append pure closed () lossless uncut short⟩

def chain : Expander Unit where
  layers := [.ofList (("k33", "x") ::
    (List.range 33).map fun n => ("k" ++ toString n, "$\x7bk" ++ toString (n + 1) ++ "\x7d"))]
  substitutors := .empty

private theorem answering_pure (text : String) : (answering text).substitutors.IsPure := by
  intro s mem argument _ _
  rw [List.mem_singleton.mp mem]

private theorem watch_answering_once (text : String) :
    ((answering text).watch false "$\x7btell:a\x7d" ()).1 = text := by
  have parts : segments "$\x7btell:a\x7d".toList = [.placeholder "tell:a".toList] := by decide +kernel
  have call : (answering text).call? (String.ofList "tell:a".toList) = some (teller text, "a") := rfl
  rw [watch_eq_fill, parts, fillWatched_placeholder ((answering text).neverCut_resolve _ _) _ _ (isFree_start ()),
    resolveWatched_of_call? rfl call]
  simp [fillWatched_nil, teller]

/-- Behind a text that was cut nothing follows, although a byte is left. -/
theorem expand_behind_cut {text : String} (long : maxExpandedSize < text.utf8ByteSize) {cut : String}
    (longest : IsLongestBeginning maxExpandedSize text cut) :
    ((answering text).expand "$\x7btell:a\x7d" ()).text = cut ∧
      ((answering text).expand ("$\x7btell:a\x7d" ++ "x") ()).text = cut := by
  have marked : Text.occursIn ['$', '\x7b'] "$\x7btell:a\x7d".toList = true := by decide +kernel
  have marked' : Text.occursIn ['$', '\x7b'] ("$\x7btell:a\x7d" ++ "x").toList = true := by decide +kernel
  have closed : Closed "$\x7btell:a\x7d" := by decide +kernel
  have alone := (answering text).isLongestBeginning_text marked ()
  have followed := (answering text).isLongestBeginning_text marked' ()
  rw [watch_answering_once] at alone
  rw [(answering text).watch_append closed "x" ()] at followed
  dsimp only at followed
  rw [watch_answering_once] at followed
  exact ⟨alone.unique longest, followed.unique (longest.append_right long _)⟩

/-- The first key of the chain is too deep for the last one on its own, but not if the third one was expanded
before.  And what stands behind a text that was cut is lost. -/
theorem neighbours_matter :
    (chain.substitutors.IsPure ∧ Closed "$\x7bk2\x7d" ∧ Closed "$\x7bk0\x7d" ∧
      (chain.expand "$\x7bk2\x7d" ()).text = "x" ∧ (chain.expand "$\x7bk0\x7d" ()).text = "" ∧
      (chain.expand ("$\x7bk2\x7d" ++ "$\x7bk0\x7d") ()).text = "xx") ∧
    let long := answering (String.ofList (List.replicate 349526 '€'))
    long.substitutors.IsPure ∧ Closed "$\x7btell:a\x7d" ∧ Closed "x" ∧
      (long.expand "$\x7btell:a\x7d" ()).text.utf8ByteSize + (long.expand "x" ()).text.utf8ByteSize =
        maxExpandedSize ∧
      (long.expand ("$\x7btell:a\x7d" ++ "x") ()).text ≠
        (long.expand "$\x7btell:a\x7d" ()).text ++ (long.expand "x" ()).text := by
  have empty : chain.substitutors.IsPure := fun s mem => nomatch mem
  refine ⟨⟨empty, by decide +kernel, by decide +kernel, by decide +kernel, by decide +kernel, by decide +kernel⟩, ?_⟩
  have size : maxExpandedSize < (String.ofList (List.replicate 349526 '€')).utf8ByteSize := by
    rw [utf8ByteSize_replicate]
    decide
  have longest := isLongestBeginning_replicate (show 349525 ≤ 349526 by decide)
    (show 349525 * '€'.utf8Size ≤ maxExpandedSize by decide)
    (show maxExpandedSize < (349525 + 1) * '€'.utf8Size by decide)
  intro long
  obtain ⟨alone, followed⟩ := expand_behind_cut size longest
  have plain : (long.expand "x" ()).text = "x" := by
    rw [long.expand_eq_watch, long.watch_of_unmarked true (by decide +kernel)]
  refine ⟨answering_pure _, by decide +kernel, by decide +kernel, ?_, ?_⟩
  · rw [alone, plain, utf8ByteSize_replicate]
    decide
  · rw [alone, plain, followed]
    intro same
    have sizes := congrArg String.utf8ByteSize same
    rw [String.utf8ByteSize_append] at sizes
    exact absurd sizes (Nat.ne_of_lt (Nat.lt_add_of_pos_right (by decide)))

end Expander
end LiveConfig
