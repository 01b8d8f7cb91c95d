import LiveConfig.Proofs.Expansion.Recursion

/-!
Keeping expanded values is sound.

An expansion keeps a value when nothing was cut short below it, and then the references from its key
come to an end.  So no path that leads to the key meets them, and the key stands for the same wherever
it is met again, although other keys may stand for something else on every path.
-/
namespace LiveConfig

def SubstitutorRegistry.IsPure {σ : Type} (r : SubstitutorRegistry σ) : Prop :=
  ∀ s ∈ r.entries, ∀ argument plugins other, (s.apply argument plugins).1 = (s.apply argument other).1

namespace Placeholder

private theorem inner?_eq_none {c : Char} {cs : List Char} (h : ['$', '\x7b'].isPrefixOf (c :: cs) = false) :
    inner? (c :: cs) = none := by
  unfold inner?
  split
  · next eq =>
    obtain ⟨rfl, rfl⟩ := List.cons.inj eq
    simp [List.isPrefixOf] at h
  · rfl

theorem scan_of_unmarked {cs : List Char} (plain : List Char)
    (h : Text.occursIn ['$', '\x7b'] cs = false) :
    scan 0 plain cs = plainSegment (cs.reverse ++ plain) := by
  induction cs generalizing plain with
  | nil => rfl
  | cons c cs ih =>
    simp only [Text.occursIn, Bool.or_eq_false_iff] at h
    simp only [scan, inner?_eq_none h.1]
    rw [ih (c :: plain) h.2]
    simp

end Placeholder

namespace ExpansionRun

theorem limit_of_le {σ : Type} (r : ExpansionRun σ) {text : String}
    (short : text.utf8ByteSize ≤ maxExpandedSize) : r.limit text = (text, r) := by
  simp [limit, short]

end ExpansionRun

namespace Expander

variable {σ : Type} {e : Expander σ} {plugins : σ} {path : List String} {r : ExpansionRun σ}

theorem mem_entries_of_call? {inner argument : String} {s : Substitutor σ}
    (call : e.call? inner = some (s, argument)) : s ∈ e.substitutors.entries := by
  unfold call? at call
  split at call
  · exact nomatch call
  · obtain ⟨found, eq, same⟩ := Option.map_eq_some_iff.mp call
    obtain ⟨rfl, -⟩ := Prod.mk.inj same
    exact List.mem_of_find?_eq_some eq

private theorem spell_of_unmarked (e : Expander σ) (plugins : σ) (path : List String) {value : String}
    (h : Text.occursIn ['$', '\x7b'] value.toList = false) :
    e.spell plugins path (segments value.toList) = value ∧
      e.keysIn (segments value.toList) = [] := by
  have plain : segments value.toList = Placeholder.plainSegment value.toList.reverse := by
    unfold segments
    rw [Placeholder.scan_of_unmarked [] h, List.append_nil]
  rw [plain]
  unfold Placeholder.plainSegment
  split
  · next empty =>
    have : value = "" := by simpa using empty
    subst this
    exact ⟨spell_nil .., rfl⟩
  · rw [spell_plain, spell_nil, List.reverse_reverse, String.ofList_toList, String.append_empty]
    exact ⟨rfl, rfl⟩

/-- Nothing was cut off, and every value that is kept belongs to a grounded key and is what that stands
for, whatever path leads to it. -/
structure Sound (e : Expander σ) (plugins : σ) (r : ExpansionRun σ) : Prop where
  whole : r.overflowed = false
  kept : ∀ key text, entryOf? key r.kept = some text →
    e.Grounded key ∧ ∀ path, e.LeadsTo path key → text = e.standsFor plugins path key

structure Gives (e : Expander σ) (plugins : σ) (r : ExpansionRun σ) (text : String) (keys : List String)
    (result : String × ExpansionRun σ) : Prop where
  text : result.1 = text
  sound : e.Sound plugins result.2
  cuts : r.cuts ≤ result.2.cuts
  grounded : result.2.cuts = r.cuts → ∀ key ∈ keys, e.Grounded key

def Agrees (e : Expander σ) (plugins : σ) (path : List String)
    (resolve : String → ExpansionRun σ → String × ExpansionRun σ) (inner : List Char) : Prop :=
  ∀ r, e.Sound plugins r →
    (e.standsFor plugins path (String.ofList inner)).utf8ByteSize ≤ maxExpandedSize →
    e.Gives plugins r (e.standsFor plugins path (String.ofList inner)) (e.keysIn [.placeholder inner])
      (resolve (String.ofList inner) r)

private theorem fill_gives {resolve : String → ExpansionRun σ → String × ExpansionRun σ} {parts : List Segment}
    {out : String} (agrees : ∀ inner, .placeholder inner ∈ parts → e.Agrees plugins path resolve inner)
    (sound : e.Sound plugins r)
    (short : (out ++ e.spell plugins path parts).utf8ByteSize ≤ maxExpandedSize) :
    e.Gives plugins r (out ++ e.spell plugins path parts) (e.keysIn parts) (fill resolve parts out r) := by
  induction parts generalizing out r with
  | nil =>
    rw [spell_nil, String.append_empty] at short ⊢
    simp only [fill, r.limit_of_le short]
    exact ⟨rfl, sound, Nat.le_refl _, fun _ key mem => nomatch mem⟩
  | cons part rest ih =>
    have later : ∀ inner, .placeholder inner ∈ rest → e.Agrees plugins path resolve inner :=
      fun inner mem => agrees inner (List.mem_cons_of_mem _ mem)
    cases part with
    | plain cs =>
      rw [spell_plain, ← String.append_assoc] at short ⊢
      exact ih later sound short
    | placeholder inner =>
      rw [spell_placeholder, ← String.append_assoc] at short ⊢
      have here : (e.standsFor plugins path (String.ofList inner)).utf8ByteSize ≤ maxExpandedSize := by
        simp only [String.utf8ByteSize_append] at short
        omega
      have front : (out ++ e.standsFor plugins path (String.ofList inner)).utf8ByteSize ≤
          maxExpandedSize := by
        rw [String.utf8ByteSize_append] at short
        omega
      have first := agrees inner List.mem_cons_self r sound here
      have second := ih later first.sound short
      simp only [fill, first.text, ExpansionRun.limit_of_le _ front, first.sound.whole,
        Bool.false_eq_true, if_false]
      refine ⟨second.text, second.sound, Nat.le_trans first.cuts second.cuts, ?_⟩
      intro same key mem
      have cuts_first := first.cuts
      have cuts_second := second.cuts
      -- Cuts are only ever added, so if there are no more at the end, neither part made any.
      have split : key ∈ e.keysIn [.placeholder inner] ∨ key ∈ e.keysIn rest := by
        cases call : e.call? (String.ofList inner) <;> simp_all [keysIn]
      rcases split with mem | mem
      · exact first.grounded (by omega) key mem
      · exact second.grounded (by omega) key mem

private theorem expandText_gives {resolve : String → ExpansionRun σ → String × ExpansionRun σ} {value : String}
    (agrees : ∀ inner, .placeholder inner ∈ segments value.toList →
      e.Agrees plugins path resolve inner)
    (sound : e.Sound plugins r)
    (short : (e.spell plugins path (segments value.toList)).utf8ByteSize ≤ maxExpandedSize) :
    e.Gives plugins r (e.spell plugins path (segments value.toList))
      (e.keysIn (segments value.toList)) (expandText resolve value r) := by
  simp only [expandText]
  cases marked : Text.occursIn ['$', '\x7b'] value.toList with
  | true =>
    rw [if_pos rfl]
    rw [← String.empty_append (s := e.spell plugins path (segments value.toList))] at short ⊢
    exact fill_gives agrees sound short
  | false =>
    rw [if_neg Bool.false_ne_true]
    obtain ⟨same, none_there⟩ := e.spell_of_unmarked plugins path marked
    rw [same, none_there]
    exact ⟨rfl, sound, Nat.le_refl _, fun _ key mem => nomatch mem⟩

theorem Sound.keep {key text : String} (sound : e.Sound plugins r) (grounded : e.Grounded key)
    (leads : e.LeadsTo path key) (eq : text = e.standsFor plugins path key) :
    e.Sound plugins { r with kept := (key, text) :: r.kept } := by
  refine ⟨sound.whole, ?_⟩
  intro other value found
  by_cases same : key = other
  · subst same
    obtain rfl : text = value := by simpa [entryOf?] using found
    refine ⟨grounded, ?_⟩
    intro path' leads'
    rw [eq]
    exact grounded.standsFor_eq_of_leadsTo leads leads'
  · rw [entryOf?, if_neg same] at found
    exact sound.kept other value found

theorem keysIn_placeholder {inner : List Char} (call : e.call? (String.ofList inner) = none) :
    e.keysIn [.placeholder inner] = [String.ofList inner] := by
  simp [keysIn, call]

structure Within (e : Expander σ) (path : List String) (deeper : Nat) (parts : List Segment) : Prop where
  room : deeper + path.length = maxExpansionDepth
  shallow : e.Shallow path parts
  leads : ∀ key ∈ e.keysIn parts, e.LeadsTo path key

private theorem Within.below {deeper : Nat} {parts : List Segment} {key raw : String}
    (h : e.Within path (deeper + 1) parts) (mem : key ∈ e.keysIn parts) (fresh : key ∉ path)
    (found : e.lookup? key = some raw) : e.Within (key :: path) deeper (segments raw.toList) where
  room := by
    have := h.room
    simp only [List.length_cons]
    omega
  shallow := h.shallow.below mem fresh found
  leads next inside := leadsTo_cons found inside (h.leads key mem)

/-- At the greatest depth no key is left that has a value and is not on the path. -/
private theorem Within.lookup?_eq_none {parts : List Segment} {key : String} (h : e.Within path 0 parts)
    (mem : key ∈ e.keysIn parts) (fresh : key ∉ path) : e.lookup? key = none := by
  cases found : e.lookup? key with
  | none => rfl
  | some raw =>
    have le := h.shallow.below mem fresh found _ (.here _ _)
    have room := h.room
    simp only [List.length_cons] at le
    omega

private theorem resolve_gives_call {deeper : Nat} {inner : List Char} {s : Substitutor σ} {argument : String}
    (pure : e.substitutors.IsPure) (sound : e.Sound plugins r)
    (call : e.call? (String.ofList inner) = some (s, argument)) :
    e.Gives plugins r (e.standsFor plugins path (String.ofList inner)) (e.keysIn [.placeholder inner])
      (e.resolve deeper path (String.ofList inner) r) := by
  unfold resolve
  simp only [sound.whole, Bool.false_eq_true, if_false, call]
  rw [standsFor_of_call? call]
  have result := pure s (mem_entries_of_call? call) argument r.plugins plugins
  refine ⟨result, ⟨sound.whole, sound.kept⟩, Nat.le_refl _, fun _ key mem => ?_⟩
  simp [keysIn, call] at mem

/-- One step of the expansion agrees with the plain recursion if the expansion below it does. -/
private theorem resolve_agrees_of_below {deeper : Nat} {parts : List Segment} {inner : List Char}
    (pure : e.substitutors.IsPure) (within : e.Within path deeper parts) (mem : .placeholder inner ∈ parts)
    (below : ∀ d raw, deeper = d + 1 → String.ofList inner ∉ path →
      e.lookup? (String.ofList inner) = some raw → ∀ i, .placeholder i ∈ segments raw.toList →
      e.call? (String.ofList inner) = none →
      e.Agrees plugins (String.ofList inner :: path) (e.resolve d (String.ofList inner :: path)) i) :
    e.Agrees plugins path (e.resolve deeper path) inner := by
  intro r sound short
  cases call : e.call? (String.ofList inner) with
  | some found => exact resolve_gives_call pure sound call
  | none =>
    have key_mem := mem_keysIn mem call
    have leads := within.leads _ key_mem
    rw [keysIn_placeholder call]
    unfold resolve
    simp only [sound.whole, Bool.false_eq_true, if_false, call]
    split
    · next text kept =>
      -- The value was kept on another path; that is as good here since the key is grounded.
      obtain ⟨grounded, eq⟩ := sound.kept _ _ kept
      exact ⟨eq path leads, sound, Nat.le_refl _, fun _ key mem => List.mem_singleton.mp mem ▸ grounded⟩
    · split
      · next on_path =>
        -- A reference back into the path is a cut, so no key above it is kept.
        rw [standsFor_of_mem call (by simpa using on_path)]
        refine ⟨rfl, ⟨sound.whole, sound.kept⟩, Nat.le_succ _, ?_⟩
        intro same
        exact absurd same (Nat.succ_ne_self _)
      · next off_path =>
        have fresh : String.ofList inner ∉ path := by simpa using off_path
        cases deeper with
        | zero =>
          -- Nothing is lost here: with a value for this key the path would grow too long.
          rw [standsFor_of_lookup?_none call (within.lookup?_eq_none key_mem fresh)]
          refine ⟨rfl, ⟨sound.whole, sound.kept⟩, Nat.le_succ _, ?_⟩
          intro same
          exact absurd same (Nat.succ_ne_self _)
        | succ d =>
          cases found : e.lookup? (String.ofList inner) with
          | none =>
            rw [standsFor_of_lookup?_none call found]
            exact ⟨rfl, ⟨sound.whole, sound.kept⟩, Nat.le_refl _,
              fun _ key mem => List.mem_singleton.mp mem ▸ grounded_of_lookup?_none found⟩
          | some raw =>
            have value := standsFor_of_lookup? plugins call fresh found
            rw [value] at short
            have given := expandText_gives (fun i inside => below d raw rfl fresh found i inside call)
              sound short
            have grounded : (expandText (e.resolve d (String.ofList inner :: path)) raw r).2.cuts =
                r.cuts → e.Grounded (String.ofList inner) :=
              fun same => grounded_of_lookup? found (given.grounded same)
            simp only
            split
            · next same =>
              exact ⟨given.text.trans value.symm,
                given.sound.keep (grounded same) leads (given.text.trans value.symm), given.cuts,
                fun _ key mem => List.mem_singleton.mp mem ▸ grounded same⟩
            · next cut => exact ⟨given.text.trans value.symm, given.sound, given.cuts,
                fun same => absurd same cut⟩

private theorem resolve_agrees (pure : e.substitutors.IsPure) {deeper : Nat} {parts : List Segment}
    (within : e.Within path deeper parts) {inner : List Char} (mem : .placeholder inner ∈ parts) :
    e.Agrees plugins path (e.resolve deeper path) inner := by
  induction deeper generalizing path parts inner with
  | zero =>
    apply resolve_agrees_of_below pure within mem
    intro d raw eq
    exact nomatch eq
  | succ deeper ih =>
    apply resolve_agrees_of_below pure within mem
    intro d raw eq fresh found i inside call
    obtain rfl : deeper = d := Nat.succ.inj eq
    exact ih (within.below (mem_keysIn mem call) fresh found) inside

theorem sound_start : e.Sound plugins (.start plugins) :=
  ⟨rfl, fun _ _ found => nomatch found⟩

/-- Expansion with kept values agrees with the plain recursion, whatever cycles there are in the layers,
as long as the plain recursion stays within the limits: it never has more keys on its path than may be
nested, and its result is not too long. -/
theorem text_expand_eq_expandPlainly {e : Expander σ} {value : String} {plugins : σ}
    (pure : e.substitutors.IsPure) (shallow : e.Shallow [] (segments value.toList))
    (short : (e.expandPlainly value plugins).utf8ByteSize ≤ maxExpandedSize) :
    (e.expand value plugins).text = e.expandPlainly value plugins := by
  have within : e.Within [] maxExpansionDepth (segments value.toList) :=
    ⟨rfl, shallow, fun _ _ _ mem => nomatch mem⟩
  have given := expandText_gives (fun _ inside => resolve_agrees pure within inside) sound_start short
  exact given.text

def mutualReferences : Expander Unit where
  layers := [
    .ofList [("a", "$\x7bb\x7d"), ("b", "<$\x7ba\x7d>")],
    .ofList [("c", "$\x7bb\x7d$\x7ba\x7d$\x7bhide:a\x7d")]]
  substitutors := ⟨[⟨"hide", fun argument calls => (("*" ++ argument), calls)⟩]⟩

theorem text_expand_mutualReferences :
    let value := "$\x7bb\x7d$\x7ba\x7d$\x7bc\x7d"
    mutualReferences.substitutors.IsPure ∧ mutualReferences.Shallow [] (segments value.toList) ∧
      (mutualReferences.expandPlainly value ()).utf8ByteSize ≤ maxExpandedSize ∧
      (mutualReferences.expand value ()).text = "<><><><>*a" := by
  intro value
  have pure : mutualReferences.substitutors.IsPure := by
    intro s mem argument _ _
    rw [List.mem_singleton.mp mem]
  have shallow : mutualReferences.Shallow [] (segments value.toList) :=
    shallow_of_unvisited_le (by decide +kernel) _
  have plainly : mutualReferences.expandPlainly value () = "<><><><>*a" := by
    have raw_a : mutualReferences.lookup? "a" = some "$\x7bb\x7d" := by decide +kernel
    have raw_b : mutualReferences.lookup? "b" = some "<$\x7ba\x7d>" := by decide +kernel
    have raw_c : mutualReferences.lookup? "c" = some "$\x7bb\x7d$\x7ba\x7d$\x7bhide:a\x7d" := by
      decide +kernel
    have plain_a : mutualReferences.call? "a" = none := rfl
    have plain_b : mutualReferences.call? "b" = none := rfl
    have plain_c : mutualReferences.call? "c" = none := rfl
    have hidden : mutualReferences.call? "hide:a" =
        some (⟨"hide", fun argument calls => (("*" ++ argument), calls)⟩, "a") := rfl
    have parts_a : segments "$\x7bb\x7d".toList = [.placeholder ['b']] := rfl
    have parts_b : segments "<$\x7ba\x7d>".toList = [.plain ['<'], .placeholder ['a'], .plain ['>']] := rfl
    have parts_c : segments "$\x7bb\x7d$\x7ba\x7d$\x7bhide:a\x7d".toList =
        [.placeholder ['b'], .placeholder ['a'], .placeholder "hide:a".toList] := rfl
    have parts : segments "$\x7bb\x7d$\x7ba\x7d$\x7bc\x7d".toList =
        [.placeholder ['b'], .placeholder ['a'], .placeholder ['c']] := rfl
    unfold value expandPlainly
    rw [parts]
    simp [-String.reduceToList, standsFor, plain_a, plain_b, plain_c, hidden, raw_a, raw_b, raw_c, parts_a,
      parts_b, parts_c]
  have short : (mutualReferences.expandPlainly value ()).utf8ByteSize ≤ maxExpandedSize := by
    rw [plainly]
    decide +kernel
  refine ⟨pure, shallow, short, ?_⟩
  rw [text_expand_eq_expandPlainly pure shallow short]
  exact plainly

end Expander
end LiveConfig
