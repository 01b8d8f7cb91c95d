import LiveConfig.Proofs.Expansion.Truncation
import LiveConfig.Proofs.Expansion.Watching

/-!
The length limit cuts an expansion and does not change it.

Texts are cut at every level by themselves, with other text in front of them each time.  The expansion with
the limit goes on like the one without until a text proves too long at some level.  From then on nothing is
asked for, and what each level above has is the longest beginning of what it would have had.
-/
namespace LiveConfig

open Expander (Resolver)

variable {σ : Type}

namespace Watch

structure IsFree (w : Watch σ) : Prop where
  whole : w.run.overflowed = false
  unmet : .tooLong ∉ w.seen

structure GoesFree (w after : Watch σ) : Prop where
  free : after.IsFree
  seen : w.seen <:+ after.seen

variable {w middle after : Watch σ}

private theorem GoesFree.refl (free : w.IsFree) : w.GoesFree w := ⟨free, List.suffix_rfl⟩

private theorem GoesFree.trans (first : w.GoesFree middle) (second : middle.GoesFree after) : w.GoesFree after :=
  ⟨second.free, first.seen.trans second.seen⟩

private theorem GoesFree.seeing {sight : Sight} (free : w.IsFree) (whole : after.run.overflowed = false)
    (seen : after.seen = sight :: w.seen) (other : sight ≠ .tooLong) : w.GoesFree after := by
  refine ⟨⟨whole, ?_⟩, ?_⟩
  · rw [seen, List.mem_cons, not_or]
    exact ⟨other.symm, free.unmet⟩
  · rw [seen]
    exact List.suffix_cons _ _

private theorem limit_of_le {text : String} (short : text.utf8ByteSize ≤ maxExpandedSize) :
    w.limit true text = (text, w) := by
  unfold limit
  rw [if_pos rfl, w.run.limit_of_le short]
  simp

/-- The first text that is too long. -/
private theorem limit_of_lt {text : String} (long : maxExpandedSize < text.utf8ByteSize)
    (whole : w.run.overflowed = false) :
    (w.limit true text).1 = truncated maxExpandedSize text ∧
      (w.limit true text).2.run.overflowed = true ∧ (w.limit true text).2.seen = .tooLong :: w.seen := by
  unfold limit ExpansionRun.limit
  rw [if_pos rfl, if_neg (Nat.not_le.mpr long)]
  simp [whole]

/-- After the first one nothing more is seen, however long the texts above it are. -/
private theorem limit_of_overflowed (text : String) (beyond : w.run.overflowed = true) :
    (w.limit true text).1 = truncated maxExpandedSize text ∧
      (w.limit true text).2.run.overflowed = true ∧ (w.limit true text).2.seen = w.seen := by
  unfold limit ExpansionRun.limit
  rw [if_pos rfl]
  by_cases short : text.utf8ByteSize ≤ maxExpandedSize
  · rw [if_pos short]
    exact ⟨(truncated_of_le short).symm, beyond, by simp [beyond]⟩
  · rw [if_neg short]
    exact ⟨rfl, rfl, by simp [beyond]⟩

end Watch

namespace Expander

open Watch (IsFree GoesFree)

def NeverCut (resolve : Resolver (Watch σ)) : Prop :=
  ∀ inner (w : Watch σ), w.IsFree → w.GoesFree (resolve inner w).2

variable {resolve free capped : Resolver (Watch σ)} {w : Watch σ}

/-- Without the limit the text written so far makes no difference to what follows. -/
theorem fillWatched_free_eq (never : NeverCut resolve) (parts : List Segment) (out : String)
    (unmet : w.IsFree) :
    fillWatched false resolve parts out w =
      (out ++ (fillWatched false resolve parts "" w).1, (fillWatched false resolve parts "" w).2) := by
  induction parts generalizing out w with
  | nil => simp [fillWatched, Watch.limit]
  | cons part rest ih =>
    cases part with
    | plain cs =>
      simp only [fillWatched, String.empty_append]
      rw [ih (out ++ String.ofList cs) unmet, ih (String.ofList cs) unmet, String.append_assoc]
    | placeholder inner =>
      have goes := never (String.ofList inner) w unmet
      simp only [fillWatched, Watch.limit, Bool.false_eq_true, if_false, goes.free.whole,
        String.empty_append]
      generalize resolve (String.ofList inner) w = result at goes
      rw [ih (out ++ result.1) goes.free, ih result.1 goes.free, String.append_assoc]

private theorem goesFree_fill (never : NeverCut resolve) (parts : List Segment) :
    NeverCut (fillWatched false resolve parts) := by
  intro out w unmet
  induction parts generalizing out w with
  | nil => exact .refl unmet
  | cons part rest ih =>
    cases part with
    | plain cs => exact ih _ w unmet
    | placeholder inner =>
      have goes := never (String.ofList inner) w unmet
      simp only [fillWatched, Watch.limit, Bool.false_eq_true, if_false, goes.free.whole]
      exact goes.trans (ih _ _ goes.free)

private theorem goesFree_expandText (never : NeverCut resolve) : NeverCut (expandTextWatched false resolve) := by
  intro value w unmet
  unfold expandTextWatched
  dsimp only
  split
  · exact goesFree_fill never _ _ w unmet
  · exact .refl unmet

theorem neverCut_resolve (e : Expander σ) (deeper : Nat) (path : List String) :
    NeverCut (e.resolveWatched false deeper path) := by
  induction deeper generalizing path with
  | zero =>
    intro inner w unmet
    unfold resolveWatched
    simp only [unmet.whole, Bool.false_eq_true, if_false]
    split
    · exact .seeing unmet unmet.whole rfl (by simp)
    · split
      · exact .refl unmet
      · split
        · exact ⟨⟨unmet.whole, unmet.unmet⟩, List.suffix_rfl⟩
        · exact .seeing unmet unmet.whole rfl (by simp)
  | succ deeper ih =>
    intro inner w unmet
    unfold resolveWatched
    simp only [unmet.whole, Bool.false_eq_true, if_false]
    split
    · exact .seeing unmet unmet.whole rfl (by simp)
    · split
      · exact .refl unmet
      · split
        · exact ⟨⟨unmet.whole, unmet.unmet⟩, List.suffix_rfl⟩
        · split
          · exact .seeing unmet unmet.whole rfl (by simp)
          · next raw _ =>
            have asked : w.GoesFree (w.see (.lookedUp inner)) := .seeing unmet unmet.whole rfl (by simp)
            have goes := goesFree_expandText (ih (inner :: path)) raw _ asked.free
            split
            · exact asked.trans ⟨⟨goes.free.whole, goes.free.unmet⟩, goes.seen⟩
            · exact asked.trans goes

theorem resolveWatched_of_call? {e : Expander σ} {limited : Bool} {deeper : Nat} {path : List String}
    {inner argument : String} {s : Substitutor σ} (whole : w.run.overflowed = false)
    (call : e.call? inner = some (s, argument)) :
    e.resolveWatched limited deeper path inner w =
      ((s.apply argument w.run.plugins).1,
        ⟨{ w.run.note (callLine s argument) with plugins := (s.apply argument w.run.plugins).2 },
          .called s.name argument :: w.seen⟩) := by
  unfold resolveWatched
  simp only [whole, call, Bool.false_eq_true, if_false]

/-- How the results with and without the limit belong together: they are the same, or a text proved too long
and the sights up to then are the same. -/
inductive Matches (free capped : String × Watch σ) : Prop where
  | alike (same : capped = free)
  | cut (before : List Sight) (long : maxExpandedSize < free.1.utf8ByteSize)
      (text : capped.1 = truncated maxExpandedSize free.1) (beyond : capped.2.run.overflowed = true)
      (seen : capped.2.seen = .tooLong :: before) (begins : before <:+ free.2.seen)

/-- A level at which a text proved too long, with whatever would have followed. -/
private theorem matches_of_cut (never : NeverCut free) (parts : List Segment) {out : String} (unmet : w.IsFree)
    {before : List Sight} {result : String × Watch σ} (long : maxExpandedSize < out.utf8ByteSize)
    (text : result.1 = truncated maxExpandedSize out) (beyond : result.2.run.overflowed = true)
    (seen : result.2.seen = .tooLong :: before) (begins : before <:+ w.seen) :
    Matches (fillWatched false free parts out w) result ∧ result.1.utf8ByteSize ≤ maxExpandedSize := by
  have later := goesFree_fill never parts "" w unmet
  rw [fillWatched_free_eq never parts out unmet]
  refine ⟨.cut before ?_ ?_ beyond seen (begins.trans later.seen), ?_⟩
  · rw [String.utf8ByteSize_append]
    omega
  · rw [truncated_append long, text]
  · rw [text]
    exact (isLongestBeginning_truncated _ _).fits

/-- The text of a level is at most as long as the limit and matches, if all in it does. -/
theorem fill_matches (never : NeverCut free)
    (each : ∀ inner (w : Watch σ), w.IsFree → Matches (free inner w) (capped inner w))
    (parts : List Segment) (out : String) (unmet : w.IsFree) :
    Matches (fillWatched false free parts out w) (fillWatched true capped parts out w) ∧
      (fillWatched true capped parts out w).1.utf8ByteSize ≤ maxExpandedSize := by
  induction parts generalizing out w with
  | nil =>
    by_cases short : out.utf8ByteSize ≤ maxExpandedSize
    · simp only [fillWatched, Watch.limit_of_le short]
      exact ⟨.alike rfl, short⟩
    · obtain ⟨text, beyond, seen⟩ := Watch.limit_of_lt (Nat.not_le.mp short) unmet.whole
      exact matches_of_cut never [] unmet (Nat.not_le.mp short) text beyond seen List.suffix_rfl
  | cons part rest ih =>
    cases part with
    | plain cs => exact ih _ unmet
    | placeholder inner =>
      have goes := never (String.ofList inner) w unmet
      have here := each (String.ofList inner) w unmet
      simp only [fillWatched]
      generalize free (String.ofList inner) w = one at goes here
      generalize capped (String.ofList inner) w = other at here
      simp only [Watch.limit.eq_1 false, Bool.false_eq_true, if_false, goes.free.whole]
      cases here with
      | alike same =>
        rw [same]
        by_cases short : (out ++ one.1).utf8ByteSize ≤ maxExpandedSize
        · simp only [Watch.limit_of_le short, goes.free.whole, Bool.false_eq_true, if_false]
          exact ih _ goes.free
        · obtain ⟨text, beyond, seen⟩ := Watch.limit_of_lt (Nat.not_le.mp short) goes.free.whole
          rw [if_pos beyond]
          exact matches_of_cut never rest goes.free (Nat.not_le.mp short) text beyond seen List.suffix_rfl
      | cut before long text beyond seen begins =>
        -- The part was cut below; with the text in front of it, it may have to be cut once more.
        obtain ⟨again, still, same⟩ := Watch.limit_of_overflowed (out ++ other.1) beyond
        rw [if_pos still]
        refine matches_of_cut never rest goes.free ?_ ?_ still (same.trans seen) begins
        · rw [String.utf8ByteSize_append]
          omega
        · rw [again, text, truncated_append_truncated]

private theorem expandText_matches (never : NeverCut free)
    (each : ∀ inner (w : Watch σ), w.IsFree → Matches (free inner w) (capped inner w))
    (value : String) (unmet : w.IsFree) :
    Matches (expandTextWatched false free value w) (expandTextWatched true capped value w) := by
  unfold expandTextWatched
  dsimp only
  split
  · exact (fill_matches never each _ _ unmet).1
  · exact .alike rfl

private theorem resolve_matches (e : Expander σ) (deeper : Nat) (path : List String) (inner : String)
    (unmet : w.IsFree) :
    Matches (e.resolveWatched false deeper path inner w) (e.resolveWatched true deeper path inner w) := by
  induction deeper generalizing path inner w with
  | zero =>
    unfold resolveWatched
    exact .alike rfl
  | succ deeper ih =>
    unfold resolveWatched
    simp only [unmet.whole, Bool.false_eq_true, if_false]
    split
    · exact .alike rfl
    · split
      · exact .alike rfl
      · split
        · exact .alike rfl
        · split
          · exact .alike rfl
          · next raw _ =>
            have asked : w.GoesFree (w.see (.lookedUp inner)) := .seeing unmet unmet.whole rfl (by simp)
            have below := expandText_matches (e.neverCut_resolve deeper (inner :: path))
              (fun next w free => ih (inner :: path) next free) raw asked.free
            generalize expandTextWatched false (e.resolveWatched false deeper (inner :: path)) raw
              (w.see (.lookedUp inner)) = one at below ⊢
            generalize expandTextWatched true (e.resolveWatched true deeper (inner :: path)) raw
              (w.see (.lookedUp inner)) = other at below ⊢
            cases below with
            | alike same =>
              rw [same]
              exact .alike rfl
            | cut before long text beyond seen begins =>
              -- Whether the value is kept makes no difference to what is compared.
              refine .cut before long text ?_ ?_ ?_
              · dsimp only
                split <;> exact beyond
              · dsimp only
                split <;> exact seen
              · dsimp only
                split <;> exact begins

theorem isFree_start (plugins : σ) : (Watch.start plugins).IsFree := ⟨rfl, by simp [Watch.start]⟩

/-- The whole expansion of a text with an opening mark, with and without the limit. -/
theorem watch_matches (e : Expander σ) {value : String}
    (marked : Text.occursIn ['$', '\x7b'] value.toList = true) (plugins : σ) :
    Matches (e.watch false value plugins) (e.watch true value plugins) ∧
      (e.watch true value plugins).1.utf8ByteSize ≤ maxExpandedSize := by
  unfold watch expandTextWatched
  rw [if_pos marked, if_pos marked]
  exact fill_matches (e.neverCut_resolve maxExpansionDepth [])
    (fun inner w free => e.resolve_matches maxExpansionDepth [] inner free) (segments value.toList) ""
    (isFree_start plugins)

theorem isLongestBeginning_text (e : Expander σ) {value : String}
    (marked : Text.occursIn ['$', '\x7b'] value.toList = true) (plugins : σ) :
    IsLongestBeginning maxExpandedSize (e.watch false value plugins).1 (e.expand value plugins).text := by
  obtain ⟨related, fits⟩ := e.watch_matches marked plugins
  rw [e.expand_eq_watch value plugins]
  cases related with
  | alike same =>
    rw [same] at fits ⊢
    exact ⟨List.prefix_rfl, fits, fun u begins _ => begins⟩
  | cut before long text beyond seen begins =>
    rw [text]
    exact isLongestBeginning_truncated _ _

/-- With the limit an expansion gives the longest beginning that fits of what the same expansion would give
without it, and takes the same course if that is all of it.  Otherwise it asks for the same, in the same order,
until a text at some level proves too long, and for nothing from then on. -/
theorem expand_eq_longest_beginning (e : Expander σ) {value : String}
    (marked : Text.occursIn ['$', '\x7b'] value.toList = true) (plugins : σ) :
    let free := e.watch false value plugins
    let capped := e.watch true value plugins
    e.expand value plugins = ⟨capped.1, capped.2.run.log.reverse, capped.2.run.plugins⟩ ∧
      IsLongestBeginning maxExpandedSize free.1 (e.expand value plugins).text ∧
      (free.1.utf8ByteSize ≤ maxExpandedSize → capped = free) ∧
      (maxExpandedSize < free.1.utf8ByteSize → .tooLong ∉ free.2.seen ∧
        ∃ before, capped.2.seen.reverse = before ++ [.tooLong] ∧ before <+: free.2.seen.reverse) := by
  intro free capped
  obtain ⟨related, fits⟩ := e.watch_matches marked plugins
  have goes : (Watch.start plugins).GoesFree free.2 :=
    goesFree_expandText (e.neverCut_resolve maxExpansionDepth []) value _ (isFree_start plugins)
  refine ⟨e.expand_eq_watch value plugins, e.isLongestBeginning_text marked plugins, ?_, ?_⟩
  · intro short
    cases related with
    | alike same => exact same
    | cut before long text beyond seen begins => exact absurd short (Nat.not_le.mpr long)
  · intro long
    refine ⟨goes.free.unmet, ?_⟩
    cases related with
    | alike same =>
      rw [same] at fits
      exact absurd fits (Nat.not_le.mpr long)
    | cut before _ text beyond seen begins =>
      refine ⟨before.reverse, ?_, List.reverse_prefix.mpr begins⟩
      rw [seen, List.reverse_cons]

def teller (text : String) : Substitutor Unit := ⟨"tell", fun _ plugins => (text, plugins)⟩

def answering (text : String) : Expander Unit := ⟨[], ⟨[teller text]⟩⟩

private theorem watch_answering (text : String) :
    let free := (answering text).watch false "$\x7btell:a\x7d$\x7btell:b\x7d" ()
    free.1 = text ++ text ∧ free.2.seen = [.called "tell" "b", .called "tell" "a"] := by
  have marked : Text.occursIn ['$', '\x7b'] "$\x7btell:a\x7d$\x7btell:b\x7d".toList = true := by
    decide +kernel
  have parts : segments "$\x7btell:a\x7d$\x7btell:b\x7d".toList =
      [.placeholder "tell:a".toList, .placeholder "tell:b".toList] := by decide +kernel
  let noted (argument : String) (w : Watch Unit) : Watch Unit :=
    ⟨w.run.note (callLine (teller text) argument), .called "tell" argument :: w.seen⟩
  have answer : ∀ argument w, w.run.overflowed = false →
      (answering text).call? ("tell:" ++ argument) = some (teller text, argument) →
      (answering text).resolveWatched false maxExpansionDepth [] ("tell:" ++ argument) w =
        (text, noted argument w) := fun _ _ whole call => resolveWatched_of_call? whole call
  have first := answer "a" (.start ()) rfl rfl
  have second := answer "b" (noted "a" (.start ())) rfl rfl
  dsimp only
  unfold watch expandTextWatched
  rw [if_pos marked, parts]
  simp only [fillWatched, String.ofList_toList, Watch.limit, Bool.false_eq_true, if_false,
    String.empty_append]
  rw [show "tell:a" = "tell:" ++ "a" from rfl, show "tell:b" = "tell:" ++ "b" from rfl, first]
  rw [if_neg (show ¬ (noted "a" (.start ())).run.overflowed = true from Bool.false_ne_true), second]
  exact ⟨rfl, rfl⟩

theorem utf8ByteSize_replicate (n : Nat) (c : Char) :
    (String.ofList (List.replicate n c)).utf8ByteSize = n * c.utf8Size := by
  induction n with
  | zero => simp
  | succ n ih => rw [List.replicate_succ, utf8ByteSize_ofList_cons, ih, Nat.succ_mul, Nat.add_comm]

theorem isLongestBeginning_replicate {limit n m : Nat} {c : Char} (le : m ≤ n) (fits : m * c.utf8Size ≤ limit)
    (next : limit < (m + 1) * c.utf8Size) :
    IsLongestBeginning limit (String.ofList (List.replicate n c)) (String.ofList (List.replicate m c)) := by
  refine ⟨?_, ?_, ?_⟩
  · rw [String.toList_ofList, String.toList_ofList, List.prefix_replicate_iff, List.length_replicate]
    exact ⟨le, rfl⟩
  · rw [utf8ByteSize_replicate]
    exact fits
  · intro u begins short
    rw [String.toList_ofList, List.prefix_replicate_iff] at begins ⊢
    have same : u = String.ofList (List.replicate u.toList.length c) := by
      rw [← begins.2, String.ofList_toList]
    rw [same, utf8ByteSize_replicate] at short
    have lt : u.toList.length * c.utf8Size < (m + 1) * c.utf8Size := Nat.lt_of_le_of_lt short next
    exact ⟨Nat.lt_succ_iff.mp (Nat.lt_of_mul_lt_mul_right lt), begins.2⟩

private theorem append_replicate_self (n : Nat) (c : Char) :
    String.ofList (List.replicate n c) ++ String.ofList (List.replicate n c) =
      String.ofList (List.replicate (n + n) c) := by
  rw [← String.ofList_append, List.replicate_append_replicate]

/-- The second answer is not asked for, since the first is too long already; the character at the limit,
which begins below it, is left out. -/
theorem answering_cut :
    Text.occursIn ['$', '\x7b'] "$\x7btell:a\x7d$\x7btell:b\x7d".toList = true ∧
      let text := String.ofList (List.replicate 400000 '€')
      maxExpandedSize <
          ((answering text).watch false "$\x7btell:a\x7d$\x7btell:b\x7d" ()).1.utf8ByteSize ∧
        ((answering text).expand "$\x7btell:a\x7d$\x7btell:b\x7d" ()).text =
          String.ofList (List.replicate 349525 '€') ∧
        ∃ before,
          ((answering text).watch true "$\x7btell:a\x7d$\x7btell:b\x7d" ()).2.seen.reverse =
              before ++ [.tooLong] ∧
            before <+: [.called "tell" "a", .called "tell" "b"] := by
  have marked : Text.occursIn ['$', '\x7b'] "$\x7btell:a\x7d$\x7btell:b\x7d".toList = true := by
    decide +kernel
  refine ⟨marked, ?_⟩
  intro text
  have joined : text ++ text = String.ofList (List.replicate (400000 + 400000) '€') :=
    append_replicate_self 400000 '€'
  have longest := isLongestBeginning_replicate (show 349525 ≤ 400000 + 400000 by decide)
    (show 349525 * '€'.utf8Size ≤ maxExpandedSize by decide)
    (show maxExpandedSize < (349525 + 1) * '€'.utf8Size by decide)
  have size : maxExpandedSize < (text ++ text).utf8ByteSize := by
    rw [joined, utf8ByteSize_replicate]
    decide
  rw [← joined] at longest
  clear_value text
  obtain ⟨twice, seen⟩ := watch_answering text
  obtain ⟨-, cut, -, course⟩ := (answering text).expand_eq_longest_beginning marked ()
  rw [twice] at cut course ⊢
  refine ⟨size, cut.unique longest, ?_⟩
  obtain ⟨-, before, seen_eq, begins⟩ := course size
  rw [seen] at begins
  exact ⟨before, seen_eq, begins⟩

end Expander
end LiveConfig
