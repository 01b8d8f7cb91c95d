import LiveConfig.Proofs.Expansion.Truncation
import LiveConfig.Proofs.Placeholder.Occurrence

/-!
Cutting a text at its placeholders loses nothing, and finds each of them where it first can be found.

`FoundFrom` says what is to be found from a place on: the first match behind that place, the shortest one that
begins there, and then what is to be found behind its end.  There is just one such list, and it is what cutting
finds.  Expanding puts something in the place of each match and copies what stands between them.
-/
namespace LiveConfig

namespace Placeholder

/-- A text begins with `${`, some characters on one line, and a closing brace.  Several inner texts may fit the
same text, if there is more than one closing brace on the line. -/
structure Fits (inner cs : List Char) : Prop where
  nonempty : inner ≠ []
  oneLine : '\n' ∉ inner
  begins : (Segment.placeholder inner).source <+: cs

structure Match where
  start : Nat
  inner : List Char
  deriving DecidableEq, Repr

namespace Match

def source (m : Match) : List Char := (Segment.placeholder m.inner).source

def stop (m : Match) : Nat := m.start + m.source.length

end Match

def matchesFrom (place : Nat) : List Segment → List Match
  | [] => []
  | .plain cs :: rest => matchesFrom (place + cs.length) rest
  | .placeholder inner :: rest =>
    ⟨place, inner⟩ :: matchesFrom (place + (Segment.placeholder inner).source.length) rest

def matchesOf (cs : List Char) : List Match := matchesFrom 0 (segments cs)

inductive FoundFrom (cs : List Char) : Nat → List Match → Prop where
  | nil {place : Nat} (none : ∀ p inner, place ≤ p → ¬ Fits inner (cs.drop p)) : FoundFrom cs place []
  | cons {place : Nat} {m : Match} {rest : List Match} (behind : place ≤ m.start)
      (fits : Fits m.inner (cs.drop m.start))
      (shortest : ∀ inner, Fits inner (cs.drop m.start) → m.inner.length ≤ inner.length)
      (first : ∀ p inner, place ≤ p → p < m.start → ¬ Fits inner (cs.drop p))
      (next : FoundFrom cs m.stop rest) : FoundFrom cs place (m :: rest)

def rewritten (cs : List Char) (place : Nat) : List (Match × List Char) → List Char
  | [] => cs.drop place
  | (m, text) :: rest => (cs.drop place).take (m.start - place) ++ text ++ rewritten cs m.stop rest

variable {cs inner plain : List Char} {place : Nat} {m : Match} {found other : List Match} {parts : List Segment}

private theorem fits_of_inner? (found : inner? cs = some inner) : Fits inner cs := by
  obtain ⟨⟨nonempty, oneLine, -⟩, rest, rfl⟩ := isInner_of_inner? found
  exact ⟨nonempty, oneLine, rest, by simp [Segment.source]⟩

/-- Whatever fits, the reader finds the shortest. -/
private theorem Fits.exists_inner? (fits : Fits inner cs) : ∃ first, inner? cs = some first ∧ first <+: inner := by
  obtain ⟨nonempty, oneLine, rest, rfl⟩ := fits
  simpa [Segment.source] using exists_inner?_of_enclosed nonempty oneLine rest

private theorem inner?_eq_none_iff : inner? cs = none ↔ ∀ inner, ¬ Fits inner cs := by
  constructor
  · intro unmatched inner fits
    obtain ⟨first, found, -⟩ := fits.exists_inner?
    exact nomatch found.symm.trans unmatched
  · intro unfit
    exact Option.eq_none_iff_forall_ne_some.mpr fun inner found => unfit inner (fits_of_inner? found)

private theorem inner?_eq_some_iff :
    inner? cs = some inner ↔ Fits inner cs ∧ ∀ other, Fits other cs → inner.length ≤ other.length := by
  constructor
  · intro found
    refine ⟨fits_of_inner? found, fun other fits => ?_⟩
    obtain ⟨first, again, begins⟩ := fits.exists_inner?
    obtain rfl := Option.some.inj (again.symm.trans found)
    exact begins.length_le
  · rintro ⟨fits, shortest⟩
    obtain ⟨first, found, begins⟩ := fits.exists_inner?
    rw [found, begins.eq_of_length_le (shortest first (fits_of_inner? found))]

private theorem not_fits_of_drop_nil {p : Nat} (le : cs.length ≤ p) : ¬ Fits inner (cs.drop p) := by
  intro fits
  have short := fits.begins.length_le
  rw [List.drop_eq_nil_of_le le] at short
  exact absurd short (by simp [Segment.source])

private theorem foundFrom_cons_iff :
    FoundFrom cs place (m :: found) ↔ place ≤ m.start ∧ inner? (cs.drop m.start) = some m.inner ∧
      (∀ p, place ≤ p → p < m.start → inner? (cs.drop p) = none) ∧ FoundFrom cs m.stop found := by
  simp only [inner?_eq_none_iff, inner?_eq_some_iff]
  constructor
  · intro all
    cases all with
    | cons behind fits shortest first next =>
      exact ⟨behind, ⟨fits, shortest⟩, fun p from_place before inner => first p inner from_place before, next⟩
  · rintro ⟨behind, ⟨fits, shortest⟩, first, next⟩
    exact .cons behind fits shortest (fun p inner from_place before => first p from_place before inner) next

private theorem FoundFrom.skip (found_later : FoundFrom cs (place + 1) found)
    (unmatched : inner? (cs.drop place) = none) :
    FoundFrom cs place found := by
  rw [inner?_eq_none_iff] at unmatched
  cases found_later with
  | nil none =>
    refine .nil fun p inner le => ?_
    rcases Nat.eq_or_lt_of_le le with rfl | lt
    · exact unmatched inner
    · exact none p inner lt
  | cons behind fits shortest first next =>
    refine .cons (Nat.le_of_succ_le behind) fits shortest (fun p inner le before => ?_) next
    rcases Nat.eq_or_lt_of_le le with rfl | lt
    · exact unmatched inner
    · exact first p inner lt before

private theorem FoundFrom.le_start (all : FoundFrom cs place found) (mem : m ∈ found) : place ≤ m.start := by
  induction all with
  | nil => exact nomatch mem
  | @cons place first rest behind fits shortest _ next ih =>
    rcases List.mem_cons.mp mem with rfl | mem
    · exact behind
    · exact Nat.le_trans (Nat.le_trans behind (Nat.le_add_right first.start _)) (ih mem)

/-- There is only one list of matches to be found. -/
theorem FoundFrom.unique (all : FoundFrom cs place found) (again : FoundFrom cs place other) : found = other := by
  induction all generalizing other with
  | nil none =>
    cases again with
    | nil => rfl
    | cons behind fits => exact absurd fits (none _ _ behind)
  | @cons place m rest behind fits shortest first next ih =>
    cases again with
    | nil none => exact absurd fits (none _ _ behind)
    | @cons _ n rest' behind' fits' shortest' first' next' =>
      have same_start : m.start = n.start := by
        rcases Nat.lt_trichotomy m.start n.start with lt | eq | lt
        · exact absurd fits (first' _ _ behind lt)
        · exact eq
        · exact absurd fits' (first _ _ behind' lt)
      have same_inner : m.inner = n.inner := by
        have found := inner?_eq_some_iff.mpr ⟨fits, shortest⟩
        have found' := inner?_eq_some_iff.mpr ⟨fits', shortest'⟩
        rw [same_start] at found
        exact Option.some.inj (found.symm.trans found')
      obtain rfl : m = n := by
        cases m
        cases n
        simp_all
      rw [ih next']

private theorem FoundFrom.pairwise (all : FoundFrom cs place found) :
    found.Pairwise fun m later => m.stop ≤ later.start := by
  induction all with
  | nil => exact .nil
  | cons _ _ _ _ next ih => exact .cons (fun later mem => next.le_start mem) ih

private theorem FoundFrom.isInner (all : FoundFrom cs place found) (mem : m ∈ found) :
    IsInner m.inner ∧ m.source <+: cs.drop m.start := by
  induction all with
  | nil => exact nomatch mem
  | cons _ fits shortest _ _ ih =>
    rcases List.mem_cons.mp mem with rfl | mem
    · exact ⟨(isInner_of_inner? (inner?_eq_some_iff.mpr ⟨fits, shortest⟩)).1, fits.begins⟩
    · exact ih mem

/-- With each match in its own place the text is as it was. -/
theorem FoundFrom.rewritten_source (all : FoundFrom cs place found) :
    rewritten cs place (found.map fun m => (m, m.source)) = cs.drop place := by
  induction all with
  | nil => rfl
  | @cons place m rest behind fits _ _ _ ih =>
    obtain ⟨after, text⟩ := fits.begins
    have stop : cs.drop m.stop = after := by
      unfold Match.stop
      rw [← List.drop_drop, ← text]
      exact List.drop_left
    calc rewritten cs place ((m :: rest).map fun m => (m, m.source))
      _ = (cs.drop place).take (m.start - place) ++ m.source ++ cs.drop m.stop := by rw [← ih]; rfl
      _ = (cs.drop place).take (m.start - place) ++ cs.drop m.start := by rw [List.append_assoc, stop, ← text]; rfl
      _ = (cs.drop place).take (m.start - place) ++ (cs.drop place).drop (m.start - place) := by
          rw [List.drop_drop, Nat.add_sub_cancel' behind]
      _ = cs.drop place := List.take_append_drop _ _

@[simp] theorem flatMap_source_plainSegment (backwards : List Char) :
    (plainSegment backwards).flatMap Segment.source = backwards.reverse := by
  unfold plainSegment
  split
  · next empty => simp_all
  · simp [Segment.source]

@[simp] theorem matchesFrom_plainSegment (place : Nat) (backwards : List Char) (parts : List Segment) :
    matchesFrom place (plainSegment backwards ++ parts) = matchesFrom (place + backwards.length) parts := by
  unfold plainSegment
  split
  · next empty => simp_all
  · simp [matchesFrom]

/-- Behind a placeholder cutting begins anew. -/
theorem scan_of_inner? {after : List Char} (found : inner? cs = some inner)
    (text : (Segment.placeholder inner).source ++ after = cs) :
    scan 0 plain cs = plainSegment plain ++ .placeholder inner :: segments after := by
  obtain ⟨-, rest, rfl⟩ := isInner_of_inner? found
  obtain rfl : after = rest := by simpa [Segment.source] using text
  have behind := scan_skip (inner ++ ['\x7d']) [] after
  rw [List.length_append, List.append_assoc] at behind
  simp only [scan, found]
  exact congrArg (plainSegment plain ++ .placeholder inner :: ·) behind

/-- What holds at the end of a text, and is kept when a character is read that begins no placeholder and when a
placeholder is read as a whole, holds of every text; `plain` is the run of plain text that was read before. -/
private theorem cut_induction {P : List Char → List Char → Prop} (nil : ∀ plain, P plain [])
    (char : ∀ plain c cs, inner? (c :: cs) = none → P (c :: plain) cs → P plain (c :: cs))
    (placeholder : ∀ plain inner after cs, inner? cs = some inner →
      (Segment.placeholder inner).source ++ after = cs → P [] after → P plain cs)
    (plain cs : List Char) : P plain cs := by
  induction n : cs.length using Nat.strongRecOn generalizing plain cs with
  | _ length ih =>
    subst n
    cases found : inner? cs with
    | none =>
      cases cs with
      | nil => exact nil plain
      | cons c cs => exact char plain c cs found (ih cs.length (Nat.lt_succ_self _) (c :: plain) cs rfl)
    | some inner =>
      obtain ⟨after, text⟩ := (fits_of_inner? found).begins
      have shorter : after.length < cs.length := by
        rw [← text, List.length_append]
        exact Nat.lt_add_of_pos_left (by simp [Segment.source])
      exact placeholder plain inner after cs found text (ih after.length shorter [] after rfl)

private theorem flatMap_source_scan (plain cs : List Char) :
    (scan 0 plain cs).flatMap Segment.source = plain.reverse ++ cs := by
  induction plain, cs using cut_induction with
  | nil plain => simp [scan]
  | char plain c cs unmatched ih =>
    simp only [scan, unmatched, ih]
    simp
  | placeholder plain inner after cs found text ih =>
    have later : (segments after).flatMap Segment.source = after := ih
    rw [scan_of_inner? found text, List.flatMap_append, List.flatMap_cons, flatMap_source_plainSegment, later, text]

private theorem foundFrom_scan (plain : List Char) {rest : List Char} {place : Nat}
    (here : cs.drop (place + plain.length) = rest) :
    FoundFrom cs (place + plain.length) (matchesFrom place (scan 0 plain rest)) := by
  -- The run of plain text begins at `place`, and what is left of the text behind it.
  induction plain, rest using cut_induction generalizing place with
  | nil plain =>
    have none_left : ∀ p inner, place + plain.length ≤ p → ¬ Fits inner (cs.drop p) := by
      intro p inner le
      exact not_fits_of_drop_nil (Nat.le_trans (List.drop_eq_nil_iff.mp here) le)
    have parts := matchesFrom_plainSegment place plain []
    rw [List.append_nil] at parts
    rw [scan, parts]
    exact .nil none_left
  | char plain c rest unmatched ih =>
    have next : cs.drop (place + (c :: plain).length) = rest := by
      rw [List.length_cons, ← Nat.add_assoc, ← List.drop_drop, here, List.drop_one, List.tail_cons]
    simp only [scan, unmatched]
    exact (ih next).skip (here ▸ unmatched)
  | placeholder plain inner after rest found text ih =>
    have next : cs.drop (place + plain.length + (Segment.placeholder inner).source.length) = after := by
      rw [← List.drop_drop, here, ← text, List.drop_left]
    rw [scan_of_inner? found text, matchesFrom_plainSegment, matchesFrom, foundFrom_cons_iff]
    refine ⟨Nat.le_refl _, here ▸ found, fun p le lt => absurd lt (Nat.not_lt.mpr le), ?_⟩
    exact ih next

private theorem foundFrom_matchesOf (cs : List Char) : FoundFrom cs 0 (matchesOf cs) :=
  foundFrom_scan [] rfl

private theorem le_start_of_mem_matchesFrom (mem : m ∈ matchesFrom place parts) : place ≤ m.start := by
  induction parts generalizing place with
  | nil => exact nomatch mem
  | cons part rest ih =>
    cases part with
    | plain cs => exact Nat.le_trans (Nat.le_add_right _ _) (ih mem)
    | placeholder inner =>
      rcases List.mem_cons.mp mem with rfl | mem
      · exact Nat.le_refl _
      · exact Nat.le_trans (Nat.le_add_right _ _) (ih mem)

/-- Plain text before all the matches is copied. -/
private theorem rewritten_plain {made : List (Match × List Char)} {front after : List Char}
    (here : cs.drop place = front ++ after) (behind : ∀ pair ∈ made, place + front.length ≤ pair.1.start) :
    rewritten cs place made = front ++ rewritten cs (place + front.length) made := by
  have later : cs.drop (place + front.length) = after := by
    rw [← List.drop_drop, here, List.drop_left]
  cases made with
  | nil => rw [rewritten, rewritten, here, later]
  | cons pair rest =>
    obtain ⟨m, text⟩ := pair
    have start := behind (m, text) List.mem_cons_self
    have distance : m.start - place = front.length + (m.start - (place + front.length)) := by
      dsimp only at start
      omega
    rw [rewritten, rewritten, here, later, distance, List.take_length_add_append]
    simp

end Placeholder

namespace Expander

open Placeholder

variable {σ : Type} {resolve : String → ExpansionRun σ → String × ExpansionRun σ} {cs : List Char} {place : Nat}

def answers (resolve : String → ExpansionRun σ → String × ExpansionRun σ) :
    List Match → ExpansionRun σ → List (Match × List Char) × ExpansionRun σ
  | [], r => ([], r)
  | m :: rest, r =>
    let (text, r) := resolve (String.ofList m.inner) r
    let (more, r) := answers resolve rest r
    ((m, text.toList) :: more, r)

private theorem map_fst_answers (found : List Match) (r : ExpansionRun σ) :
    (answers resolve found r).1.map (·.1) = found := by
  induction found generalizing r with
  | nil => rfl
  | cons m rest ih => exact congrArg (m :: ·) (ih _)

private theorem limit_begins (r : ExpansionRun σ) (text : String) : (r.limit text).1.toList <+: text.toList := by
  unfold ExpansionRun.limit
  split
  · exact List.prefix_rfl
  · exact (isLongestBeginning_truncated _ _).begins

private theorem limit_of_whole {r : ExpansionRun σ} {text : String} (whole : (r.limit text).2.overflowed = false) :
    r.limit text = (text, r) := by
  unfold ExpansionRun.limit at whole ⊢
  split
  · rfl
  · next long =>
    rw [if_neg long] at whole
    exact nomatch whole

/-- A text that is filled, with what stands in it already: what comes of it when nothing is cut, and that it
comes to no more than a beginning of that otherwise. -/
structure Rewrites (result : String × ExpansionRun σ) (text : List Char) (after : ExpansionRun σ) : Prop where
  begins : result.1.toList <+: text
  whole : result.2.overflowed = false → result = (String.ofList text, after)

private theorem fill_rewrites {parts : List Segment} (here : parts.flatMap Segment.source = cs.drop place)
    (out : String) (r : ExpansionRun σ) :
    Rewrites (fill resolve parts out r)
      (out.toList ++ rewritten cs place (answers resolve (matchesFrom place parts) r).1)
      (answers resolve (matchesFrom place parts) r).2 := by
  induction parts generalizing place out r with
  | nil =>
    have text : out.toList ++ rewritten cs place [] = out.toList := by
      rw [rewritten, ← here]
      simp
    rw [matchesFrom, answers, text]
    refine ⟨limit_begins r out, fun whole => ?_⟩
    rw [String.ofList_toList]
    exact limit_of_whole whole
  | cons part rest ih =>
    cases part with
    | plain front =>
      have later : rest.flatMap Segment.source = cs.drop (place + front.length) := by
        rw [← List.drop_drop, ← here]
        simp [Segment.source]
      have behind : ∀ pair ∈ (answers resolve (matchesFrom (place + front.length) rest) r).1,
          place + front.length ≤ pair.1.start := by
        intro pair mem
        have found : pair.1 ∈ matchesFrom (place + front.length) rest := by
          rw [← map_fst_answers (matchesFrom (place + front.length) rest) r]
          exact List.mem_map_of_mem mem
        exact le_start_of_mem_matchesFrom found
      have text : cs.drop place = front ++ rest.flatMap Segment.source := here.symm
      have copied := rewritten_plain text behind
      rw [matchesFrom, copied, ← List.append_assoc]
      simpa [fill] using ih later (out ++ String.ofList front) r
    | placeholder inner =>
      rw [matchesFrom, answers, fill]
      generalize resolve (String.ofList inner) r = resolved
      obtain ⟨text, r⟩ := resolved
      have later : rest.flatMap Segment.source = cs.drop (place + (Segment.placeholder inner).source.length) := by
        rw [← List.drop_drop, ← here, List.flatMap_cons, List.drop_left]
      have replaced : ∀ made, out.toList ++ rewritten cs place ((⟨place, inner⟩, text.toList) :: made) =
          (out ++ text).toList ++ rewritten cs (place + (Segment.placeholder inner).source.length) made := by
        intro made
        simp [rewritten, Match.stop, Match.source]
      dsimp only
      rw [replaced]
      split
      · next cut =>
        exact ⟨(limit_begins r (out ++ text)).trans (List.prefix_append _ _),
          fun whole => absurd cut (Bool.eq_false_iff.mp whole)⟩
      · next whole =>
        rw [limit_of_whole (Bool.eq_false_iff.mpr whole)]
        exact ih later (out ++ text) r

private theorem matchesOf_of_unmarked (unmarked : Text.occursIn ['$', '\x7b'] cs = false) : matchesOf cs = [] := by
  refine (foundFrom_matchesOf cs).unique (.nil fun p inner _ fits => ?_)
  have begins : ['$', '\x7b'] <+: cs.drop p := List.IsPrefix.trans ⟨inner ++ ['\x7d'], rfl⟩ fits.begins
  have occurs : ['$', '\x7b'] <:+: cs := begins.isInfix.trans (List.drop_suffix p cs).isInfix
  exact Bool.false_ne_true (unmarked.symm.trans (Text.occursIn_iff.mpr occurs))

private theorem expandText_rewrites (value : String) (r : ExpansionRun σ) :
    Rewrites (expandText resolve value r)
      (rewritten value.toList 0 (answers resolve (matchesOf value.toList) r).1)
      (answers resolve (matchesOf value.toList) r).2 := by
  unfold expandText
  dsimp only
  split
  · have parts : (segments value.toList).flatMap Segment.source = value.toList.drop 0 :=
      flatMap_source_scan [] value.toList
    simpa [matchesOf] using fill_rewrites parts "" r
  · next unmarked =>
    rw [matchesOf_of_unmarked (Bool.eq_false_iff.mpr unmarked), answers, rewritten, List.drop_zero]
    exact ⟨List.prefix_rfl, fun _ => by rw [String.ofList_toList]⟩

end Expander

/-- Cutting a text finds the list of its placeholders, and no other list would do: each of them is the first and
shortest behind the one before it.  They do not overlap, their inner texts have the right form, and with the texts
between them they make up the text again.  Expanding the text puts the answers in the place of the matches and
changes nothing else; only what is too long is cut at its end. -/
theorem Placeholder.segmentation_lossless (value : String) :
    FoundFrom value.toList 0 (matchesOf value.toList) ∧
    (∀ found, FoundFrom value.toList 0 found → found = matchesOf value.toList) ∧
    (∀ m ∈ matchesOf value.toList, IsInner m.inner ∧ m.source <+: value.toList.drop m.start) ∧
    (matchesOf value.toList).Pairwise (fun m later => m.stop ≤ later.start) ∧
    (segments value.toList).flatMap Segment.source = value.toList ∧
    rewritten value.toList 0 ((matchesOf value.toList).map fun m => (m, m.source)) = value.toList ∧
    ∀ (σ : Type) (resolve : String → ExpansionRun σ → String × ExpansionRun σ) (r : ExpansionRun σ),
      Expander.Rewrites (Expander.expandText resolve value r)
        (rewritten value.toList 0 (Expander.answers resolve (matchesOf value.toList) r).1)
        (Expander.answers resolve (matchesOf value.toList) r).2 := by
  have all := foundFrom_matchesOf value.toList
  refine ⟨all, fun found again => again.unique all, fun m mem => all.isInner mem, all.pairwise,
    flatMap_source_scan [] value.toList, ?_, fun σ resolve r => Expander.expandText_rewrites value r⟩
  simpa using all.rewritten_source

def Placeholder.brokenOpenings : String := "$\x7b\x7d\x7d$\x7ba\n$\x7bb$\x7bc\x7d$"

theorem Placeholder.brokenOpenings_segmented :
    matchesOf brokenOpenings.toList = [⟨0, ['\x7d']⟩, ⟨8, "b$\x7bc".toList⟩] ∧
    IsInner "b$\x7bc".toList ∧
    (Expander.expandText (fun inner r => (inner ++ "!", r)) brokenOpenings (.start ())).1 =
      "\x7d!$\x7ba\nb$\x7bc!$" := by
  have found : matchesOf brokenOpenings.toList = [⟨0, ['\x7d']⟩, ⟨8, "b$\x7bc".toList⟩] := by decide
  obtain ⟨-, -, inner, -, -, -, rewrites⟩ := segmentation_lossless brokenOpenings
  have expanded := (rewrites Unit (fun inner r => (inner ++ "!", r)) (.start ())).whole (by decide)
  refine ⟨found, (inner ⟨8, "b$\x7bc".toList⟩ (by rw [found]; simp)).1, ?_⟩
  rw [expanded, found]
  decide

end LiveConfig
