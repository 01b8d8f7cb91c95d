import LiveConfig.Placeholder
import LiveConfig.Text.Cut

/-!
Placeholders in a text, and where cutting a text at its placeholders finds them.

The reader of a placeholder accepts exactly the inner texts that are not empty, lie on one line and have no
closing brace behind their first character.  Cutting finds a placeholder if and only if the text has one
somewhere, and then begins with it where the text does.
-/
namespace LiveConfig.Placeholder

structure IsInner (inner : List Char) : Prop where
  nonempty : inner ≠ []
  oneLine : '\n' ∉ inner
  unclosed : '\x7d' ∉ inner.tail

/-- On some line `${` is followed by at least one character and then a closing brace. -/
def HasPlaceholder (cs : List Char) : Prop :=
  ∃ inner, inner ≠ [] ∧ '\n' ∉ inner ∧ '$' :: '\x7b' :: (inner ++ ['\x7d']) <:+: cs

variable {cs inner passed body rest : List Char}

private theorem infix_append_iff {front : List Char} {c : Char} {word : List Char} (absent : c ∉ front) :
    c :: word <:+: front ++ cs ↔ c :: word <:+: cs := by
  induction front with
  | nil => rfl
  | cons d front ih =>
    rw [List.mem_cons, not_or] at absent
    rw [List.cons_append, List.infix_cons_iff, ih absent.2, List.cons_prefix_cons]
    exact or_iff_right fun here => absent.1 here.1

theorem hasPlaceholder_append_iff {front : List Char} (absent : '$' ∉ front) :
    HasPlaceholder (front ++ cs) ↔ HasPlaceholder cs := by
  unfold HasPlaceholder
  simp only [infix_append_iff absent]

theorem occursIn_mark_append {front : List Char} (absent : '$' ∉ front) :
    Text.occursIn ['$', '\x7b'] (front ++ cs) = Text.occursIn ['$', '\x7b'] cs := by
  rw [Bool.eq_iff_iff, Text.occursIn_iff, Text.occursIn_iff]
  exact infix_append_iff absent

private theorem closing?_of_body (unclosed : '\x7d' ∉ body) (oneLine : '\n' ∉ body) :
    closing? passed (body ++ '\x7d' :: rest) = some (passed.reverse ++ body) := by
  induction body generalizing passed with
  | nil => simp [closing?]
  | cons c body ih =>
    rw [List.mem_cons, not_or] at unclosed oneLine
    simp [closing?, Ne.symm unclosed.1, Ne.symm oneLine.1, ih unclosed.2 oneLine.2]

private theorem body_of_closing? (found : closing? passed cs = some inner) :
    ∃ body rest, cs = body ++ '\x7d' :: rest ∧ inner = passed.reverse ++ body ∧ '\x7d' ∉ body ∧
      '\n' ∉ body := by
  induction cs generalizing passed with
  | nil => exact nomatch found
  | cons c cs ih =>
    simp only [closing?] at found
    split at found
    · next closes =>
      subst closes
      exact ⟨[], cs, rfl, by simpa using found.symm, List.not_mem_nil, List.not_mem_nil⟩
    · next other =>
      split at found
      · exact nomatch found
      · next inside =>
        obtain ⟨body, rest, rfl, rfl, unclosed, oneLine⟩ := ih found
        refine ⟨c :: body, rest, rfl, by simp, ?_, ?_⟩
        · simp [Ne.symm other, unclosed]
        · simp [Ne.symm inside, oneLine]

private theorem inner?_of_isInner (h : IsInner inner) (rest : List Char) :
    inner? ('$' :: '\x7b' :: (inner ++ '\x7d' :: rest)) = some inner := by
  obtain ⟨nonempty, oneLine, unclosed⟩ := h
  cases inner with
  | nil => exact absurd rfl nonempty
  | cons c body =>
    rw [List.mem_cons, not_or] at oneLine
    rw [List.tail_cons] at unclosed
    rw [List.cons_append, inner?, if_neg (Ne.symm oneLine.1), closing?_of_body unclosed oneLine.2]
    rfl

theorem isInner_of_inner? (found : inner? cs = some inner) :
    IsInner inner ∧ ∃ rest, cs = '$' :: '\x7b' :: (inner ++ '\x7d' :: rest) := by
  unfold inner? at found
  split at found
  · next c cs =>
    split at found
    · exact nomatch found
    · next inside =>
      obtain ⟨body, rest, rfl, rfl, unclosed, oneLine⟩ := body_of_closing? found
      exact ⟨⟨by simp, by simp [Ne.symm inside, oneLine], unclosed⟩, rest, rfl⟩
  · exact nomatch found

private theorem hasPlaceholder_of_inner? (behind : rest <:+ cs) (found : inner? rest = some inner) :
    HasPlaceholder cs := by
  obtain ⟨⟨nonempty, oneLine, -⟩, after, rfl⟩ := isInner_of_inner? found
  refine ⟨inner, nonempty, oneLine, List.IsInfix.trans ?_ behind.isInfix⟩
  exact ⟨[], after, by simp⟩

/-- Behind an opening mark the first closing brace that leaves something ends a placeholder, wherever on the line
another one stands. -/
theorem exists_inner?_of_enclosed (nonempty : inner ≠ []) (oneLine : '\n' ∉ inner) (rest : List Char) :
    ∃ first, inner? ('$' :: '\x7b' :: (inner ++ '\x7d' :: rest)) = some first ∧ first <+: inner := by
  cases inner with
  | nil => exact absurd rfl nonempty
  | cons c body =>
    obtain ⟨first, others, split, unclosed⟩ :=
      List.eq_append_cons_of_mem (show '\x7d' ∈ body ++ ['\x7d'] by simp)
    have begins : first <+: body := by
      rcases List.prefix_concat_iff.mp (⟨'\x7d' :: others, split.symm⟩ : first <+: body ++ ['\x7d']) with whole | within
      · exact absurd (whole ▸ List.mem_append_right body (List.mem_singleton_self _)) unclosed
      · exact within
    have inside : c :: first <+: c :: body := List.cons_prefix_cons.mpr ⟨rfl, begins⟩
    have sameLine : '\n' ∉ c :: first := fun mem => oneLine (inside.subset mem)
    have text : c :: body ++ '\x7d' :: rest = c :: first ++ '\x7d' :: (others ++ rest) := by
      rw [List.append_cons (c :: body), List.cons_append, split]
      simp
    refine ⟨c :: first, ?_, inside⟩
    rw [text]
    exact inner?_of_isInner ⟨by simp, sameLine, unclosed⟩ _

private theorem exists_inner?_of_hasPlaceholder (has : HasPlaceholder cs) :
    ∃ rest inner, rest <:+ cs ∧ inner? rest = some inner := by
  obtain ⟨inner, nonempty, oneLine, before, after, rfl⟩ := has
  obtain ⟨first, found, -⟩ := exists_inner?_of_enclosed nonempty oneLine after
  refine ⟨_, first, ⟨before, ?_⟩, found⟩
  simp

theorem scan_skip (cs plain rest : List Char) : scan cs.length plain (cs ++ rest) = scan 0 plain rest := by
  induction cs with
  | nil => rfl
  | cons c cs ih => exact ih

/-- A text that begins with a placeholder. -/
theorem segments_placeholder (h : IsInner inner) (rest : List Char) :
    segments ('$' :: '\x7b' :: (inner ++ '\x7d' :: rest)) = .placeholder inner :: segments rest := by
  have behind := scan_skip (inner ++ ['\x7d']) [] rest
  rw [List.length_append, List.append_assoc] at behind
  unfold segments
  simp only [scan, inner?_of_isInner h rest]
  exact congrArg (.placeholder inner :: ·) behind

private theorem scan_of_unmatched (plain : List Char) (unmatched : ∀ rest, rest <:+ cs → inner? rest = none) :
    scan 0 plain cs = plainSegment (cs.reverse ++ plain) := by
  induction cs generalizing plain with
  | nil => rfl
  | cons c cs ih =>
    simp only [scan, unmatched _ List.suffix_rfl]
    rw [ih (c :: plain) fun rest behind => unmatched rest (behind.trans (List.suffix_cons c cs))]
    simp

/-- A text without placeholders is plain as a whole. -/
theorem segments_of_no_placeholder (no_placeholder : ¬ HasPlaceholder cs) :
    segments cs = plainSegment cs.reverse := by
  have unmatched : ∀ rest, rest <:+ cs → inner? rest = none := by
    intro rest behind
    apply Option.eq_none_iff_forall_ne_some.mpr
    intro inner found
    exact no_placeholder (hasPlaceholder_of_inner? behind found)
  unfold segments
  rw [scan_of_unmatched [] unmatched, List.append_nil]

private theorem exists_mem_scan_of_inner? (plain : List Char) (behind : rest <:+ cs)
    (found : inner? rest = some inner) :
    ∃ first, .placeholder first ∈ scan 0 plain cs := by
  induction cs generalizing plain with
  | nil =>
    rw [List.suffix_nil.mp behind] at found
    exact nomatch found
  | cons c cs ih =>
    simp only [scan]
    split
    · next first here => exact ⟨first, List.mem_append_right _ List.mem_cons_self⟩
    · next unmatched =>
      rcases List.suffix_cons_iff.mp behind with rfl | behind
      · exact nomatch found.symm.trans unmatched
      · exact ih (c :: plain) behind

private theorem exists_inner?_of_mem_scan {skip : Nat} {plain : List Char}
    (mem : .placeholder inner ∈ scan skip plain cs) : ∃ rest, rest <:+ cs ∧ inner? rest = some inner := by
  have notPlain : ∀ backwards, .placeholder inner ∉ plainSegment backwards := by
    intro backwards
    unfold plainSegment
    split <;> simp
  induction cs generalizing skip plain with
  | nil => exact absurd mem (notPlain plain)
  | cons c cs ih =>
    cases skip with
    | succ skip =>
      obtain ⟨rest, behind, found⟩ := ih mem
      exact ⟨rest, behind.trans (List.suffix_cons c cs), found⟩
    | zero =>
      simp only [scan] at mem
      split at mem
      · next here found =>
        rcases List.mem_append.mp mem with mem | mem
        · exact absurd mem (notPlain plain)
        · rcases List.mem_cons.mp mem with same | mem
          · obtain rfl := Segment.placeholder.inj same
            exact ⟨c :: cs, List.suffix_rfl, found⟩
          · obtain ⟨rest, behind, found⟩ := ih mem
            exact ⟨rest, behind.trans (List.suffix_cons c cs), found⟩
      · obtain ⟨rest, behind, found⟩ := ih mem
        exact ⟨rest, behind.trans (List.suffix_cons c cs), found⟩

theorem hasPlaceholder_iff : HasPlaceholder cs ↔ ∃ inner, .placeholder inner ∈ segments cs := by
  constructor
  · intro has
    obtain ⟨rest, inner, behind, found⟩ := exists_inner?_of_hasPlaceholder has
    exact exists_mem_scan_of_inner? [] behind found
  · rintro ⟨inner, mem⟩
    obtain ⟨rest, behind, found⟩ := exists_inner?_of_mem_scan mem
    exact hasPlaceholder_of_inner? behind found

end LiveConfig.Placeholder
