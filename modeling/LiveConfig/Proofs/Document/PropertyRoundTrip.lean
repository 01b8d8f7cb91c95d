import LiveConfig.Proofs.Document.Continuation
import LiveConfig.Proofs.TextMap.Lookup

/-!
What is written in the line notation is read back as it was.

A written character either stands for itself and has no meaning in the notation, or it is a backslash and
one more character.  So a written text has no line end, begins with nothing that a line may lose, and ends
in an even number of backslashes; and the first separator that no backslash precedes is the one that was
put behind the key.
-/
namespace LiveConfig

namespace PropertyText

open Text (isBlank trimStart)

/-- How a character may be written: as it is, if the notation gives it no meaning, or as a backslash and a
character that is read back as it. -/
inductive WrittenAs : Char → List Char → Prop where
  | plain {c : Char} (visible : isBlank c = false) (unmarked : c ∉ ['\\', '=', ':', '#', '!']) :
      WrittenAs c [c]
  | escaped {c d : Char} (read : decodeLetter d = c) (no_code : d ≠ 'u') (inside : d ≠ '\n' ∧ d ≠ '\r') :
      WrittenAs c ['\\', d]

private theorem writtenAs_escapeChar (c : Char) : WrittenAs c (escapeChar c) := by
  unfold escapeChar
  split
  · next newline => exact .escaped (by rw [newline]; rfl) (by decide) (by decide)
  · next no_newline =>
    split
    · next carriage => exact .escaped (by rw [carriage]; rfl) (by decide) (by decide)
    · next no_carriage =>
      split
      · next tab => exact .escaped (by rw [tab]; rfl) (by decide) (by decide)
      · split
        · next feed => exact .escaped (by rw [feed]; rfl) (by decide) (by decide)
        · split
          · next special =>
            -- No letter is special, so a backslash before the character changes nothing.
            have apart : ∀ d, (isBlank d || d = '\\' || d = '=' || d = ':' || d = '#' || d = '!') = false →
                c ≠ d := by
              rintro d ordinary rfl
              rw [special] at ordinary
              exact nomatch ordinary
            have read : decodeLetter c = c := by
              simp [decodeLetter, apart 't' rfl, apart 'n' rfl, apart 'r' rfl, apart 'f' rfl]
            exact .escaped read (apart 'u' rfl) ⟨no_newline, no_carriage⟩
          · next ordinary =>
            simp only [Bool.or_eq_true, decide_eq_true_eq, not_or, Bool.not_eq_true] at ordinary
            obtain ⟨⟨⟨⟨⟨visible, backslash⟩, equals⟩, colon⟩, hash⟩, bang⟩ := ordinary
            exact .plain visible (by simp [backslash, equals, colon, hash, bang])

/-- Induction on a text along its written form. -/
private theorem escape_induction {P : List Char → List Char → Prop} (nil : P [] [])
    (cons : ∀ c unit cs written, WrittenAs c unit → P cs written → P (c :: cs) (unit ++ written))
    (cs : List Char) : P cs (cs.flatMap escapeChar) := by
  induction cs with
  | nil => exact nil
  | cons c cs ih =>
    rw [List.flatMap_cons]
    exact cons c _ cs _ (writtenAs_escapeChar c) ih

theorem unescape_plain {c : Char} (h : c ≠ '\\') (rest : List Char) :
    unescape (c :: rest) = c :: unescape rest := by
  rw [unescape]
  all_goals simp [h]

theorem unescape_escaped {d : Char} (h : d ≠ 'u') (rest : List Char) :
    unescape ('\\' :: d :: rest) = decodeLetter d :: unescape rest := by
  rw [unescape]
  all_goals simp [h]

private theorem unescape_escape (s : String) : unescape (escape s) = s.toList := by
  refine escape_induction (P := fun cs written => unescape written = cs) ?_ ?_ s.toList
  · simp [unescape]
  · intro c unit cs written as ih
    cases as with
    | plain _ unmarked =>
      have no_backslash : c ≠ '\\' := fun same => unmarked (by simp [same])
      rw [List.singleton_append, unescape_plain no_backslash, ih]
    | escaped read no_code =>
      rw [List.cons_append, List.singleton_append, unescape_escaped no_code, read, ih]

private theorem isBlank_of_isGap {c : Char} (h : isGap c = true) : isBlank c = true := by
  simp only [isGap, Bool.or_eq_true, decide_eq_true_eq] at h
  rcases h with (rfl | rfl) | rfl
  · rfl
  · rfl
  · rfl

private theorem isGap_eq_false {c : Char} (visible : isBlank c = false) : isGap c = false := by
  apply Bool.eq_false_iff.mpr
  intro gap
  rw [isBlank_of_isGap gap] at visible
  exact nomatch visible

private theorem splitKey_plain {c : Char} (no_backslash : c ≠ '\\') (inside : (isSeparator c || isGap c) = false)
    (rest : List Char) :
    splitKey (c :: rest) = (c :: (splitKey rest).1, (splitKey rest).2) := by
  rw [splitKey]
  · rw [if_neg (by simp [inside])]
  all_goals simp [no_backslash]

private theorem splitKey_escape (key : String) (rest : List Char) :
    splitKey (escape key ++ '=' :: rest) = (escape key, '=' :: rest) := by
  refine escape_induction (P := fun _ written =>
    splitKey (written ++ '=' :: rest) = (written, '=' :: rest)) ?_ ?_ key.toList
  · rw [List.nil_append, splitKey]
    · rfl
    all_goals simp
  · intro c unit cs written as ih
    cases as with
    | plain visible unmarked =>
      simp only [List.mem_cons, List.not_mem_nil, or_false, not_or] at unmarked
      have inside : (isSeparator c || isGap c) = false := by
        simp [isSeparator, unmarked, isGap_eq_false visible]
      rw [List.singleton_append, List.cons_append, splitKey_plain unmarked.1 inside, ih]
    | escaped =>
      rw [List.append_assoc, List.cons_append, List.singleton_append, splitKey, ih]
      rfl

/-- A written text begins with nothing that is dropped before a line or a value, or taken for a
comment. -/
private theorem head_escape {s : String} {c : Char} {rest : List Char} (begins : escape s = c :: rest) :
    isBlank c = false ∧ c ≠ '#' ∧ c ≠ '!' := by
  refine escape_induction (P := fun _ written => ∀ c rest, written = c :: rest →
    isBlank c = false ∧ c ≠ '#' ∧ c ≠ '!') ?_ ?_ s.toList c rest begins
  · intro c rest begins
    exact nomatch begins
  · intro d unit _ written as _ c rest begins
    cases as with
    | plain visible unmarked =>
      obtain ⟨rfl, -⟩ := List.cons.inj begins
      simp only [List.mem_cons, not_or] at unmarked
      exact ⟨visible, unmarked.2.2.2.1, unmarked.2.2.2.2.1⟩
    | escaped =>
      obtain ⟨rfl, -⟩ := List.cons.inj begins
      decide

private theorem dropWhile_escape (s : String) : (escape s).dropWhile isGap = escape s := by
  cases begins : escape s with
  | nil => rfl
  | cons c rest =>
    have no_gap := isGap_eq_false (head_escape begins).1
    exact List.dropWhile_cons_of_neg (by simp [no_gap])

private theorem entryOf_line (key value : String) : entryOf (line key value) = (key, value) := by
  have split : splitEntry (line key value) = (escape key, escape value) := by
    have equals : ('=' :: escape value).dropWhile isGap = '=' :: escape value := rfl
    have separates : isSeparator '=' = true := rfl
    unfold splitEntry line
    simp only [splitKey_escape, equals, separates, if_true, dropWhile_escape]
  unfold entryOf
  simp only [split, unescape_escape, String.ofList_toList]

private theorem isContinued_escape (s : String) : isContinued (escape s) = false := by
  refine escape_induction (P := fun _ written => isContinued written = false) rfl ?_ s.toList
  intro c unit _ written as ih
  have whole : isContinued unit = false := by
    cases as with
    | plain _ unmarked =>
      have no_backslash : c ≠ '\\' := fun same => unmarked (by simp [same])
      exact isContinued_concat no_backslash []
    | @escaped d =>
      by_cases backslash : d = '\\'
      -- A pair of backslashes leaves the parity as it is.
      · subst backslash
        rfl
      · exact isContinued_concat backslash ['\\']
  rw [isContinued_append whole, ih]

private theorem isContinued_line (key value : String) : isContinued (line key value) = false := by
  have front : isContinued (escape key ++ ['=']) = false := isContinued_concat (by decide) (escape key)
  rw [line, ← List.singleton_append, ← List.append_assoc, isContinued_append front, isContinued_escape]

private theorem head_line (key value : String) :
    ∃ c rest, line key value = c :: rest ∧ isBlank c = false ∧ c ≠ '#' ∧ c ≠ '!' := by
  unfold line
  cases begins : escape key with
  | nil => exact ⟨'=', escape value, rfl, by decide⟩
  | cons c rest => exact ⟨c, rest ++ '=' :: escape value, rfl, head_escape begins⟩

/-- Lines that stay apart and lose nothing are their own logical lines. -/
theorem joinLines_of_whole {lines : List (List Char)}
    (whole : ∀ l ∈ lines, trimStart l = l ∧ isIgnored l = false ∧ isContinued l = false) :
    joinLines none lines = lines := by
  induction lines with
  | nil => rfl
  | cons l rest ih =>
    obtain ⟨trimmed, meant, ends⟩ := whole l List.mem_cons_self
    simp only [joinLines, trimmed, meant, ends, Bool.false_eq_true, if_false]
    rw [ih fun m mem => whole m (List.mem_cons_of_mem _ mem)]

private theorem whole_line (key value : String) :
    trimStart (line key value) = line key value ∧ isIgnored (line key value) = false ∧
      isContinued (line key value) = false := by
  obtain ⟨c, rest, begins, visible, no_hash, no_bang⟩ := head_line key value
  refine ⟨?_, ?_, isContinued_line key value⟩
  · rw [begins]
    exact List.dropWhile_cons_of_neg (by simp [visible])
  · simp [begins, isIgnored, no_hash, no_bang]

private theorem no_line_end_escape (s : String) : '\n' ∉ escape s ∧ '\r' ∉ escape s := by
  refine escape_induction (P := fun _ written => '\n' ∉ written ∧ '\r' ∉ written) (by simp) ?_ s.toList
  rintro c unit cs written as ⟨no_newline, no_return⟩
  cases as with
  | plain visible =>
    have apart : ∀ d, isBlank d = true → d ≠ c := by
      rintro d blank rfl
      rw [visible] at blank
      exact nomatch blank
    simp [no_newline, no_return, apart '\n' rfl, apart '\r' rfl]
  | escaped _ _ inside => simp [no_newline, no_return, inside.1.symm, inside.2.symm]

private theorem no_line_end_line (key value : String) : '\n' ∉ line key value ∧ '\r' ∉ line key value := by
  have front := no_line_end_escape key
  have back := no_line_end_escape value
  unfold line
  simp [front, back]

theorem linesFrom_cons {c : Char} (inside : c ≠ '\n') (current cs : List Char) :
    linesFrom current (c :: cs) = linesFrom (c :: current) cs := by
  conv => lhs; unfold linesFrom
  exact if_neg inside

private theorem linesFrom_newline {current : List Char} (whole : '\r' ∉ current) (cs : List Char) :
    linesFrom current ('\n' :: cs) = current.reverse :: linesFrom [] cs := by
  rw [linesFrom, if_pos rfl]
  rintro before rfl
  exact whole List.mem_cons_self

private theorem linesFrom_append {l : List Char} (inside : '\n' ∉ l) (current rest : List Char) :
    linesFrom current (l ++ rest) = linesFrom (l.reverse ++ current) rest := by
  induction l generalizing current with
  | nil => rfl
  | cons c cs ih =>
    rw [List.mem_cons, not_or] at inside
    obtain ⟨here, later⟩ := inside
    rw [List.cons_append, linesFrom_cons (Ne.symm here), ih later, List.reverse_cons,
      List.append_assoc, List.singleton_append]

/-- Lines without line ends in them that are joined by newlines come apart again. -/
theorem physicalLines_intercalate {lines : List (List Char)}
    (inside : ∀ l ∈ lines, l ≠ [] ∧ '\n' ∉ l ∧ '\r' ∉ l) :
    physicalLines (List.intercalate ['\n'] lines) = lines := by
  unfold physicalLines
  induction lines with
  | nil => rfl
  | cons l rest ih =>
    obtain ⟨nonempty, newline, carriage⟩ := inside l List.mem_cons_self
    cases rest with
    | nil =>
      rw [List.intercalate_singleton, ← List.append_nil l, linesFrom_append newline, linesFrom]
      simp [nonempty]
    | cons next more =>
      have apart := ih fun m mem => inside m (List.mem_cons_of_mem _ mem)
      have whole : '\r' ∉ l.reverse := by simpa using carriage
      rw [List.intercalate_cons_cons, List.append_assoc, linesFrom_append newline, List.append_nil,
        List.singleton_append, linesFrom_newline whole, apart, List.reverse_reverse]

private theorem logicalLines_write (m : PropertyMap) :
    logicalLines (write m).toList = m.entries.map fun (k, v) => line k v := by
  unfold logicalLines write
  rw [String.toList_ofList, physicalLines_intercalate]
  · apply joinLines_of_whole
    intro l mem
    obtain ⟨⟨key, value⟩, -, rfl⟩ := List.mem_map.mp mem
    exact whole_line key value
  · intro l mem
    obtain ⟨⟨key, value⟩, -, rfl⟩ := List.mem_map.mp mem
    obtain ⟨c, rest, begins, -⟩ := head_line key value
    exact ⟨by simp [begins], no_line_end_line key value⟩

/-- Every map is read back from the text that is written for it, whatever characters its keys and values
consist of. -/
theorem parse_write (m : PropertyMap) : parse (write m) = m := by
  have entries : (logicalLines (write m).toList).map entryOf = m.entries := by
    rw [logicalLines_write, List.map_map]
    exact List.map_id'' (fun (k, v) => entryOf_line k v) m.entries
  unfold parse
  rw [entries]
  exact TextMap.ofList_entries m

end PropertyText
end LiveConfig
