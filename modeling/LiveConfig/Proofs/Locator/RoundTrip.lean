import LiveConfig.Locator
import LiveConfig.Proofs.Net.LocalPath
import LiveConfig.Proofs.Text.Cutting

/-!
Locators are read back from their texts, as far as these can be read.

The text of a locator is its scheme and its path as it is.  A file path that was written with percent signs may
hold what no locator may be written with, so not every file locator is read back.
-/
namespace LiveConfig.Locator

open Text (isBlank isControl trimEnd trimEnd_eq_self trimEnd_isBeginning trimEnd_append_cons
  isBlank_getLast?_trimEnd)
open Net (signs)

private theorem isIllegal_space : isIllegal ' ' = true := by decide

theorem isBlank_eq_false {c : Char} (legal : isIllegal c = false) : isBlank c = false := by
  unfold isIllegal at legal
  simp only [Bool.or_eq_false_iff] at legal
  exact legal.1.1

private theorem large_of_legal {c : Char} (legal : isIllegal c = false) : 0x20 < c.toNat := by
  unfold isIllegal isBlank isControl at legal
  simp at legal
  omega

theorem checkChars_eq_ok_iff {cs : List Char} : checkChars cs = .ok () ↔ ∀ c ∈ cs, isIllegal c = false := by
  unfold checkChars
  cases found : cs.find? isIllegal with
  | none => simpa using found
  | some c =>
    have illegal := List.find?_some found
    simp only [reduceCtorEq, false_iff]
    intro all
    have legal := all c (List.mem_of_find?_eq_some found)
    exact nomatch legal.symm.trans illegal

structure SchemeName (name : List Char) (c : Char) (cs : List Char) : Prop where
  eq : name = c :: cs
  alpha : c.isAlpha = true
  letters : (cs.all fun d => d.isAlphanum || d = '+' || d = '-' || d = '.') = true

theorem exists_of_isSchemeName {name : List Char} (h : isSchemeName name = true) :
    ∃ c cs, SchemeName name c cs := by
  cases name with
  | nil => exact nomatch h
  | cons c cs =>
    obtain ⟨alpha, letters⟩ := Bool.and_eq_true_iff.mp h
    exact ⟨c, cs, rfl, alpha, letters⟩

theorem isSchemeName_lower {name : List Char} (h : isSchemeName name = true) :
    isSchemeName (name.map Char.toLower) = true := by
  cases name with
  | nil => exact nomatch h
  | cons c cs =>
    obtain ⟨alpha, letters⟩ := Bool.and_eq_true_iff.mp h
    refine Bool.and_eq_true_iff.mpr ⟨(Text.isAlpha_toLower c).trans alpha, ?_⟩
    rw [List.all_eq_true] at letters ⊢
    intro d mem
    obtain ⟨e, inside, rfl⟩ := List.mem_map.mp mem
    exact (Text.letter_toLower e).trans (letters e inside)

private theorem lower_lower (name : List Char) : (name.map Char.toLower).map Char.toLower = name.map Char.toLower := by
  simp [Text.toLower_toLower]

private theorem colon_not_mem {name : List Char} (h : isSchemeName name = true) : ∀ d ∈ name, d ≠ ':' := by
  intro d mem
  cases name with
  | nil => exact nomatch h
  | cons c cs =>
    obtain ⟨alpha, letters⟩ := Bool.and_eq_true_iff.mp h
    rcases List.mem_cons.mp mem with rfl | mem
    · exact (Text.toNat_of_letter (by simp [Text.isAlphanum_iff.mpr (.inl alpha)])).2.2
    · exact (Text.toNat_of_letter (List.all_eq_true.mp letters d mem)).2.2

theorem cutAt_colon {name : List Char} (named : isSchemeName name = true) (rest : List Char) :
    Text.cutAt (· = ':') (name ++ ':' :: rest) = some (name, rest) :=
  Text.cutAt_append (fun d mem => by simpa using colon_not_mem named d mem) (by decide) rest

/-- A text with a scheme before its first colon. -/
theorem parseTrimmed_append {name rest : List Char} (named : isSchemeName name = true) (some_there : rest ≠ []) :
    parseTrimmed (name ++ ':' :: rest) =
      (parsePath (Scheme.ofName (String.ofList (name.map Char.toLower))) (name ++ ':' :: rest) rest).map fun path =>
        ⟨Scheme.ofName (String.ofList (name.map Char.toLower)), String.ofList path⟩ := by
  have cut := cutAt_colon named rest
  have blank : rest.isEmpty = false := by simpa using some_there
  have text_blank : (name ++ ':' :: rest).isEmpty = false := by simp
  unfold parseTrimmed
  simp only [cut, named, blank, text_blank, Bool.not_true, Bool.false_eq_true, if_false]
  cases parsePath (Scheme.ofName (String.ofList (name.map Char.toLower))) (name ++ ':' :: rest) rest <;> rfl

theorem parseTrimmed_of_no_path {name : List Char} (named : isSchemeName name = true) :
    parseTrimmed (name ++ [':']) = .error .emptyPath := by
  have text_blank : (name ++ [':']).isEmpty = false := by simp
  unfold parseTrimmed
  simp only [cutAt_colon named, named, text_blank, Bool.not_true, Bool.false_eq_true, if_false, List.isEmpty_nil,
    if_true]
  rfl

theorem trim_append {name : List Char} (named : isSchemeName name = true) (rest : List Char) :
    Text.trim (name ++ ':' :: rest) = name ++ ':' :: trimEnd rest := by
  obtain ⟨c, cs, rfl, alpha, -⟩ := exists_of_isSchemeName named
  have visible : isBlank c = false := by
    have bounds := Text.toNat_of_letter (c := c) (by simp [Text.isAlphanum_iff.mpr (.inl alpha)])
    unfold isBlank
    simp
    omega
  unfold Text.trim Text.trimStart
  rw [List.cons_append, List.dropWhile_cons_of_neg (by simp [visible]), ← List.cons_append]
  exact trimEnd_append_cons (c :: cs) (by decide) rest

theorem parse_eq_ok_iff {raw : String} {l : Locator} :
    parse raw = .ok l ↔ parseTrimmed (Text.trim raw.toList) = .ok l := by
  unfold parse
  dsimp only
  cases parseTrimmed (Text.trim raw.toList) with
  | error fault => exact ⟨nofun, nofun⟩
  | ok found => exact ⟨fun eq => congrArg _ (Except.ok.inj eq), fun eq => congrArg _ (Except.ok.inj eq)⟩

theorem parseTrimmed_eq_ok_iff {name rest : List Char} (named : isSchemeName name = true) {l : Locator} :
    parseTrimmed (name ++ ':' :: rest) = .ok l ↔
      rest ≠ [] ∧ l.scheme = Scheme.ofName (String.ofList (name.map Char.toLower)) ∧
        parsePath l.scheme (name ++ ':' :: rest) rest = .ok l.path.toList := by
  by_cases some_there : rest = []
  · subst some_there
    rw [parseTrimmed_of_no_path named]
    exact ⟨nofun, fun h => absurd rfl h.1⟩
  · rw [parseTrimmed_append named some_there]
    obtain ⟨scheme, path⟩ := l
    constructor
    · intro eq
      cases result : parsePath (Scheme.ofName (String.ofList (name.map Char.toLower))) (name ++ ':' :: rest) rest with
      | error fault => rw [result] at eq; exact nomatch eq
      | ok found =>
        rw [result] at eq
        obtain ⟨rfl, rfl⟩ := Locator.mk.inj (Except.ok.inj eq)
        exact ⟨some_there, rfl, result.trans (congrArg _ String.toList_ofList.symm)⟩
    · rintro ⟨-, rfl, result⟩
      rw [result]
      simp [Except.map]

/-- The texts that are read as locators. -/
theorem exists_of_parseTrimmed {text : List Char} {l : Locator} (parsed : parseTrimmed text = .ok l) :
    ∃ name rest, isSchemeName name = true ∧ text = name ++ ':' :: rest := by
  cases cut : Text.cutAt (· = ':') text with
  | none =>
    unfold parseTrimmed at parsed
    rw [cut] at parsed
    cases blank : text.isEmpty <;> rw [blank] at parsed <;> exact nomatch parsed
  | some parts =>
    obtain ⟨name, rest⟩ := parts
    obtain ⟨c, rfl, colon, -⟩ := Text.eq_append_of_cutAt cut
    obtain rfl : c = ':' := by simpa using colon
    have text_blank : (name ++ ':' :: rest).isEmpty = false := by simp
    cases named : isSchemeName name with
    | true => exact ⟨name, rest, named, rfl⟩
    | false =>
      unfold parseTrimmed at parsed
      simp only [cut, named, text_blank, Bool.not_false, if_true, Bool.false_eq_true, if_false] at parsed
      exact nomatch parsed

def slashFor (c : Char) : Char := if c = '\\' then '/' else c

theorem slashFor_eq {c : Char} (other : c ≠ '\\') : slashFor c = c := if_neg other

theorem slashFor_eq_slash_iff {c : Char} : slashFor c = '/' ↔ c = '/' ∨ c = '\\' := by
  by_cases backslash : c = '\\'
  · subst backslash
    decide
  · rw [slashFor_eq backslash, or_iff_left backslash]

theorem slashFor_eq_space_iff {c : Char} : slashFor c = ' ' ↔ c = ' ' := by
  by_cases backslash : c = '\\'
  · subst backslash
    decide
  · rw [slashFor_eq backslash]

theorem not_mem_of_illegal {path : List Char} {c : Char} (legal : ∀ c ∈ path, c = ' ' ∨ isIllegal c = false)
    (visible : c ≠ ' ') (illegal : isIllegal c = true) : c ∉ path := by
  intro mem
  exact Bool.noConfusion (illegal.symm.trans ((legal c mem).resolve_left visible))

theorem take_eq_slashes_iff {cs : List Char} : cs.take 2 = ['/', '/'] ↔ ['/', '/'] <+: cs :=
  ⟨fun eq => List.prefix_iff_eq_take.mpr eq.symm, fun begins => (List.prefix_iff_eq_take.mp begins).symm⟩

structure StandsAsIs (path : List Char) : Prop where
  legal : ∀ c ∈ path, c = ' ' ∨ isIllegal c = false
  single : path.take 2 ≠ ['/', '/']
  ended : path.getLast? ≠ some ' '

private theorem checkChars_encoded_iff {cs : List Char} :
    checkChars (cs.flatMap fun c => if c = ' ' then ['%', '2', '0'] else [c]) = .ok () ↔
      ∀ c ∈ cs, c = ' ' ∨ isIllegal c = false := by
  rw [checkChars_eq_ok_iff]
  simp only [List.mem_flatMap]
  constructor
  · intro all c mem
    by_cases blank : c = ' '
    · exact .inl blank
    · exact .inr (all c ⟨c, mem, by simp [blank]⟩)
  · rintro all d ⟨c, mem, inside⟩
    rcases all c mem with rfl | legal
    · have digits : ∀ d ∈ ['%', '2', '0'], isIllegal d = false := by
        simp [isIllegal, isBlank, isControl]
      exact digits d (by simpa using inside)
    · have visible : c ≠ ' ' := by
        rintro rfl
        exact Bool.noConfusion (legal.symm.trans isIllegal_space)
      rw [if_neg visible] at inside
      exact List.mem_singleton.mp inside ▸ legal

private theorem signs_slashed (cs : List Char) : signs (cs.map slashFor) = signs cs := by
  unfold signs
  rw [List.countP_map]
  congr 1
  funext c
  unfold slashFor
  by_cases backslash : c = '\\'
  · subst backslash
    decide
  · simp [backslash]

private theorem signs_encoded (cs : List Char) :
    signs (cs.flatMap fun c => if c = ' ' then ['%', '2', '0'] else [c]) = signs cs := by
  unfold signs
  induction cs with
  | nil => rfl
  | cons c cs ih =>
    rw [List.flatMap_cons, List.countP_append, List.countP_cons, ih]
    by_cases blank : c = ' '
    · subst blank
      rw [if_pos rfl, if_pos (by decide), show ['%', '2', '0'].countP Text.isSign = 1 by decide, Nat.add_comm]
    · rw [if_neg blank, List.countP_singleton, Nat.add_comm]

def encoded (cs : List Char) : List Char := cs.flatMap fun c => if c = ' ' then ['%', '2', '0'] else [c]

theorem parseFilePath_eq {rest : List Char} (legal : ∀ c ∈ rest.map slashFor, c = ' ' ∨ isIllegal c = false) :
    parseFilePath rest =
      if (rest.map slashFor).take 2 ≠ ['/', '/'] then .ok (rest.map slashFor)
      else match Net.Url.parse ("file:".toList ++ encoded (rest.map slashFor)) with
        | .error e => .error (.url e)
        | .ok u => match u.localPath? with
          | some path => .ok path
          | none => .error .notLocal := by
  have checked := checkChars_encoded_iff.mpr legal
  unfold parseFilePath
  rw [show (fun c => if c = '\\' then '/' else c) = slashFor from rfl]
  dsimp only
  rw [checked]
  by_cases single : (rest.map slashFor).take 2 ≠ ['/', '/']
  · rw [if_pos single, if_pos single]
    rfl
  · rw [if_neg single, if_neg single]
    unfold encoded
    cases Net.Url.parse ("file:".toList ++ (rest.map slashFor).flatMap fun c =>
      if c = ' ' then ['%', '2', '0'] else [c]) with
    | error fault => rfl
    | ok u =>
      dsimp only
      cases u.localPath? <;> rfl

theorem legal_of_parseFilePath {rest path : List Char} (parsed : parseFilePath rest = .ok path) :
    ∀ c ∈ rest.map slashFor, c = ' ' ∨ isIllegal c = false := by
  apply checkChars_encoded_iff.mp
  unfold parseFilePath at parsed
  rw [show (fun c => if c = '\\' then '/' else c) = slashFor from rfl] at parsed
  dsimp only at parsed
  cases checked : checkChars ((rest.map slashFor).flatMap fun c => if c = ' ' then ['%', '2', '0'] else [c]) with
  | error fault => rw [checked] at parsed; exact nomatch parsed
  | ok _ => rfl

private theorem parseFilePath_double {rest path : List Char} (double : (rest.map slashFor).take 2 = ['/', '/'])
    (parsed : parseFilePath rest = .ok path) :
    ∃ more, path = '/' :: more ∧ ∀ c cs, more = c :: cs → c = '/' ∨ c = '\\' → signs more < signs rest := by
  have legal := legal_of_parseFilePath parsed
  have clear : ∀ d ∈ encoded (rest.map slashFor), 0x20 < d.toNat := fun d mem =>
    large_of_legal (checkChars_eq_ok_iff.mp (checkChars_encoded_iff.mpr legal) d mem)
  have front : "file:".toList ++ encoded (rest.map slashFor) =
      'f' :: ['i', 'l', 'e'] ++ ':' :: encoded (rest.map slashFor) := rfl
  rw [parseFilePath_eq legal, if_neg (not_not_intro double), front,
    Net.parse_of_clear (by decide) (by decide) clear] at parsed
  rw [show Net.UrlText.parseRest (Net.SchemeClass.ofScheme (('f' :: ['i', 'l', 'e']).map Char.toLower))
      (('f' :: ['i', 'l', 'e']).map Char.toLower) (encoded (rest.map slashFor)) =
        Net.UrlText.parseFile (encoded (rest.map slashFor)) from rfl] at parsed
  cases result : Net.UrlText.parseFile (encoded (rest.map slashFor)) with
  | error fault => rw [result] at parsed; exact nomatch parsed
  | ok u =>
    rw [result] at parsed
    obtain ⟨text, read, le⟩ := Net.parseFile_path result
    cases found : u.localPath? with
    | none => simp only [found] at parsed; exact nomatch parsed
    | some local_path =>
      simp only [found, Except.ok.injEq] at parsed
      subst parsed
      obtain ⟨more, eq, light⟩ := Net.localPath?_light read found
      refine ⟨more, eq, fun c cs first slash => ?_⟩
      have less := light c cs first slash
      have same : signs (encoded (rest.map slashFor)) = signs rest :=
        (signs_encoded _).trans (signs_slashed rest)
      omega

private theorem ne_nil_of_parseFilePath {rest path : List Char} (some_there : rest ≠ [])
    (parsed : parseFilePath rest = .ok path) : path ≠ [] := by
  by_cases single : (rest.map slashFor).take 2 ≠ ['/', '/']
  · rw [parseFilePath_eq (legal_of_parseFilePath parsed), if_pos single] at parsed
    obtain rfl := Except.ok.inj parsed
    simpa using some_there
  · obtain ⟨more, rfl, -⟩ := parseFilePath_double (not_not.mp single) parsed
    exact List.cons_ne_nil _ _

private theorem text_toList (l : Locator) : l.text.toList = l.scheme.name.toList ++ ':' :: l.path.toList := by
  unfold text
  simp

/-- A file path with two slashes in front was written with a percent sign, which its text does not have any
more. -/
private theorem single_of_parseFilePath {path : List Char} (parsed : parseFilePath (trimEnd path) = .ok path) :
    ((trimEnd path).map slashFor).take 2 ≠ ['/', '/'] := by
  intro double
  obtain ⟨more, eq, light⟩ := parseFilePath_double double parsed
  obtain ⟨behind, joined⟩ := trimEnd_isBeginning path
  match trimmed : trimEnd path with
  | [] => rw [trimmed] at double; exact nomatch double
  | [a] => rw [trimmed] at double; simp at double
  | a :: b :: rest =>
    have slash : b = '/' ∨ b = '\\' := by
      rw [trimmed] at double
      simp only [List.map_cons, List.take_succ_cons, List.take_zero, List.cons.injEq, and_true] at double
      exact slashFor_eq_slash_iff.mp double.2
    have tail : more = b :: (rest ++ behind) := by
      rw [trimmed, eq] at joined
      exact ((List.cons.inj joined).2).symm
    have less := light b _ tail slash
    have most : signs (trimEnd path) ≤ signs path := Net.signs_le_of_sublist (trimEnd_isBeginning path).sublist
    have same : signs path = signs more := by
      rw [eq]
      rfl
    omega

private theorem standsAsIs_of_parseFilePath {path : List Char} (parsed : parseFilePath (trimEnd path) = .ok path) :
    StandsAsIs path := by
  have legal := legal_of_parseFilePath parsed
  have single := single_of_parseFilePath parsed
  rw [parseFilePath_eq legal, if_pos single] at parsed
  have eq : (trimEnd path).map slashFor = path := Except.ok.inj parsed
  have whole : trimEnd path = path := by
    apply (trimEnd_isBeginning path).eq_of_length
    have lengths := congrArg List.length eq
    rwa [List.length_map] at lengths
  rw [eq] at legal single
  refine ⟨legal, single, fun last => ?_⟩
  rw [← whole] at last
  exact absurd (isBlank_getLast?_trimEnd last) (by decide)

private theorem StandsAsIs.trimEnd_eq {path : List Char} (stands : StandsAsIs path) : trimEnd path = path := by
  apply trimEnd_eq_self
  intro c last
  rcases stands.legal c (List.mem_of_getLast? last) with rfl | legal
  · exact absurd last stands.ended
  · exact isBlank_eq_false legal

theorem StandsAsIs.map_slashFor {path : List Char} (stands : StandsAsIs path) : path.map slashFor = path := by
  have unslanted : '\\' ∉ path := not_mem_of_illegal stands.legal (by decide) (by decide)
  have same : ∀ c ∈ path, slashFor c = id c := fun c mem => slashFor_eq fun eq => unslanted (eq ▸ mem)
  exact (List.map_congr_left same).trans (List.map_id path)

/-- A file path is read from the text of its locator if and only if it can stand there as it is. -/
theorem parseFilePath_self_iff {path : List Char} (some_there : path ≠ []) :
    trimEnd path ≠ [] ∧ parseFilePath (trimEnd path) = .ok path ↔ StandsAsIs path := by
  constructor
  · rintro ⟨-, parsed⟩
    exact standsAsIs_of_parseFilePath parsed
  · intro stands
    have same := stands.map_slashFor
    rw [stands.trimEnd_eq]
    refine ⟨some_there, ?_⟩
    rw [parseFilePath_eq (by rw [same]; exact stands.legal), same, if_pos stands.single]

/-- A path that is no file path is kept as it is. -/
theorem parsePath_eq_ok_iff {scheme : Scheme} (other : scheme ≠ .file) {text rest path : List Char} :
    parsePath scheme text rest = .ok path ↔ path = rest ∧ (∀ c ∈ rest, isIllegal c = false) ∧
      (scheme = .http ∨ scheme = .https → ∃ u, Net.Url.parse text = .ok u) := by
  rw [← checkChars_eq_ok_iff]
  cases checked : checkChars rest with
  | error fault =>
    cases scheme
    case file => exact absurd rfl other
    all_goals
      simp only [parsePath, checked]
      exact ⟨nofun, nofun⟩
  | ok _ =>
    cases scheme
    case file => exact absurd rfl other
    case http | https =>
      simp only [parsePath, checked]
      cases Net.Url.parse text with
      | error fault => exact ⟨nofun, fun h => nomatch h.2.2 (by simp)⟩
      | ok u => exact ⟨fun eq => ⟨(Except.ok.inj eq).symm, trivial, fun _ => ⟨u, rfl⟩⟩, fun h => h.1 ▸ rfl⟩
    all_goals
      simp only [parsePath, checked]
      exact ⟨fun eq => ⟨(Except.ok.inj eq).symm, trivial, by simp⟩, fun h => h.1 ▸ rfl⟩

/-- Letters of a scheme may be written in lower case. -/
theorem urlParse_lower {name rest : List Char} (named : isSchemeName name = true)
    (legal : ∀ c ∈ rest, isIllegal c = false) :
    Net.Url.parse (name.map Char.toLower ++ ':' :: rest) = Net.Url.parse (name ++ ':' :: rest) := by
  obtain ⟨c, cs, rfl, alpha, letters⟩ := exists_of_isSchemeName named
  obtain ⟨c', cs', eq, alpha', letters'⟩ := exists_of_isSchemeName (isSchemeName_lower named)
  have clear : ∀ d ∈ rest, 0x20 < d.toNat := fun d mem => large_of_legal (legal d mem)
  rw [Net.parse_of_clear alpha letters clear, eq, Net.parse_of_clear alpha' letters' clear, ← eq, lower_lower]

/-- A locator is read again from its text, unless it is a file locator whose path cannot stand there as it is. -/
theorem parse_text_iff {raw : String} {l : Locator} (parsed : parse raw = .ok l) :
    parse l.text = .ok l ↔ (l.scheme = .file → StandsAsIs l.path.toList) := by
  rw [parse_eq_ok_iff] at parsed ⊢
  obtain ⟨name, rest, named, trimmed⟩ := exists_of_parseTrimmed parsed
  rw [trimmed, parseTrimmed_eq_ok_iff named] at parsed
  obtain ⟨some_there, scheme, result⟩ := parsed
  have lower : l.scheme.name.toList = name.map Char.toLower := by
    rw [scheme, Scheme.ofName_name, String.toList_ofList]
  have named' := isSchemeName_lower named
  rw [text_toList, lower, trim_append named', parseTrimmed_eq_ok_iff named', lower_lower]
  by_cases file : l.scheme = .file
  · rw [file] at result scheme ⊢
    have path_there : l.path.toList ≠ [] := ne_nil_of_parseFilePath some_there result
    rw [← parseFilePath_self_iff path_there]
    exact ⟨fun h _ => ⟨h.1, h.2.2⟩, fun h => ⟨(h rfl).1, scheme, (h rfl).2⟩⟩
  · obtain ⟨same, legal, web⟩ := (parsePath_eq_ok_iff file).mp result
    have whole : trimEnd rest = rest :=
      trimEnd_eq_self fun c last => isBlank_eq_false (legal c (List.mem_of_getLast? last))
    rw [same, whole]
    refine ⟨fun _ h => absurd h file, fun _ => ⟨some_there, scheme, ?_⟩⟩
    rw [parsePath_eq_ok_iff file, urlParse_lower named legal]
    exact ⟨rfl, legal, web⟩

/-- A scheme in capital letters, a host and a blank that is written with a percent sign. -/
theorem parse_text_of_blank :
    let l : Locator := ⟨.file, "/a b"⟩
    parse "FILE://localhost/a%20b" = .ok l ∧ l.text = "file:/a b" ∧ parse l.text = .ok l := by
  intro l
  have parsed : parse "FILE://localhost/a%20b" = .ok l := ok_of_toOption (by decide +kernel)
  refine ⟨parsed, by decide +kernel, (parse_text_iff parsed).mpr fun _ => ?_⟩
  have path : l.path.toList = ['/', 'a', ' ', 'b'] := by decide +kernel
  rw [path]
  refine ⟨?_, by decide, by decide⟩
  simp [isIllegal, isBlank, isControl]

/-- What percent signs may hide: a character that no locator may have, a slash behind the first one, and a blank
at the end. -/
theorem unreadable_texts :
    let hidden : Locator := ⟨.file, "/a|b"⟩
    let double : Locator := ⟨.file, "//a"⟩
    let ended : Locator := ⟨.file, "/a "⟩
    (parse "file:///a%7Cb" = .ok hidden ∧ parse hidden.text ≠ .ok hidden) ∧
      (parse "file:///%2Fa" = .ok double ∧ parse double.text ≠ .ok double) ∧
      parse "file:///a%20" = .ok ended ∧ parse ended.text ≠ .ok ended := by
  have differs : ∀ {raw : String} {l : Locator}, (parse raw).toOption ≠ some l → parse raw ≠ .ok l := by
    intro raw l other eq
    exact other (congrArg Except.toOption eq)
  exact ⟨⟨ok_of_toOption (by decide +kernel), differs (by decide +kernel)⟩,
    ⟨ok_of_toOption (by decide +kernel), differs (by decide +kernel)⟩,
    ok_of_toOption (by decide +kernel), differs (by decide +kernel)⟩

end LiveConfig.Locator
