import LiveConfig.Proofs.Expansion.PlainText
import LiveConfig.Proofs.Resolution.Completion

/-!
The letters of a scheme may be written in any case.

Expansion, completion and reading treat two spellings alike at each of their steps but one: a path begins at the
home directory only behind `file:` in small letters.  Elsewhere the same locator comes out, or the same refusal.
-/
namespace LiveConfig

open Text (isBlank trim trimEnd)
open Locator (isSchemeName parseTrimmed parsePath)
open Placeholder (HasPlaceholder)

def isSchemeLetter (c : Char) : Bool := c.isAlphanum || c = '+' || c = '-' || c = '.'

private theorem isSchemeLetter_toLower (c : Char) : isSchemeLetter c.toLower = isSchemeLetter c :=
  Text.letter_toLower c

private theorem isSchemeName_eq (c : Char) (cs : List Char) :
    isSchemeName (c :: cs) = (c.isAlpha && cs.all isSchemeLetter) :=
  rfl

private theorem isSchemeName_congr {name other : List Char} (same : other.map Char.toLower = name.map Char.toLower) :
    isSchemeName other = isSchemeName name := by
  have lower : ∀ cs : List Char, isSchemeName (cs.map Char.toLower) = isSchemeName cs := by
    rintro (_ | ⟨c, cs⟩)
    · rfl
    · rw [List.map_cons, isSchemeName_eq, isSchemeName_eq, Text.isAlpha_toLower, List.all_map]
      congr 2
      exact funext isSchemeLetter_toLower
  rw [← lower, same, lower]

private theorem isSchemeLetter_of_named {name : List Char} (named : isSchemeName name = true) :
    ∀ c ∈ name, isSchemeLetter c = true := by
  cases name with
  | nil => exact nomatch named
  | cons c cs =>
    rw [isSchemeName_eq, Bool.and_eq_true, List.all_eq_true] at named
    refine List.forall_mem_cons.mpr ⟨?_, named.2⟩
    simp [isSchemeLetter, Text.isAlphanum_iff.mpr (.inl named.1)]

private theorem isBlank_of_letter {c : Char} (letter : isSchemeLetter c = true) : isBlank c = false := by
  have bounds := Text.toNat_of_letter letter
  unfold isBlank
  simp
  omega

private theorem utf8Size_of_letter {c : Char} (letter : isSchemeLetter c = true) : c.utf8Size = 1 := by
  have bound := (Text.toNat_of_letter letter).2.1
  exact Char.utf8Size_eq_one_iff.mpr (by rw [UInt32.le_iff_toNat_le]; exact Nat.le_of_lt_succ bound)

inductive Respelled (name other : List Char) : List Char → List Char → Prop where
  | whole (rest : List Char) : Respelled name other (name ++ ':' :: rest) (other ++ ':' :: rest)
  | letters {front again : List Char} (letters : ∀ c ∈ front, isSchemeLetter c = true)
      (also : ∀ c ∈ again, isSchemeLetter c = true) (same : again.length = front.length) :
      Respelled name other front again

section Names

variable {name other : List Char} (named : isSchemeName name = true)
  (same : other.map Char.toLower = name.map Char.toLower)

include named same

private theorem respelled_take (rest : List Char) (n : Nat) :
    Respelled name other ((name ++ ':' :: rest).take n) ((other ++ ':' :: rest).take n) := by
  have also : isSchemeName other = true := (isSchemeName_congr same).trans named
  have lengths : other.length = name.length := by simpa using congrArg List.length same
  rcases Nat.lt_or_ge name.length n with beyond | within
  · obtain ⟨m, rfl⟩ := Nat.exists_eq_add_of_lt beyond
    rw [Nat.add_assoc, List.take_length_add_append, ← lengths, List.take_length_add_append]
    exact .whole (rest.take m)
  · rw [List.take_append_of_le_length within, List.take_append_of_le_length (lengths ▸ within)]
    refine .letters (fun c mem => isSchemeLetter_of_named named c (List.mem_of_mem_take mem))
      (fun c mem => isSchemeLetter_of_named also c (List.mem_of_mem_take mem)) ?_
    rw [List.length_take, List.length_take, lengths]

private theorem utf8Sizes_respelled (rest : List Char) :
    (name ++ ':' :: rest).map Char.utf8Size = (other ++ ':' :: rest).map Char.utf8Size := by
  have sizes : ∀ cs : List Char, isSchemeName cs = true → cs.map Char.utf8Size = List.replicate cs.length 1 := by
    intro cs named
    refine List.eq_replicate_iff.mpr ⟨List.length_map _, fun size mem => ?_⟩
    obtain ⟨c, inside, rfl⟩ := List.mem_map.mp mem
    exact utf8Size_of_letter (isSchemeLetter_of_named named c inside)
  have lengths : other.length = name.length := by simpa using congrArg List.length same
  rw [List.map_append, List.map_append, sizes name named, sizes other ((isSchemeName_congr same).trans named), lengths]

/-- What is expanded of two spellings are two spellings. -/
theorem expand_respelled {σ : Type} (e : Expander σ) {rest : List Char}
    (no_placeholder : ¬ HasPlaceholder (name ++ ':' :: rest)) (plugins : σ) :
    ∃ cs ds log, Respelled name other cs ds ∧
      e.expand (.ofList (name ++ ':' :: rest)) plugins = ⟨.ofList cs, log, plugins⟩ ∧
      e.expand (.ofList (other ++ ':' :: rest)) plugins = ⟨.ofList ds, log, plugins⟩ := by
  have also : isSchemeName other = true := (isSchemeName_congr same).trans named
  have undollared : ∀ cs : List Char, isSchemeName cs = true → '$' ∉ cs := fun cs named mem =>
    absurd (isSchemeLetter_of_named named _ mem) (by decide)
  have no_other_placeholder : ¬ HasPlaceholder (other ++ ':' :: rest) := by
    rw [Placeholder.hasPlaceholder_append_iff (undollared other also),
      ← Placeholder.hasPlaceholder_append_iff (undollared name named)]
    exact no_placeholder
  have sizes := utf8Sizes_respelled named same rest
  rw [e.expand_eq_of_no_placeholder (by rwa [String.toList_ofList]),
    e.expand_eq_of_no_placeholder (by rwa [String.toList_ofList])]
  simp only [String.toList_ofList, ← utf8ByteSize_eq_of_same_sizes sizes,
    Placeholder.occursIn_mark_append (undollared name named), Placeholder.occursIn_mark_append (undollared other also)]
  split
  · obtain ⟨n, left, right⟩ := exists_take_truncated sizes maxExpandedSize
    rw [left, right]
    exact ⟨_, _, _, respelled_take named same rest n, rfl, rfl⟩
  · exact ⟨_, _, _, .whole rest, rfl, rfl⟩

private theorem parsePath_respelled (scheme : Scheme) (rest : List Char) :
    parsePath scheme (name ++ ':' :: rest) rest = parsePath scheme (other ++ ':' :: rest) rest := by
  cases scheme with
  | http | https =>
    unfold parsePath
    cases checked : Locator.checkChars rest with
    | error fault => rfl
    | ok _ =>
      have legal := Locator.checkChars_eq_ok_iff.mp checked
      rw [← Locator.urlParse_lower named legal, ← same,
        Locator.urlParse_lower ((isSchemeName_congr same).trans named) legal]
  | _ => rfl

private theorem parseTrimmed_respelled (rest : List Char) :
    parseTrimmed (name ++ ':' :: rest) = parseTrimmed (other ++ ':' :: rest) := by
  have also : isSchemeName other = true := (isSchemeName_congr same).trans named
  by_cases some_there : rest = []
  · rw [some_there, Locator.parseTrimmed_of_no_path named, Locator.parseTrimmed_of_no_path also]
  · rw [Locator.parseTrimmed_append named some_there, Locator.parseTrimmed_append also some_there, same,
      parsePath_respelled named same]

end Names

inductive ReadAlike : Except ConfigError Locator → Except ConfigError Locator → Prop where
  | located (l : Locator) : ReadAlike (.ok l) (.ok l)
  | refused (text again : String) (fault : LocatorFault) :
      ReadAlike (.error (.invalidLocator text fault)) (.error (.invalidLocator again fault))

private theorem ReadAlike.eq_of_ok {l m : Locator} (alike : ReadAlike (.ok l) (.ok m)) : l = m := by
  cases alike
  rfl

namespace Locator

private theorem readAlike_of_parseTrimmed {text again : String}
    (same : parseTrimmed (trim text.toList) = parseTrimmed (trim again.toList)) : ReadAlike (parse text) (parse again) := by
  unfold parse
  dsimp only
  rw [same]
  cases parseTrimmed (trim again.toList) with
  | ok l => exact .located l
  | error fault => exact .refused _ _ fault

private theorem parse_respelled {name other : List Char} (named : isSchemeName name = true)
    (same : other.map Char.toLower = name.map Char.toLower) (rest : List Char) :
    ReadAlike (parse (.ofList (name ++ ':' :: rest))) (parse (.ofList (other ++ ':' :: rest))) := by
  apply readAlike_of_parseTrimmed
  rw [String.toList_ofList, String.toList_ofList, trim_append named,
    trim_append ((isSchemeName_congr same).trans named)]
  exact parseTrimmed_respelled named same (trimEnd rest)

private theorem trim_of_letters {cs : List Char} (letters : ∀ c ∈ cs, isSchemeLetter c = true) : trim cs = cs :=
  Text.trim_eq_self (fun c first => isBlank_of_letter (letters c (List.mem_of_head? first)))
    fun c last => isBlank_of_letter (letters c (List.mem_of_getLast? last))

private theorem parseTrimmed_of_letters {cs : List Char} (letters : ∀ c ∈ cs, isSchemeLetter c = true) :
    parseTrimmed cs = .error (if cs = [] then .empty else .missingScheme) := by
  have uncut : Text.cutAt (· = ':') cs = none := by
    rw [Option.eq_none_iff_forall_ne_some]
    rintro ⟨before, after⟩ cut
    obtain ⟨c, rfl, colon, -⟩ := Text.eq_append_of_cutAt cut
    obtain rfl : c = ':' := by simpa using colon
    exact absurd (letters ':' (by simp)) (by decide)
  unfold parseTrimmed
  rw [uncut]
  cases cs <;> rfl

private theorem readAlike_of_letters {cs ds : List Char} (letters : ∀ c ∈ cs, isSchemeLetter c = true)
    (also : ∀ c ∈ ds, isSchemeLetter c = true) (same : ds.length = cs.length) :
    ReadAlike (parse (.ofList cs)) (parse (.ofList ds)) := by
  apply readAlike_of_parseTrimmed
  have empty : cs = [] ↔ ds = [] := by rw [← List.length_eq_zero_iff, ← List.length_eq_zero_iff, same]
  rw [String.toList_ofList, String.toList_ofList, trim_of_letters letters, trim_of_letters also,
    parseTrimmed_of_letters letters, parseTrimmed_of_letters also]
  simp only [empty]

end Locator

namespace Resolution

/-- A path begins at the home directory: it is written behind `file:` in small letters, and there is one. -/
def BeginsAtHome (e : Environment) (text : String) : Prop :=
  e.home?.isSome = true ∧ (trim text.toList = "file:~".toList ∨ "file:~/".toList <+: trim text.toList)

instance (e : Environment) (text : String) : Decidable (BeginsAtHome e text) := inferInstanceAs (Decidable (_ ∧ _))

private theorem not_beginsAtHome_of_letters {e : Environment} {cs : List Char}
    (letters : ∀ c ∈ cs, isSchemeLetter c = true) :
    ¬ BeginsAtHome e (.ofList cs) := by
  rintro ⟨-, begins⟩
  rw [String.toList_ofList, Locator.trim_of_letters letters] at begins
  have colon : ':' ∈ cs := by
    rcases begins with rfl | begins
    · decide
    · exact begins.subset (by decide)
  exact absurd (letters _ colon) (by decide)

private theorem complete_of_letters (e : Environment) {cs : List Char} (letters : ∀ c ∈ cs, isSchemeLetter c = true) :
    complete e (.ofList cs) = .ofList cs := by
  have unmarked : ∀ c ∈ cs, c ≠ ':' ∧ c ≠ '~' := by
    intro c mem
    constructor
    all_goals
      rintro rfl
      exact absurd (letters _ mem) (by decide)
  have whole : ∀ home, expandHome home cs = cs := by
    intro home
    have leadless : Text.afterLead? fileLead cs = none := by
      rw [Option.eq_none_iff_forall_ne_some]
      intro rest found
      have begins := Text.eq_append_of_afterLead? found
      exact (unmarked ':' (begins ▸ by simp [fileLead])).1 rfl
    have away : behindTilde? cs = none := behindTilde?_eq_none fun first =>
      (unmarked '~' (List.mem_of_head? first)).2 rfl
    rw [expandHome_eq, leadless, Option.getD_none, away]
  have no_class_path : mapClassPath cs = cs := by
    unfold mapClassPath
    refine if_neg fun eq => ?_
    have colon : ':' ∈ classPathLead := by decide
    rw [← eq] at colon
    obtain ⟨c, mem, lower⟩ := List.mem_map.mp colon
    have letter := letters c (List.mem_of_mem_take mem)
    rw [← isSchemeLetter_toLower, lower] at letter
    exact absurd letter (by decide)
  unfold complete
  dsimp only
  rw [String.toList_ofList, Locator.trim_of_letters letters]
  cases e.home? with
  | none => rw [no_class_path]
  | some home => dsimp only; rw [whole, no_class_path]

variable {name rest : List Char}

private theorem beginsAtHome_iff {e : Environment} (named : isSchemeName name = true) :
    BeginsAtHome e (.ofList (name ++ ':' :: rest)) ↔
      e.home?.isSome = true ∧ name = "file".toList ∧ (behindTilde? (trimEnd rest)).isSome = true := by
  have file : isSchemeName "file".toList = true := by decide
  unfold BeginsAtHome
  rw [String.toList_ofList, Locator.trim_append named]
  refine and_congr_right fun _ => ?_
  constructor
  · rintro (eq | ⟨more, eq⟩)
    · obtain ⟨here, tilde⟩ := append_colon_inj named file eq
      exact ⟨here, tilde ▸ rfl⟩
    · obtain ⟨here, tilde⟩ := append_colon_inj file named eq
      exact ⟨here.symm, tilde ▸ rfl⟩
  · rintro ⟨rfl, found⟩
    obtain ⟨tail, found⟩ := Option.isSome_iff_exists.mp found
    obtain ⟨eq, rfl | ⟨more, rfl⟩⟩ := behindTilde?_eq_some_iff.mp found
    · exact .inl (eq ▸ rfl)
    · exact .inr ⟨more, eq ▸ rfl⟩

/-- Away from the home directory only a class path is completed. -/
theorem complete_of_away {e : Environment} (named : isSchemeName name = true)
    (away : ¬ BeginsAtHome e (.ofList (name ++ ':' :: rest))) :
    complete e (.ofList (name ++ ':' :: rest)) = .ofList (mapClassPath (name ++ ':' :: trimEnd rest)) := by
  rw [beginsAtHome_iff named] at away
  unfold complete
  dsimp only
  rw [String.toList_ofList, Locator.trim_append named]
  cases home : e.home? with
  | none => rfl
  | some directory =>
    dsimp only
    rw [expandHome_of_named named]
    by_cases file : name = "file".toList
    · have none_found : behindTilde? (trimEnd rest) = none := by
        simpa [home, file] using away
      rw [if_pos file, none_found]
    · rw [if_neg file]

variable {σ : Type}

/-- Two spellings of a scheme lead to the same locator, or to refusals for the same reason, if both or none of them
begin at the home directory.  Otherwise it is `file` in small letters that does, and the other spelling is read as
it is, with its tilde. -/
theorem resolveOne_respelled (s : Setting σ) {name other rest : List Char} (named : isSchemeName name = true)
    (same : other.map Char.toLower = name.map Char.toLower) (no_placeholder : ¬ HasPlaceholder (name ++ ':' :: rest))
    (plugins : σ) :
    let one := resolveOne s (.ofList (name ++ ':' :: rest)) plugins
    let two := resolveOne s (.ofList (other ++ ':' :: rest)) plugins
    let first := (s.expander.expand (.ofList (name ++ ':' :: rest)) plugins).text
    let second := (s.expander.expand (.ofList (other ++ ':' :: rest)) plugins).text
    ((BeginsAtHome s.environment first ↔ BeginsAtHome s.environment second) → ReadAlike one.result two.result) ∧
      (BeginsAtHome s.environment first → ¬ BeginsAtHome s.environment second →
        name = "file".toList ∧ two.result = Locator.parse second) ∧
      one.log = two.log ∧ one.plugins = two.plugins := by
  have also : isSchemeName other = true := (isSchemeName_congr same).trans named
  obtain ⟨cs, ds, log, spelled, left, right⟩ := expand_respelled named same s.expander no_placeholder plugins
  unfold resolveOne
  dsimp only
  rw [left, right]
  dsimp only
  refine ⟨fun alike => ?_, fun begins away => ?_, rfl, rfl⟩
  · cases spelled with
    | letters letters also same =>
      rw [complete_of_letters _ letters, complete_of_letters _ also]
      exact Locator.readAlike_of_letters letters also same
    | whole rest =>
      by_cases begins : BeginsAtHome s.environment (.ofList (name ++ ':' :: rest))
      · obtain ⟨-, rfl, -⟩ := (beginsAtHome_iff named).mp begins
        obtain ⟨-, rfl, -⟩ := (beginsAtHome_iff also).mp (alike.mp begins)
        exact Locator.readAlike_of_parseTrimmed rfl
      · rw [complete_of_away named begins, complete_of_away also (mt alike.mpr begins), mapClassPath_of_named named,
          mapClassPath_of_named also, same]
        split
        · exact Locator.readAlike_of_parseTrimmed rfl
        · exact Locator.parse_respelled named same (trimEnd rest)
  · cases spelled with
    | letters letters =>
      exact absurd begins (not_beginsAtHome_of_letters letters)
    | whole rest =>
      obtain ⟨-, file, -⟩ := (beginsAtHome_iff named).mp begins
      refine ⟨file, ?_⟩
      have no_class_path : other.map Char.toLower ≠ "classpath".toList := by
        rw [same, file]
        decide
      rw [complete_of_away also away, mapClassPath_of_named also, if_neg no_class_path]
      unfold Locator.parse
      rw [String.toList_ofList, String.toList_ofList, Locator.trim_append also, Locator.trim_append also,
        Text.trimEnd_eq_self fun c last => Text.isBlank_getLast?_trimEnd last]

/-- Two spellings of a class path, and two spellings of which one begins at the home directory. -/
theorem atHome_respelled :
    let s := atHome "/home/alice"
    let classPath (name : String) := String.ofList (name.toList ++ ':' :: "//org/App.toml".toList)
    let file (name : String) := String.ofList (name.toList ++ ':' :: "~/App.toml".toList)
    ReadAlike (resolveOne s (classPath "ClassPath") ()).result (resolveOne s (classPath "CLASSPATH") ()).result ∧
      (resolveOne s (classPath "ClassPath") ()).result = .ok ⟨.resource, "org/App.toml"⟩ ∧
      (resolveOne s (file "file") ()).result = .ok ⟨.file, "/home/alice/App.toml"⟩ ∧
      (resolveOne s (file "File") ()).result = Locator.parse "File:~/App.toml" := by
  intro s classPath file
  have undollared : ∀ {cs : List Char}, '$' ∉ cs → ¬ HasPlaceholder cs := by
    rintro cs absent ⟨inner, -, -, inside⟩
    exact absent (inside.subset List.mem_cons_self)
  have class_named : isSchemeName "ClassPath".toList = true := by decide
  have class_same : "CLASSPATH".toList.map Char.toLower = "ClassPath".toList.map Char.toLower := by decide
  have class_plain : ¬ HasPlaceholder ("ClassPath".toList ++ ':' :: "//org/App.toml".toList) := undollared (by decide)
  have file_named : isSchemeName "file".toList = true := by decide
  have file_same : "File".toList.map Char.toLower = "file".toList.map Char.toLower := by decide
  have file_plain : ¬ HasPlaceholder ("file".toList ++ ':' :: "~/App.toml".toList) := undollared (by decide)
  refine ⟨(resolveOne_respelled s class_named class_same class_plain ()).1 (by decide +kernel),
    ok_of_toOption (by decide +kernel), ok_of_toOption (by decide +kernel), ?_⟩
  obtain ⟨-, read⟩ :=
    (resolveOne_respelled s file_named file_same file_plain ()).2.1 (by decide +kernel) (by decide +kernel)
  have expanded : (s.expander.expand (.ofList ("File".toList ++ ':' :: "~/App.toml".toList)) ()).text =
      "File:~/App.toml" := by decide +kernel
  rw [expanded] at read
  exact read

/-- In capital letters a file path keeps its tilde. -/
theorem capitals_keep_tilde :
    let s := atHome "/home/alice"
    let small := (resolveOne s "file:~/App.toml" ()).result
    let capital := (resolveOne s "FILE:~/App.toml" ()).result
    small = .ok ⟨.file, "/home/alice/App.toml"⟩ ∧ capital = .ok ⟨.file, "~/App.toml"⟩ ∧ ¬ ReadAlike small capital := by
  intro s small capital
  have completed : small = .ok ⟨.file, "/home/alice/App.toml"⟩ := ok_of_toOption (by decide +kernel)
  have kept : capital = .ok ⟨.file, "~/App.toml"⟩ := ok_of_toOption (by decide +kernel)
  refine ⟨completed, kept, ?_⟩
  rw [completed, kept]
  intro alike
  exact absurd alike.eq_of_ok (by decide)

end Resolution
end LiveConfig
