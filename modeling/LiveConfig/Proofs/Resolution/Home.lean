import LiveConfig.Proofs.Expansion.PlainText
import LiveConfig.Proofs.Resolution.Completion
import Mathlib.Data.List.DropRight

/-!
Paths that begin at the home directory.

The slashes at the end of the home directory are taken off before the rest of the path is put behind it.  Of a home
directory that is the root nothing is left then: a path below it is found, but the directory itself is not.
-/
namespace LiveConfig

open Text (dropEndWhile)
open Locator (isIllegal slashFor StandsAsIs)

namespace Locator

private theorem legal_slashFor {c : Char} (legal : c = ' ' ∨ c = '\\' ∨ isIllegal c = false) :
    slashFor c = ' ' ∨ isIllegal (slashFor c) = false := by
  have slash : isIllegal '/' = false := by decide
  by_cases backslash : c = '\\'
  · rw [slashFor_eq_slash_iff.mpr (.inr backslash)]
    exact .inr slash
  · rw [slashFor_eq backslash]
    exact legal.imp_right fun more => more.resolve_left backslash

/-- A path that can stand in a locator but for its backslashes does not end in white space. -/
private theorem StandsAsIs.visible {path : List Char} (stands : StandsAsIs (path.map slashFor)) :
    ∀ c, path.getLast? = some c → Text.isBlank c = false := by
  intro c last
  have mapped : (path.map slashFor).getLast? = some (slashFor c) := by
    rw [List.getLast?_map, last]
    rfl
  by_cases backslash : c = '\\'
  · rw [backslash]
    decide
  · rw [slashFor_eq backslash] at mapped
    have unended : c ≠ ' ' := fun blank => stands.ended (mapped.trans (congrArg some blank))
    exact isBlank_eq_false ((stands.legal c (List.mem_of_getLast? mapped)).resolve_left unended)

private theorem StandsAsIs.unmarked {path : List Char} (stands : StandsAsIs (path.map slashFor)) : '\x7b' ∉ path := by
  intro mem
  have absent : '\x7b' ∉ path.map slashFor := not_mem_of_illegal stands.legal (by decide) (by decide)
  exact absent (List.mem_map_of_mem mem)

/-- A file path that can stand in a locator is read as it is, but for backslashes. -/
theorem parse_file {path : List Char} (some_there : path ≠ []) (stands : StandsAsIs (path.map slashFor)) :
    parse (.ofList ("file:".toList ++ path)) = .ok ⟨.file, .ofList (path.map slashFor)⟩ := by
  have file : isSchemeName "file".toList = true := by decide
  have scheme : Scheme.ofName (String.ofList ("file".toList.map Char.toLower)) = .file := by decide
  have whole : Text.trimEnd path = path := Text.trimEnd_eq_self stands.visible
  have parsed : parseTrimmed ("file".toList ++ ':' :: path) = .ok ⟨.file, .ofList (path.map slashFor)⟩ := by
    rw [parseTrimmed_append file some_there, scheme]
    dsimp only [parsePath]
    rw [parseFilePath_eq stands.legal, if_pos stands.single]
    rfl
  have trimmed : Text.trim ("file".toList ++ ':' :: path) = "file".toList ++ ':' :: path := by
    rw [trim_append file, whole]
  rw [parse_eq_ok_iff, String.toList_ofList, ← parsed]
  exact congrArg parseTrimmed trimmed

private theorem parse_file_of_no_path : parse "file:" = .error (.invalidLocator "file:" .emptyPath) := by
  have file : isSchemeName "file".toList = true := by decide
  have trimmed : Text.trim "file:".toList = "file".toList ++ [':'] := trim_append file []
  unfold parse
  dsimp only
  rw [trimmed, parseTrimmed_of_no_path file]
  have text : String.ofList ("file".toList ++ [':']) = "file:" := by decide
  rw [text]
  rfl

/-- A path behind another one, which does not end in a slash itself. -/
private theorem StandsAsIs.append {front behind : List Char} (stands : StandsAsIs front)
    (ended : front.getLast? ≠ some '/')
    (below : StandsAsIs ('/' :: behind)) : StandsAsIs (front ++ '/' :: behind) := by
  refine ⟨?_, ?_, ?_⟩
  · intro c mem
    rcases List.mem_append.mp mem with mem | mem
    · exact stands.legal c mem
    · exact below.legal c mem
  · -- One character in front of the slash could make a second one of it.
    match front with
    | [] => exact below.single
    | [c] =>
      intro double
      obtain rfl : c = '/' := (List.cons.inj double).1
      exact ended rfl
    | _ :: _ :: _ => exact stands.single
  · rw [List.getLast?_append_of_ne_nil _ (List.cons_ne_nil _ _)]
    exact below.ended

end Locator

namespace Resolution

/-- A home directory that a file locator can be written with, whatever slashes stand behind it. -/
structure IsHome (home : List Char) : Prop where
  legal : ∀ c ∈ home, c = ' ' ∨ isIllegal c = false
  single : home.take 2 ≠ ['/', '/']
  ended : (dropEndWhile (· = '/') home).getLast? ≠ some ' '

variable {home tail : List Char}

private theorem IsHome.stands (usual : IsHome home) : StandsAsIs (dropEndWhile (· = '/') home) := by
  have beginning : dropEndWhile (· = '/') home <+: home := List.rdropWhile_prefix (· = '/') home
  refine ⟨fun c mem => usual.legal c (beginning.subset mem), fun double => usual.single ?_, usual.ended⟩
  exact Locator.take_eq_slashes_iff.mpr ((Locator.take_eq_slashes_iff.mp double).trans beginning)

private theorem IsHome.unslanted (usual : IsHome home) : '\\' ∉ home :=
  Locator.not_mem_of_illegal usual.legal (by decide) (by decide)

private theorem dropEndWhile_isSlash (unslanted : '\\' ∉ home) :
    dropEndWhile isSlash home = dropEndWhile (· = '/') home := by
  have same : ∀ cs : List Char, '\\' ∉ cs → cs.dropWhile isSlash = cs.dropWhile (· = '/') := by
    intro cs unslanted
    induction cs with
    | nil => rfl
    | cons c cs ih =>
      have other : c ≠ '\\' := fun eq => unslanted (eq ▸ List.mem_cons_self)
      have alike : isSlash c = decide (c = '/') := by simp [isSlash, other]
      rw [List.dropWhile_cons, List.dropWhile_cons, alike, ih (List.not_mem_of_not_mem_cons unslanted)]
  unfold dropEndWhile
  rw [same home.reverse (by simpa using unslanted)]

private theorem getLast?_dropEndWhile_ne (cs : List Char) : (dropEndWhile (· = '/') cs).getLast? ≠ some '/' := by
  change (cs.rdropWhile (· = '/')).getLast? ≠ some '/'
  intro last
  have some_there : cs.rdropWhile (· = '/') ≠ [] := by
    intro nothing
    rw [nothing] at last
    exact nomatch last
  have other := List.rdropWhile_last_not (· = '/') cs some_there
  rw [List.getLast?_eq_some_getLast some_there] at last
  exact other (decide_eq_true (Option.some.inj last))

structure IsBelow (tail : List Char) : Prop where
  legal : ∀ c ∈ tail, c = ' ' ∨ c = '\\' ∨ isIllegal c = false
  started : ∀ c, tail.head? = some c → isSlash c = false
  ended : tail.getLast? ≠ some ' '

private theorem IsBelow.stands (below : IsBelow tail) : StandsAsIs (('/' :: tail).map slashFor) := by
  have slash : isIllegal '/' = false := by decide
  refine ⟨?_, ?_, ?_⟩
  · intro c mem
    rcases List.mem_cons.mp mem with rfl | mem
    · exact .inr slash
    · obtain ⟨d, inside, rfl⟩ := List.mem_map.mp mem
      exact Locator.legal_slashFor (below.legal d inside)
  · intro double
    cases tail with
    | nil => exact nomatch double
    | cons c cs =>
      have second : slashFor c = '/' := (List.cons.inj (List.cons.inj double).2).1
      have slash_first : isSlash c = true := by simpa [isSlash] using Locator.slashFor_eq_slash_iff.mp second
      exact Bool.noConfusion (slash_first.symm.trans (below.started c rfl))
  · intro blank
    rw [List.map_cons, List.getLast?_cons, List.getLast?_map] at blank
    cases last : tail.getLast? with
    | none =>
      rw [last] at blank
      exact absurd blank (by decide)
    | some c =>
      rw [last] at blank
      have space : c = ' ' := Locator.slashFor_eq_space_iff.mp (Option.some.inj blank)
      exact below.ended (last.trans (congrArg some space))

private theorem mapClassPath_fileLead (path : List Char) : mapClassPath (fileLead ++ path) = fileLead ++ path := by
  have file : Locator.isSchemeName "file".toList = true := by decide
  exact (mapClassPath_of_named file path).trans (if_neg (by decide))

section Tilde

variable {lead : List Char} (scheme : lead = [] ∨ lead = fileLead)

include scheme

private theorem expandHome_tilde (home : List Char) (begins : tail = [] ∨ ∃ more, tail = '/' :: more) :
    expandHome home (lead ++ '~' :: tail) = fileLead ++ (dropEndWhile isSlash home ++ tail) := by
  have behind : (Text.afterLead? fileLead (lead ++ '~' :: tail)).getD (lead ++ '~' :: tail) = '~' :: tail := by
    rcases scheme with rfl | rfl
    · rfl
    · rw [Text.afterLead?_append]
      rfl
  rw [expandHome_eq, behind, behindTilde?_eq_some_iff.mpr ⟨rfl, begins⟩]
  exact List.append_assoc _ _ _

private theorem trim_tilde (visible : ∀ c, tail.getLast? = some c → Text.isBlank c = false) :
    Text.trim (lead ++ '~' :: tail) = lead ++ '~' :: tail := by
  refine Text.trim_eq_self ?_ ?_
  · rcases scheme with rfl | rfl <;> rintro c ⟨⟩ <;> decide
  · intro c last
    rw [List.getLast?_append_of_ne_nil _ (List.cons_ne_nil _ _), List.getLast?_cons] at last
    cases behind : tail.getLast? with
    | none =>
      rw [behind] at last
      obtain rfl := Option.some.inj last
      decide
    | some d =>
      rw [behind] at last
      obtain rfl := Option.some.inj last
      exact visible d behind

/-- A template that begins with a tilde, with or without a scheme before it. -/
theorem resolveOne_tilde {σ : Type} (s : Setting σ) {home : String} (found : s.environment.home? = some home)
    (begins : tail = [] ∨ ∃ more, tail = '/' :: more) (stands : StandsAsIs (tail.map slashFor)) (plugins : σ) :
    resolveOne s (.ofList (lead ++ '~' :: tail)) plugins =
      ⟨Locator.parse (.ofList (fileLead ++ (dropEndWhile isSlash home.toList ++ tail))), [], plugins⟩ := by
  have plain : Text.occursIn ['$', '\x7b'] (lead ++ '~' :: tail) = false := by
    have part : '\x7b' ∈ ['$', '\x7b'] := by decide
    refine Text.occursIn_eq_false part ?_
    rcases scheme with rfl | rfl <;> simp [fileLead, stands.unmarked]
  have completed : complete s.environment (.ofList (lead ++ '~' :: tail)) =
      .ofList (fileLead ++ (dropEndWhile isSlash home.toList ++ tail)) := by
    unfold complete
    dsimp only
    rw [String.toList_ofList, trim_tilde scheme stands.visible, found]
    dsimp only
    rw [expandHome_tilde scheme home.toList begins, mapClassPath_fileLead]
  unfold resolveOne
  dsimp only
  rw [s.expander.expand_of_unmarked (by rwa [String.toList_ofList]), completed]

end Tilde

/-- A path below the home directory is found there, in whatever way the home directory ends.  The home directory
itself is found unless it is the root, which leaves an empty path. -/
theorem resolveOne_home {σ : Type} (s : Setting σ) {home : String} (found : s.environment.home? = some home)
    (usual : IsHome home.toList) (below : IsBelow tail) {lead : List Char} (scheme : lead = [] ∨ lead = fileLead)
    (plugins : σ) :
    let directory := dropEndWhile (· = '/') home.toList
    resolveOne s (.ofList (lead ++ '~' :: '/' :: tail)) plugins =
        ⟨.ok ⟨.file, .ofList (directory ++ '/' :: tail.map slashFor)⟩, [], plugins⟩ ∧
      resolveOne s (.ofList (lead ++ ['~'])) plugins =
        ⟨if directory = [] then .error (.invalidLocator "file:" .emptyPath) else .ok ⟨.file, .ofList directory⟩,
          [], plugins⟩ := by
  intro directory
  have stands : StandsAsIs directory := usual.stands
  have same : dropEndWhile isSlash home.toList = directory := dropEndWhile_isSlash usual.unslanted
  constructor
  · have path : (directory ++ '/' :: tail).map slashFor = directory ++ '/' :: tail.map slashFor := by
      rw [List.map_append, stands.map_slashFor]
      rfl
    have joined : StandsAsIs ((directory ++ '/' :: tail).map slashFor) := by
      rw [path]
      exact stands.append (getLast?_dropEndWhile_ne home.toList) below.stands
    have parsed : Locator.parse (.ofList (fileLead ++ (directory ++ '/' :: tail))) =
        .ok ⟨.file, .ofList (directory ++ '/' :: tail.map slashFor)⟩ := by
      rw [← path]
      exact Locator.parse_file (by simp) joined
    rw [resolveOne_tilde scheme s found (.inr ⟨tail, rfl⟩) below.stands, same, parsed]
  · have nothing : StandsAsIs (List.map slashFor []) := ⟨nofun, by decide, nofun⟩
    have parsed : Locator.parse (.ofList (fileLead ++ directory)) =
        if directory = [] then .error (.invalidLocator "file:" .emptyPath) else .ok ⟨.file, .ofList directory⟩ := by
      split
      · next root =>
        rw [root]
        exact Locator.parse_file_of_no_path
      · next some_there =>
        have path : directory.map slashFor = directory := stands.map_slashFor
        have read := Locator.parse_file some_there (path.symm ▸ stands)
        rwa [path] at read
    rw [resolveOne_tilde scheme s found (.inl rfl) nothing, same, List.append_nil, parsed]

/-- A home directory with a blank and slashes at its end, and a path with a backslash. -/
theorem resolveOne_home_of_blank :
    let s := atHome "/home/Jane Doe//"
    (resolveOne s "~/conf dir\\app.toml" ()).result = .ok ⟨.file, "/home/Jane Doe/conf dir/app.toml"⟩ ∧
      (resolveOne s "file:~" ()).result = .ok ⟨.file, "/home/Jane Doe"⟩ := by
  intro s
  have found : s.environment.home? = some "/home/Jane Doe//" := by decide +kernel
  have usual : IsHome "/home/Jane Doe//".toList :=
    ⟨by simp [isIllegal, Text.isBlank, Text.isControl], by decide +kernel, by decide +kernel⟩
  have below : IsBelow "conf dir\\app.toml".toList :=
    ⟨by simp [isIllegal, Text.isBlank, Text.isControl], by rintro c ⟨⟩; decide, by decide +kernel⟩
  have directory : dropEndWhile (· = '/') "/home/Jane Doe//".toList = "/home/Jane Doe".toList := by decide +kernel
  obtain ⟨found_there, -⟩ := resolveOne_home s found usual below (.inl rfl) ()
  obtain ⟨-, itself⟩ := resolveOne_home s found usual below (.inr rfl) ()
  rw [directory] at found_there itself
  exact ⟨congrArg Resolved.result found_there, congrArg Resolved.result itself⟩

/-- With the root as the home directory paths below it are found, but not the directory itself. -/
theorem root_home_refused :
    let s := atHome "/"
    (resolveOne s "~/" ()).result = .ok ⟨.file, "/"⟩ ∧
      (resolveOne s "~" ()).result ≠ .ok ⟨.file, "/"⟩ ∧ (resolveOne s "file:~" ()).result ≠ .ok ⟨.file, "/"⟩ := by
  intro s
  have refused : ∀ {r : Except ConfigError Locator}, r.toOption = none → r ≠ .ok ⟨.file, "/"⟩ := by
    rintro r nothing rfl
    exact nomatch nothing
  exact ⟨ok_of_toOption (by decide +kernel), refused (by decide +kernel), refused (by decide +kernel)⟩

end Resolution
end LiveConfig
