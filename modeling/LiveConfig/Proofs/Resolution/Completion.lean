import LiveConfig.Resolution
import LiveConfig.Proofs.Locator.RoundTrip

/-!
How the text of a locator is completed, by its scheme.

Two schemes are not read as they are: a path behind `file:` or without a scheme may begin at the home directory,
and a class path becomes a resource.  Any other text stays as it is, but for the white space at its ends.
-/
namespace LiveConfig.Resolution

open Text (afterLead?)
open Locator (isSchemeName)

variable {name rest cs : List Char}

def behindTilde? : List Char → Option (List Char)
  | ['~'] => some []
  | '~' :: '/' :: tail => some ('/' :: tail)
  | _ => none

theorem behindTilde?_eq_some_iff {tail : List Char} :
    behindTilde? cs = some tail ↔ cs = '~' :: tail ∧ (tail = [] ∨ ∃ more, tail = '/' :: more) := by
  constructor
  · intro found
    unfold behindTilde? at found
    split at found
    · obtain rfl := Option.some.inj found
      exact ⟨rfl, .inl rfl⟩
    · obtain rfl := Option.some.inj found
      exact ⟨rfl, .inr ⟨_, rfl⟩⟩
    · exact nomatch found
  · rintro ⟨rfl, rfl | ⟨more, rfl⟩⟩ <;> rfl

theorem behindTilde?_eq_none (other : cs.head? ≠ some '~') : behindTilde? cs = none := by
  rw [Option.eq_none_iff_forall_ne_some]
  intro tail found
  obtain ⟨rfl, -⟩ := behindTilde?_eq_some_iff.mp found
  exact other rfl

theorem expandHome_eq (home cs : List Char) :
    expandHome home cs =
      match behindTilde? ((afterLead? fileLead cs).getD cs) with
      | some tail => fileLead ++ Text.dropEndWhile isSlash home ++ tail
      | none => cs := by
  unfold expandHome
  dsimp only
  generalize (afterLead? fileLead cs).getD cs = path
  cases found : behindTilde? path with
  | some tail =>
    obtain ⟨rfl, rfl | ⟨more, rfl⟩⟩ := behindTilde?_eq_some_iff.mp found
    · exact (List.append_nil _).symm
    · rfl
  | none =>
    split
    · exact nomatch found
    · exact nomatch found
    · rfl

theorem append_colon_inj {other more : List Char} (named : isSchemeName name = true) (also : isSchemeName other = true)
    (same : name ++ ':' :: rest = other ++ ':' :: more) : name = other ∧ rest = more := by
  have cut := Locator.cutAt_colon named rest
  rw [same, Locator.cutAt_colon also more] at cut
  obtain ⟨rfl, rfl⟩ := Prod.mk.inj (Option.some.inj cut)
  exact ⟨rfl, rfl⟩

private theorem afterLead?_fileLead (named : isSchemeName name = true) :
    afterLead? fileLead (name ++ ':' :: rest) = if name = "file".toList then some rest else none := by
  have file : isSchemeName "file".toList = true := by decide
  split
  · next here =>
    subst here
    exact Text.afterLead?_append fileLead rest
  · next other =>
    cases found : afterLead? fileLead (name ++ ':' :: rest) with
    | none => rfl
    | some more =>
      have same : name ++ ':' :: rest = fileLead ++ more := Text.afterLead?_eq_some_iff.mp found
      exact absurd (append_colon_inj named file same).1 other

/-- Only the scheme `file`, in small letters, makes room for the home directory. -/
theorem expandHome_of_named (named : isSchemeName name = true) (home rest : List Char) :
    expandHome home (name ++ ':' :: rest) =
      match (if name = "file".toList then behindTilde? rest else none) with
      | some tail => fileLead ++ Text.dropEndWhile isSlash home ++ tail
      | none => name ++ ':' :: rest := by
  rw [expandHome_eq, afterLead?_fileLead named]
  by_cases file : name = "file".toList
  · rw [if_pos file, if_pos file]
    rfl
  · rw [if_neg file, if_neg file]
    obtain ⟨c, cs, rfl, alpha, -⟩ := Locator.exists_of_isSchemeName named
    have letter : (c :: cs ++ ':' :: rest).head? ≠ some '~' := by
      rintro ⟨⟩
      exact absurd alpha (by decide)
    rw [Option.getD_none, behindTilde?_eq_none letter]

theorem mapClassPath_of_named (named : isSchemeName name = true) (rest : List Char) :
    mapClassPath (name ++ ':' :: rest) =
      if name.map Char.toLower = "classpath".toList then resourceLead ++ rest.dropWhile (· = '/')
      else name ++ ':' :: rest := by
  have lower := Locator.isSchemeName_lower named
  have classPath : isSchemeName "classpath".toList = true := by decide
  have begins : ((name ++ ':' :: rest).take classPathLead.length).map Char.toLower = classPathLead ↔
      name.map Char.toLower = "classpath".toList := by
    rw [List.map_take, List.map_append]
    constructor
    · intro eq
      have whole := List.take_append_drop classPathLead.length
        (name.map Char.toLower ++ (':' :: rest).map Char.toLower)
      rw [eq] at whole
      exact (append_colon_inj lower classPath whole.symm).1
    · intro eq
      rw [eq]
      rfl
  unfold mapClassPath
  dsimp only
  by_cases class_path : name.map Char.toLower = "classpath".toList
  · have length : name.length = 9 := by simpa using congrArg List.length class_path
    rw [if_pos (begins.mpr class_path), if_pos class_path,
      show classPathLead.length = name.length + 1 by rw [length]; rfl, List.drop_length_add_append]
    rfl
  · rw [if_neg (mt begins.mp class_path), if_neg class_path]

def atHome (home : String) : Setting Unit := ⟨⟨.ofList [("HOME", home)], .empty⟩, .empty, .empty⟩

end LiveConfig.Resolution
