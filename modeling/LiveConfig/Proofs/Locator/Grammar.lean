import LiveConfig.Proofs.Locator.RoundTrip

/-!
The grammar of locators.

`Locates` says which texts locate a source, and which one: a name, a colon and a path of legal characters.  A text
is read as a locator exactly if the grammar has it, and refused as an invalid locator otherwise.
-/
namespace LiveConfig

namespace Scheme

def ownNames : List String := ["file", "resource", "env", "system", "mem", "http", "https"]

/-- A name belongs to the scheme that is called so; only a name that is not taken makes another scheme. -/
theorem ofName_eq_iff {name : String} {scheme : Scheme} :
    ofName name = scheme ↔ scheme.name = name ∧ ∀ n, scheme = .other n → n ∉ ownNames := by
  constructor
  · rintro rfl
    refine ⟨ofName_name name, fun n other taken => ?_⟩
    obtain rfl : name = n := (ofName_name name).symm.trans (congrArg Scheme.name other)
    simp only [ownNames, List.mem_cons, List.not_mem_nil, or_false] at taken
    rcases taken with rfl | rfl | rfl | rfl | rfl | rfl | rfl <;> exact nomatch other
  · rintro ⟨rfl, free⟩
    cases scheme with
    | other n =>
      have untaken := free n rfl
      simp only [ownNames, List.mem_cons, List.not_mem_nil, or_false, not_or] at untaken
      unfold ofName name
      split <;> simp_all
    | _ => rfl

end Scheme

namespace Locator

open Text (isBlank isControl)

inductive NamesScheme : List Char → Prop where
  | intro {c : Char} {cs : List Char} (letter : c.isAlpha = true)
      (more : ∀ d ∈ cs, d.isAlphanum = true ∨ d ∈ ['+', '-', '.']) : NamesScheme (c :: cs)

structure Legal (c : Char) : Prop where
  visible : isBlank c = false
  printed : isControl c = false
  plain : c ∉ ['<', '>', '"', '\x7b', '\x7d', '|', '\\', '^', '`']

/-- What path is read from the text behind the colon; `text` is the whole of it. -/
inductive ReadsPath (text rest : List Char) : Scheme → List Char → Prop where
  | file (legal : ∀ c ∈ rest.map slashFor, c = ' ' ∨ Legal c) (single : ¬ ['/', '/'] <+: rest.map slashFor) :
      ReadsPath text rest .file (rest.map slashFor)
  | localFile (legal : ∀ c ∈ rest.map slashFor, c = ' ' ∨ Legal c) (double : ['/', '/'] <+: rest.map slashFor)
      {u : Net.Url} (read : Net.Url.parse ("file:".toList ++ encoded (rest.map slashFor)) = .ok u)
      {path : List Char} (found : u.localPath? = some path) : ReadsPath text rest .file path
  | web {scheme : Scheme} (web : scheme = .http ∨ scheme = .https) (legal : ∀ c ∈ rest, Legal c)
      {u : Net.Url} (read : Net.Url.parse text = .ok u) : ReadsPath text rest scheme rest
  | plain {scheme : Scheme} (plain : scheme ∉ [.file, .http, .https]) (legal : ∀ c ∈ rest, Legal c) :
      ReadsPath text rest scheme rest

inductive Locates : List Char → Locator → Prop where
  | intro {name rest path : List Char} {scheme : Scheme} (named : NamesScheme name) (some_there : rest ≠ [])
      (called : scheme.name = String.ofList (name.map Char.toLower))
      (own : ∀ n, scheme = .other n → n ∉ Scheme.ownNames)
      (reads : ReadsPath (name ++ ':' :: rest) rest scheme path) :
      Locates (name ++ ':' :: rest) ⟨scheme, String.ofList path⟩

private theorem isSchemeName_iff {name : List Char} : isSchemeName name = true ↔ NamesScheme name := by
  cases name with
  | nil => exact ⟨nofun, nofun⟩
  | cons c cs =>
    have letters : (cs.all fun d => d.isAlphanum || d = '+' || d = '-' || d = '.') = true ↔
        ∀ d ∈ cs, d.isAlphanum = true ∨ d ∈ ['+', '-', '.'] := by
      simp [List.all_eq_true, or_assoc]
    unfold isSchemeName
    rw [Bool.and_eq_true, letters]
    exact ⟨fun both => .intro both.1 both.2, fun ⟨letter, more⟩ => ⟨letter, more⟩⟩

private theorem isIllegal_eq_false_iff {c : Char} : isIllegal c = false ↔ Legal c := by
  have listed : "<>\"\x7b\x7d|\\^`".toList = ['<', '>', '"', '\x7b', '\x7d', '|', '\\', '^', '`'] := by decide
  unfold isIllegal
  rw [listed, Bool.or_eq_false_iff, Bool.or_eq_false_iff, List.contains_eq_mem, decide_eq_false_iff_not]
  exact ⟨fun ⟨⟨visible, printed⟩, plain⟩ => ⟨visible, printed, plain⟩,
    fun legal => ⟨⟨legal.visible, legal.printed⟩, legal.plain⟩⟩

private theorem parseFilePath_eq_ok_iff {text rest path : List Char} :
    parseFilePath rest = .ok path ↔ ReadsPath text rest .file path := by
  constructor
  · intro parsed
    have legal := legal_of_parseFilePath parsed
    have spelled : ∀ c ∈ rest.map slashFor, c = ' ' ∨ Legal c := fun c mem =>
      (legal c mem).imp_right isIllegal_eq_false_iff.mp
    rw [parseFilePath_eq legal] at parsed
    split at parsed
    · next single =>
      obtain rfl := Except.ok.inj parsed
      exact .file spelled (mt take_eq_slashes_iff.mpr single)
    · next double =>
      split at parsed
      · exact nomatch parsed
      · next u read =>
        split at parsed
        · next found =>
          obtain rfl := Except.ok.inj parsed
          exact .localFile spelled (take_eq_slashes_iff.mp (not_not.mp double)) read found
        · exact nomatch parsed
  · intro reads
    have checked : ∀ {c : Char}, c = ' ' ∨ Legal c → c = ' ' ∨ isIllegal c = false := fun either =>
      either.imp_right isIllegal_eq_false_iff.mpr
    cases reads with
    | file legal single =>
      rw [parseFilePath_eq fun c mem => checked (legal c mem), if_pos (mt take_eq_slashes_iff.mp single)]
    | localFile legal double read found =>
      rw [parseFilePath_eq fun c mem => checked (legal c mem),
        if_neg (not_not_intro (take_eq_slashes_iff.mpr double)), read]
      dsimp only
      rw [found]
    | web web => simp at web
    | plain plain => simp at plain

private theorem parsePath_eq_ok_iff_reads {scheme : Scheme} {text rest path : List Char} :
    parsePath scheme text rest = .ok path ↔ ReadsPath text rest scheme path := by
  by_cases file : scheme = .file
  · subst file
    exact parseFilePath_eq_ok_iff
  · rw [parsePath_eq_ok_iff file]
    constructor
    · rintro ⟨rfl, legal, web⟩
      have spelled : ∀ c ∈ path, Legal c := fun c mem => isIllegal_eq_false_iff.mp (legal c mem)
      by_cases is_web : scheme = .http ∨ scheme = .https
      · obtain ⟨u, read⟩ := web is_web
        exact .web is_web spelled read
      · exact .plain (by simp_all) spelled
    · intro reads
      cases reads with
      | file | localFile => exact absurd rfl file
      | web is_web legal read =>
        exact ⟨rfl, fun c mem => isIllegal_eq_false_iff.mpr (legal c mem), fun _ => ⟨_, read⟩⟩
      | plain plain legal =>
        exact ⟨rfl, fun c mem => isIllegal_eq_false_iff.mpr (legal c mem), fun is_web => by simp_all⟩

private theorem parseTrimmed_eq_ok_iff_locates {text : List Char} {l : Locator} :
    parseTrimmed text = .ok l ↔ Locates text l := by
  constructor
  · intro parsed
    obtain ⟨name, rest, named, rfl⟩ := exists_of_parseTrimmed parsed
    obtain ⟨some_there, scheme, result⟩ := (parseTrimmed_eq_ok_iff named).mp parsed
    obtain ⟨called, own⟩ := Scheme.ofName_eq_iff.mp scheme.symm
    have located := Locates.intro (isSchemeName_iff.mp named) some_there called own (parsePath_eq_ok_iff_reads.mp result)
    rwa [String.ofList_toList] at located
  · rintro ⟨named, some_there, called, own, reads⟩
    refine (parseTrimmed_eq_ok_iff (isSchemeName_iff.mpr named)).mpr
      ⟨some_there, (Scheme.ofName_eq_iff.mpr ⟨called, own⟩).symm, ?_⟩
    rw [String.toList_ofList]
    exact parsePath_eq_ok_iff_reads.mpr reads

/-- A text is read as a locator exactly if it locates a source once the white space at its ends is cut off; any
other text is refused as an invalid locator. -/
theorem parse_iff_locates (raw : String) :
    (∀ l, parse raw = .ok l ↔ Locates (Text.trim raw.toList) l) ∧
      ((¬ ∃ l, Locates (Text.trim raw.toList) l) →
        ∃ fault, parse raw = .error (.invalidLocator (Text.trimmed raw) fault)) := by
  refine ⟨fun l => parse_eq_ok_iff.trans parseTrimmed_eq_ok_iff_locates, fun nowhere => ?_⟩
  cases result : parseTrimmed (Text.trim raw.toList) with
  | ok l => exact absurd ⟨l, parseTrimmed_eq_ok_iff_locates.mp result⟩ nowhere
  | error fault =>
    refine ⟨fault, ?_⟩
    unfold parse
    dsimp only
    rw [result]
    rfl

end Locator
end LiveConfig
