import LiveConfig.Proofs.Loader.Selection
import Mathlib.Data.List.Basic

/-!
What the log of a selection tells about the variables.

Each entry that is taken is logged under its key, and with its value unless the key looks like a secret.
So the log does not depend on the value of a variable exactly if that variable is not taken or its key
looks like a secret.  Keys and names are the same, unless names are taken without their beginning: then a
mark that lies in the beginning, or across its end, is cut off before anybody looks for it.
-/
namespace LiveConfig.Selection

/-- Lists that are made of the same items, and of which an item is left out in both or in none. -/
private theorem filterMap_eq_iff_of_isSome {α β : Type} {f g : α → Option β} {items : List α}
    (aligned : ∀ a ∈ items, (f a).isSome = (g a).isSome) :
    items.filterMap f = items.filterMap g ↔ ∀ a ∈ items, f a = g a := by
  induction items with
  | nil => simp
  | cons first rest ih =>
    have here := aligned first List.mem_cons_self
    have later := ih fun a mem => aligned a (List.mem_cons_of_mem _ mem)
    rw [List.forall_mem_cons]
    cases left : f first with
    | none =>
      rw [left] at here
      have right : g first = none := by simpa using here.symm
      rw [List.filterMap_cons_none left, List.filterMap_cons_none right, right, later]
      simp
    | some b =>
      rw [left] at here
      obtain ⟨b', right⟩ := Option.isSome_iff_exists.mp here.symm
      rw [List.filterMap_cons_some left, List.filterMap_cons_some right, right, List.cons.injEq, later,
        Option.some.injEq]

private theorem logLine_eq_iff {key value value' : String} :
    logLine false key value = logLine false key value' ↔ (isSecret key = false → value = value') := by
  cases secret : isSecret key with
  | true => simp [logLine, secret]
  | false => simp [logLine, secret]

variable {π : Type} {lead : String} {strip : Bool} {source source' : TextMap String}

def lineFor? (source : TextMap String) (lead : String) (strip : Bool) (name : String) : Option LogLine :=
  (keyFor? lead strip name).map fun key => logLine false key ((source.get? name).getD "")

private theorem lines_eq_filterMap (source : TextMap String) (lead : String) (strip : Bool) :
    (entries source lead strip).map (fun e => logLine false e.1 e.2) =
      source.keys.filterMap (lineFor? source lead strip) := by
  unfold TextMap.keys
  rw [entries_eq_filterMap, List.map_filterMap, List.filterMap_map]
  apply List.filterMap_congr
  intro e mem
  unfold entryFor? lineFor?
  dsimp only [Function.comp]
  rw [TextMap.get?_of_mem mem, Option.map_map]
  rfl

private theorem lines_eq_iff (names : source.keys = source'.keys) :
    (entries source lead strip).map (fun e => logLine false e.1 e.2) =
        (entries source' lead strip).map (fun e => logLine false e.1 e.2) ↔
      ∀ name key, keyFor? lead strip name = some key → isSecret key = false →
        source.get? name = source'.get? name := by
  have known : ∀ name ∈ source.keys, ∃ value value',
      source.get? name = some value ∧ source'.get? name = some value' := by
    intro name mem
    obtain ⟨value, found⟩ := TextMap.mem_keys.mp mem
    rw [names] at mem
    obtain ⟨value', found'⟩ := TextMap.mem_keys.mp mem
    exact ⟨value, value', found, found'⟩
  have aligned : ∀ name ∈ source.keys,
      (lineFor? source lead strip name).isSome = (lineFor? source' lead strip name).isSome := by
    intro name _
    rw [lineFor?, lineFor?, Option.isSome_map, Option.isSome_map]
  rw [lines_eq_filterMap, lines_eq_filterMap, ← names, filterMap_eq_iff_of_isSome aligned]
  constructor
  · intro same name key taken shown
    by_cases mem : name ∈ source.keys
    · obtain ⟨value, value', found, found'⟩ := known name mem
      have lines := same name mem
      unfold lineFor? at lines
      rw [taken, found, found'] at lines
      have values : value = value' := logLine_eq_iff.mp (Option.some.inj lines) shown
      rw [found, found', values]
    · rw [TextMap.get?_eq_none mem, TextMap.get?_eq_none (names ▸ mem)]
  · intro agree name mem
    unfold lineFor?
    cases taken : keyFor? lead strip name with
    | none => rfl
    | some key =>
      rw [Option.map_some, Option.map_some]
      apply congrArg some
      apply logLine_eq_iff.mpr
      intro shown
      rw [agree name key taken shown]

def logOf (strip : Bool) (l : Locator) (cx : LoadContext) (outside : Outside) (plugins : π) :
    List LogLine :=
  (((ofVariables strip false).load cx l).finish outside plugins).log

/-- A load of variables that hides secrets, in two environments with variables of the same names, logs the
same lines exactly if these have the same values for all variables that are taken under a key without the
mark of a secret.  So a variable whose name has a mark anywhere does not show in the log when names are
taken as a whole, nor when they are taken without their beginning, as long as the rest of a name with a
mark has a mark, too. -/
theorem log_hides_secrets (strip : Bool) (l : Locator) {cx cx' : LoadContext}
    (names : cx.environment.vars.keys = cx'.environment.vars.keys) (outside outside' : Outside)
    (plugins plugins' : π) :
    (logOf strip l cx outside plugins = logOf strip l cx' outside' plugins' ↔
      ∀ name key, keyFor? (leadOf l.path) strip name = some key → isSecret key = false →
        cx.environment.var? name = cx'.environment.var? name) ∧
    ((strip = true → ∀ rest, leadOf l.path ++ rest ∈ cx.environment.vars.keys →
        isSecret (leadOf l.path ++ rest) = true → isSecret rest = true) →
      (∀ name, isSecret name = false → cx.environment.var? name = cx'.environment.var? name) →
      logOf strip l cx outside plugins = logOf strip l cx' outside' plugins') := by
  have exactly : logOf strip l cx outside plugins = logOf strip l cx' outside' plugins' ↔
      ∀ name key, keyFor? (leadOf l.path) strip name = some key → isSecret key = false →
        cx.environment.var? name = cx'.environment.var? name := lines_eq_iff names
  refine ⟨exactly, ?_⟩
  intro kept agree
  refine exactly.mpr ?_
  intro name key taken shown
  by_cases known : name ∈ cx.environment.vars.keys
  · apply agree
    cases strip with
    | false =>
      rw [← keyFor?_false taken]
      exact shown
    | true =>
      obtain rfl := keyFor?_true taken
      cases secret : isSecret (leadOf l.path ++ key) with
      | false => rfl
      | true =>
        rw [kept rfl key known secret] at shown
        exact nomatch shown
  · exact (TextMap.get?_eq_none known).trans (TextMap.get?_eq_none (names ▸ known)).symm

def withSecret (name value : String) : LoadContext :=
  ⟨⟨.ofList [(name, value), ("DB_HOST", "localhost")], .empty⟩, []⟩

private theorem withSecret_agree {name : String} (secret : isSecret name = true) (value value' : String) :
    ∀ other, isSecret other = false →
      (withSecret name value).environment.var? other = (withSecret name value').environment.var? other := by
  intro other plain
  have ne : name ≠ other := by
    rintro rfl
    rw [secret] at plain
    exact nomatch plain
  simp [withSecret, Environment.var?, TextMap.ofList, ne]

theorem stripped_log_hides_secrets :
    let l : Locator := ⟨.env, "DB_"⟩
    let outside : Outside := ⟨0, .empty, ⟨.empty, "/", "x86_64"⟩, .empty⟩
    (withSecret "DB_PASSWORD" "x").environment.vars.keys =
        (withSecret "DB_PASSWORD" "y").environment.vars.keys ∧
      (logOf true l (withSecret "DB_PASSWORD" "x") outside ()).length = 2 ∧
      logOf true l (withSecret "DB_PASSWORD" "x") outside () =
        logOf true l (withSecret "DB_PASSWORD" "y") outside () := by
  intro l outside
  have names : (withSecret "DB_PASSWORD" "x").environment.vars.keys =
      (withSecret "DB_PASSWORD" "y").environment.vars.keys := rfl
  refine ⟨names, by decide +kernel, (log_hides_secrets true l names outside outside () ()).2 ?_ ?_⟩
  · rintro - rest known secret
    have listed : (withSecret "DB_PASSWORD" "x").environment.vars.keys =
        [leadOf l.path ++ "HOST", leadOf l.path ++ "PASSWORD"] := rfl
    rw [listed] at known
    rcases List.mem_pair.mp known with same | same
    · rw [same] at secret
      exact absurd secret (by decide +kernel)
    · rw [(String.append_right_inj _).mp same]
      decide +kernel
  · exact withSecret_agree (by decide +kernel) "x" "y"

/-- The only mark in the name is cut off with its beginning, and the log tells the value. -/
theorem cut_mark_tells_secret :
    let l : Locator := ⟨.env, "SECRET_"⟩
    let outside : Outside := ⟨0, .empty, ⟨.empty, "/", "x86_64"⟩, .empty⟩
    (ofVariables true false : Loader Unit).accepts l = true ∧ isSecret "SECRET_KEY" = true ∧
      (withSecret "SECRET_KEY" "x").environment.vars.keys =
        (withSecret "SECRET_KEY" "y").environment.vars.keys ∧
      (∀ name, isSecret name = false → (withSecret "SECRET_KEY" "x").environment.var? name =
        (withSecret "SECRET_KEY" "y").environment.var? name) ∧
      logOf true l (withSecret "SECRET_KEY" "x") outside () ≠
        logOf true l (withSecret "SECRET_KEY" "y") outside () := by
  intro l outside
  have secret : isSecret "SECRET_KEY" = true := by decide +kernel
  exact ⟨rfl, secret, rfl, withSecret_agree secret "x" "y", by decide +kernel⟩

end LiveConfig.Selection
