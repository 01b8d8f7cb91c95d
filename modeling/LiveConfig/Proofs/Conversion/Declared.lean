import LiveConfig.Conversion.Basic

/-!
Declared converters.

A converter that makes values of exactly the type that is asked for decides alone: it gets the whole text
as it stands, and its answer is the answer.  An optional type is never asked for itself, since its
conversion is that to the type of the value that may be missing; so a converter to an optional type is
never run.
-/
namespace LiveConfig

variable {σ α β : Type}

namespace Conversion

private theorem ext_run {m m' : Conversion σ α} (same : ∀ s, m.run s = m'.run s) : m = m' :=
  ExceptT.ext (funext same)

theorem run_bind (m : Conversion σ α) (f : α → Conversion σ β) (s : σ) :
    (m >>= f).run s = match m.run s with
      | (.ok a, after) => (f a).run after
      | (.error e, after) => (.error e, after) := by
  change (m.run >>= ExceptT.bindCont f) s = _
  change (let (answer, after) := m.run s; ExceptT.bindCont f answer after) = _
  rcases m.run s with ⟨e | a, after⟩
  · rfl
  · rfl

private theorem run_map (f : α → β) (m : Conversion σ α) (s : σ) :
    (f <$> m).run s = ((m.run s).1.map f, (m.run s).2) := by
  rw [← bind_pure_comp, run_bind]
  rcases m.run s with ⟨e | a, after⟩
  · rfl
  · rfl

theorem run_retold (m : Conversion σ α) (words : Failure → Failure) (s : σ) :
    (tryCatch m fun e => throw (words e)).run s = ((m.run s).1.mapError words, (m.run s).2) := by
  have bound : ∀ f : Except Failure α → StateM σ (Except Failure α),
      (m.run >>= f) s = f (m.run s).1 (m.run s).2 := fun f => rfl
  rw [ExceptT.run_tryCatch, bound]
  rcases m.run s with ⟨e | a, after⟩
  · rfl
  · rfl

end Conversion

def Plugin.converting (plugin : Plugin σ (Converter σ))
    (convert : String → σ → Except Refusal Value × σ) : Plugin σ (Converter σ) :=
  ⟨fun s => ((plugin.make s).1.map fun k => { k with convert }, (plugin.make s).2)⟩

namespace ConversionContext

variable (cx : ConversionContext σ)

def told (target : String) : Except Refusal α × σ → Except Failure α × σ
  | (.ok a, s) => (.ok a, s)
  | (.error refusal, s) =>
    (.error (.error (.unsupportedConversion cx.key target (.causedBy refusal))), s)

theorem run_attempt (target : String) (f : σ → Except Refusal α × σ) (s : σ) :
    (cx.attempt target f).run s = cx.told target (f s) := by
  have called : (Conversion.call f).run s = (.ok (f s).1, (f s).2) := rfl
  unfold attempt
  rw [Conversion.run_bind, called]
  rcases f s with ⟨refusal | a, after⟩
  · rfl
  · rfl

variable {cx} {plugin : Plugin σ (Converter σ)} {converter : Converter σ} {target : Target} {s s' : σ}

private theorem run_convertOnly (made : plugin.make s = (.ok converter, s')) (output : converter.output = target)
    (raw : String) :
    (cx.convertOnly plugin target raw).run s = cx.told target.name (converter.convert raw s') := by
  unfold convertOnly
  rw [Conversion.run_bind, run_attempt, made]
  dsimp only [told]
  rw [if_neg (not_not_intro output)]
  exact run_attempt cx target.name (converter.convert raw) s'

private theorem run_convertWhole? (declared : cx.converter = some plugin)
    (made : plugin.make s = (.ok converter, s')) (output : converter.output = target) (raw : String) :
    (cx.convertWhole? target raw).run s =
      ((cx.told target.name (converter.convert raw s')).1.map some,
        (cx.told target.name (converter.convert raw s')).2) := by
  unfold convertWhole?
  rw [declared]
  dsimp only
  rw [Conversion.run_bind, run_attempt, made]
  dsimp only [told]
  rw [if_neg (not_not_intro output)]
  change (cx.attempt target.name (converter.convert raw) >>= fun value => pure (some value)).run s' = _
  rw [bind_pure_comp, Conversion.run_map, run_attempt]
  rfl

/-- The converter of a collection takes the text before it is cut into tokens. -/
private theorem run_collect {whole : Target} (declared : cx.converter = some plugin)
    (made : plugin.make s = (.ok converter, s')) (output : converter.output = whole) (c : Collection)
    (name : String) (convert : String → Conversion σ Value) (raw : String) :
    (cx.collect whole c name convert raw).run s = cx.told whole.name (converter.convert raw s') := by
  unfold collect
  rw [Conversion.run_bind, run_convertWhole? declared made output]
  rcases cx.told whole.name (converter.convert raw s') with ⟨e | value, after⟩
  · rfl
  · rfl

end ConversionContext

def Value.presented : Nat → Value → Value
  | 0, v => v
  | n + 1, v => .present (presented n v)

namespace Target

def isDirect : Target → Bool
  | .scalar _ | .collection _ _ | .array _ _ => true
  | .option _ | .edited _ | .parsed _ => false

variable {cx : ConversionContext σ} {plugin : Plugin σ (Converter σ)} {converter : Converter σ}
  {s s' : σ} {t : Target}

private theorem run_convert_of_direct (rules : Rules) (declared : cx.converter = some plugin)
    (made : plugin.make s = (.ok converter, s')) (output : converter.output = t)
    (direct : t.isDirect = true) (raw : String) :
    (t.convert rules cx raw).run s = cx.told t.name (converter.convert raw s') := by
  cases t with
  | scalar kind =>
    unfold convert
    rw [declared]
    exact ConversionContext.run_convertOnly made output raw
  | collection c t =>
    unfold convert
    exact ConversionContext.run_collect declared made output c _ _ raw
  | array n t =>
    unfold convert
    dsimp only
    rw [Conversion.run_bind, ConversionContext.run_convertWhole? declared made output]
    rcases cx.told (array n t).name (converter.convert raw s') with ⟨e | value, after⟩
    · rfl
    · rfl
  | option | edited | parsed => exact nomatch direct

def optional : Nat → Target → Target
  | 0, t => t
  | n + 1, t => .option (optional n t)

private theorem run_convert_optional (rules : Rules) (declared : cx.converter = some plugin)
    (made : plugin.make s = (.ok converter, s')) (output : converter.output = t)
    (direct : t.isDirect = true) (raw : String) (n : Nat) :
    ((t.optional n).convert rules cx raw).run s =
      ((cx.told t.name (converter.convert raw s')).1.map (Value.presented n),
        (cx.told t.name (converter.convert raw s')).2) := by
  induction n with
  | zero =>
    rw [optional, run_convert_of_direct rules declared made output direct]
    rcases cx.told t.name (converter.convert raw s') with ⟨e | value, after⟩
    · rfl
    · rfl
  | succ n ih =>
    rw [optional, convert, Conversion.run_map, ih]
    rcases cx.told t.name (converter.convert raw s') with ⟨e | value, after⟩
    · rfl
    · rfl

def isPlain : Target → Bool
  | .scalar _ => true
  | .option t | .collection _ t | .array _ t => t.isPlain
  | .edited _ | .parsed _ => false

def isOption : Target → Bool
  | .option _ => true
  | .scalar _ | .collection _ _ | .array _ _ | .edited _ | .parsed _ => false

end Target

namespace ConversionContext

def converting (cx : ConversionContext σ) (plugin : Plugin σ (Converter σ))
    (convert : String → σ → Except Refusal Value × σ) : ConversionContext σ :=
  { cx with converter := some (plugin.converting convert) }

variable {cx : ConversionContext σ} {plugin : Plugin σ (Converter σ)} {t : Target}
  (declared : cx.converter = some plugin)
  (elsewhere : ∀ s converter s', plugin.make s = (.ok converter, s') → converter.output ≠ t)
  (convert : String → σ → Except Refusal Value × σ)

include elsewhere in
private theorem convertOnly_converting (raw : String) :
    (cx.converting plugin convert).convertOnly (plugin.converting convert) t raw =
      cx.convertOnly plugin t raw := by
  apply Conversion.ext_run
  intro s
  unfold convertOnly
  rw [Conversion.run_bind, Conversion.run_bind, run_attempt, run_attempt]
  unfold Plugin.converting
  dsimp only
  rcases made : plugin.make s with ⟨refusal | converter, after⟩
  · rfl
  · have ne := elsewhere s converter after made
    dsimp only [told, Except.map]
    rw [if_pos ne, if_pos ne]
    rfl

include declared elsewhere in
private theorem convertWhole?_converting (raw : String) :
    (cx.converting plugin convert).convertWhole? t raw = cx.convertWhole? t raw := by
  apply Conversion.ext_run
  intro s
  unfold convertWhole?
  rw [declared]
  unfold converting Plugin.converting
  dsimp only
  rw [Conversion.run_bind, Conversion.run_bind, run_attempt, run_attempt]
  rcases made : plugin.make s with ⟨refusal | converter, after⟩
  · rfl
  · have ne := elsewhere s converter after made
    dsimp only [told, Except.map]
    rw [if_pos ne, if_pos ne]

private theorem convertTokens_converting (name : String) (plugin : Plugin σ (Converter σ))
    (read : String → Conversion σ Value) (tokens : List String) :
    (cx.converting plugin convert).convertTokens name read tokens = cx.convertTokens name read tokens := by
  induction tokens with
  | nil => rfl
  | cons token rest ih =>
    unfold convertTokens
    rw [ih]
    rfl

include declared elsewhere in
private theorem collect_converting (c : Collection) (name : String) {read read' : String → Conversion σ Value}
    (same : ∀ raw, read raw = read' raw) (raw : String) :
    (cx.converting plugin convert).collect t c name read raw = cx.collect t c name read' raw := by
  obtain rfl : read = read' := funext same
  unfold collect
  rw [convertWhole?_converting declared elsewhere]
  simp only [convertTokens_converting]
  rfl

end ConversionContext

namespace Target

variable {cx : ConversionContext σ} {plugin : Plugin σ (Converter σ)}

/-- Converters to optional types are made, but never run. -/
theorem convert_converting (rules : Rules) (declared : cx.converter = some plugin)
    (optional : ∀ s converter s', plugin.make s = (.ok converter, s') → converter.output.isOption = true)
    (convert : String → σ → Except Refusal Value × σ) {t : Target} (plain : t.isPlain = true)
    (raw : String) : t.convert rules (cx.converting plugin convert) raw = t.convert rules cx raw := by
  have elsewhere : ∀ {t : Target}, t.isOption = false → ∀ s converter s',
      plugin.make s = (.ok converter, s') → converter.output ≠ t := by
    rintro t direct s converter s' made rfl
    rw [optional s converter s' made] at direct
    exact nomatch direct
  induction t generalizing raw with
  | scalar kind =>
    unfold Target.convert
    rw [declared]
    exact ConversionContext.convertOnly_converting (elsewhere rfl) convert raw
  | option t ih =>
    unfold Target.convert
    rw [ih plain]
  | collection c t ih =>
    unfold Target.convert
    exact ConversionContext.collect_converting declared (elsewhere rfl) convert c _ (ih plain) raw
  | array n t ih =>
    unfold Target.convert
    dsimp only
    rw [ConversionContext.convertWhole?_converting declared (elsewhere rfl),
      ConversionContext.collect_converting declared (elsewhere rfl) convert _ _ (ih plain)]
    rfl
  | edited | parsed => exact nomatch plain

/-- A declared converter whose values are of exactly the type that is asked for decides alone, if that type
is not optional.  It gets the whole text, and its answer is the answer, with a refusal as the cause of the
error; tokenizer, built-in rules and editors play no part.  For an optional type, the type of the value
that may be missing is asked for in the same way.  So a converter to an optional type is never run: what
it would do has no influence. -/
theorem declared_converter_decides (rules : Rules) {cx : ConversionContext σ}
    {plugin : Plugin σ (Converter σ)} (declared : cx.converter = some plugin) (raw : String) :
    (∀ t s converter s', plugin.make s = (.ok converter, s') → converter.output = t →
      t.isDirect = true → (t.convert rules cx raw).run s = cx.told t.name (converter.convert raw s')) ∧
    (∀ n t s converter s', plugin.make s = (.ok converter, s') → converter.output = t →
      t.isDirect = true → ((t.optional n).convert rules cx raw).run s =
        ((cx.told t.name (converter.convert raw s')).1.map (Value.presented n),
          (cx.told t.name (converter.convert raw s')).2)) ∧
    ((∀ s converter s', plugin.make s = (.ok converter, s') → converter.output.isOption = true) →
      ∀ t : Target, t.isPlain = true → ∀ convert,
        t.convert rules (cx.converting plugin convert) raw = t.convert rules cx raw) := by
  refine ⟨?_, ?_, ?_⟩
  · intro t s converter s' made output direct
    exact run_convert_of_direct rules declared made output direct raw
  · intro n t s converter s' made output direct
    exact run_convert_optional rules declared made output direct raw n
  · intro optional t plain convert
    exact convert_converting rules declared optional convert plain raw

def measuring (output : Target) (value : Int → Value) : Converter Nat where
  output
  convert text calls :=
    (if text.isEmpty then .error (.told "empty") else .ok (value text.length), calls + 1)

def measured (k : Converter Nat) : ConversionContext Nat :=
  { ConversionContext.plain "v" with converter := some (.shared k) }

theorem measured_decides :
    let t : Target := .collection .vector (.scalar (.integer .i32))
    let k := measuring t fun n => .items [.integer n]
    (t.convert .builtIn (measured k) " 1,x ").run 0 = (.ok (.items [.integer 5]), 1) ∧
      (t.convert .builtIn (measured k) "").run 0 =
        (.error (.error (.unsupportedConversion "v" t.name (.causedBy (.told "empty")))), 1) ∧
      ((Target.option t).convert .builtIn (measured k) "1,2").run 0 =
        (.ok (.present (.items [.integer 3])), 1) := by
  intro t k
  obtain ⟨decides, -, -⟩ := declared_converter_decides .builtIn (rfl : (measured k).converter = _) " 1,x "
  obtain ⟨refuses, -, -⟩ := declared_converter_decides .builtIn (rfl : (measured k).converter = _) ""
  obtain ⟨-, inside, -⟩ := declared_converter_decides .builtIn (rfl : (measured k).converter = _) "1,2"
  exact ⟨decides t 0 k 0 rfl rfl rfl, refuses t 0 k 0 rfl rfl rfl, inside 1 t 0 k 0 rfl rfl rfl⟩

/-- Converters to an optional number and to an optional sequence would both give a value.  The first is
refused in the name of the number, and the second is passed over without a word. -/
theorem optional_converter_not_run :
    let t : Target := .option (.scalar (.integer .i32))
    let k := measuring t fun n => .present (.integer n)
    let u : Target := .option (.collection .vector (.scalar (.integer .i32)))
    let l := measuring u fun n => .present (.items [.integer n])
    (k.output = t ∧ k.convert "5" 0 = (.ok (.present (.integer 1)), 1) ∧
      (t.convert .builtIn (measured k) "5").run 0 =
        (.error (.error (.unsupportedConversion "v" "i32" (.wrongOutput "core::option::Option<i32>"))), 0)) ∧
    l.output = u ∧ l.convert " " 0 = (.ok (.present (.items [.integer 1])), 1) ∧
      (u.convert .builtIn (measured l) " ").run 0 = (.ok (.present (.items [])), 0) := by
  intro t k u l
  exact ⟨⟨rfl, rfl, rfl⟩, rfl, rfl, rfl⟩

end Target
end LiveConfig
