import LiveConfig.Proofs.Conversion.Declared

/-!
Conversions that give the same answer whenever they are asked.

Plugins may keep a state.  If what they answer does not depend on it, no conversion does.  Since a plugin may
be made anew for each use, what was made at one time has to answer as what was made at another.
-/
namespace LiveConfig

variable {σ α β γ δ : Type}

inductive SameAnswer {ε : Type} (alike : α → β → Prop) : Except ε α → Except ε β → Prop where
  | error (e : ε) : SameAnswer alike (.error e) (.error e)
  | ok {a : α} {b : β} (related : alike a b) : SameAnswer alike (.ok a) (.ok b)

private theorem SameAnswer.refl {ε : Type} (answer : Except ε α) : SameAnswer Eq answer answer := by
  cases answer with
  | error e => exact .error e
  | ok a => exact .ok rfl

private theorem SameAnswer.eq {ε : Type} {answer answer' : Except ε α} (same : SameAnswer Eq answer answer') :
    answer = answer' := by
  cases same with
  | error e => rfl
  | ok related => rw [related]

def Plugin.Steady (alike : α → α → Prop) (plugin : Plugin σ α) : Prop :=
  ∀ s s', SameAnswer alike (plugin.make s).1 (plugin.make s').1

def Tokenizer.Alike (k l : Tokenizer σ) : Prop := ∀ text s s', (k.tokens text s).1 = (l.tokens text s').1

def Converter.Alike (k l : Converter σ) : Prop :=
  k.output = l.output ∧ ∀ text s s', (k.convert text s).1 = (l.convert text s').1

structure ConversionContext.Steady (cx : ConversionContext σ) : Prop where
  tokenizer : ∀ plugin, cx.tokenizer = some plugin → plugin.Steady Tokenizer.Alike
  converter : ∀ plugin, cx.converter = some plugin → plugin.Steady Converter.Alike
  editor : ∀ editors t edit, cx.editors = some editors → editors.get? t = some edit →
    ∀ text s s', (edit text s).1 = (edit text s').1

namespace Conversion

def answer (m : Conversion σ α) (s : σ) : Except Failure α := (m.run s).1

def Alike (alike : α → β → Prop) (m : Conversion σ α) (m' : Conversion σ β) : Prop :=
  ∀ s s', SameAnswer alike (m.answer s) (m'.answer s')

namespace Alike

variable {alike : α → β → Prop} {m : Conversion σ α} {m' : Conversion σ β}

private theorem pure {a : α} {b : β} (related : alike a b) :
    Alike alike (Pure.pure a : Conversion σ α) (Pure.pure b) :=
  fun _ _ => .ok related

private theorem bind {result : γ → δ → Prop} {f : α → Conversion σ γ} {f' : β → Conversion σ δ}
    (first : Alike alike m m') (next : ∀ a b, alike a b → Alike result (f a) (f' b)) :
    Alike result (m >>= f) (m' >>= f') := by
  intro s s'
  have same := first s s'
  unfold answer at same ⊢
  rw [run_bind, run_bind]
  generalize m.run s = outcome at same ⊢
  generalize m'.run s' = outcome' at same ⊢
  obtain ⟨a, after⟩ := outcome
  obtain ⟨b, after'⟩ := outcome'
  cases same with
  | error e => exact .error e
  | ok related => exact next _ _ related after after'

/-- What a conversion that is like itself gives in one state it gives in all. -/
theorem everywhere {m : Conversion σ α} (same : Alike Eq m m) {s : σ} {given : Except Failure α}
    (here : m.answer s = given) (s' : σ) : m.answer s' = given :=
  (same s' s).eq.trans here

end Alike
end Conversion

namespace ConversionContext

open Conversion (Alike)

variable {cx : ConversionContext σ}

private theorem fail_alike (name : String) (fault : ConversionFault) (alike : α → β → Prop) :
    Alike alike (cx.fail name fault) (cx.fail name fault) :=
  fun _ _ => .error _

private theorem attempt_alike {alike : α → β → Prop} {f : σ → Except Refusal α × σ} {g : σ → Except Refusal β × σ}
    (name : String) (same : ∀ s s', SameAnswer alike (f s).1 (g s').1) :
    Alike alike (cx.attempt name f) (cx.attempt name g) := by
  intro s s'
  have related := same s s'
  unfold Conversion.answer
  rw [run_attempt, run_attempt]
  generalize f s = outcome at related ⊢
  generalize g s' = outcome' at related ⊢
  obtain ⟨a, after⟩ := outcome
  obtain ⟨b, after'⟩ := outcome'
  cases related with
  | error refusal => exact .error _
  | ok related => exact .ok related

private theorem attempt_steady {f g : σ → Except Refusal α × σ} (name : String) (same : ∀ s s', (f s).1 = (g s').1) :
    Alike Eq (cx.attempt name f) (cx.attempt name g) := by
  refine attempt_alike name fun s s' => ?_
  rw [same s s']
  exact .refl _

variable (steady : cx.Steady)

include steady

theorem Steady.tokens (raw : String) : Alike Eq (cx.tokens raw) (cx.tokens raw) := by
  unfold ConversionContext.tokens
  cases declared : cx.tokenizer with
  | none =>
    dsimp only
    split
    · exact .pure rfl
    · exact .pure rfl
  | some plugin =>
    refine (attempt_alike "tokenizer" (steady.tokenizer plugin declared)).bind fun k l alike => ?_
    have called : Alike Eq (Conversion.call (k.tokens raw)) (Conversion.call (l.tokens raw)) :=
      fun s s' => .ok (alike raw s s')
    refine called.bind fun tokens tokens' same => .pure ?_
    rw [same]

private theorem Steady.convertOnly {plugin : Plugin σ (Converter σ)} (declared : cx.converter = some plugin)
    (target : Target) (raw : String) :
    Alike Eq (cx.convertOnly plugin target raw) (cx.convertOnly plugin target raw) := by
  refine (attempt_alike _ (steady.converter plugin declared)).bind fun k l alike => ?_
  obtain ⟨outputs, converted⟩ := alike
  rw [outputs]
  split
  · exact fail_alike _ _ _
  · exact attempt_steady _ (converted raw)

private theorem Steady.convertWhole? (target : Target) (raw : String) :
    Alike Eq (cx.convertWhole? target raw) (cx.convertWhole? target raw) := by
  unfold ConversionContext.convertWhole?
  cases declared : cx.converter with
  | none => exact .pure rfl
  | some plugin =>
    refine (attempt_alike _ (steady.converter plugin declared)).bind fun k l alike => ?_
    obtain ⟨outputs, converted⟩ := alike
    rw [outputs]
    split
    · exact .pure rfl
    · refine (attempt_steady _ (converted raw)).bind fun v w same => .pure ?_
      rw [same]

private theorem Steady.edit (target : Target) (raw : String) : Alike Eq (cx.edit target raw) (cx.edit target raw) := by
  unfold ConversionContext.edit
  cases enabled : cx.editors with
  | none => exact fail_alike _ _ _
  | some editors =>
    dsimp only
    cases found : editors.get? target with
    | none => exact fail_alike _ _ _
    | some edit => exact attempt_steady _ (steady.editor editors target edit enabled found raw)

omit steady in
private theorem retold_alike {m : Conversion σ α} (same : Alike Eq m m) (words : Failure → Failure) :
    Alike Eq (tryCatch m fun e => throw (words e)) (tryCatch m fun e => throw (words e)) := by
  intro s s'
  unfold Conversion.answer
  rw [Conversion.run_retold, Conversion.run_retold]
  have equal := (same s s').eq
  unfold Conversion.answer at equal
  rw [equal]
  exact .refl _

omit steady in
private theorem convertTokens_alike (name : String) {read : String → Conversion σ Value}
    (each : ∀ token, Alike Eq (read token) (read token)) (tokens : List String) :
    Alike Eq (cx.convertTokens name read tokens) (cx.convertTokens name read tokens) := by
  induction tokens with
  | nil => exact .pure rfl
  | cons token rest ih =>
    refine (retold_alike (each token) _).bind fun v w same => ?_
    refine ih.bind fun vs ws same' => .pure ?_
    rw [same, same']

private theorem Steady.collect (whole : Target) (c : Collection) (name : String) {read : String → Conversion σ Value}
    (each : ∀ token, Alike Eq (read token) (read token)) (raw : String) :
    Alike Eq (cx.collect whole c name read raw) (cx.collect whole c name read raw) := by
  refine (steady.convertWhole? whole raw).bind fun answer answer' same => ?_
  subst same
  cases answer with
  | some v => exact .pure rfl
  | none =>
    refine (steady.tokens raw).bind fun tokens tokens' same => ?_
    subst same
    refine (convertTokens_alike name each tokens).bind fun vs ws same => .pure ?_
    rw [same]

end ConversionContext

namespace Target

open Conversion (Alike)

theorem convert_alike (rules : Rules) {cx : ConversionContext σ} (steady : cx.Steady) (t : Target) (raw : String) :
    Alike Eq (t.convert rules cx raw) (t.convert rules cx raw) := by
  induction t generalizing raw with
  | scalar s =>
    unfold convert
    cases declared : cx.converter with
    | some plugin => exact steady.convertOnly declared _ raw
    | none =>
      dsimp only
      cases rules.scalar s raw with
      | ok v => exact .pure rfl
      | error failure =>
        cases failure with
        | fault name fault => exact ConversionContext.fail_alike _ _ _
        | panic p => exact fun _ _ => .error _
  | edited t =>
    unfold convert
    cases declared : cx.converter with
    | some plugin => exact steady.convertOnly declared t raw
    | none => exact steady.edit t raw
  | parsed t =>
    unfold convert
    cases declared : cx.converter with
    | some plugin => exact steady.convertOnly declared t raw
    | none =>
      dsimp only
      cases rules.byType t raw with
      | ok v => exact .pure rfl
      | error refusal => exact ConversionContext.fail_alike _ _ _
  | option t ih =>
    unfold convert
    rw [← bind_pure_comp]
    refine (ih raw).bind fun v w same => .pure ?_
    rw [same]
  | collection c t ih =>
    unfold convert
    exact steady.collect _ c _ ih raw
  | array n t ih =>
    unfold convert
    refine (steady.convertWhole? _ raw).bind fun answer answer' same => ?_
    subst same
    cases answer with
    | some v => exact .pure rfl
    | none =>
      refine (steady.collect _ _ _ ih raw).bind fun v w same => ?_
      subst same
      split
      · exact .pure rfl
      · exact ConversionContext.fail_alike _ _ _

end Target
end LiveConfig
