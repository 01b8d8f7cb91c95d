import LiveConfig.Proofs.Conversion.Declared
import LiveConfig.Proofs.Conversion.Order
import LiveConfig.View

/-!
Nothing but the converter.

Where a converter is declared, no built-in rule and no editor has a say in any type: the conversion does not
depend on them, and whatever stands in its result came from a call of the converter.  The calls are those of
the conversion itself; they are read off a run in which the converter keeps a record of them beside the state
of the plugins.
-/
namespace LiveConfig

variable {σ κ α β : Type}

structure ConverterCall where
  text : String
  answer : Except Refusal Value

def besides (κ : Type) (f : σ → α × σ) (s : σ × κ) : α × σ × κ := ((f s.1).1, (f s.1).2, s.2)

def Plugin.besides (κ : Type) (plugin : Plugin σ α) (f : α → β) : Plugin (σ × κ) β :=
  ⟨fun s => (((plugin.make s.1).1.map f), (plugin.make s.1).2, s.2)⟩

def Tokenizer.besides (κ : Type) (k : Tokenizer σ) : Tokenizer (σ × κ) :=
  ⟨fun text => LiveConfig.besides κ (k.tokens text)⟩

def EditorRegistry.besides (κ : Type) (r : EditorRegistry σ) : EditorRegistry (σ × κ) :=
  ⟨r.entries.map fun e => (e.1, fun text => LiveConfig.besides κ (e.2 text))⟩

def Converter.recorded (k : Converter σ) : Converter (σ × List ConverterCall) where
  output := k.output
  convert text s :=
    let (answer, after) := k.convert text s.1
    (answer, after, s.2 ++ [⟨text, answer⟩])

def ConversionContext.recorded (cx : ConversionContext σ) : ConversionContext (σ × List ConverterCall) where
  key := cx.key
  separator := cx.separator
  tokenizer := cx.tokenizer.map fun plugin => plugin.besides _ (Tokenizer.besides _)
  converter := cx.converter.map fun plugin => plugin.besides _ Converter.recorded
  editors := cx.editors.map (EditorRegistry.besides _)

namespace Value

def isScalar : Value → Bool
  | .absent | .present _ | .items _ => false
  | _ => true

inductive Within (x : Value) : Value → Prop where
  | itself (scalar : x.isScalar = true) : Within x x
  | present {v : Value} (inside : Within x v) : Within x (.present v)
  | item {v : Value} {vs : List Value} (mem : v ∈ vs) (inside : Within x v) : Within x (.items vs)

def Covered (calls : List ConverterCall) (v : Value) : Prop :=
  ∀ x : Value, x.Within v → ∃ call ∈ calls, ∃ w, call.answer = .ok w ∧ x.Within w

private theorem Covered.mono {calls more : List ConverterCall} {v : Value} (covered : Covered calls v)
    (sub : ∀ call ∈ calls, call ∈ more) : Covered more v := by
  intro x inside
  obtain ⟨call, mem, found⟩ := covered x inside
  exact ⟨call, sub call mem, found⟩

private theorem Covered.present {calls : List ConverterCall} {v : Value} (covered : Covered calls v) :
    Covered calls (.present v) := by
  intro x inside
  cases inside with
  | itself scalar => exact nomatch scalar
  | present inside => exact covered x inside

private theorem Covered.items {calls : List ConverterCall} {vs : List Value} (covered : ∀ v ∈ vs, Covered calls v) :
    Covered calls (.items vs) := by
  intro x inside
  cases inside with
  | itself scalar => exact nomatch scalar
  | item mem inside => exact covered _ mem x inside

private theorem covered_answer {call : ConverterCall} {v : Value} (answer : call.answer = .ok v) : Covered [call] v :=
  fun _ inside => ⟨call, List.mem_singleton_self call, v, answer, inside⟩

end Value

namespace Conversion

/-- A recorded conversion ends as the plain one does, and adds calls to the record: all of them are among those
that are meant, and they suit a result. -/
def Records (meant : ConverterCall → Prop) (plain : Conversion σ α)
    (recorded : Conversion (σ × List ConverterCall) α) (post : List ConverterCall → α → Prop) : Prop :=
  ∀ s calls, ∃ made, recorded.run (s, calls) = ((plain.run s).1, (plain.run s).2, calls ++ made) ∧
    (∀ call ∈ made, meant call) ∧ ∀ a, (plain.run s).1 = .ok a → post made a

namespace Records

variable {meant : ConverterCall → Prop} {m : Conversion σ α} {m' : Conversion (σ × List ConverterCall) α}
  {post : List ConverterCall → α → Prop}

/-- Nothing is called. -/
private theorem quiet (same : ∀ s calls, m'.run (s, calls) = ((m.run s).1, (m.run s).2, calls))
    (suits : ∀ s a, (m.run s).1 = .ok a → post [] a) : Records meant m m' post := by
  intro s calls
  refine ⟨[], ?_, fun _ mem => (List.not_mem_nil mem).elim, suits s⟩
  rw [List.append_nil]
  exact same s calls

private theorem pure {a : α} (suits : post [] a) :
    Records meant (Pure.pure a : Conversion σ α) (Pure.pure a) post := by
  refine quiet (fun s calls => rfl) fun s b eq => ?_
  obtain rfl : a = b := Except.ok.inj eq
  exact suits

/-- Giving a result calls nobody any more. -/
private theorem pure_after {a : α} {made : List ConverterCall} (suits : post made a) :
    Records meant (Pure.pure a : Conversion σ α) (Pure.pure a) fun more b => post (made ++ more) b := by
  refine pure ?_
  rw [List.append_nil]
  exact suits

private theorem bind {f : α → Conversion σ β} {f' : α → Conversion (σ × List ConverterCall) β}
    {result : List ConverterCall → β → Prop} (first : Records meant m m' post)
    (next : ∀ a made, post made a → Records meant (f a) (f' a) fun more b => result (made ++ more) b) :
    Records meant (m >>= f) (m' >>= f') result := by
  intro s calls
  obtain ⟨made, ran, means, suits⟩ := first s calls
  rw [run_bind, run_bind, ran]
  generalize m.run s = outcome at suits ⊢
  obtain ⟨answer, after⟩ := outcome
  cases answer with
  | error e => exact ⟨made, rfl, means, fun a eq => nomatch eq⟩
  | ok a =>
    obtain ⟨more, later, means', suits'⟩ := next a made (suits a rfl) after (calls ++ made)
    refine ⟨made ++ more, ?_, ?_, suits'⟩
    · rw [← List.append_assoc]
      exact later
    · intro call mem
      rcases List.mem_append.mp mem with mem | mem
      · exact means call mem
      · exact means' call mem

private theorem mono_meant {meant' : ConverterCall → Prop} (h : Records meant m m' post)
    (means : ∀ call, meant call → meant' call) : Records meant' m m' post := by
  intro s calls
  obtain ⟨made, ran, means', suits⟩ := h s calls
  exact ⟨made, ran, fun call mem => means call (means' call mem), suits⟩

private theorem map {f : α → β} {result : List ConverterCall → β → Prop} (h : Records meant m m' post)
    (suits : ∀ made a, post made a → result made (f a)) : Records meant (f <$> m) (f <$> m') result := by
  rw [← bind_pure_comp, ← bind_pure_comp]
  exact h.bind fun a made post_a => pure_after (suits made a post_a)

/-- Failures may be told in other words. -/
private theorem retold (h : Records meant m m' post) (words : Failure → Failure) :
    Records meant (tryCatch m fun e => throw (words e)) (tryCatch m' fun e => throw (words e)) post := by
  intro s calls
  obtain ⟨made, ran, means, suits⟩ := h s calls
  rw [run_retold, run_retold, ran]
  refine ⟨made, rfl, means, fun a eq => suits a ?_⟩
  cases answer : (m.run s).1 with
  | error e =>
    rw [answer] at eq
    exact nomatch eq
  | ok b =>
    rw [answer] at eq
    exact eq

/-- What is known of a result may be taken from the run that gave it. -/
private theorem with_run (h : Records meant m m' post) :
    Records meant m m' fun made a => post made a ∧ ∃ s s', m.run s = (.ok a, s') := by
  intro s calls
  obtain ⟨made, ran, means, suits⟩ := h s calls
  exact ⟨made, ran, means, fun a eq => ⟨suits a eq, s, (m.run s).2, Prod.ext eq rfl⟩⟩

end Records
end Conversion

namespace ConversionContext

inductive Piece (cx : ConversionContext σ) (raw : String) : String → Prop where
  | whole : Piece cx raw raw
  | token {text token : String} {tokens : List String} {s s' : σ} (piece : Piece cx raw text)
      (cut : (cx.tokens text).run s = (.ok tokens, s')) (mem : token ∈ tokens) : Piece cx raw token

variable {cx : ConversionContext σ} {plugin : Plugin σ (Converter σ)}

private theorem Piece.of_token {raw token text : String} {tokens : List String} {s s' : σ}
    (cut : (cx.tokens raw).run s = (.ok tokens, s')) (mem : token ∈ tokens) (piece : Piece cx token text) :
    Piece cx raw text := by
  induction piece with
  | whole => exact .token .whole cut mem
  | token _ cut' mem' ih => exact .token ih cut' mem'

open Conversion (Records)

variable {meant : ConverterCall → Prop}

private theorem recorded_converter (declared : cx.converter = some plugin) :
    cx.recorded.converter = some (plugin.besides _ Converter.recorded) := by
  rw [recorded, declared]
  rfl

private theorem fail_records {post : List ConverterCall → α → Prop} (name : String) (fault : ConversionFault) :
    Records meant (cx.fail name fault) (cx.recorded.fail name fault) post :=
  .quiet (fun _ _ => rfl) fun _ _ eq => nomatch eq

/-- Plugins are made as they would be. -/
private theorem make_records {γ : Type} {post : List ConverterCall → γ → Prop} {made : Plugin σ α} {g : α → β}
    {name : String} {f : α → Conversion σ γ} {f' : β → Conversion (σ × List ConverterCall) γ}
    (next : ∀ a, Records meant (f a) (f' (g a)) post) :
    Records meant (cx.attempt name made.make >>= f)
      (cx.recorded.attempt name (made.besides _ g).make >>= f') post := by
  intro s calls
  have beside : (made.besides (List ConverterCall) g).make (s, calls) =
      ((made.make s).1.map g, (made.make s).2, calls) := rfl
  rw [Conversion.run_bind, Conversion.run_bind, run_attempt, run_attempt, beside]
  rcases made.make s with ⟨refusal | a, after⟩
  · refine ⟨[], ?_, fun _ mem => (List.not_mem_nil mem).elim, fun _ eq => nomatch eq⟩
    rw [List.append_nil]
    rfl
  · exact next a after calls

/-- A call of the converter is recorded with its answer. -/
theorem convert_records {post : List ConverterCall → Value → Prop} {name raw : String} {k : Converter σ}
    (means : ∀ answer, meant ⟨raw, answer⟩) (suits : ∀ v, post [⟨raw, .ok v⟩] v) :
    Records meant (cx.attempt name (k.convert raw)) (cx.recorded.attempt name (k.recorded.convert raw)) post := by
  intro s calls
  have recorded : k.recorded.convert raw (s, calls) =
      ((k.convert raw s).1, (k.convert raw s).2, calls ++ [⟨raw, (k.convert raw s).1⟩]) := rfl
  rw [run_attempt, run_attempt, recorded]
  refine ⟨[⟨raw, (k.convert raw s).1⟩], ?_, ?_, ?_⟩
  · rcases k.convert raw s with ⟨refusal | v, after⟩
    · rfl
    · rfl
  · intro call mem
    rw [List.mem_singleton.mp mem]
    exact means _
  · generalize k.convert raw s = outcome
    intro v eq
    obtain ⟨refusal | w, after⟩ := outcome
    · exact nomatch eq
    · obtain rfl : w = v := Except.ok.inj eq
      exact suits w

private theorem tokens_records (raw : String) :
    Records meant (cx.tokens raw) (cx.recorded.tokens raw) fun made _ => made = [] := by
  obtain ⟨key, separator, tokenizer, converter, editors⟩ := cx
  unfold tokens
  cases tokenizer with
  | none =>
    refine .quiet (fun s calls => ?_) fun _ _ _ => rfl
    dsimp only [recorded, Option.map]
    split
    · rfl
    · rfl
  | some plugin => exact make_records fun tokenizer => .quiet (fun s calls => rfl) fun _ _ _ => rfl

private theorem convertOnly_records (plugin : Plugin σ (Converter σ)) (target : Target) {raw : String}
    (means : ∀ answer, meant ⟨raw, answer⟩) :
    Records meant (cx.convertOnly plugin target raw)
      (cx.recorded.convertOnly (plugin.besides _ Converter.recorded) target raw) Value.Covered := by
  refine make_records fun k => ?_
  by_cases same : k.output = target
  · have same' : k.recorded.output = target := same
    rw [if_neg (not_not_intro same), if_neg (not_not_intro same')]
    exact convert_records means fun v => Value.covered_answer rfl
  · have other : k.recorded.output ≠ target := same
    rw [if_pos same, if_pos other]
    exact fail_records _ _

private theorem convertWhole?_records (declared : cx.converter = some plugin) (target : Target) {raw : String}
    (means : ∀ answer, meant ⟨raw, answer⟩) :
    Records meant (cx.convertWhole? target raw) (cx.recorded.convertWhole? target raw) fun made whole =>
      ∀ v, whole = some v → Value.Covered made v := by
  unfold convertWhole?
  rw [declared, recorded_converter declared]
  refine make_records fun k => ?_
  by_cases same : k.output = target
  · have same' : k.recorded.output = target := same
    rw [if_neg (not_not_intro same), if_neg (not_not_intro same')]
    refine (convert_records means fun v => Value.covered_answer rfl).bind fun v made covered => .pure ?_
    intro w eq
    obtain rfl := Option.some.inj eq
    rw [List.append_nil]
    exact covered
  · have other : k.recorded.output ≠ target := same
    rw [if_pos same, if_pos other]
    exact .pure fun v eq => nomatch eq

variable {read : String → Conversion σ Value} {read' : String → Conversion (σ × List ConverterCall) Value}

private theorem convertTokens_records (name : String) {tokens : List String}
    (each : ∀ token ∈ tokens, Records meant (read token) (read' token) Value.Covered) :
    Records meant (cx.convertTokens name read tokens) (cx.recorded.convertTokens name read' tokens) fun made vs =>
      ∀ v ∈ vs, Value.Covered made v := by
  induction tokens with
  | nil => exact .pure fun v mem => nomatch mem
  | cons token rest ih =>
    have first := (each token List.mem_cons_self).retold (cx.inToken name token)
    refine first.bind fun v made covered => ?_
    refine (ih fun token mem => each token (List.mem_cons_of_mem _ mem)).bind fun vs more covered' => .pure ?_
    rw [List.append_nil]
    intro w mem
    rcases List.mem_cons.mp mem with rfl | mem
    · exact covered.mono fun call mem => List.mem_append_left _ mem
    · exact (covered' w mem).mono fun call mem => List.mem_append_right _ mem

private theorem collect_records (declared : cx.converter = some plugin) (whole : Target) (c : Collection)
    (name : String)
    (each : ∀ token, Records (fun call => Piece cx token call.text) (read token) (read' token) Value.Covered)
    (raw : String) :
    Records (fun call => Piece cx raw call.text) (cx.collect whole c name read raw)
      (cx.recorded.collect whole c name read' raw) Value.Covered := by
  refine (convertWhole?_records declared whole fun _ => .whole).bind fun answer made covered => ?_
  cases answer with
  | some v => exact .pure_after (covered v rfl)
  | none =>
    refine (tokens_records raw).with_run.bind fun tokens none_made known => ?_
    obtain ⟨rfl, s, s', cut⟩ := known
    have tokenwise : ∀ token ∈ tokens, Records (fun call => Piece cx raw call.text) (read token) (read' token)
        Value.Covered :=
      fun token mem => (each token).mono_meant fun call piece => Piece.of_token cut mem piece
    refine (convertTokens_records name tokenwise).bind fun vs calls covered => .pure (Value.Covered.items fun v mem => ?_)
    have sub := (c.holds_arrange whole.element.compare vs).sub v mem
    exact (covered v sub).mono fun call mem => by simp [mem]

end ConversionContext

namespace Target

open ConversionContext (Piece)

variable {cx : ConversionContext σ} {plugin : Plugin σ (Converter σ)}

private theorem convert_records (rules : Rules) (declared : cx.converter = some plugin) (t : Target) (raw : String) :
    Conversion.Records (fun call => Piece cx raw call.text) (t.convert rules cx raw) (t.convert rules cx.recorded raw)
      Value.Covered := by
  induction t generalizing raw with
  | scalar s =>
    unfold convert
    rw [declared, ConversionContext.recorded_converter declared]
    exact ConversionContext.convertOnly_records plugin (.scalar s) fun _ => .whole
  | edited t | parsed t =>
    unfold convert
    rw [declared, ConversionContext.recorded_converter declared]
    exact ConversionContext.convertOnly_records plugin t fun _ => .whole
  | option t ih =>
    unfold convert
    exact (ih raw).map fun made v covered => covered.present
  | collection c t ih =>
    unfold convert
    exact ConversionContext.collect_records declared _ c _ ih raw
  | array n t ih =>
    unfold convert
    refine (ConversionContext.convertWhole?_records declared _ fun _ => .whole).bind fun answer made covered => ?_
    cases answer with
    | some v => exact .pure_after (covered v rfl)
    | none =>
      -- An array asks the converter once more, for the list that it is made of.
      have collected :=
        ConversionContext.collect_records declared (.collection .vector t) .vector (array n t).name ih raw
      refine collected.bind fun v calls covered => ?_
      split
      · refine .pure ?_
        rw [List.append_nil]
        exact covered.mono fun call mem => List.mem_append_right _ mem
      · exact ConversionContext.fail_records _ _

end Target

namespace ConversionContext

def withEditors (cx : ConversionContext σ) (editors : Option (EditorRegistry σ)) : ConversionContext σ :=
  { cx with editors }

variable (cx : ConversionContext σ) (editors : Option (EditorRegistry σ))

private theorem convertTokens_withEditors (name : String) (read : String → Conversion σ Value) (tokens : List String) :
    (cx.withEditors editors).convertTokens name read tokens = cx.convertTokens name read tokens := by
  induction tokens with
  | nil => rfl
  | cons token rest ih =>
    unfold convertTokens
    rw [ih]
    rfl

private theorem collect_withEditors (whole : Target) (c : Collection) (name : String)
    (read : String → Conversion σ Value)
    (raw : String) : (cx.withEditors editors).collect whole c name read raw = cx.collect whole c name read raw := by
  unfold collect
  simp only [convertTokens_withEditors]
  rfl

end ConversionContext

private theorem Target.convert_withEditors {cx : ConversionContext σ} {plugin : Plugin σ (Converter σ)}
    (declared : cx.converter = some plugin) (rules rules' : Rules) (editors : Option (EditorRegistry σ)) (t : Target) :
    t.convert rules' (cx.withEditors editors) = t.convert rules cx := by
  have declared' : (cx.withEditors editors).converter = some plugin := declared
  induction t with
  | scalar s | edited t | parsed t =>
    funext raw
    unfold convert
    rw [declared, declared']
    rfl
  | option t ih =>
    funext raw
    unfold convert
    rw [ih]
  | collection c t ih =>
    funext raw
    unfold convert
    rw [ih, ConversionContext.collect_withEditors]
  | array n t ih =>
    funext raw
    unfold convert
    dsimp only
    rw [ih, ConversionContext.collect_withEditors]
    rfl

def View.withEditors (v : View σ) (editors : EditorRegistry σ) (enabled : Bool) : View σ :=
  { v with declaration := { v.declaration with
      editors
      features := { v.declaration.features with propertyEditors := enabled } } }

private theorem View.read_withEditors {a : Accessor σ} {plugin : Plugin σ (Converter σ)}
    (declared : a.converter = some plugin)
    (v : View σ) (rules rules' : Rules) (editors : EditorRegistry σ) (enabled : Bool) (t : Target)
    (arguments : PropertyMap) (s : σ) :
    (v.withEditors editors enabled).read rules' t a arguments s = v.read rules t a arguments s := by
  have same : ∀ key, t.convert rules' ((v.withEditors editors enabled).contextOf a key) =
      t.convert rules (v.contextOf a key) := by
    intro key
    have declared' : (v.contextOf a key).converter = some plugin := declared
    exact Target.convert_withEditors declared' rules rules' _ t
  unfold read
  simp only [same]
  rfl

namespace Target

/-- Where a converter is declared, it has the only say.  A conversion to any type is the same with other rules
and other editors, and so is all that an accessor reads.  And in a conversion that records the calls of
the converter, and otherwise goes as it does, the calls are on the text or on tokens of it, and every scalar
of the result is in what one of them answered. -/
theorem converter_has_only_say (rules : Rules) {cx : ConversionContext σ} {plugin : Plugin σ (Converter σ)}
    (declared : cx.converter = some plugin) (t : Target) (raw : String) (s : σ) :
    (∀ rules' editors, t.convert rules' (cx.withEditors editors) raw = t.convert rules cx raw) ∧
    (∀ (v : View σ) (a : Accessor σ), a.converter = some plugin → ∀ rules' editors enabled arguments,
      (v.withEditors editors enabled).read rules' t a arguments s = v.read rules t a arguments s) ∧
    ∃ calls : List ConverterCall,
      (t.convert rules cx.recorded raw).run (s, []) =
        (((t.convert rules cx raw).run s).1, ((t.convert rules cx raw).run s).2, calls) ∧
      (∀ call ∈ calls, cx.Piece raw call.text) ∧
      ∀ v, ((t.convert rules cx raw).run s).1 = .ok v →
        ∀ x : Value, x.Within v → ∃ call ∈ calls, ∃ w, call.answer = .ok w ∧ x.Within w := by
  refine ⟨fun rules' editors => ?_, fun v a declared' rules' editors enabled arguments => ?_, ?_⟩
  · rw [convert_withEditors declared rules]
  · exact v.read_withEditors declared' rules rules' editors enabled t arguments s
  · exact convert_records rules declared t raw s []

/-- The lengths of the tokens, whatever rules and editors would make of them. -/
theorem measured_has_only_say :
    let k := measuring (.scalar (.integer .i32)) .integer
    let t : Target := .array 2 (.option (.edited (.scalar (.integer .i32))))
    let v : Value := .items [.present (.integer 1), .present (.integer 2)]
    (∀ rules editors, (t.convert rules ((measured k).withEditors editors) "7, xy").run 0 = (.ok v, 2)) ∧
      ∃ calls, (t.convert .builtIn (measured k).recorded "7, xy").run (0, []) = (.ok v, 2, calls) ∧
        ∃ call ∈ calls, ∃ w, call.answer = .ok w ∧ (Value.integer 2).Within w := by
  intro k t v
  have result : (t.convert .builtIn (measured k) "7, xy").run 0 = (.ok v, 2) := by
    subst k t v
    rfl
  obtain ⟨free, -, calls, ran, -, covered⟩ :=
    converter_has_only_say .builtIn (rfl : (measured k).converter = some (.shared k)) t "7, xy" 0
  rw [result] at ran covered
  refine ⟨fun rules editors => ?_, calls, ran, ?_⟩
  · rw [free, result]
  · have inside : (Value.integer 2).Within v :=
      .item (List.mem_cons_of_mem _ (List.mem_singleton_self _)) (.present (.itself rfl))
    exact covered v rfl (.integer 2) inside

end Target
end LiveConfig
