import LiveConfig.Conversion.Order
import LiveConfig.Conversion.Rules

/-!
Conversion of expanded texts to typed values.

The rules in their order: a declared converter is used and nothing else; collections and arrays are cut
into tokens, each of which goes through these rules; single values have built-in rules; an edited value
is read by the editor of its type.  A converter whose result is the collection itself takes the whole
text, any other one takes the tokens.

Plugins may keep a state of type `σ`, and a plugin may be made anew for each use.
-/
namespace LiveConfig

structure Plugin (σ α : Type) where
  make : σ → Except Refusal α × σ

def Plugin.shared {σ α : Type} (a : α) : Plugin σ α := ⟨fun s => (.ok a, s)⟩

structure Tokenizer (σ : Type) where
  tokens : String → σ → List String × σ

structure Converter (σ : Type) where
  output : Target
  convert : String → σ → Except Refusal Value × σ

structure EditorRegistry (σ : Type) where
  entries : List (Target × (String → σ → Except Refusal Value × σ))

namespace EditorRegistry

variable {σ : Type}

def empty : EditorRegistry σ := ⟨[]⟩

def get? (r : EditorRegistry σ) (t : Target) : Option (String → σ → Except Refusal Value × σ) :=
  r.entries.lookup t

def register (r : EditorRegistry σ) (t : Target) (edit : String → σ → Except Refusal Value × σ) :
    EditorRegistry σ :=
  ⟨(t, edit) :: r.entries.filter fun e => e.1 ≠ t⟩

def size (r : EditorRegistry σ) : Nat := r.entries.length

def listing (r : EditorRegistry σ) : String :=
  Text.listingOfList (r.entries.map fun e => Text.quoted e.1.name)

end EditorRegistry

structure ConversionContext (σ : Type) where
  key : String
  separator : String
  tokenizer : Option (Plugin σ (Tokenizer σ))
  converter : Option (Plugin σ (Converter σ))
  editors : Option (EditorRegistry σ)

def defaultSeparator : String := ","

abbrev Conversion (σ : Type) : Type → Type := ExceptT Failure (StateM σ)

def Conversion.call {σ α : Type} (f : σ → α × σ) : Conversion σ α :=
  ExceptT.mk fun s => ((.ok (f s).1, (f s).2) : Except Failure α × σ)

namespace ConversionContext

variable {σ : Type}

def plain (key : String) : ConversionContext σ := ⟨key, defaultSeparator, none, none, none⟩

def fail {α : Type} (cx : ConversionContext σ) (target : String) (fault : ConversionFault) :
    Conversion σ α :=
  throw (.error (.unsupportedConversion cx.key target fault))

def attempt {α : Type} (cx : ConversionContext σ) (target : String)
    (f : σ → Except Refusal α × σ) : Conversion σ α := do
  match ← Conversion.call f with
  | .ok a => return a
  | .error refusal => cx.fail target (.causedBy refusal)

def tokens (cx : ConversionContext σ) (raw : String) : Conversion σ (List String) := do
  match cx.tokenizer with
  | some plugin =>
    let tokenizer ← cx.attempt "tokenizer" plugin.make
    let tokens ← Conversion.call (tokenizer.tokens raw)
    return tokens.map Text.trimmed
  | none =>
    if Text.isBlankText raw then return []
    return (Text.splitOn cx.separator.toList raw.toList).map fun t => String.ofList (Text.trim t)

/-- What the declared converter makes of a text for a value of the type.  A converter of another type
is an error. -/
def convertOnly (cx : ConversionContext σ) (plugin : Plugin σ (Converter σ)) (target : Target)
    (raw : String) : Conversion σ Value := do
  let converter ← cx.attempt target.name plugin.make
  if converter.output ≠ target then cx.fail target.name (.wrongOutput converter.output.name)
  cx.attempt target.name (converter.convert raw)

def convertWhole? (cx : ConversionContext σ) (target : Target) (raw : String) :
    Conversion σ (Option Value) := do
  match cx.converter with
  | none => return none
  | some plugin =>
    let converter ← cx.attempt target.name plugin.make
    if converter.output ≠ target then return none
    return some (← cx.attempt target.name (converter.convert raw))

def edit (cx : ConversionContext σ) (target : Target) (raw : String) : Conversion σ Value := do
  match cx.editors with
  | none => cx.fail target.name .editorsDisabled
  | some editors =>
    match editors.get? target with
    | none => cx.fail target.name .noEditor
    | some f => cx.attempt target.name (f raw)

def inToken (cx : ConversionContext σ) (target token : String) : Failure → Failure
  | .error cause => .error (.unsupportedConversion cx.key target (.token token cause))
  | .panic p => .panic p

def convertTokens (cx : ConversionContext σ) (target : String)
    (convert : String → Conversion σ Value) : List String → Conversion σ (List Value)
  | [] => return []
  | token :: rest => do
    let value ← tryCatch (convert token) fun failure => throw (cx.inToken target token failure)
    return value :: (← convertTokens cx target convert rest)

def collect (cx : ConversionContext σ) (whole : Target) (c : Collection) (target : String)
    (convert : String → Conversion σ Value) (raw : String) : Conversion σ Value := do
  match ← cx.convertWhole? whole raw with
  | some value => return value
  | none =>
    let tokens ← cx.tokens raw
    return .items (c.arrange whole.element.compare (← cx.convertTokens target convert tokens))

end ConversionContext

def Value.count : Value → Nat
  | .items vs => vs.length
  | _ => 0

namespace Target

variable {σ : Type}

def convert (rules : Rules) (cx : ConversionContext σ) : Target → String → Conversion σ Value
  | .scalar s, raw =>
    match cx.converter with
    | some plugin => cx.convertOnly plugin (.scalar s) raw
    | none =>
      match rules.scalar s raw with
      | .ok value => return value
      | .error (.fault target fault) => cx.fail target fault
      | .error (.panic p) => throw (.panic p)
  | .option t, raw => Value.present <$> t.convert rules cx raw
  | .collection c t, raw =>
    cx.collect (.collection c t) c (name (.collection c t)) (t.convert rules cx) raw
  | .array n t, raw => do
    let target := Target.array n t
    match ← cx.convertWhole? target raw with
    | some value => return value
    | none =>
      let value ← cx.collect (.collection .vector t) .vector target.name (t.convert rules cx) raw
      if value.count = n then return value
      cx.fail target.name (.wrongLength n value.count)
  | .edited t, raw =>
    match cx.converter with
    | some plugin => cx.convertOnly plugin t raw
    | none => cx.edit t raw
  | .parsed t, raw =>
    match cx.converter with
    | some plugin => cx.convertOnly plugin t raw
    | none =>
      match rules.byType t raw with
      | .ok value => return value
      | .error refusal => cx.fail t.name (.causedBy refusal)

def ofAbsent (cx : ConversionContext σ) : Target → Conversion σ Value
  | .option _ => return .absent
  | _ => throw (.error (.missing cx.key))

end Target

namespace ConversionContext

variable {σ : Type}

def listing (cx : ConversionContext σ) : String :=
  Text.listingOfStruct "ConversionContext" [
    ("key", Text.quoted cx.key),
    ("separator", Text.quoted cx.separator),
    ("has_tokenizer", Text.listingOfBool cx.tokenizer.isSome),
    ("has_converter", Text.listingOfBool cx.converter.isSome),
    ("editors", Text.listingOfBool cx.editors.isSome)]

end ConversionContext
end LiveConfig
