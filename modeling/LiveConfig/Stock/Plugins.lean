import LiveConfig.Conversion.Basic
import LiveConfig.Stock.Journal
import LiveConfig.Substitutor
import LiveConfig.Text.Case

/-!
Stock plugins for values: substitutors, tokenizers, converters and editors that declarations can name.
-/
namespace LiveConfig.Stock

open Number (parseInteger)

inductive Substitution where
  | upper
  | wrap
  | brace
  | constant (text : String)
  | counter
  | reverse
  | repetition (text : String)

def timesOf (argument : String) : Nat :=
  match parseInteger Number.word64 10 (Text.trim argument.toList) with
  | .ok n => n.toNat
  | .error _ => 0

def repeated (text : String) (times : Nat) : String :=
  if text.isEmpty then "" else Nat.repeat (· ++ text) times ""

namespace Substitution

def apply (kind : Substitution) (number : Nat) (argument : String) (j : Journal) :
    String × Journal :=
  match kind with
  | .upper => (Text.uppercase argument, j)
  | .wrap => ("<" ++ argument ++ ">", j)
  | .brace => ("$\x7b" ++ argument ++ "\x7d", j)
  | .constant text => (text, j)
  | .counter =>
    let j := j.increment (.calls number)
    (argument ++ "#" ++ toString (j.count (.calls number)), j)
  | .reverse => (String.ofList argument.toList.reverse, j)
  | .repetition text => (repeated text (timesOf argument), j)

def substitutor (kind : Substitution) (name : String) (number : Nat) : Substitutor Journal :=
  ⟨name, kind.apply number⟩

end Substitution

inductive Making where
  | shared
  | factory
  | failing

def Making.plugin {α : Type} (making : Making) (refusal : String) (a : α) : Plugin Journal α :=
  match making with
  | .shared => .shared a
  | .factory => ⟨fun j => (.ok a, j.increment .made)⟩
  | .failing => ⟨fun j => (.error (.told refusal), j)⟩

inductive Tokenization where
  | pipe
  | chars
  | words
  | none

def wordsFrom (run : List Char) : List Char → List (List Char)
  | [] => if run.isEmpty then [] else [run.reverse]
  | c :: cs =>
    if Text.isBlank c then
      if run.isEmpty then wordsFrom [] cs else run.reverse :: wordsFrom [] cs
    else wordsFrom (c :: run) cs

def Tokenization.tokens (kind : Tokenization) (value : String) : List String :=
  match kind with
  | .pipe => (Text.splitOn ['|'] value.toList).map String.ofList
  | .chars => value.toList.map String.singleton
  | .words => (wordsFrom [] value.toList).map String.ofList
  | .none => []

def Tokenization.plugin (kind : Tokenization) (making : Making) : Plugin Journal (Tokenizer Journal) :=
  making.plugin "tokenizer unavailable" ⟨fun value j => (kind.tokens value, j)⟩

inductive ConverterKind where
  | hex
  | double
  | upper
  | bracket
  | fail
  | reversed
  | triple
  | seconds
  | maybe
  | length
  | truthy
  | first
  | path

def withoutLead (lead : List Char) (cs : List Char) : List Char :=
  match Text.afterLead? lead cs with
  | some rest => if rest.length < cs.length then withoutLead lead rest else cs
  | none => cs
termination_by cs.length

def integerValue (t : IntegerType) (radix : Nat) (cs : List Char) : Except Refusal Value :=
  match parseInteger t.range radix cs with
  | .ok n => .ok (.integer n)
  | .error e => .error (.integer e)

def wrapped32 (n : Int) : Int := n.bmod (Nat.pow 2 32)

def readDoubled (token : String) : Except Refusal Value :=
  match parseInteger IntegerType.i32.range 10 token.toList with
  | .ok n => .ok (.integer (wrapped32 (2 * n)))
  | .error e => .error (.integer e)

namespace ConverterKind

def output : ConverterKind → Target
  | .hex => .scalar (.integer .u32)
  | .double => .scalar (.integer .i32)
  | .upper | .bracket | .fail => .scalar .text
  | .reversed => .collection .vector (.scalar .text)
  | .triple => .array 3 (.scalar (.integer .u8))
  | .seconds => .scalar .duration
  | .maybe => .option (.scalar (.integer .i32))
  | .length => .scalar (.integer .u64)
  | .truthy => .scalar .boolean
  | .first => .scalar .character
  | .path => .scalar .path

def convert (kind : ConverterKind) (token : String) : Except Refusal Value :=
  let trimmed := Text.trim token.toList
  match kind with
  | .hex => integerValue .u32 16 (withoutLead ['0', 'x'] token.toList)
  | .double => readDoubled token
  | .upper => .ok (.text (Text.uppercase token))
  | .bracket => .ok (.text ("[" ++ token ++ "]"))
  | .fail => .error (.told ("boom: " ++ token))
  | .reversed =>
    .ok (.items ((Text.splitOn [','] token.toList).reverse.map fun t => .text (String.ofList t)))
  | .triple => (integerValue .u8 10 trimmed).map fun n => .items [n, n, n]
  | .seconds =>
    match parseInteger IntegerType.u64.range 10 trimmed with
    | .ok n => .ok (.duration ⟨n.toNat, 0⟩)
    | .error e => .error (.integer e)
  | .maybe =>
    match integerValue .i32 10 trimmed with
    | .ok n => .ok (.present n)
    | .error _ => .ok .absent
  | .length => .ok (.integer token.utf8ByteSize)
  | .truthy => .ok (.boolean !token.isEmpty)
  | .first =>
    match token.toList with
    | c :: _ => .ok (.character c)
    | [] => .error (.told "no first character")
  | .path => .ok (.text ("/p/" ++ token))

def plugin (kind : ConverterKind) (making : Making) : Plugin Journal (Converter Journal) :=
  making.plugin "not instantiable" ⟨kind.output, fun token j => (kind.convert token, j)⟩

end ConverterKind

inductive EditorKind where
  | word
  | constantWord
  | text
  | boolean

namespace EditorKind

def target : EditorKind → Target
  | .word | .constantWord => .scalar (.integer .u64)
  | .text => .scalar .text
  | .boolean => .scalar .boolean

def edit (kind : EditorKind) (raw : String) : Except Refusal Value :=
  let trimmed := Text.trim raw.toList
  match kind with
  | .word => integerValue .u64 16 (trimmed.dropWhile (· = '#'))
  | .constantWord => .ok (.integer 7)
  | .text => .ok (.text ("edited(" ++ raw ++ ")"))
  | .boolean =>
    match String.ofList trimmed with
    | "low" => .ok (.boolean false)
    | "high" => .ok (.boolean true)
    | level => .error (.told ("unknown level " ++ level))

def registry (kinds : List EditorKind) : EditorRegistry Journal :=
  kinds.foldl (fun r kind => r.register kind.target fun raw j => (kind.edit raw, j)) .empty

end EditorKind
end LiveConfig.Stock
