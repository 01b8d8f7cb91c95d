import LiveConfig.Conversion.Target
import LiveConfig.Error
import LiveConfig.Text.Case

/-!
The built-in rules for values without parts.

`Rules` is what conversion knows of single values: the rule of every scalar type, and how a type reads
a text by itself.  Conversion takes the rules as a parameter, so that one can say what does not depend
on them.
-/
namespace LiveConfig

inductive ScalarFailure where
  | fault (target : String) (fault : ConversionFault)
  | panic (p : Panic)

structure Rules where
  scalar : Scalar → String → Except ScalarFailure Value
  byType : Target → String → Except Refusal Value

namespace Rules

open Text (trim)

def trueWords : List String := ["true", "yes", "on", "1"]

def falseWords : List String := ["false", "no", "off", "0"]

def readBoolean (raw : String) : Except ScalarFailure Value :=
  let word := Text.asciiLower (Text.trimmed raw)
  if trueWords.contains word then .ok (.boolean true)
  else if falseWords.contains word then .ok (.boolean false)
  else .error (.fault "bool" (.notBoolean word))

def readCharacter (raw : String) : Except ScalarFailure Value :=
  match trim raw.toList with
  | [c] => .ok (.character c)
  | cs => .error (.fault "char" (.notCharacter (String.ofList cs)))

def readDuration (raw : String) : Except ScalarFailure Value :=
  match Time.parseDuration raw.toList with
  | .ok d => .ok (.duration d)
  | .error .carry => .error (.panic ⟨some Time.DurationError.carry.message⟩)
  | .error e => .error (.fault "Duration" (.notDuration raw e))

def readByType (s : Scalar) (cs : List Char) : Except Refusal Value :=
  match s with
  | .integer t => (Number.parseInteger t.range 10 cs).mapError .integer |>.map .integer
  | .single => (Number.parseBinary .single cs).mapError .float |>.map .single
  | .double => (Number.parseBinary .double cs).mapError .float |>.map .double
  | .boolean =>
    if cs = "true".toList then .ok (.boolean true)
    else if cs = "false".toList then .ok (.boolean false)
    else .error .notTrueOrFalse
  | .character =>
    match cs with
    | [] => .error .noCharacter
    | [c] => .ok (.character c)
    | _ => .error .severalCharacters
  | .text | .path => .ok (.text (String.ofList cs))
  | .address => (Net.IPAddress.parse cs).mapError .address |>.map .address
  | .addressV4 => (Net.IPv4.parse cs).mapError .address |>.map fun a => .address (.v4 a)
  | .addressV6 => (Net.IPv6.parse cs).mapError .address |>.map fun a => .address (.v6 a)
  | .socket => (Net.SocketAddress.parse cs).mapError .address |>.map .socket
  | .url => (Net.Url.parse cs).mapError .url |>.map .url
  | .duration => .error (.told "")

def readScalar (s : Scalar) (raw : String) : Except ScalarFailure Value :=
  match s with
  | .text => .ok (.text raw)
  | .boolean => readBoolean raw
  | .character => readCharacter raw
  | .duration => readDuration raw
  | _ => (readByType s (trim raw.toList)).mapError fun refusal => .fault s.name (.causedBy refusal)

def builtIn : Rules where
  scalar := readScalar
  byType target raw :=
    match target with
    | .scalar s => readByType s (trim raw.toList)
    | _ => .error (.told "")

end Rules
end LiveConfig
