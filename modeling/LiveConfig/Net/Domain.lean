import LiveConfig.Net.Domain.Direction
import LiveConfig.Net.Domain.Joining
import LiveConfig.Net.Domain.Spelling
import LiveConfig.Net.Punycode
import LiveConfig.Text.Bytes
import LiveConfig.Text.Normal

/-!
Host names in ASCII form.

A name is first spelled in its plain form and composed.  Then every label with other than ASCII
characters is written in its coded form after the mark `xn--`.  A label that carries the mark already
has to be the coded form of a label in plain form.
-/
namespace LiveConfig.Net.Domain

def isForbidden (c : Char) : Bool :=
  c.toNat ≤ 0x20 || c.toNat = 0x7F || "%#/:<>?@[\\]^|".toList.contains c

def isASCII (cs : List Char) : Bool := cs.all fun c => c.toNat < 0x80

def plainForm? (cs : List Char) : Option (List Char) :=
  match cs.mapM spelled? with
  | none => none
  | some letters =>
    let plain := Text.normalForm letters.flatten
    if plain.any isForbidden then none else some plain

def labels (cs : List Char) : List (List Char) :=
  match cs with
  | [] => [[]]
  | c :: rest =>
    match labels rest with
    | [] => [[c]]
    | first :: more => if c = '.' then [] :: first :: more else (c :: first) :: more

def longestCoded : Nat := 2000

def longestPlain : Nat := 1000

def decodedLabel? (coded : List Char) : Option (List Char) :=
  if longestCoded < coded.length then none
  else match Punycode.decode coded with
    | none => none
    | some plain =>
      if isASCII plain || plainForm? plain ≠ some plain || Punycode.encode plain ≠ coded then none
      else some plain

def plainLabel? (label : List Char) : Option (List Char) := do
  let plain ← match label with
    | 'x' :: 'n' :: '-' :: '-' :: coded => decodedLabel? coded
    | _ => if longestPlain < label.length && !isASCII label then none else some label
  if isASCII plain then some plain
  else if (plain.head?.map Text.isMark).getD false || !joinersFit [] plain then none
  else some plain

def writtenLabel (plain : List Char) : List Char :=
  if isASCII plain then plain else "xn--".toList ++ Punycode.encode plain

def ofBytes? (bytes : List UInt8) : Option (List Char) := do
  let name ← Text.decode? bytes
  let plain ← plainForm? name
  let found ← (labels plain).mapM plainLabel?
  if areConsistentLabels found then some (List.intercalate ['.'] (found.map writtenLabel)) else none

end LiveConfig.Net.Domain
