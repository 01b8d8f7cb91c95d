import LiveConfig.Text.Printable
import LiveConfig.Number.Integer

/-!
Texts and structures as a diagnostic listing writes them.

A text stands between quotation marks.  Quotation marks and backslashes in it follow a backslash, line
ends and tabs have short names, and what does not print, is not seen, or would join the character
before it, is written by its code point.
-/
namespace LiveConfig.Text

def quotedChar (c : Char) : List Char :=
  if c = '"' then ['\\', '"']
  else if c = '\\' then ['\\', '\\']
  else if c = '\n' then ['\\', 'n']
  else if c = '\r' then ['\\', 'r']
  else if c = '\t' then ['\\', 't']
  else if c.toNat = 0 then ['\\', '0']
  else if c.toNat < 0x7F && 0x20 ≤ c.toNat then [c]
  else if isExtender c || isUnseen c || !isPrintable c then
    ['\\', 'u', '\x7b'] ++ (Number.hex 1 c.toNat).toList ++ ['\x7d']
  else [c]

def quoted (s : String) : String :=
  "\"" ++ String.ofList (s.toList.flatMap quotedChar) ++ "\""

def listingOfOption {α : Type} (write : α → String) : Option α → String
  | none => "None"
  | some a => "Some(" ++ write a ++ ")"

def listingOfBool (b : Bool) : String := if b then "true" else "false"

def listingOfList (items : List String) : String := "[" ++ String.intercalate ", " items ++ "]"

def listingOfStruct (name : String) (fields : List (String × String)) : String :=
  name ++ " \x7b " ++ String.intercalate ", " (fields.map fun (f, v) => f ++ ": " ++ v) ++ " \x7d"

end LiveConfig.Text
