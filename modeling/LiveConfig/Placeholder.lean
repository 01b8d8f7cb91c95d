/-!
Placeholders in a text: `${` and `}` around an inner text.

The inner text has at least one character and no line end; it ends before the first closing brace that
leaves it non-empty.  `segments` cuts a text at its placeholders from left to right and loses nothing:
`Segment.source` is what a segment was cut from.
-/
namespace LiveConfig

inductive Segment where
  | plain (cs : List Char)
  | placeholder (inner : List Char)
  deriving DecidableEq, Repr

def Segment.source : Segment → List Char
  | .plain cs => cs
  | .placeholder inner => '$' :: '\x7b' :: inner ++ ['\x7d']

namespace Placeholder

def closing? (inner : List Char) : List Char → Option (List Char)
  | [] => none
  | c :: cs =>
    if c = '\x7d' then some inner.reverse
    else if c = '\n' then none
    else closing? (c :: inner) cs

def inner? : List Char → Option (List Char)
  | '$' :: '\x7b' :: c :: cs => if c = '\n' then none else closing? [c] cs
  | _ => none

def plainSegment (backwards : List Char) : List Segment :=
  if backwards.isEmpty then [] else [.plain backwards.reverse]

def scan (skip : Nat) (plain : List Char) : List Char → List Segment
  -- `skip` characters still belong to the placeholder just met; `plain` is held backwards.
  | [] => plainSegment plain
  | c :: cs =>
    match skip with
    | skip + 1 => scan skip plain cs
    | 0 =>
      match inner? (c :: cs) with
      | some inner => plainSegment plain ++ .placeholder inner :: scan (inner.length + 2) [] cs
      | none => scan 0 (c :: plain) cs

end Placeholder

def segments (cs : List Char) : List Segment := Placeholder.scan 0 [] cs

end LiveConfig
