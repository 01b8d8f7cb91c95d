import LiveConfig.Text.Decomposition

/-!
The composed normal form of texts (NFC).

A text is decomposed, marks after one character are ordered by their classes, and every character
takes in the marks after it with which it composes, unless one that is left stands in between.
-/
namespace LiveConfig.Text

def insertMark (c : Char) : List Char → List Char
  | [] => [c]
  | d :: rest =>
    if 0 < combiningClass d && combiningClass d < combiningClass c then d :: insertMark c rest
    else c :: d :: rest

def orderMarks : List Char → List Char
  | [] => []
  | c :: rest => insertMark c (orderMarks rest)

def composeAfter (base : Char) (marks : List Char) : List Char → List Char
  | [] => base :: marks.reverse
  | c :: rest =>
    let isBlocked := match marks with
      | [] => false
      | m :: _ => combiningClass c ≤ combiningClass m
    match if isBlocked then none else composed? base c with
    | some joined => composeAfter joined marks rest
    | none =>
      if combiningClass c = 0 then base :: marks.reverse ++ composeAfter c [] rest
      else composeAfter base (c :: marks) rest

def compose : List Char → List Char
  | [] => []
  | c :: rest => if combiningClass c = 0 then composeAfter c [] rest else c :: compose rest

def normalForm (cs : List Char) : List Char := compose (orderMarks (cs.flatMap decomposed))

end LiveConfig.Text
