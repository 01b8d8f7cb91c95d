import LiveConfig.Text.Mark

/-!
Directions of writing in names of hosts.

A name with letters that run from right to left has labels of one direction each: a label from right
to left begins with such a letter, ends with one or with a digit, and has digits of one kind only; a
label from left to right has nothing that runs the other way.  Marks at the end of a label do not
count.
-/
namespace LiveConfig.Net.Domain

open Text (readTable inTable)

inductive Direction where
  | left
  | right
  | europeanDigit
  | arabicDigit
  | neutral
  | mark
  deriving DecidableEq, Repr

def rightLetters : Array (List Nat) := readTable
  [ "5BE 5F4;608 608;60B 60B;60D 60D;61B 64A;66D 6D5;6E5 6E6;6EE 6EF;6FA 7F5;7FA 8C9;FBB2 FBC2;",
    "FE73 FE73;10800 1091B;10920 10B35;10B40 10D23;10D4A 10D4F;10D6F 10D8F;10E80 10EC7;",
    "10F00 10FF6;1E800 1ED3D;" ]

def europeanDigits : Array (List Nat) := readTable
  [ "6F0 6F9;102E1 102FB;" ]

def arabicDigits : Array (List Nat) := readTable
  [ "660 669;66B 66C;10D30 10D49;10E60 10E7E;" ]

def neutrals : Array (List Nat) := readTable
  [ "A1 D7;F7 F7;2B9 2BA;2C2 2CF;2D2 2ED;2EF 2FF;375 375;3F6 3F6;58A 58F;606 607;609 60A;",
    "60C 60C;60E 60F;66A 66A;6DE 6DE;6E9 6E9;7F6 7F9;9F2 9F3;9FB 9FB;AF1 AF1;BF3 BFA;C78 C7E;",
    "E3F E3F;F3A F3D;1390 1399;1400 1400;169B 169C;17DB 17DB;17F0 180A;1940 1945;19DE 19FF;",
    "200C 214D;218A 2335;237B 2394;2396 26AB;26AD 27FF;2900 2BFF;2CE5 2CEA;2CF9 2CFF;2E00 3004;",
    "3008 3020;3030 3030;3037 3037;303D 303F;30A0 30A0;30FB 30FB;31C0 31E5;4DC0 4DFF;A490 A4C6;",
    "A60D A60F;A673 A67F;A700 A721;A788 A788;A828 A82B;A838 A839;A874 A877;AB6A AB6B;FBC3 FE46;",
    "10101 10101;10140 1018C;10190 101A0;1091F 1091F;10B39 10B3F;10D6E 10D6E;10ED0 10ED8;",
    "11052 11065;11660 1166C;11FD5 11FF1;16FE2 16FE2;1CC00 1CEF0;1D1E9 1D245;1D300 1D356;",
    "1E2FF 1E2FF;1EEF0 1F12F;1F16D 1F16F;1F1AD 1F1AD;1F260 1FBFA;" ]

def leftMarks : List Nat := [0xCBF, 0xCC6, 0x11A07, 0x11A08, 0x11C3F]

def Direction.of (c : Char) : Direction :=
  let n := c.toNat
  if n < 0x80 then
    if c.isAlpha then .left else if c.isDigit then .europeanDigit else .neutral
  else if Text.isNonspacingMark c then if leftMarks.contains n then .left else .mark
  else if inTable rightLetters n then .right
  else if inTable arabicDigits n then .arabicDigit
  else if inTable europeanDigits n then .europeanDigit
  else if inTable neutrals n then .neutral
  else .left

def Direction.isReversing : Direction → Bool
  | .right | .arabicDigit => true
  | _ => false

def Direction.isDigit : Direction → Bool
  | .europeanDigit | .arabicDigit => true
  | _ => false

def areConsistent (label : List Direction) : Bool :=
  match label.head?, label.getLast? with
  | some .left, some last =>
    (last = .left || last = .europeanDigit) && !label.any Direction.isReversing
  | some .right, some last =>
    (last = .right || last.isDigit) && !label.contains .left &&
      !(label.contains .europeanDigit && label.contains .arabicDigit)
  | some _, _ => false
  | none, _ => true

def isConsistent (label : List Char) : Bool :=
  match label.map Direction.of with
  | [] => true
  | first :: rest => areConsistent (first :: (rest.reverse.dropWhile (· = .mark)).reverse)

def areConsistentLabels (labels : List (List Char)) : Bool :=
  !(labels.any fun label => label.any fun c => (Direction.of c).isReversing) ||
    labels.all isConsistent

end LiveConfig.Net.Domain
