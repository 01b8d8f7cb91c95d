import LiveConfig.Text.Bytes

/-!
Content that is meant to be text: the text itself, or bytes that may not be one.
-/
namespace LiveConfig.Text

inductive Raw where
  | text (s : String)
  | bytes (bs : List UInt8)
  deriving DecidableEq

namespace Raw

def text? : Raw → Option String
  | .text s => some s
  | .bytes bs => (decode? bs).map String.ofList

def lossyText : Raw → String
  | .text s => s
  | .bytes bs => String.ofList (decodeLossy bs)

end Raw
end LiveConfig.Text
