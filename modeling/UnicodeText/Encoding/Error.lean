import UnicodeText.Code

namespace UnicodeText

inductive EncodingError where
  | invalidUtf8 (offset : Nat)
  | unpairedSurrogate (offset : Nat)
  | invalidScalar (offset : Nat) (code : Code)
deriving DecidableEq, Repr

namespace EncodingError

def offset : EncodingError → Nat
  | invalidUtf8 offset => offset
  | unpairedSurrogate offset => offset
  | invalidScalar offset _ => offset

def message : EncodingError → String
  | invalidUtf8 offset => s!"invalid UTF-8 sequence at byte {offset}"
  | unpairedSurrogate offset => s!"unpaired UTF-16 surrogate at unit {offset}"
  | invalidScalar offset code =>
    s!"invalid scalar value {Text.upperHex 1 code.toNat} at unit {offset}"

end EncodingError

end UnicodeText
