import UnicodeText.Code

namespace UnicodeText

inductive Replacement where
  | leadByte (byte : UInt8)
  | truncated (length : Nat)
  | loneLowSurrogate (unit : UInt16)
  | loneHighSurrogate (unit : UInt16)
  | notScalar (code : Code)
deriving DecidableEq, Repr

def Replacement.message : Replacement → String
  | leadByte byte => s!"invalid UTF-8 lead byte {Text.upperHex 2 byte.toNat} replaced"
  | truncated length => s!"truncated UTF-8 sequence of {length} bytes replaced"
  | loneLowSurrogate unit => s!"lone low surrogate {Text.upperHex 4 unit.toNat} replaced"
  | loneHighSurrogate unit => s!"high surrogate {Text.upperHex 4 unit.toNat} without pair replaced"
  | notScalar code => s!"invalid scalar value {Text.upperHex 1 code.toNat} replaced"

structure Reading where
  code : Code
  extra : Nat
  replaced : Option Replacement
deriving DecidableEq, Repr

namespace Reading

def valid (code : Code) (extra : Nat) : Reading := ⟨code, extra, none⟩

def invalid (cause : Replacement) (extra : Nat) : Reading := ⟨replacement, extra, some cause⟩

end Reading

end UnicodeText
