import UnicodeText.Encoding.Decoder

namespace UnicodeText

structure CString where
  bytes : List UInt8
  zero_free : ∀ b ∈ bytes, b ≠ 0

namespace CString

def ofBytes (bytes : List UInt8) : CString where
  bytes := Encoding.utf8.terminated bytes
  zero_free := by
    intro b hb hzero
    have h := List.all_takeWhile (p := fun u => !Encoding.utf8.isZero u) (l := bytes)
    have := List.all_eq_true.mp h b hb
    simp [hzero, Encoding.isZero, Encoding.unitToNat] at this

def decoder (s : CString) : Decoder .utf8 := Encoding.utf8.decoder s.bytes

def decode (s : CString) : List Code := Encoding.utf8.decode s.bytes

end CString

end UnicodeText
