import UnicodeText.Encoding.Error
import UnicodeText.Encoding.Reading

namespace UnicodeText.Utf32

def read (first : UInt32) (_ : List UInt32) : Reading :=
  if IsScalar first then .valid first 0 else .invalid (.notScalar first) 0

theorem extra_read (first : UInt32) (rest : List UInt32) : (read first rest).extra = 0 := by
  rw [read]
  split
  · rfl
  · rfl

def encodeCode (c : Code) : List UInt32 := if InCodeSpace c then [c] else [replacement]

def validateFrom (offset : Nat) : List UInt32 → Except EncodingError Unit
  | [] => .ok ()
  | c :: rest =>
    if IsScalar c then validateFrom (offset + 1) rest else .error (.invalidScalar offset c)

def validate (units : List UInt32) : Except EncodingError Unit := validateFrom 0 units

end UnicodeText.Utf32
