import UnicodeText.Encoding.Error
import UnicodeText.Encoding.Reading

namespace UnicodeText.Utf16

abbrev IsHigh (u : UInt16) : Prop := 0xD800 ≤ u.toNat ∧ u.toNat < 0xDC00

abbrev IsLow (u : UInt16) : Prop := 0xDC00 ≤ u.toNat ∧ u.toNat < 0xE000

def joinPair (high low : UInt16) : Code :=
  UInt32.ofNat (0x10000 + (high.toNat - 0xD800) * 1024 + (low.toNat - 0xDC00))

def read (first : UInt16) (rest : List UInt16) : Reading :=
  if IsLow first then .invalid (.loneLowSurrogate first) 0
  else if IsHigh first then
    match rest with
    | [] => .invalid (.loneHighSurrogate first) 0
    | second :: _ =>
      if IsLow second then .valid (joinPair first second) 1
      else .invalid (.loneHighSurrogate first) 0
  else .valid first.toUInt32 0

theorem extra_read_le (first : UInt16) (rest : List UInt16) : (read first rest).extra ≤ rest.length := by
  unfold read
  split
  · exact Nat.zero_le _
  · split
    · cases rest with
      | nil => exact Nat.zero_le _
      | cons second rest =>
        dsimp only
        split
        · exact Nat.le_add_left 1 rest.length
        · exact Nat.zero_le _
    · exact Nat.zero_le _

theorem extra_read_lt (first : UInt16) (rest : List UInt16) : (read first rest).extra < 2 := by
  unfold read
  split
  · exact Nat.zero_lt_succ _
  · split
    · cases rest with
      | nil => exact Nat.zero_lt_succ _
      | cons second rest =>
        dsimp only
        split
        · exact Nat.lt_succ_self 1
        · exact Nat.zero_lt_succ _
    · exact Nat.zero_lt_succ _

def encodeCode (c : Code) : List UInt16 :=
  let n := c.toNat
  if n < 0x10000 then [UInt16.ofNat n]
  else if n < codeSpace then
    [UInt16.ofNat (0xD800 + (n - 0x10000) / 1024), UInt16.ofNat (0xDC00 + (n - 0x10000) % 1024)]
  else [replacement.toUInt16]

/-- Checks the units from `offset` on. If `paired` is set, the unit before is a high surrogate. -/
def validateFrom (paired : Bool) (offset : Nat) : List UInt16 → Except EncodingError Unit
  | [] => if paired then .error (.unpairedSurrogate (offset - 1)) else .ok ()
  | u :: rest =>
    if paired then
      if IsLow u then validateFrom false (offset + 1) rest
      else .error (.unpairedSurrogate (offset - 1))
    else if IsLow u then .error (.unpairedSurrogate offset)
    else validateFrom (decide (IsHigh u)) (offset + 1) rest

def validate (units : List UInt16) : Except EncodingError Unit := validateFrom false 0 units

end UnicodeText.Utf16
