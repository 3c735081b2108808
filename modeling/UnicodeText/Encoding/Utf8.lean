import UnicodeText.Encoding.Error
import UnicodeText.Encoding.Reading

/-!
UTF-8. The length of a sequence is decided by its lead byte alone: overlong sequences, encoded
surrogates and four-byte sequences beyond the code space are read like any other.
-/

namespace UnicodeText.Utf8

def isContinuation (b : UInt8) : Bool := 0x80 ≤ b.toNat && b.toNat < 0xC0

/-- The number of continuation bytes that a lead byte announces and the bits of the code it holds. -/
def lead? (b : UInt8) : Option (Nat × Nat) :=
  if b.toNat < 0x80 then some (0, b.toNat)
  else if b.toNat < 0xC0 then none
  else if b.toNat < 0xE0 then some (1, b.toNat - 0xC0)
  else if b.toNat < 0xF0 then some (2, b.toNat - 0xE0)
  else if b.toNat < 0xF8 then some (3, b.toNat - 0xF0)
  else none

def joinBits (high : Nat) (tail : List UInt8) : Nat :=
  tail.foldl (fun code b => 64 * code + b.toNat % 64) high

def read (first : UInt8) (rest : List UInt8) : Reading :=
  match lead? first with
  | none => .invalid (.leadByte first) 0
  | some (count, high) =>
    let tail := (rest.take count).takeWhile isContinuation
    if tail.length = count then .valid (UInt32.ofNat (joinBits high tail)) count
    else .invalid (.truncated (count + 1)) tail.length

theorem extra_read_le (first : UInt8) (rest : List UInt8) : (read first rest).extra ≤ rest.length := by
  rw [read]
  split
  · exact Nat.zero_le _
  next count high h =>
    have htail := (List.takeWhile_sublist isContinuation (l := rest.take count)).length_le
    rw [List.length_take] at htail
    dsimp only
    split
    · simp only [Reading.valid]
      omega
    · simp only [Reading.invalid]
      omega

theorem extra_read_lt (first : UInt8) (rest : List UInt8) : (read first rest).extra < 4 := by
  rw [read]
  split
  · exact Nat.zero_lt_succ _
  next count high h =>
    have hcount : count < 4 := by
      rw [lead?] at h
      split at h <;> grind
    have htail := (List.takeWhile_sublist isContinuation (l := rest.take count)).length_le
    rw [List.length_take] at htail
    dsimp only
    split
    · exact hcount
    · simp only [Reading.invalid]
      omega

def encodeCode (c : Code) : List UInt8 :=
  let continuation (bits : Nat) := UInt8.ofNat (0x80 + bits % 64)
  let n := c.toNat
  if n < 0x80 then [UInt8.ofNat n]
  else if n < 0x800 then [UInt8.ofNat (0xC0 + n / 64), continuation n]
  else if n < 0x10000 then [UInt8.ofNat (0xE0 + n / 4096), continuation (n / 64), continuation n]
  else if n < codeSpace then
    [UInt8.ofNat (0xF0 + n / 262144), continuation (n / 4096), continuation (n / 64), continuation n]
  else [replacement.toUInt8]

/-- Checks the bytes from `offset` on, where `pending` bytes of the sequence at `start` are missing. -/
def validateFrom (start pending offset : Nat) : List UInt8 → Except EncodingError Unit
  | [] => if pending = 0 then .ok () else .error (.invalidUtf8 start)
  | b :: rest =>
    match pending with
    | missing + 1 =>
      if isContinuation b then validateFrom start missing (offset + 1) rest
      else .error (.invalidUtf8 start)
    | 0 =>
      match lead? b with
      | some (count, _) => validateFrom offset count (offset + 1) rest
      | none => .error (.invalidUtf8 offset)

def validate (units : List UInt8) : Except EncodingError Unit := validateFrom 0 0 0 units

end UnicodeText.Utf8
