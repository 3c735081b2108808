import UnicodeText.Encoding.Utf16
import UnicodeText.Encoding.Utf32
import UnicodeText.Encoding.Utf8

/-!
The three encodings. Decoding never fails: what is invalid is read as the replacement, and the decoder
goes on behind it. Only `validate` refuses a text.
-/

namespace UnicodeText

inductive Encoding where
  | utf8
  | utf16
  | utf32
deriving DecidableEq, Repr

namespace Encoding

abbrev CodeUnit : Encoding → Type
  | utf8 => UInt8
  | utf16 => UInt16
  | utf32 => UInt32

def maxUnits : Encoding → Nat
  | utf8 => 4
  | utf16 => 2
  | utf32 => 1

def unitToNat : (e : Encoding) → e.CodeUnit → Nat
  | utf8 => UInt8.toNat
  | utf16 => UInt16.toNat
  | utf32 => UInt32.toNat

def unitOfNat : (e : Encoding) → Nat → e.CodeUnit
  | utf8 => UInt8.ofNat
  | utf16 => UInt16.ofNat
  | utf32 => UInt32.ofNat

def isZero (e : Encoding) (u : e.CodeUnit) : Bool := e.unitToNat u == 0

def read : (e : Encoding) → e.CodeUnit → List e.CodeUnit → Reading
  | utf8 => Utf8.read
  | utf16 => Utf16.read
  | utf32 => Utf32.read

theorem extra_read_le (e : Encoding) (first : e.CodeUnit) (rest : List e.CodeUnit) :
    (e.read first rest).extra ≤ rest.length := by
  cases e with
  | utf8 => exact Utf8.extra_read_le first rest
  | utf16 => exact Utf16.extra_read_le first rest
  | utf32 => exact Utf32.extra_read first rest ▸ Nat.zero_le _

theorem extra_read_lt (e : Encoding) (first : e.CodeUnit) (rest : List e.CodeUnit) :
    (e.read first rest).extra < e.maxUnits := by
  cases e with
  | utf8 => exact Utf8.extra_read_lt first rest
  | utf16 => exact Utf16.extra_read_lt first rest
  | utf32 => exact Utf32.extra_read first rest ▸ Nat.zero_lt_one

def encodeCode : (e : Encoding) → Code → List e.CodeUnit
  | utf8 => Utf8.encodeCode
  | utf16 => Utf16.encodeCode
  | utf32 => Utf32.encodeCode

def validate : (e : Encoding) → List e.CodeUnit → Except EncodingError Unit
  | utf8 => Utf8.validate
  | utf16 => Utf16.validate
  | utf32 => Utf32.validate

def isValid (e : Encoding) (units : List e.CodeUnit) : Bool := (e.validate units).isOk

/-- All readings of a text of which the first `taken` units belong to a reading before. -/
def readingsAfter (e : Encoding) (taken : Nat) : List e.CodeUnit → List Reading
  | [] => []
  | first :: rest =>
    match taken with
    | left + 1 => e.readingsAfter left rest
    | 0 => e.read first rest :: e.readingsAfter (e.read first rest).extra rest

def readings (e : Encoding) (units : List e.CodeUnit) : List Reading := e.readingsAfter 0 units

theorem readingsAfter_eq (e : Encoding) (taken : Nat) (units : List e.CodeUnit) :
    e.readingsAfter taken units = e.readings (units.drop taken) := by
  induction units generalizing taken with
  | nil => simp [readings, readingsAfter]
  | cons first rest ih =>
    cases taken with
    | zero => rfl
    | succ left => simpa [readingsAfter] using ih left

theorem readings_nil (e : Encoding) : e.readings [] = [] := rfl

theorem readings_cons (e : Encoding) (first : e.CodeUnit) (rest : List e.CodeUnit) :
    e.readings (first :: rest) =
      e.read first rest :: e.readings (rest.drop (e.read first rest).extra) := by
  rw [← readingsAfter_eq]
  rfl

def decode (e : Encoding) (units : List e.CodeUnit) : List Code := (e.readings units).map Reading.code

def encode (e : Encoding) (codes : List Code) : List e.CodeUnit := codes.flatMap e.encodeCode

def first? (e : Encoding) : List e.CodeUnit → Option Reading
  | [] => none
  | first :: rest => some (e.read first rest)

def terminated (e : Encoding) (units : List e.CodeUnit) : List e.CodeUnit :=
  units.takeWhile fun u => !e.isZero u

end Encoding

end UnicodeText
