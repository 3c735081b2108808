namespace UnicodeText

/-- A code is any 32-bit word. Only the smallest of them are code points. -/
abbrev Code := UInt32

def codeSpace : Nat := 0x110000

abbrev InCodeSpace (c : Code) : Prop := c.toNat < codeSpace

abbrev IsSurrogate (c : Code) : Prop := 0xD800 ≤ c.toNat ∧ c.toNat < 0xE000

abbrev IsScalar (c : Code) : Prop := InCodeSpace c ∧ ¬IsSurrogate c

/-- The code `?`, which stands for what cannot be decoded or encoded. -/
def replacement : Code := 0x3F

theorem isValidChar_of_isScalar {c : Code} (h : IsScalar c) : c.isValidChar := by
  obtain ⟨hspace, hsurrogate⟩ := h
  simp only [InCodeSpace, codeSpace, IsSurrogate, UInt32.isValidChar, Nat.isValidChar] at *
  omega

theorem isScalar_val (x : Char) : IsScalar x.val := by
  have h := x.valid
  simp only [IsScalar, InCodeSpace, codeSpace, IsSurrogate, UInt32.isValidChar, Nat.isValidChar] at *
  omega

def toChar? (c : Code) : Option Char :=
  if h : IsScalar c then some ⟨c, isValidChar_of_isScalar h⟩ else none

theorem toChar?_val (x : Char) : toChar? x.val = some x := by
  rw [toChar?, dif_pos (isScalar_val x)]

theorem toChar?_eq_none_iff {c : Code} : toChar? c = none ↔ ¬IsScalar c := by
  simp [toChar?]

def codesOf (s : String) : List Code := s.toList.map Char.val

def textOf (codes : List Code) : String := String.ofList (codes.filterMap toChar?)

theorem textOf_codesOf (s : String) : textOf (codesOf s) = s := by
  have h : toChar? ∘ Char.val = some := funext toChar?_val
  rw [textOf, codesOf, List.filterMap_map, h, List.filterMap_some, String.ofList_toList]

namespace Text

def lowerHex (n : Nat) : String := "0x" ++ String.ofList (Nat.toDigits 16 n)

def upperHex (digits n : Nat) : String :=
  "0x" ++ String.ofList (((Nat.toDigits 16 n).map Char.toUpper).leftpad digits '0')

end Text

end UnicodeText
