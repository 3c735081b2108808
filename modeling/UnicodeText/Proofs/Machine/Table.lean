import Mathlib.Data.Nat.Bitwise
import UnicodeText.Code
import UnicodeText.Proofs.Machine.Basic

namespace UnicodeText.Machine

variable {width entries : Nat}

def blockOf (t : BlockTable width entries) (code : Nat) : Run Nat := (t.block code).mapError .outOfBounds

def cellAt (t : BlockTable width entries) (number j : Nat) : Run Nat :=
  if j < entries then .ok (t.cell number j) else .error (.outOfBounds ⟨entries, j⟩)

def lookup (t : BlockTable width 256) (code : Nat) : Run Nat := do
  let number ← blockOf t code
  cellAt t number (code % 256)

def lookupRange (t : BlockTable width 257) (code : Nat) : Run (Nat × Nat) := do
  let number ← blockOf t code
  let start ← cellAt t number (code % 256)
  let stop ← cellAt t number (code % 256 + 1)
  return (start, stop)

def lookupBit (t : BlockTable 8 32) (code : Nat) : Run Bool := do
  let number ← blockOf t code
  let byte ← cellAt t number (code / 8 % 32)
  let mask ← shiftLeft 8 1 (code % 8)
  return byte &&& mask != 0

/-- Every code point has a page, and every page has a block. -/
structure Covers (t : BlockTable width entries) : Prop where
  span : codeSpace ≤ 256 * t.span
  index : ∀ page < t.span, t.index.get page < t.count

theorem covers_of_isBlank {t : BlockTable width entries} {blank : Nat} (h : t.IsBlank blank)
    (hspan : codeSpace ≤ 256 * t.span) : Covers t :=
  ⟨hspan, fun page hpage => Nat.blt_eq.mp (allBelow_iff.mp h.index page hpage)⟩

theorem cellAt_eq_ok {t : BlockTable width entries} {number j : Nat} (h : j < entries) :
    cellAt t number j = .ok (t.cell number j) := if_pos h

section Checks

variable (code : Nat)

theorem lookup_eq (t : BlockTable width 256) : lookup t code = (t.get code).mapError .outOfBounds := by
  rw [lookup, blockOf, BlockTable.get]
  cases t.block code with
  | error e => rfl
  | ok number => exact cellAt_eq_ok (Nat.mod_lt code (by decide))

theorem lookupRange_eq (t : BlockTable width 257) : lookupRange t code = (t.range code).mapError .outOfBounds := by
  have hcell : code % 256 < 256 := Nat.mod_lt code (by decide)
  rw [lookupRange, blockOf, BlockTable.range]
  cases t.block code with
  | error e => rfl
  | ok number =>
    simp only [Except.mapError, ok_bind]
    rw [cellAt_eq_ok (by omega), ok_bind, cellAt_eq_ok (by omega), ok_bind, pure_eq_ok]

theorem lookupBit_eq (t : BlockTable 8 32) : lookupBit t code = (t.bit code).mapError .outOfBounds := by
  have hbit : code % 8 < 8 := Nat.mod_lt code (by decide)
  have hmask (byte : Nat) : (byte &&& 1 <<< (code % 8) % 2 ^ 8 != 0) = byte.testBit (code % 8) := by
    rw [Nat.one_shiftLeft, Nat.mod_eq_of_lt (Nat.pow_lt_pow_right (by decide) hbit), Nat.and_two_pow]
    cases byte.testBit (code % 8) <;> simp
  rw [lookupBit, blockOf, BlockTable.bit]
  cases t.block code with
  | error e => rfl
  | ok number =>
    simp only [Except.mapError, ok_bind]
    rw [cellAt_eq_ok (Nat.mod_lt _ (by decide)), ok_bind, shiftLeft_eq_ok hbit, ok_bind, pure_eq_ok, hmask]

end Checks

namespace Covers

variable {code : Nat}

theorem block_eq_ok {t : BlockTable width entries} (h : Covers t) (hcode : code < codeSpace) :
    t.block code = .ok (t.number code) := by
  have hspan := h.span
  have hpage : code / 256 < t.span := by omega
  exact BlockTable.block_eq_ok hpage (h.index _ hpage)

theorem lookup_eq_ok {t : BlockTable width 256} (h : Covers t) (hcode : code < codeSpace) (fallback : Nat) :
    lookup t code = .ok (t.getD code fallback) := by
  rw [lookup_eq, BlockTable.getD, BlockTable.get, h.block_eq_ok hcode]
  rfl

theorem lookupRange_eq_ok {t : BlockTable width 257} (h : Covers t) (hcode : code < codeSpace) (fallback : Nat × Nat) :
    lookupRange t code = .ok (t.rangeD code fallback) := by
  rw [lookupRange_eq, BlockTable.rangeD, BlockTable.range, h.block_eq_ok hcode]
  rfl

theorem lookupBit_eq_ok {t : BlockTable 8 32} (h : Covers t) (hcode : code < codeSpace) (fallback : Bool) :
    lookupBit t code = .ok (t.bitD code fallback) := by
  rw [lookupBit_eq, BlockTable.bitD, BlockTable.bit, h.block_eq_ok hcode]
  rfl

end Covers

section Words

def blockAt (t : BlockTable width entries) (page : Nat) : Run Nat := do
  let number ← readField t.index page
  if number < t.count then return number else .error (.outOfBounds ⟨t.count, number⟩)

def lookupWord (t : BlockTable width 256) (c : Code) : Run Nat := do
  let number ← blockAt t (c >>> 8).toNat
  cellAt t number (c &&& 0xFF).toNat

def lookupRangeWord (t : BlockTable width 257) (c : Code) : Run (Nat × Nat) := do
  let number ← blockAt t (c >>> 8).toNat
  let start ← cellAt t number (c &&& 0xFF).toNat
  let stop ← cellAt t number ((c &&& 0xFF).toNat + 1)
  return (start, stop)

def lookupBitWord (t : BlockTable 8 32) (c : Code) : Run Bool := do
  let number ← blockAt t (c >>> 8).toNat
  let byte ← cellAt t number ((c >>> 3) &&& 0x1F).toNat
  let mask ← shiftLeft 8 1 (c &&& 7).toNat
  return byte &&& mask != 0

variable (c : Code)

theorem toNat_page : (c >>> 8).toNat = c.toNat / 256 := by
  rw [UInt32.toNat_shiftRight, Nat.shiftRight_eq_div_pow]
  rfl

theorem toNat_cell : (c &&& 0xFF).toNat = c.toNat % 256 := by
  rw [UInt32.toNat_and]
  exact Nat.and_two_pow_sub_one_eq_mod c.toNat 8

theorem toNat_byte : ((c >>> 3) &&& 0x1F).toNat = c.toNat / 8 % 32 := by
  rw [UInt32.toNat_and, UInt32.toNat_shiftRight, Nat.shiftRight_eq_div_pow]
  exact Nat.and_two_pow_sub_one_eq_mod (c.toNat / 8) 5

theorem toNat_bit : (c &&& 7).toNat = c.toNat % 8 := by
  rw [UInt32.toNat_and]
  exact Nat.and_two_pow_sub_one_eq_mod c.toNat 3

theorem blockAt_eq (t : BlockTable width entries) : blockAt t (c >>> 8).toNat = blockOf t c.toNat := by
  rw [toNat_page, blockAt, readField, blockOf, BlockTable.block]
  by_cases hpage : c.toNat / 256 < t.span
  · rw [if_pos hpage, if_pos hpage, ok_bind]
    by_cases hnumber : t.index.get (c.toNat / 256) < t.count <;> simp [hnumber, Except.mapError]
  · rw [if_neg hpage, if_neg hpage]
    rfl

theorem lookupWord_eq (t : BlockTable width 256) : lookupWord t c = (t.get c.toNat).mapError .outOfBounds := by
  rw [← lookup_eq, lookup, lookupWord, blockAt_eq, toNat_cell]

theorem lookupRangeWord_eq (t : BlockTable width 257) :
    lookupRangeWord t c = (t.range c.toNat).mapError .outOfBounds := by
  rw [← lookupRange_eq, lookupRange, lookupRangeWord, blockAt_eq, toNat_cell]

theorem lookupBitWord_eq (t : BlockTable 8 32) : lookupBitWord t c = (t.bit c.toNat).mapError .outOfBounds := by
  rw [← lookupBit_eq, lookupBit, lookupBitWord, blockAt_eq, toNat_byte, toNat_bit]

end Words

end UnicodeText.Machine
