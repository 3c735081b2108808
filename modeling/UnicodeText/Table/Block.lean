import UnicodeText.Table.Packed

/-!
Tables in two levels. The codes are cut into pages of 256, an index names a block for each page, and
pages with the same contents share a block.
-/

namespace UnicodeText

structure OutOfBounds where
  length : Nat
  position : Nat
deriving DecidableEq, Repr

def OutOfBounds.message (e : OutOfBounds) : String :=
  s!"index out of bounds: the len is {e.length} but the index is {e.position}"

/-- A table whose blocks have `entries` cells of `width` bits. `index` names the block of each of the
`span` pages, and `cells` holds the `count` blocks end to end. -/
structure BlockTable (width entries : Nat) where
  span : Nat
  index : Packed 8 span
  count : Nat
  cells : Packed width (count * entries)

namespace BlockTable

variable {width entries : Nat}

def block (t : BlockTable width entries) (code : Nat) : Except OutOfBounds Nat :=
  if code / 256 < t.span then
    let number := t.index.get (code / 256)
    if number < t.count then .ok number else .error ⟨t.count, number⟩
  else .error ⟨t.span, code / 256⟩

theorem block_isOk_iff {t : BlockTable width entries} {code : Nat} :
    (t.block code).isOk ↔ code / 256 < t.span ∧ t.index.get (code / 256) < t.count := by
  by_cases hpage : code / 256 < t.span
  · by_cases hblock : t.index.get (code / 256) < t.count <;>
      simp [block, hpage, hblock, Except.isOk, Except.toBool]
  · simp [block, hpage, Except.isOk, Except.toBool]

def cell (t : BlockTable width entries) (number j : Nat) : Nat := t.cells.get (entries * number + j)

def get (t : BlockTable width 256) (code : Nat) : Except OutOfBounds Nat :=
  match t.block code with
  | .ok number => .ok (t.cell number (code % 256))
  | .error e => .error e

/-- The two offsets that bound the entry of `code` in a table of offsets. The last cell of a block
closes the last entry of its page. -/
def range (t : BlockTable width 257) (code : Nat) : Except OutOfBounds (Nat × Nat) :=
  match t.block code with
  | .ok number => .ok (t.cell number (code % 256), t.cell number (code % 256 + 1))
  | .error e => .error e

def bit (t : BlockTable 8 32) (code : Nat) : Except OutOfBounds Bool :=
  match t.block code with
  | .ok number => .ok ((t.cell number (code / 8 % 32)).testBit (code % 8))
  | .error e => .error e

def getD (t : BlockTable width 256) (code fallback : Nat) : Nat :=
  (t.get code).toOption.getD fallback

def rangeD (t : BlockTable width 257) (code : Nat) (fallback : Nat × Nat) : Nat × Nat :=
  (t.range code).toOption.getD fallback

def bitD (t : BlockTable 8 32) (code : Nat) (fallback : Bool) : Bool :=
  (t.bit code).toOption.getD fallback

def ofBlocks (index : List Nat) (blocks : List (List Nat)) : BlockTable width entries where
  span := index.length
  index := .ofList index
  count := blocks.length
  cells := ⟨(Packed.ofList blocks.flatten : Packed width _).bits⟩

end BlockTable

end UnicodeText
