namespace UnicodeText

/-- `size` fields of `width` bits each. Field 0 is the most significant, so that the fields of a
hexadecimal literal are numbered from left to right. -/
structure Packed (width size : Nat) where
  bits : Nat

namespace Packed

variable {width size : Nat}

def get (a : Packed width size) (i : Nat) : Nat :=
  a.bits >>> (width * (size - 1 - i)) &&& ((1 <<< width) - 1)

theorem get_lt (a : Packed width size) (i : Nat) : a.get i < 1 <<< width := by
  rw [get, Nat.one_shiftLeft, Nat.and_two_pow_sub_one_eq_mod]
  exact Nat.mod_lt _ (Nat.two_pow_pos width)

def slice? (a : Packed width size) (start stop : Nat) : Option (List Nat) :=
  if start ≤ stop ∧ stop ≤ size then some ((List.range' start (stop - start)).map a.get) else none

theorem slice?_isSome_iff {a : Packed width size} {start stop : Nat} :
    (a.slice? start stop).isSome ↔ start ≤ stop ∧ stop ≤ size := by
  simp [slice?]

def ofRows (perRow : Nat) (rows : List Nat) : Packed width size :=
  ⟨rows.foldl (fun bits row => bits <<< (width * perRow) + row) 0⟩

def ofList (fields : List Nat) : Packed width fields.length := ofRows 1 fields

end Packed

end UnicodeText
