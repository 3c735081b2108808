import UnicodeText.Code

namespace UnicodeText

theorem page_of_inCodeSpace {c : Code} (h : InCodeSpace c) : c.toNat / 256 < 4352 := by
  rw [InCodeSpace, codeSpace] at h
  omega

theorem page_of_not_inCodeSpace {c : Code} (h : ¬InCodeSpace c) : ¬c.toNat / 256 < 4352 := by
  simp only [InCodeSpace, codeSpace] at h
  omega

def isScalarAt (n : Nat) : Bool := Nat.blt n 0xD800 || Nat.ble 0xE000 n && Nat.blt n 0x110000

theorem isScalar_ofNat {n : Nat} (h : isScalarAt n = true) : IsScalar (UInt32.ofNat n) := by
  simp only [isScalarAt, Bool.or_eq_true, Bool.and_eq_true, Nat.blt_eq, Nat.ble_eq] at h
  have hn : n < 2 ^ 32 := by omega
  simp only [IsScalar, InCodeSpace, codeSpace, IsSurrogate]
  rw [UInt32.toNat_ofNat_of_lt' hn]
  omega

theorem isScalar_of_mem_codesOf {s : String} {c : Code} (h : c ∈ codesOf s) : IsScalar c := by
  obtain ⟨x, -, rfl⟩ := List.mem_map.mp h
  exact isScalar_val x

theorem map_val_filterMap_toChar? {codes : List Code} (h : ∀ c ∈ codes, IsScalar c) :
    (codes.filterMap toChar?).map Char.val = codes := by
  induction codes with
  | nil => rfl
  | cons c codes ih =>
    have hscalar := h c List.mem_cons_self
    have hc : toChar? c = some ⟨c, isValidChar_of_isScalar hscalar⟩ := dif_pos hscalar
    rw [List.filterMap_cons_some hc, List.map_cons, ih fun x hx => h x (List.mem_cons_of_mem c hx)]

theorem codesOf_textOf {codes : List Code} (h : ∀ c ∈ codes, IsScalar c) : codesOf (textOf codes) = codes := by
  rw [codesOf, textOf, String.toList_ofList, map_val_filterMap_toChar? h]

end UnicodeText
