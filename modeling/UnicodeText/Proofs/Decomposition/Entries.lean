import UnicodeText.CombiningClass
import UnicodeText.Decomposition
import UnicodeText.Proofs.Code
import UnicodeText.Proofs.Hangul
import UnicodeText.Proofs.Table.Scan

namespace UnicodeText

open Data (decompositionOffset decompositionCodes)

/-- Four times the offset of the entry of code point `n`, with the flags of the entry. -/
def entryStart (n : Nat) : Nat := decompositionOffset.cell (decompositionOffset.number n) (n % 256)

def entryStop (n : Nat) : Nat := decompositionOffset.cell (decompositionOffset.number n) (n % 256 + 1)

def classAt (n : Nat) : Nat := Data.combiningClass.cell (Data.combiningClass.number n) (n % 256)

def endsWithinAt : Nat → Nat → Bool
  | 0, n =>
    strictly (decompositionOffset.number n) fun number =>
      (decompositionOffset.cell number (n % 256) / 4).beq (decompositionOffset.cell number (n % 256 + 1) / 4)
  | depth + 1, n =>
    strictly (decompositionOffset.number n) fun number =>
      allBetween (decompositionOffset.cell number (n % 256) / 4)
        (decompositionOffset.cell number (n % 256 + 1) / 4) fun i =>
          strictly (decompositionCodes.get i) (endsWithinAt depth)

def isSyllableAt (n : Nat) : Bool := Nat.ble 0xAC00 n && Nat.blt n 0xD7A4

def checkEntry (n start stop : Nat) : Bool :=
  (start / 4).beq (stop / 4) || !isSyllableAt n && strictly (classAt n) fun combining =>
    allBetween (start / 4) (stop / 4) fun i =>
      strictly (decompositionCodes.get i) fun x =>
        !isSyllableAt x && endsWithinAt (cond (start.testBit 1) 2 0) x &&
          (combining.beq 0 || combining.beq (classAt x))

mutual

theorem decompositionOffset_isBlank : decompositionOffset.IsBlank 7 :=
  ⟨by decide +kernel, by decide +kernel, by decide +kernel⟩

theorem combiningClass_isBlank : Data.combiningClass.IsBlank 0 :=
  ⟨by decide +kernel, by decide +kernel, by decide +kernel⟩

theorem scanRanges_checkEntry : decompositionOffset.scanRanges 7 checkEntry = true := by decide +kernel

theorem allBelow_decompositionCodes :
    allBelow 8663 (fun i => isScalarAt (decompositionCodes.get i)) = true := by decide +kernel

theorem decompositionOffset_index_jamo : decompositionOffset.index.get 0x11 = 7 := by decide +kernel

theorem combiningClass_index_syllables :
    allBetween 0xAC 0xD8 (fun page => (Data.combiningClass.index.get page).beq 0) = true := by decide +kernel

theorem index_surrogates : allBetween 0xD8 0xE0 (fun page =>
    (decompositionOffset.index.get page).beq 7 && (Data.combiningClass.index.get page).beq 0) = true := by
  decide +kernel

theorem isStarter_replacement : IsStarter replacement := by decide +kernel

theorem decomposition?_replacement : decomposition? replacement = none := by decide +kernel

end

theorem combiningClass_eq (c : Code) : combiningClass c = classAt c.toNat := by
  rw [combiningClass, classAt]
  split
  next => exact combiningClass_isBlank.getD_eq _
  next hspace =>
    exact (combiningClass_isBlank.cell_of_outside (page_of_not_inCodeSpace hspace)
      (Nat.mod_lt _ (by decide))).symm

theorem decomposition?_eq (c : Code) : decomposition? c =
    if entryStart c.toNat / 4 = entryStop c.toNat / 4 then none
    else some ⟨((decompositionCodes.slice? (entryStart c.toNat / 4) (entryStop c.toNat / 4)).getD []).map
      UInt32.ofNat, (entryStart c.toNat).testBit 0, (entryStart c.toNat).testBit 1⟩ := by
  rw [decomposition?]
  split
  next =>
    rw [decompositionOffset_isBlank.rangeD_eq]
    rfl
  next hspace =>
    have hcell : c.toNat % 256 < 256 := Nat.mod_lt _ (by decide)
    have hpage := page_of_not_inCodeSpace hspace
    rw [entryStart, entryStop, decompositionOffset_isBlank.cell_of_outside hpage (by omega),
      decompositionOffset_isBlank.cell_of_outside hpage (by omega), if_pos rfl]

theorem check_entry {check : Nat → Nat → Nat → Bool} (hzero : ∀ n, check n 0 0 = true)
    (hscan : decompositionOffset.scanRanges 7 check = true) (c : Code) :
    check c.toNat (entryStart c.toNat) (entryStop c.toNat) = true := by
  have hcheck := BlockTable.check_of_scanRanges decompositionOffset_isBlank hzero hscan c.toNat
  rw [decompositionOffset_isBlank.rangeD_eq] at hcheck
  exact hcheck

theorem toNat_decompositionCode (i : Nat) :
    (UInt32.ofNat (decompositionCodes.get i)).toNat = decompositionCodes.get i := by
  have hlt := decompositionCodes.get_lt i
  exact UInt32.toNat_ofNat_of_lt' (Nat.lt_trans hlt (by decide))

theorem mem_codes_of_decomposition? {c x : Code} {d : Decomposition} (h : decomposition? c = some d)
    (hx : x ∈ d.codes) : ∃ i, entryStart c.toNat / 4 ≤ i ∧ i < entryStop c.toNat / 4 ∧
      x = UInt32.ofNat (decompositionCodes.get i) := by
  rw [decomposition?_eq] at h
  split at h
  · simp at h
  · obtain rfl := Option.some.inj h
    obtain ⟨n, hn, rfl⟩ := List.mem_map.mp hx
    rw [Packed.slice?] at hn
    split at hn
    · obtain ⟨i, hi, rfl⟩ := List.mem_map.mp hn
      rw [List.mem_range'_1] at hi
      exact ⟨i, hi.1, by omega, rfl⟩
    · simp at hn

theorem isScalar_of_mem_codes {c x : Code} {d : Decomposition} (h : decomposition? c = some d) (hx : x ∈ d.codes) :
    IsScalar x := by
  obtain ⟨i, -, -, rfl⟩ := mem_codes_of_decomposition? h hx
  exact isScalar_ofNat (Packed.check_of_allBelow (by decide) allBelow_decompositionCodes i)

/-- Every way down from `c` meets at most the given number of entries. -/
def EndsWithin : Nat → Code → Prop
  | 0, c => decomposition? c = none
  | depth + 1, c => ∀ d, decomposition? c = some d → ∀ x ∈ d.codes, EndsWithin depth x

theorem endsWithin_of_endsWithinAt {depth : Nat} {c : Code} (h : endsWithinAt depth c.toNat = true) :
    EndsWithin depth c := by
  induction depth generalizing c with
  | zero =>
    simp only [endsWithinAt, strictly_eq] at h
    rw [EndsWithin, decomposition?_eq]
    exact if_pos (Nat.eq_of_beq_eq_true h)
  | succ depth ih =>
    simp only [endsWithinAt, strictly_eq, allBetween_iff] at h
    intro d hd x hx
    obtain ⟨i, hstart, hstop, rfl⟩ := mem_codes_of_decomposition? hd hx
    apply ih
    rw [toNat_decompositionCode]
    exact h i hstart hstop

theorem isSyllableAt_iff {c : Code} : isSyllableAt c.toNat = true ↔ Hangul.IsSyllable c := by
  simp [isSyllableAt, Hangul.isSyllable_iff]

structure Decomposition.Fits (d : Decomposition) (c : Code) : Prop where
  not_isSyllable : ¬Hangul.IsSyllable c
  codes_not_isSyllable : ∀ x ∈ d.codes, ¬Hangul.IsSyllable x
  codes_endsWithin : ∀ x ∈ d.codes, EndsWithin (cond d.isRecursive 2 0) x
  combiningClass_eq : ¬IsStarter c → ∀ x ∈ d.codes, combiningClass x = combiningClass c

theorem fits_of_decomposition? {c : Code} {d : Decomposition} (h : decomposition? c = some d) : d.Fits c := by
  have hcheck := check_entry (fun _ => rfl) scanRanges_checkEntry c
  have hcodes := fun x hx => mem_codes_of_decomposition? (x := x) h hx
  rw [decomposition?_eq] at h
  split at h
  next => simp at h
  next hbounds =>
    have hrecursive : d.isRecursive = (entryStart c.toNat).testBit 1 := by rw [← Option.some.inj h]
    simp only [checkEntry, strictly_eq, Bool.or_eq_true, Bool.and_eq_true, allBetween_iff, Nat.beq_eq,
      hbounds, false_or, Bool.not_eq_true', ← combiningClass_eq] at hcheck
    obtain ⟨hsyllable, hfields⟩ := hcheck
    refine ⟨?_, ?_, ?_, ?_⟩
    · rw [← isSyllableAt_iff, hsyllable]
      exact Bool.false_ne_true
    · intro x hx
      obtain ⟨i, hstart, hstop, rfl⟩ := hcodes x hx
      rw [← isSyllableAt_iff, toNat_decompositionCode, (hfields i hstart hstop).1.1]
      exact Bool.false_ne_true
    · intro x hx
      obtain ⟨i, hstart, hstop, rfl⟩ := hcodes x hx
      apply endsWithin_of_endsWithinAt
      rw [toNat_decompositionCode, hrecursive]
      exact (hfields i hstart hstop).1.2
    · intro hstarter x hx
      obtain ⟨i, hstart, hstop, rfl⟩ := hcodes x hx
      rw [UnicodeText.combiningClass_eq (UInt32.ofNat _), toNat_decompositionCode]
      exact ((hfields i hstart hstop).2.resolve_left hstarter).symm

theorem EndsWithin.succ {depth : Nat} {c : Code} (h : EndsWithin depth c) : EndsWithin (depth + 1) c := by
  induction depth generalizing c with
  | zero =>
    intro d hd
    rw [EndsWithin] at h
    simp [h] at hd
  | succ depth ih =>
    intro d hd x hx
    exact ih (h d hd x hx)

theorem Decomposition.Fits.endsWithin_two {d : Decomposition} {c x : Code} (h : d.Fits c) (hx : x ∈ d.codes) :
    EndsWithin 2 x := by
  have hends := h.codes_endsWithin x hx
  cases hr : d.isRecursive with
  | true => simpa [hr] using hends
  | false => exact EndsWithin.succ (EndsWithin.succ (by simpa [hr] using hends))

theorem endsWithin_expansionDepth (c : Code) : EndsWithin expansionDepth c :=
  fun _ hd _ hx => (fits_of_decomposition? hd).endsWithin_two hx

theorem endsWithin_expansionDepth_add (spare : Nat) (c : Code) : EndsWithin (expansionDepth + spare) c := by
  induction spare with
  | zero => exact endsWithin_expansionDepth c
  | succ spare ih => exact ih.succ

theorem decomposition?_eq_none_of_number {c : Code} (h : decompositionOffset.number c.toNat = 7) :
    decomposition? c = none := by
  have hcell : c.toNat % 256 < 256 := Nat.mod_lt _ (by decide)
  rw [decomposition?_eq, entryStart, entryStop, h, decompositionOffset_isBlank.cell_eq_zero (by omega),
    decompositionOffset_isBlank.cell_eq_zero (by omega), if_pos rfl]

theorem decomposition?_of_jamo {c : Code} (h : c.toNat / 256 = 0x11) : decomposition? c = none := by
  apply decomposition?_eq_none_of_number
  rw [BlockTable.number, h]
  exact decompositionOffset_index_jamo

theorem isStarter_of_number {c : Code} (h : Data.combiningClass.number c.toNat = 0) : IsStarter c := by
  rw [IsStarter, combiningClass_eq, classAt, h]
  exact combiningClass_isBlank.cell_eq_zero (Nat.mod_lt _ (by decide))

theorem isStarter_of_isSyllable {c : Code} (h : Hangul.IsSyllable c) : IsStarter c := by
  rw [Hangul.isSyllable_iff] at h
  have hpage := allBetween_iff.mp combiningClass_index_syllables (c.toNat / 256) (by omega) (by omega)
  exact isStarter_of_number (Nat.eq_of_beq_eq_true hpage)

end UnicodeText
