import UnicodeText.Category.Name
import UnicodeText.Proofs.Machine.Property

namespace UnicodeText

section Singletons

variable (g : GeneralCategory)

theorem GeneralCategory.map_number_all : all.map number = List.range' 1 30 := by decide

theorem GeneralCategory.exists_number_eq {n : Nat} (hpos : 1 ≤ n) (hle : n ≤ 30) : ∃ g, number g = n := by
  have hmem : n ∈ all.map number := by
    rw [map_number_all, List.mem_range'_1]
    omega
  obtain ⟨g, -, hg⟩ := List.mem_map.mp hmem
  exact ⟨g, hg⟩

namespace CategorySet

theorem toNat_bits_ofNumber {n : Nat} (h : n < 32) : (ofNumber n).bits.toNat = 2 ^ n := by
  have hn : (UInt32.ofNat n).toNat = n := UInt32.toNat_ofNat_of_lt' (Nat.lt_trans h (by decide))
  have hpow : 2 ^ n < 2 ^ 32 := Nat.pow_lt_pow_right (by decide) h
  rw [ofNumber, UInt32.toNat_shiftLeft, hn, Nat.mod_eq_of_lt h, UInt32.toNat_one, Nat.one_shiftLeft,
    Nat.mod_eq_of_lt hpow]

theorem testBit_bits_singleton (i : Nat) : (singleton g).bits.toNat.testBit i = decide (g.number = i) := by
  have hnumber := g.number_le
  rw [singleton, toNat_bits_ofNumber (by omega), Nat.testBit_two_pow]

theorem abbreviation?_singleton : (singleton g).abbreviation? = some g.abbreviation := by
  cases g <;> rfl

theorem parse_abbreviation : parse g.abbreviation = .ok (singleton g) := by
  cases g <;> rfl

theorem isMark_singleton : (singleton g).isMark = (Nat.ble 6 g.number && Nat.ble g.number 8) := by
  cases g <;> rfl

end CategorySet

end Singletons

section Entries

def checkCategory (number : Nat) (mark : Bool) : Bool :=
  Nat.ble 1 number && Nat.ble number 30 && (Nat.ble 6 number && Nat.ble number 8) == mark

theorem scanWithBits_checkCategory :
    Data.generalCategory.scanWithBits Data.combiningMark checkCategory = true := by decide +kernel

theorem getD_generalCategory {c : Code} (h : InCodeSpace c) (fallback : Nat) :
    Data.generalCategory.getD c.toNat fallback =
      Data.generalCategory.cell (Data.generalCategory.number c.toNat) (c.toNat % 256) := by
  rw [BlockTable.getD, BlockTable.get, Machine.covers_generalCategory.block_eq_ok h]
  rfl

theorem exists_category_eq (c : Code) :
    ∃ g, category c = .singleton g ∧ isCombiningMark c = (CategorySet.singleton g).isMark := by
  by_cases hspace : InCodeSpace c
  · have hcheck := BlockTable.check_of_scanWithBits scanWithBits_checkCategory (page_of_inCodeSpace hspace)
    simp only [checkCategory, Bool.and_eq_true, Nat.ble_eq, beq_iff_eq] at hcheck
    obtain ⟨⟨hpos, hle⟩, hmark⟩ := hcheck
    obtain ⟨g, hg⟩ := GeneralCategory.exists_number_eq hpos hle
    refine ⟨g, ?_, ?_⟩
    · rw [category, if_pos hspace, getD_generalCategory hspace, CategorySet.singleton, hg]
    · rw [isCombiningMark_eq, CategorySet.isMark_singleton, hg, hmark, markAt]
  · refine ⟨.unassigned, if_neg hspace, ?_⟩
    rw [isCombiningMark, decide_eq_false hspace, CategorySet.isMark_singleton]
    rfl

end Entries

theorem property_tables_agree (c : Code) :
    (∃ i, 1 ≤ i ∧ i ≤ 30 ∧ ∀ j, (category c).bits.toNat.testBit j = true ↔ j = i) ∧
    (∃ name, (category c).abbreviation? = some name ∧ CategorySet.parse name = .ok (category c)) ∧
    isCombiningMark c = (category c).isMark ∧
    (combiningClass c ≠ 0 → isCombiningMark c = true) ∧
    (combiningClass c ≠ 0 → ∀ k, ∀ x ∈ expand k c, combiningClass x = combiningClass c) := by
  obtain ⟨g, hcategory, hmark⟩ := exists_category_eq c
  rw [hcategory]
  refine ⟨⟨g.number, g.number_pos, g.number_le, fun j => ?_⟩, ?_, hmark, isCombiningMark_of_not_isStarter,
    fun hc k x => combiningClass_of_mem_expand hc⟩
  · rw [CategorySet.testBit_bits_singleton, decide_eq_true_iff, eq_comm]
  · exact ⟨g.abbreviation, CategorySet.abbreviation?_singleton g, CategorySet.parse_abbreviation g⟩

theorem property_tables_agree_dialytika_tonos :
    combiningClass 0x344 = 230 ∧ isCombiningMark 0x344 = true ∧
    expand .canonical 0x344 = [0x308, 0x301] ∧ combiningClass 0x301 = combiningClass 0x344 := by
  have hclass : combiningClass 0x344 = 230 := by decide +kernel
  have hexpand : expand .canonical 0x344 = [0x308, 0x301] := by decide +kernel
  have hmark : combiningClass 0x344 ≠ 0 := by
    rw [hclass]
    decide
  obtain ⟨-, -, -, hcombining, hkept⟩ := property_tables_agree 0x344
  refine ⟨hclass, hcombining hmark, hexpand, hkept hmark .canonical 0x301 ?_⟩
  rw [hexpand]
  decide

end UnicodeText
