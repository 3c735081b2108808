import UnicodeText.Mark
import UnicodeText.Proofs.Code
import UnicodeText.Proofs.Decomposition.Expansion

namespace UnicodeText

open Data (decompositionOffset decompositionCodes)

def markAt (n : Nat) : Bool :=
  (Data.combiningMark.cell (Data.combiningMark.number n) (n / 8 % 32)).testBit (n % 8)

def baseIndexAt (n : Nat) : Nat := Data.baseCodeIndex.cell (Data.baseCodeIndex.number n) (n % 256)

def baseAt (n : Nat) : Nat := if baseIndexAt n = 0 then n else Data.baseCodes.get (baseIndexAt n)

def checkBaseCode (n : Nat) : Bool := isScalarAt n && !markAt n && (baseIndexAt n).beq 0

def checkBaseIndex (n i : Nat) : Bool :=
  i.beq 0 || strictly (entryStart n) fun start => !(start / 4).beq (entryStop n / 4) && !start.testBit 0

/-- Code `n` with base `base` is a mark just if the base is one, and otherwise both lose their marks to the
same code, unless the base stands `alone` in the entry and neither has marks to lose. -/
def checkLoss (n base : Nat) (alone : Bool) : Bool :=
  cond (markAt n) (markAt base) (!markAt base &&
    ((baseAt n).beq (baseAt base) || alone && (baseIndexAt n).beq 0 && (baseIndexAt base).beq 0))

def checkBase (n start stop : Nat) : Bool :=
  (start / 4).beq (stop / 4) || start.testBit 0 ||
    Nat.blt (start / 4) (stop / 4) && Nat.ble (stop / 4) 8663 &&
    allBetween (start / 4 + 1) (stop / 4) (fun i => markAt (decompositionCodes.get i)) &&
    strictly (decompositionCodes.get (start / 4)) fun base => checkLoss n base ((stop / 4).beq (start / 4 + 1))

mutual

theorem combiningMark_isBlank : Data.combiningMark.IsBlank 0 :=
  ⟨by decide +kernel, by decide +kernel, by decide +kernel⟩

theorem baseCodeIndex_isBlank : Data.baseCodeIndex.IsBlank 5 :=
  ⟨by decide +kernel, by decide +kernel, by decide +kernel⟩

theorem combiningMark_index_jamo : Data.combiningMark.index.get 0x11 = 0 := by decide +kernel

theorem combiningMark_index_syllables :
    allBetween 0xAC 0xD8 (fun page => (Data.combiningMark.index.get page).beq 0) = true := by decide +kernel

theorem scanCells_combiningClass :
    Data.combiningClass.scanCells 0 (fun n combining => combining.beq 0 || markAt n) = true := by decide +kernel

theorem allBelow_checkBaseCode :
    allBelow 997 (fun i => checkBaseCode (Data.baseCodes.get i)) = true := by decide +kernel

theorem scanCells_checkBaseIndex : Data.baseCodeIndex.scanCells 5 checkBaseIndex = true := by decide +kernel

theorem scanRanges_checkBase : decompositionOffset.scanRanges 7 checkBase = true := by decide +kernel

end

theorem isCombiningMark_eq (c : Code) : isCombiningMark c = markAt c.toNat := by
  rw [isCombiningMark, combiningMark_isBlank.bitD_eq]
  by_cases hspace : InCodeSpace c
  · rw [decide_eq_true hspace, Bool.true_and]
    rfl
  · rw [markAt, combiningMark_isBlank.cell_of_outside (page_of_not_inCodeSpace hspace) (Nat.mod_lt _ (by decide)),
      Nat.zero_testBit, Bool.and_false]

theorem toNat_baseCode (i : Nat) : (UInt32.ofNat (Data.baseCodes.get i)).toNat = Data.baseCodes.get i := by
  have hlt := Data.baseCodes.get_lt i
  exact UInt32.toNat_ofNat_of_lt' (Nat.lt_trans hlt (by decide))

theorem stripMarks_eq (c : Code) : stripMarks c = UInt32.ofNat (baseAt c.toNat) := by
  rw [stripMarks, baseCodeIndex_isBlank.getD_eq, baseAt]
  by_cases hspace : InCodeSpace c
  · rw [if_pos hspace]
    split
    next h =>
      have hindex : baseIndexAt c.toNat = 0 := h
      rw [if_pos hindex, UInt32.ofNat_toNat]
    next h =>
      have hindex : ¬baseIndexAt c.toNat = 0 := h
      rw [if_neg hindex]
      rfl
  · have hindex : baseIndexAt c.toNat = 0 :=
      baseCodeIndex_isBlank.cell_of_outside (page_of_not_inCodeSpace hspace) (Nat.mod_lt _ (by decide))
    rw [if_neg hspace, if_pos hindex, UInt32.ofNat_toNat]

theorem stripMarks_of_baseIndexAt {c : Code} (h : baseIndexAt c.toNat = 0) : stripMarks c = c := by
  rw [stripMarks_eq, baseAt, if_pos h, UInt32.ofNat_toNat]

theorem isCombiningMark_eq_false_of_number {c : Code} (h : Data.combiningMark.number c.toNat = 0) :
    isCombiningMark c = false := by
  rw [isCombiningMark_eq, markAt, h, combiningMark_isBlank.cell_eq_zero (Nat.mod_lt _ (by decide)),
    Nat.zero_testBit]

theorem isCombiningMark_eq_false_of_mem_jamo {c x : Code} (hc : Hangul.IsSyllable c) (hx : x ∈ Hangul.jamo c) :
    isCombiningMark x = false := by
  apply isCombiningMark_eq_false_of_number
  rw [BlockTable.number, Hangul.page_of_mem_jamo hc hx]
  exact combiningMark_index_jamo

theorem isCombiningMark_eq_false_of_isSyllable {c : Code} (h : Hangul.IsSyllable c) : isCombiningMark c = false := by
  rw [Hangul.isSyllable_iff] at h
  have hpage := allBetween_iff.mp combiningMark_index_syllables (c.toNat / 256) (by omega) (by omega)
  exact isCombiningMark_eq_false_of_number (Nat.eq_of_beq_eq_true hpage)

theorem isCombiningMark_of_not_isStarter {c : Code} (h : ¬IsStarter c) : isCombiningMark c = true := by
  have hcheck := BlockTable.check_of_scanCells combiningClass_isBlank (fun _ => rfl) scanCells_combiningClass c.toNat
  rw [combiningClass_isBlank.getD_eq, Bool.or_eq_true, Nat.beq_eq] at hcheck
  rw [IsStarter, combiningClass_eq] at h
  rw [isCombiningMark_eq]
  exact hcheck.resolve_left h

section BaseCodes

theorem stripMarks_eq_self_or (c : Code) : stripMarks c = c ∨
    IsScalar (stripMarks c) ∧ isCombiningMark (stripMarks c) = false ∧ stripMarks (stripMarks c) = stripMarks c := by
  by_cases hindex : baseIndexAt c.toNat = 0
  · exact .inl (stripMarks_of_baseIndexAt hindex)
  · right
    have hcheck := Packed.check_of_allBelow (by decide) allBelow_checkBaseCode (baseIndexAt c.toNat)
    simp only [checkBaseCode, Bool.and_eq_true, Bool.not_eq_true', Nat.beq_eq] at hcheck
    obtain ⟨⟨hscalar, hmark⟩, hbase⟩ := hcheck
    have hstrip : stripMarks c = UInt32.ofNat (Data.baseCodes.get (baseIndexAt c.toNat)) := by
      rw [stripMarks_eq, baseAt, if_neg hindex]
    rw [hstrip]
    refine ⟨isScalar_ofNat hscalar, ?_, stripMarks_of_baseIndexAt ?_⟩
    · rwa [isCombiningMark_eq, toNat_baseCode]
    · rwa [toNat_baseCode]

theorem isScalar_stripMarks {c : Code} (h : IsScalar c) : IsScalar (stripMarks c) := by
  rcases stripMarks_eq_self_or c with hself | ⟨hscalar, -, -⟩
  · rwa [hself]
  · exact hscalar

theorem isCombiningMark_stripMarks {c : Code} (h : isCombiningMark c = false) :
    isCombiningMark (stripMarks c) = false := by
  rcases stripMarks_eq_self_or c with hself | ⟨-, hmark, -⟩
  · rwa [hself]
  · exact hmark

theorem stripMarks_stripMarks (c : Code) : stripMarks (stripMarks c) = stripMarks c := by
  rcases stripMarks_eq_self_or c with hself | ⟨-, -, hbase⟩
  · rw [hself, hself]
  · exact hbase

end BaseCodes

section Entries

theorem baseIndexAt_of_decomposition?_eq_none {c : Code} (h : Mode.canonical.decomposition? c = none) :
    baseIndexAt c.toNat = 0 := by
  have hcheck := BlockTable.check_of_scanCells baseCodeIndex_isBlank (fun _ => rfl) scanCells_checkBaseIndex c.toNat
  rw [baseCodeIndex_isBlank.getD_eq] at hcheck
  simp only [checkBaseIndex, strictly_eq, Bool.or_eq_true, Bool.and_eq_true, Bool.not_eq_true', Nat.beq_eq] at hcheck
  refine hcheck.resolve_right fun ⟨hbounds, hcanonical⟩ => ?_
  have hentry : ¬entryStart c.toNat / 4 = entryStop c.toNat / 4 := Nat.ne_of_beq_eq_false hbounds
  rw [Mode.decomposition?, decomposition?_eq, if_neg hentry, Option.filter_some, hcanonical] at h
  simp [Mode.admits] at h

theorem stripMarks_of_decomposition?_eq_none {c : Code} (h : Mode.canonical.decomposition? c = none) :
    stripMarks c = c := stripMarks_of_baseIndexAt (baseIndexAt_of_decomposition?_eq_none h)

theorem isCombiningMark_eq_of_checkLoss {c base : Code} {alone : Bool}
    (h : checkLoss c.toNat base.toNat alone = true) : isCombiningMark base = isCombiningMark c := by
  rw [isCombiningMark_eq, isCombiningMark_eq]
  rw [checkLoss] at h
  cases hc : markAt c.toNat with
  | true =>
    rw [hc, cond_true] at h
    exact h
  | false =>
    rw [hc, cond_false, Bool.and_eq_true, Bool.not_eq_true'] at h
    exact h.1

theorem stripMarks_of_checkLoss {c base : Code} {alone : Bool} (h : checkLoss c.toNat base.toNat alone = true)
    (hc : isCombiningMark c = false) :
    stripMarks c = stripMarks base ∨ alone = true ∧ stripMarks c = c ∧ stripMarks base = base := by
  rw [isCombiningMark_eq] at hc
  simp only [checkLoss, hc, cond_false, Bool.and_eq_true, Bool.or_eq_true, Nat.beq_eq] at h
  rcases h.2 with hsame | ⟨⟨halone, hindex⟩, hbase⟩
  · left
    rw [stripMarks_eq, stripMarks_eq, hsame]
  · exact .inr ⟨halone, stripMarks_of_baseIndexAt hindex, stripMarks_of_baseIndexAt hbase⟩

/-- The codes of the entry are a base with marks behind it. A code that is its base under another name has
no marks to lose, and neither has the base. -/
structure Decomposition.HasBase (d : Decomposition) (c base : Code) (marks : List Code) : Prop where
  codes_eq : d.codes = base :: marks
  isCombiningMark_marks : ∀ m ∈ marks, isCombiningMark m = true
  isCombiningMark_base : isCombiningMark base = isCombiningMark c
  stripMarks_eq : isCombiningMark c = false → stripMarks c = stripMarks base ∨
    marks = [] ∧ stripMarks c = c ∧ stripMarks base = base

theorem map_slice?_decompositionCodes {start stop : Nat} (hlt : start < stop) (hle : stop ≤ 8663) :
    ((decompositionCodes.slice? start stop).getD []).map UInt32.ofNat =
      UInt32.ofNat (decompositionCodes.get start) ::
        (List.range' (start + 1) (stop - (start + 1))).map fun i => UInt32.ofNat (decompositionCodes.get i) := by
  have hlength : stop - start = stop - (start + 1) + 1 := by omega
  rw [Packed.slice?, if_pos ⟨Nat.le_of_lt hlt, hle⟩, Option.getD_some, hlength, List.range'_succ, List.map_cons,
    List.map_cons, List.map_map]
  rfl

theorem exists_hasBase {c : Code} {d : Decomposition} (h : Mode.canonical.decomposition? c = some d) :
    ∃ base marks, d.HasBase c base marks := by
  obtain ⟨hd, hadmits⟩ := Mode.decomposition?_eq_some_iff.mp h
  have hcheck := check_entry (fun _ => rfl) scanRanges_checkBase c
  rw [decomposition?_eq] at hd
  split at hd
  next => simp at hd
  next hbounds =>
    obtain rfl := Option.some.inj hd
    have hcanonical : (entryStart c.toNat).testBit 0 = false := by simpa [Mode.admits] using hadmits
    simp only [checkBase, strictly_eq, Bool.or_eq_true, Bool.and_eq_true, allBetween_iff, Nat.beq_eq, Nat.blt_eq,
      Nat.ble_eq, hbounds, hcanonical, Bool.false_eq_true, false_or] at hcheck
    obtain ⟨⟨⟨hlt, hle⟩, hmarks⟩, hloss⟩ := hcheck
    rw [← toNat_decompositionCode] at hloss
    refine ⟨_, _, map_slice?_decompositionCodes hlt hle, ?_, isCombiningMark_eq_of_checkLoss hloss, ?_⟩
    · intro m hm
      obtain ⟨i, hi, rfl⟩ := List.mem_map.mp hm
      rw [List.mem_range'_1] at hi
      rw [isCombiningMark_eq, toNat_decompositionCode]
      exact hmarks i hi.1 (by omega)
    · intro hc
      refine (stripMarks_of_checkLoss hloss hc).imp id fun ⟨halone, hself⟩ => ⟨?_, hself⟩
      rw [Nat.eq_of_beq_eq_true halone, Nat.sub_self]
      exact List.map_nil

end Entries

end UnicodeText
