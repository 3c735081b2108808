import UnicodeText.Proofs.Composition.Pair
import UnicodeText.Proofs.Decomposition.Length

namespace UnicodeText

open Data (compositionOffset decompositionCodes)

def isCanonicalAtomAt (n : Nat) : Bool :=
  !isSyllableAt n && strictly (entryStart n) fun start => (start / 4).beq (entryStop n / 4) || start.testBit 0

/-- Every code with which code point `n` composes is atomic, and if it is a mark, its class is not below the
class of the last code in the entry of `n`. -/
def checkChain (n start stop : Nat) : Bool :=
  allBetween start stop fun i => strictly (pairSecond i) fun second =>
    isCanonicalAtomAt second && strictly (classAt second) fun combining => combining.beq 0 ||
      strictly (entryStop n / 4) fun last => (entryStart n / 4).beq last ||
        (classAt (decompositionCodes.get (last - 1))).ble combining

mutual

theorem scanRanges_checkChain : compositionOffset.scanRanges 5 checkChain = true := by decide +kernel

theorem combiningClass_index_jamo : Data.combiningClass.index.get 0x11 = 0 := by decide +kernel

end

theorem isAtomic_of_isCanonicalAtomAt {c : Code} (h : isCanonicalAtomAt c.toNat = true) : IsAtomic .canonical c := by
  simp only [isCanonicalAtomAt, strictly_eq, Bool.and_eq_true, Bool.or_eq_true, Bool.not_eq_true', Nat.beq_eq] at h
  obtain ⟨hsyllable, hentry⟩ := h
  refine ⟨?_, ?_⟩
  · rw [← isSyllableAt_iff, hsyllable]
    exact Bool.false_ne_true
  · rw [Mode.decomposition?, decomposition?_eq]
    split
    · rfl
    next hbounds =>
      rw [Option.filter_some, hentry.resolve_left hbounds]
      rfl

theorem toNat_pairSecond (i : Nat) : (UInt32.ofNat (pairSecond i)).toNat = pairSecond i := by
  have hlt : Data.compositionPairs.get i < 1 <<< 48 := Data.compositionPairs.get_lt i
  rw [Nat.one_shiftLeft] at hlt
  have hsecond : pairSecond i < 2 ^ 32 := by
    rw [pairSecond]
    omega
  exact UInt32.toNat_ofNat_of_lt' hsecond

theorem isStarter_of_jamo {c : Code} (h : c.toNat / 256 = 0x11) : IsStarter c := by
  apply isStarter_of_number
  rw [BlockTable.number, h]
  exact combiningClass_index_jamo

theorem isStarter_second_of_compose {first second c : Code} (h : Hangul.compose first second = some c) :
    IsStarter second := by
  have hjamo := Hangul.second_of_compose h
  exact isStarter_of_jamo (by omega)

section Pairs

variable {first second c : Code} {i : Nat}

theorem checkChain_of_pairBounds (hstart : (pairBounds first).1 ≤ i) (hstop : i < (pairBounds first).2) :
    isCanonicalAtomAt (pairSecond i) = true ∧ (classAt (pairSecond i) = 0 ∨
      entryStart first.toNat / 4 = entryStop first.toNat / 4 ∨
      classAt (decompositionCodes.get (entryStop first.toNat / 4 - 1)) ≤ classAt (pairSecond i)) := by
  have hcheck := check_pairBounds (fun _ => rfl) scanRanges_checkChain first
  simp only [checkChain, strictly_eq, allBetween_iff, Bool.and_eq_true, Bool.or_eq_true, Nat.beq_eq,
    Nat.ble_eq] at hcheck
  exact hcheck i hstart hstop

theorem isAtomic_second_of_composePair (h : composePair first second = some c) : IsAtomic .canonical second := by
  rcases exists_pair_of_composePair h with hcompose | ⟨i, hstart, hstop, rfl, -⟩
  · have hjamo := Hangul.second_of_compose hcompose
    refine ⟨?_, Mode.canonical.decomposition?_of_none (decomposition?_of_jamo (by omega))⟩
    rw [Hangul.isSyllable_iff]
    omega
  · apply isAtomic_of_isCanonicalAtomAt
    rw [toNat_pairSecond]
    exact (checkChain_of_pairBounds hstart hstop).1

theorem not_isAtomic_of_composePair (h : composePair first second = some c) : ¬IsAtomic .canonical c := by
  intro hatomic
  rcases composePair_eq_some h with hcompose | ⟨d, hd, -, hcanonical⟩
  · exact hatomic.not_isSyllable (Hangul.jamo_of_compose hcompose).1
  · have hentry : Mode.canonical.decomposition? c = some d :=
      Mode.decomposition?_eq_some_iff.mpr ⟨hd, by simp [Mode.admits, hcanonical]⟩
    rw [hatomic.decomposition?_eq_none] at hentry
    simp at hentry

theorem composePair_composite_eq_none (h : composePair first second = some c) (x : Code) : composePair x c = none :=
  Option.eq_none_iff_forall_not_mem.mpr fun _ hx => not_isAtomic_of_composePair h (isAtomic_second_of_composePair hx)

theorem getLast?_codes_of_decomposition? {d : Decomposition} (h : decomposition? c = some d) :
    entryStart c.toNat / 4 ≠ entryStop c.toNat / 4 ∧
      d.codes.getLast? = some (UInt32.ofNat (decompositionCodes.get (entryStop c.toNat / 4 - 1))) := by
  have hbounds := entryBounds c
  have hentry : entryStart c.toNat / 4 ≠ entryStop c.toNat / 4 := by
    intro hnone
    simp [decomposition?_eq_none_iff.mpr hnone] at h
  have hlast : (List.range' (entryStart c.toNat / 4) (entryStop c.toNat / 4 - entryStart c.toNat / 4)).getLast? =
      some (entryStop c.toNat / 4 - 1) := by
    rw [List.getLast?_range', if_neg (by omega)]
    congr 1
    omega
  exact ⟨hentry, by rw [codes_of_decomposition? h, List.getLast?_map, hlast, Option.map_some]⟩

theorem combiningClass_le_of_composePair {m x : Code} (h : composePair first second = some c)
    (hx : composePair c m = some x) (hm : ¬IsStarter m) : combiningClass second ≤ combiningClass m := by
  rcases composePair_eq_some h with hcompose | ⟨d, hd, hcodes, -⟩
  · have hclass : combiningClass second = 0 := isStarter_second_of_compose hcompose
    rw [hclass]
    exact Nat.zero_le _
  · rcases exists_pair_of_composePair hx with hcompose | ⟨i, hstart, hstop, rfl, -⟩
    · exact absurd (isStarter_second_of_compose hcompose) hm
    · obtain ⟨hbounds, hlast⟩ := getLast?_codes_of_decomposition? hd
      have hsecond : second = UInt32.ofNat (decompositionCodes.get (entryStop c.toNat / 4 - 1)) := by
        simpa [hcodes] using hlast
      rw [IsStarter, combiningClass_eq, toNat_pairSecond] at hm
      rw [hsecond, combiningClass_eq, combiningClass_eq, toNat_decompositionCode, toNat_pairSecond]
      exact ((checkChain_of_pairBounds hstart hstop).2.resolve_left hm).resolve_left hbounds

end Pairs

end UnicodeText
