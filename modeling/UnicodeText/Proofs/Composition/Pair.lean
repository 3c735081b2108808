import UnicodeText.Composition.Pair
import UnicodeText.Proofs.Decomposition.Expansion

namespace UnicodeText

open Data (compositionOffset)

def hasCanonicalEntry (c first second : Code) : Bool :=
  (decomposition? c).any fun d => d.codes == [first, second] && !d.isCompatibility

theorem hasCanonicalEntry_iff {c first second : Code} : hasCanonicalEntry c first second = true ↔
    ∃ d, decomposition? c = some d ∧ d.codes = [first, second] ∧ d.isCompatibility = false := by
  simp [hasCanonicalEntry, Option.any_eq_true]

def checkPairs (n start stop : Nat) : Bool :=
  allBetween start stop fun i =>
    hasCanonicalEntry (UInt32.ofNat (pairComposite i)) (UInt32.ofNat n) (UInt32.ofNat (pairSecond i))

def checkFields (i : Nat) : Bool :=
  (classAt (pairComposite i)).beq 0 && strictly (pairSecond i) fun second =>
    Nat.ble 0x300 second && (Nat.blt second 0xD800 || Nat.ble 0xE000 second && Nat.blt second 0x110000)

mutual

theorem compositionOffset_isBlank : compositionOffset.IsBlank 5 :=
  ⟨by decide +kernel, by decide +kernel, by decide +kernel⟩

theorem scanRanges_checkPairs : compositionOffset.scanRanges 5 checkPairs = true := by decide +kernel

theorem allBelow_checkFields : allBelow 941 checkFields = true := by decide +kernel

theorem compositionOffset_index_surrogates :
    allBetween 0xD8 0xE0 (fun page => (compositionOffset.index.get page).beq 5) = true := by decide +kernel

theorem pairBounds_replacement : (pairBounds replacement).2 ≤ (pairBounds replacement).1 := by decide +kernel

end

theorem check_pairBounds {check : Nat → Nat → Nat → Bool} (hzero : ∀ n, check n 0 0 = true)
    (hscan : compositionOffset.scanRanges 5 check = true) (first : Code) :
    check first.toNat (pairBounds first).1 (pairBounds first).2 = true := by
  rw [pairBounds]
  split
  · exact BlockTable.check_of_scanRanges compositionOffset_isBlank hzero hscan first.toNat
  · exact hzero first.toNat

theorem hasCanonicalEntry_of_pairBounds {first : Code} {i : Nat} (hstart : (pairBounds first).1 ≤ i)
    (hstop : i < (pairBounds first).2) :
    hasCanonicalEntry (UInt32.ofNat (pairComposite i)) first (UInt32.ofNat (pairSecond i)) = true := by
  have hcheck := check_pairBounds (fun _ => rfl) scanRanges_checkPairs first
  rw [checkPairs, allBetween_iff] at hcheck
  have hentry := hcheck i hstart hstop
  rwa [UInt32.ofNat_toNat] at hentry

theorem exists_pair_of_composePair {first second c : Code} (h : composePair first second = some c) :
    Hangul.compose first second = some c ∨ ∃ i, (pairBounds first).1 ≤ i ∧ i < (pairBounds first).2 ∧
      second = UInt32.ofNat (pairSecond i) ∧ c = UInt32.ofNat (pairComposite i) := by
  rw [composePair] at h
  split at h
  next composite hcompose =>
    left
    rw [hcompose, h]
  next =>
    right
    obtain ⟨i, hi, rfl⟩ := Option.map_eq_some_iff.mp h
    obtain ⟨hkey, hstart, hstop⟩ := key_of_bisect_eq_some hi
    exact ⟨i, hstart, hstop, by rw [hkey, UInt32.ofNat_toNat], rfl⟩

theorem composePair_eq_some {first second c : Code} (h : composePair first second = some c) :
    Hangul.compose first second = some c ∨
      ∃ d, decomposition? c = some d ∧ d.codes = [first, second] ∧ d.isCompatibility = false := by
  rcases exists_pair_of_composePair h with hcompose | ⟨i, hstart, hstop, rfl, rfl⟩
  · exact .inl hcompose
  · exact .inr (hasCanonicalEntry_iff.mp (hasCanonicalEntry_of_pairBounds hstart hstop))

theorem expand_composePair (k : Mode) {first second c : Code} (h : composePair first second = some c) :
    expand k c = expand k first ++ expand k second := by
  rcases composePair_eq_some h with hcompose | ⟨d, hd, hcodes, hcanonical⟩
  · obtain ⟨hc, hjamo⟩ := Hangul.jamo_of_compose hcompose
    have hsecond : second ∈ Hangul.jamo c := by
      rcases hjamo with hjamo | ⟨-, hjamo⟩
      · simp [hjamo]
      · simp [hjamo]
    rw [expand_of_isSyllable k hc, expand_of_isAtomic (isAtomic_of_mem_jamo k hc hsecond)]
    rcases hjamo with hjamo | ⟨hfirst, hjamo⟩
    · have hlead : first ∈ Hangul.jamo c := by simp [hjamo]
      rw [expand_of_isAtomic (isAtomic_of_mem_jamo k hc hlead), hjamo]
      rfl
    · rw [expand_of_isSyllable k hfirst, hjamo]
  · have hentry : k.decomposition? c = some d :=
      Mode.decomposition?_eq_some_iff.mpr ⟨hd, by simp [Mode.admits, hcanonical]⟩
    rw [expand_of_decomposition? hentry, hcodes]
    simp

theorem composePair_eq_none_of_pairBounds {first : Code} (hcode : first.toNat < 0x1100 ∨ 0xD7A4 ≤ first.toNat)
    (hbounds : (pairBounds first).2 ≤ (pairBounds first).1) (second : Code) : composePair first second = none := by
  apply Option.eq_none_iff_forall_not_mem.mpr
  intro c hc
  rcases exists_pair_of_composePair hc with hcompose | ⟨i, hstart, hstop, -, -⟩
  · have hfirst := Hangul.first_of_compose hcompose
    omega
  · omega

section Fields

theorem checkFields_eq_true (i : Nat) : checkFields i = true := by
  have hcheck := allBelow_iff.mp allBelow_checkFields (min i 940) (by omega)
  have hfield : Data.compositionPairs.get (min i 940) = Data.compositionPairs.get i :=
    Data.compositionPairs.get_min i
  rw [checkFields, pairComposite, pairSecond] at hcheck ⊢
  rwa [hfield] at hcheck

theorem isStarter_of_composePair {first second c : Code} (h : composePair first second = some c) : IsStarter c := by
  rcases exists_pair_of_composePair h with hcompose | ⟨i, -, -, -, rfl⟩
  · exact isStarter_of_isSyllable (Hangul.jamo_of_compose hcompose).1
  · have hcheck := checkFields_eq_true i
    rw [checkFields, Bool.and_eq_true] at hcheck
    have hlt : pairComposite i < 2 ^ 32 := Nat.lt_trans (Nat.mod_lt _ (by decide)) (by decide)
    rw [IsStarter, combiningClass_eq, UInt32.toNat_ofNat_of_lt' hlt]
    exact Nat.eq_of_beq_eq_true hcheck.1

theorem second_of_composePair {first second c : Code} (h : composePair first second = some c) :
    0x300 ≤ second.toNat ∧ IsScalar second := by
  simp only [IsScalar, InCodeSpace, codeSpace, IsSurrogate]
  rcases exists_pair_of_composePair h with hcompose | ⟨i, -, -, rfl, -⟩
  · have hjamo := Hangul.second_of_compose hcompose
    omega
  · have hcheck := checkFields_eq_true i
    simp only [checkFields, strictly_eq, Bool.and_eq_true, Bool.or_eq_true, Nat.ble_eq, Nat.blt_eq] at hcheck
    have hlt : pairSecond i < 2 ^ 32 := by omega
    rw [UInt32.toNat_ofNat_of_lt' hlt]
    omega

theorem composePair_eq_none_of_not_isScalar {second : Code} (h : ¬IsScalar second) (first : Code) :
    composePair first second = none :=
  Option.eq_none_iff_forall_not_mem.mpr fun _ hc => h (second_of_composePair hc).2

theorem composePair_eq_none_of_lt {second : Code} (h : second.toNat < 0x300) (first : Code) :
    composePair first second = none :=
  Option.eq_none_iff_forall_not_mem.mpr fun _ hc => Nat.not_le_of_lt h (second_of_composePair hc).1

end Fields

end UnicodeText
