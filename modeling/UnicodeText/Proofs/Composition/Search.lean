import UnicodeText.Proofs.Composition.Chain

namespace UnicodeText

open Data (compositionOffset compositionPairs)

section Bisect

variable {key : Nat → Nat} {target steps low high i : Nat}

theorem bisect_eq_some (hkey : ∀ i j, low ≤ i → i < j → j < high → key i < key j) (hsteps : high - low ≤ steps)
    (hlow : low ≤ i) (hhigh : i < high) (htarget : key i = target) : bisect key target steps low high = some i := by
  induction steps generalizing low high with
  | zero => omega
  | succ steps ih =>
    have hmiddle : low ≤ low + (high - low) / 2 ∧ low + (high - low) / 2 < high := by omega
    rw [bisect, if_pos (Nat.lt_of_le_of_lt hlow hhigh)]
    generalize low + (high - low) / 2 = middle at hmiddle ⊢
    dsimp only
    rcases Nat.lt_trichotomy i middle with hlt | rfl | hgt
    · have hlower := hkey i middle hlow hlt hmiddle.2
      rw [htarget] at hlower
      rw [if_neg (Nat.lt_asymm hlower), if_pos hlower]
      exact ih (fun x y hx hxy hy => hkey x y hx hxy (Nat.lt_trans hy hmiddle.2)) (by omega) hlow hlt
    · rw [htarget, if_neg (Nat.lt_irrefl _), if_neg (Nat.lt_irrefl _)]
    · have hupper := hkey middle i hmiddle.1 hgt hhigh
      rw [htarget] at hupper
      rw [if_pos hupper]
      exact ih (fun x y hx hxy hy => hkey x y (by omega) hxy hy) (by omega) hgt hhigh

end Bisect

def checkSlice (n start stop : Nat) : Bool :=
  Nat.ble start stop && Nat.ble stop 941 && (start.beq stop || (classAt n).beq 0) &&
    allBetween start (stop - 1) fun i => strictly (pairSecond i) fun second => second.blt (pairSecond (i + 1))

mutual

theorem scanRanges_checkSlice : compositionOffset.scanRanges 5 checkSlice = true := by decide +kernel

theorem allBelow_pairSecond_not_isLead : allBelow 941 (fun i => strictly (pairSecond i) fun second =>
    second.blt 0x1100 || Nat.ble 0x1113 second) = true := by
  decide +kernel

end

structure PairsFit (first : Code) : Prop where
  start_le : (pairBounds first).1 ≤ (pairBounds first).2
  stop_le : (pairBounds first).2 ≤ 941
  isStarter : (pairBounds first).1 < (pairBounds first).2 → IsStarter first
  second_lt : ∀ i, (pairBounds first).1 ≤ i → i + 1 < (pairBounds first).2 → pairSecond i < pairSecond (i + 1)

theorem pairsFit (first : Code) : PairsFit first := by
  have hcheck := check_pairBounds (fun _ => rfl) scanRanges_checkSlice first
  simp only [checkSlice, strictly_eq, Bool.and_eq_true, Bool.or_eq_true, Nat.ble_eq, Nat.blt_eq, Nat.beq_eq,
    allBetween_iff, ← combiningClass_eq] at hcheck
  obtain ⟨⟨⟨hstart, hstop⟩, hclass⟩, hsecond⟩ := hcheck
  refine ⟨hstart, hstop, ?_, ?_⟩
  · intro hlt
    exact hclass.resolve_left (Nat.ne_of_lt hlt)
  · intro i hi hnext
    exact hsecond i hi (by omega)

theorem pairBounds_le (first : Code) : (pairBounds first).1 ≤ (pairBounds first).2 ∧ (pairBounds first).2 ≤ 941 :=
  ⟨(pairsFit first).start_le, (pairsFit first).stop_le⟩

theorem pairSecond_lt {first : Code} {i j : Nat} (hstart : (pairBounds first).1 ≤ i) (hij : i < j)
    (hstop : j < (pairBounds first).2) : pairSecond i < pairSecond j := by
  have hnext := (pairsFit first).second_lt
  induction j, hij using Nat.le_induction with
  | base => exact hnext i hstart hstop
  | succ j hij ih => exact Nat.lt_trans (ih (by omega)) (hnext j (by omega) hstop)

def storedPairs (first : Code) : List (Code × Code) :=
  ((compositionPairs.slice? (pairBounds first).1 (pairBounds first).2).getD []).map fun field =>
    (UInt32.ofNat (field / 0x1000000), UInt32.ofNat (field % 0x1000000))

section Pairs

variable {first second c : Code}

theorem mem_storedPairs : (second, c) ∈ storedPairs first ↔ ∃ i, (pairBounds first).1 ≤ i ∧ i < (pairBounds first).2 ∧
    second = UInt32.ofNat (pairSecond i) ∧ c = UInt32.ofNat (pairComposite i) := by
  have hbounds := pairBounds_le first
  rw [storedPairs, Packed.slice?, if_pos hbounds, Option.getD_some, List.map_map, List.mem_map]
  constructor
  · rintro ⟨i, hi, hpair⟩
    obtain ⟨rfl, rfl⟩ := Prod.mk.inj hpair
    rw [List.mem_range'_1] at hi
    exact ⟨i, hi.1, by omega, rfl, rfl⟩
  · rintro ⟨i, hstart, hstop, rfl, rfl⟩
    exact ⟨i, List.mem_range'_1.mpr (by omega), rfl⟩

theorem composePair_of_mem_storedPairs (h : (second, c) ∈ storedPairs first)
    (hnone : Hangul.compose first second = none) : composePair first second = some c := by
  obtain ⟨i, hstart, hstop, rfl, rfl⟩ := mem_storedPairs.mp h
  have hfound := bisect_eq_some (fun _ _ => pairSecond_lt) (Nat.le_refl _) hstart hstop (toNat_pairSecond i).symm
  rw [composePair, hnone]
  dsimp only
  rw [hfound, Option.map_some]

theorem composePair_eq_some_iff : composePair first second = some c ↔ Hangul.compose first second = some c ∨
    Hangul.compose first second = none ∧ (second, c) ∈ storedPairs first := by
  constructor
  · intro h
    cases hcompose : Hangul.compose first second with
    | some composite =>
      rw [composePair, hcompose] at h
      exact .inl h
    | none =>
      have hpair := (exists_pair_of_composePair h).resolve_left (by simp [hcompose])
      exact .inr ⟨rfl, mem_storedPairs.mpr hpair⟩
  · rintro (hcompose | ⟨hnone, hstored⟩)
    · rw [composePair, hcompose]
    · exact composePair_of_mem_storedPairs hstored hnone

theorem isStarter_first_of_composePair (h : composePair first second = some c) : IsStarter first := by
  rcases composePair_eq_some_iff.mp h with hcompose | ⟨-, hstored⟩
  · rw [Hangul.compose_eq_some_iff_toNat] at hcompose
    rcases hcompose with hlead | hsyllable
    · exact isStarter_of_jamo (by omega)
    · exact isStarter_of_isSyllable (Hangul.isSyllable_iff.mpr hsyllable.1)
  · obtain ⟨i, hstart, hstop, -, -⟩ := mem_storedPairs.mp hstored
    exact (pairsFit first).isStarter (by omega)

theorem decomposition?_of_composePair (h : composePair first second = some c) (hc : ¬Hangul.IsSyllable c) :
    ∃ d, decomposition? c = some d ∧ d.codes = [first, second] ∧ d.isCompatibility = false :=
  (composePair_eq_some h).resolve_left fun hcompose => hc (Hangul.jamo_of_compose hcompose).1

theorem compose_of_composePair (h : composePair first second = some c) (hc : Hangul.IsSyllable c) :
    Hangul.compose first second = some c :=
  (composePair_eq_some h).resolve_right fun ⟨_, hd, _⟩ => (fits_of_decomposition? hd).not_isSyllable hc

theorem expand_canonical_composePair (h : composePair first second = some c) :
    expand .canonical second = [second] ∧ expand .canonical c = expand .canonical first ++ [second] := by
  have hsecond := expand_of_isAtomic (isAtomic_second_of_composePair h)
  exact ⟨hsecond, by rw [expand_composePair .canonical h, hsecond]⟩

theorem pair_eq_of_composePair {first' second' : Code} (h : composePair first second = some c)
    (h' : composePair first' second' = some c) : first = first' ∧ second = second' := by
  by_cases hc : Hangul.IsSyllable c
  · exact Hangul.pair_eq_of_compose (compose_of_composePair h hc) (compose_of_composePair h' hc)
  · obtain ⟨d, hd, hcodes, -⟩ := decomposition?_of_composePair h hc
    obtain ⟨d', hd', hcodes', -⟩ := decomposition?_of_composePair h' hc
    obtain rfl : d = d' := Option.some.inj (hd.symm.trans hd')
    simpa using hcodes.symm.trans hcodes'

end Pairs

theorem composePair_inverts_decomposition (first second c : Code) :
    (composePair first second = some c ↔ Hangul.compose first second = some c ∨
      Hangul.compose first second = none ∧ (second, c) ∈ storedPairs first) ∧
    (composePair first second = some c → combiningClass first = 0 ∧ combiningClass c = 0 ∧
      expand .canonical second = [second] ∧ expand .canonical c = expand .canonical first ++ [second] ∧
      (¬Hangul.IsSyllable c →
        ∃ d, decomposition? c = some d ∧ d.isCompatibility = false ∧ d.codes = [first, second])) ∧
    ∀ first' second' : Code, composePair first second = some c → composePair first' second' = some c →
      first = first' ∧ second = second' := by
  refine ⟨composePair_eq_some_iff, fun h => ⟨?_, ?_, ?_, ?_, fun hc => ?_⟩, fun _ _ => pair_eq_of_composePair⟩
  · exact isStarter_first_of_composePair h
  · exact isStarter_of_composePair h
  · exact (expand_canonical_composePair h).1
  · exact (expand_canonical_composePair h).2
  · obtain ⟨d, hd, hcodes, hcanonical⟩ := decomposition?_of_composePair h hc
    exact ⟨d, hd, hcanonical, hcodes⟩

theorem composePair_inverts_decomposition_macron :
    composePair 0xFC 0x304 = some 0x1D6 ∧ (0x304, 0x1D6) ∈ storedPairs 0xFC ∧
    (combiningClass 0xFC = 0 ∧ combiningClass 0x1D6 = 0) ∧ expand .canonical 0x304 = [0x304] ∧
    expand .canonical 0x1D6 = expand .canonical 0xFC ++ [0x304] ∧
    (∃ d, decomposition? 0x1D6 = some d ∧ d.isCompatibility = false ∧ d.codes = [0xFC, 0x304]) ∧
    ∀ first second : Code, composePair first second = some 0x1D6 → 0xFC = first ∧ 0x304 = second := by
  obtain ⟨hiff, hparts, hunique⟩ := composePair_inverts_decomposition 0xFC 0x304 0x1D6
  have hpair : composePair 0xFC 0x304 = some 0x1D6 := by decide +kernel
  have hstored := (hiff.mp hpair).resolve_left (by decide)
  obtain ⟨hfirst, hclass, hsecond, hexpand, hentry⟩ := hparts hpair
  exact ⟨hpair, hstored.2, ⟨hfirst, hclass⟩, hsecond, hexpand, hentry (by decide), fun x y => hunique x y hpair⟩

end UnicodeText
