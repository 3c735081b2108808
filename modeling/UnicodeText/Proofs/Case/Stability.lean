import Mathlib.Data.List.Basic
import UnicodeText.Proofs.Case.Forms

namespace UnicodeText

section Keys

/-- The codes that have sequences, as the bits of a number. -/
def keyMask (sequences : List (Code × List Code)) : Nat :=
  sequences.foldr (fun entry mask => mask ||| 1 <<< entry.1.toNat) 0

theorem testBit_keyMask (sequences : List (Code × List Code)) (c : Code) :
    (keyMask sequences).testBit c.toNat = (sequences.lookup c).isSome := by
  induction sequences with
  | nil => simp [keyMask]
  | cons entry sequences ih =>
    have hbit : (1 <<< entry.1.toNat).testBit c.toNat = (c == entry.1) := by
      rw [Nat.one_shiftLeft, Nat.testBit_two_pow, Bool.eq_iff_iff, decide_eq_true_iff, beq_iff_eq, UInt32.toNat_inj,
        eq_comm]
    have hmask : keyMask (entry :: sequences) = keyMask sequences ||| 1 <<< entry.1.toNat := rfl
    rw [hmask, Nat.testBit_or, ih, hbit, List.lookup_cons]
    cases c == entry.1 <;> simp

end Keys

section Scan

/-- A code whose target has a sequence has one too. The target of a mapping to lowercase may have an uppercase sequence
of its own. -/
def checkKeys (lowerKeys upperKeys n cell : Nat) : Bool :=
  cell.beq 0 || strictly (cell % 0x100000) fun target =>
    (!lowerKeys.testBit target || lowerKeys.testBit n) &&
      ((cell / 0x100000).beq 1 || !upperKeys.testBit target || upperKeys.testBit n)

def checkExtensions (sequences : List (Code × List Code)) (simple : Code → Code) : Bool :=
  sequences.all fun entry => entry.2 != [] && (entry.2.length != 1 || entry.2 == [simple entry.1])

def checkSettled (sequences : List (Code × List Code)) (simple : Code → Code) : Bool :=
  strictly (keyMask sequences) fun keys =>
    sequences.all fun entry => entry.2.all fun x => !keys.testBit x.toNat && simple x == x

mutual

theorem scanCells_checkKeys :
    strictly (keyMask Data.lowercaseSequence) (fun lowerKeys => strictly (keyMask Data.uppercaseSequence)
      fun upperKeys => Data.caseMapping.scanCells 6 (checkKeys lowerKeys upperKeys)) = true := by
  decide +kernel

theorem checkExtensions_lowercase : checkExtensions Data.lowercaseSequence lowercase = true := by decide +kernel

theorem checkExtensions_uppercase : checkExtensions Data.uppercaseSequence uppercase = true := by decide +kernel

theorem checkExtensions_titlecase : checkExtensions Data.titlecaseSequence titlecase = true := by decide +kernel

theorem checkSettled_lowercase : checkSettled Data.lowercaseSequence lowercase = true := by decide +kernel

theorem checkSettled_uppercase : checkSettled Data.uppercaseSequence uppercase = true := by decide +kernel

end

theorem checkKeys_caseCellAt (c : Code) :
    checkKeys (keyMask Data.lowercaseSequence) (keyMask Data.uppercaseSequence) c.toNat (caseCellAt c.toNat) =
      true := by
  have hkeys := scanCells_checkKeys
  rw [strictly_eq, strictly_eq] at hkeys
  exact check_caseCellAt (fun _ => rfl) hkeys c

variable {c x : Code}

theorem isSome_lookup_lowercase_of_target? (h : (caseMapping c).target? = some x)
    (hx : (Data.lowercaseSequence.lookup x).isSome = true) : (Data.lowercaseSequence.lookup c).isSome = true := by
  obtain ⟨hcell, htarget⟩ := cell_of_target? h
  have hcheck := checkKeys_caseCellAt c
  rw [checkKeys, strictly_eq, ← htarget, Bool.or_eq_true, Nat.beq_eq] at hcheck
  simpa [testBit_keyMask, hx] using (Bool.and_eq_true_iff.mp (hcheck.resolve_left hcell)).1

theorem isSome_lookup_uppercase_of_target? (h : (caseMapping c).target? = some x) (hkind : caseMapping c ≠ .lower x)
    (hx : (Data.uppercaseSequence.lookup x).isSome = true) : (Data.uppercaseSequence.lookup c).isSome = true := by
  obtain ⟨hcell, htarget⟩ := cell_of_target? h
  have hkind' : caseCellAt c.toNat / 0x100000 ≠ 1 := by
    intro hone
    apply hkind
    rw [caseMapping_eq, CaseMapping.ofCell, hone, ← htarget, UInt32.ofNat_toNat]
    rfl
  have hcheck := checkKeys_caseCellAt c
  rw [checkKeys, strictly_eq, ← htarget, Bool.or_eq_true, Nat.beq_eq] at hcheck
  simpa [testBit_keyMask, hx, hkind'] using (Bool.and_eq_true_iff.mp (hcheck.resolve_left hcell)).2

theorem isSome_lookup_of_lowercase (h : (Data.lowercaseSequence.lookup (lowercase c)).isSome = true) :
    (Data.lowercaseSequence.lookup c).isSome = true := by
  cases hc : caseMapping c with
  | identity | upperTitle _ | upper _ | upperThenTitle _ =>
    rwa [lowercase_of_keepsLower (by rw [hc]; rfl)] at h
  | lower low | lowerThenUpper low =>
    have hlow : lowercase c = low := by rw [lowercase, hc]
    rw [hlow] at h
    exact isSome_lookup_lowercase_of_target? (by rw [hc]; rfl) h
  | titleThenLower title =>
    have hring := isCaseRing_of_titleThenLower hc
    have htitle := isSome_lookup_lowercase_of_target? (by rw [hring.caseMapping_title]; rfl) h
    exact isSome_lookup_lowercase_of_target? (by rw [hc]; rfl) htitle

theorem isSome_lookup_of_uppercase (h : (Data.uppercaseSequence.lookup (uppercase c)).isSome = true) :
    (Data.uppercaseSequence.lookup c).isSome = true := by
  cases hc : caseMapping c with
  | identity | lower _ | titleThenLower _ =>
    rwa [uppercase_of_keepsUpper (by rw [hc]; rfl)] at h
  | upperTitle up | upper up | upperThenTitle up =>
    have hup : uppercase c = up := by rw [uppercase, hc]
    rw [hup] at h
    exact isSome_lookup_uppercase_of_target? (by rw [hc]; rfl) (by rw [hc]; simp) h
  | lowerThenUpper low =>
    have hring := isCaseRing_of_lowerThenUpper hc
    have hlow := isSome_lookup_uppercase_of_target? (by rw [hring.caseMapping_lower]; rfl)
      (by rw [hring.caseMapping_lower]; simp) h
    exact isSome_lookup_uppercase_of_target? (by rw [hc]; rfl) (by rw [hc]; simp) hlow

end Scan

section Resolution

variable {sequences : List (Code × List Code)} {simple : Code → Code} {c : Code} {codes : List Code}

theorem mem_of_lookup (h : sequences.lookup c = some codes) : (c, codes) ∈ sequences := by
  obtain ⟨earlier, later, rfl, -⟩ := List.lookup_eq_some_iff.mp h
  simp

theorem resolve_extends (h : checkExtensions sequences simple = true) (c : Code) :
    (FullCase.resolve sequences simple c).codes ≠ [] ∧
    ((FullCase.resolve sequences simple c).codes.length = 1 →
      (FullCase.resolve sequences simple c).codes = [simple c]) := by
  rw [FullCase.resolve]
  split
  next codes hlookup =>
    have hentry := List.all_eq_true.mp h _ (mem_of_lookup hlookup)
    simp only [Bool.and_eq_true, Bool.or_eq_true, bne_iff_ne, beq_iff_eq, Ne] at hentry
    exact ⟨hentry.1, fun hlength => hentry.2.resolve_left fun hne => hne hlength⟩
  next => exact ⟨by simp [FullCase.codes], fun _ => rfl⟩

theorem resolve_of_mem_resolve (hsettled : checkSettled sequences simple = true)
    (hidem : ∀ c, simple (simple c) = simple c)
    (hkeys : ∀ c, (sequences.lookup (simple c)).isSome = true → (sequences.lookup c).isSome = true) {x : Code}
    (hx : x ∈ (FullCase.resolve sequences simple c).codes) : (FullCase.resolve sequences simple x).codes = [x] := by
  have hfixed : sequences.lookup x = none ∧ simple x = x := by
    rw [FullCase.resolve] at hx
    split at hx
    next codes hlookup =>
      rw [checkSettled, strictly_eq] at hsettled
      have hentry := List.all_eq_true.mp (List.all_eq_true.mp hsettled _ (mem_of_lookup hlookup)) x hx
      simpa [testBit_keyMask] using hentry
    next hnone =>
      obtain rfl := List.mem_singleton.mp hx
      refine ⟨Option.not_isSome_iff_eq_none.mp fun hsome => ?_, hidem c⟩
      simpa [hnone] using hkeys c hsome
  rw [FullCase.resolve, hfixed.1, hfixed.2]
  rfl

end Resolution

theorem mapCase_mapCase {full : Code → FullCase} (h : ∀ c, ∀ x ∈ (full c).codes, (full x).codes = [x])
    (s : List Code) : mapCase full (mapCase full s) = mapCase full s := by
  rw [mapCase, mapCase, List.flatMap_assoc]
  apply List.flatMap_congr
  intro c _
  exact (List.flatMap_congr (h c)).trans (List.flatMap_singleton' _)

theorem lowercaseString_lowercaseString (s : String) : lowercaseString (lowercaseString s) = lowercaseString s := by
  have hfixed : ∀ c, ∀ x ∈ (fullLowercase c).codes, (fullLowercase x).codes = [x] := fun c x =>
    resolve_of_mem_resolve checkSettled_lowercase (fun c => (isCaseStable c).lowercase_lowercase)
      fun _ => isSome_lookup_of_lowercase
  rw [lowercaseString, codesOf_lowercaseString, mapCase_mapCase hfixed]
  rfl

theorem uppercaseString_uppercaseString (s : String) : uppercaseString (uppercaseString s) = uppercaseString s := by
  have hfixed : ∀ c, ∀ x ∈ (fullUppercase c).codes, (fullUppercase x).codes = [x] := fun c x =>
    resolve_of_mem_resolve checkSettled_uppercase (fun c => (isCaseStable c).uppercase_uppercase)
      fun _ => isSome_lookup_of_uppercase
  rw [uppercaseString, codesOf_uppercaseString, mapCase_mapCase hfixed]
  rfl

theorem case_mappings_are_stable :
    (∀ s : String, uppercaseString (uppercaseString s) = uppercaseString s ∧
      lowercaseString (lowercaseString s) = lowercaseString s) ∧
    ∀ c : Code, (lowercase (lowercase c) = lowercase c ∧ uppercase (uppercase c) = uppercase c ∧
        titlecase (titlecase c) = titlecase c ∧ uppercase (titlecase c) = uppercase c) ∧
      (∀ x, (caseMapping c = .lowerThenUpper x ∨ caseMapping c = .upperThenTitle x ∨
          caseMapping c = .titleThenLower x) →
        lowercase c = lowercase x ∧ uppercase c = uppercase x ∧ titlecase c = titlecase x) ∧
      ((fullLowercase c).codes ≠ [] ∧ ((fullLowercase c).codes.length = 1 → (fullLowercase c).codes = [lowercase c])) ∧
      ((fullUppercase c).codes ≠ [] ∧ ((fullUppercase c).codes.length = 1 → (fullUppercase c).codes = [uppercase c])) ∧
      ((fullTitlecase c).codes ≠ [] ∧
        ((fullTitlecase c).codes.length = 1 → (fullTitlecase c).codes = [titlecase c])) := by
  refine ⟨fun s => ⟨uppercaseString_uppercaseString s, lowercaseString_lowercaseString s⟩, fun c => ⟨?_, ?_, ?_⟩⟩
  · have hstable := isCaseStable c
    exact ⟨hstable.lowercase_lowercase, hstable.uppercase_uppercase, hstable.titlecase_titlecase,
      hstable.uppercase_titlecase⟩
  · intro x hx
    obtain ⟨upper, title, lower, hring, hc, hmem⟩ := exists_isCaseRing hx
    obtain ⟨hlower, hupper, htitle⟩ := hring.hasCases hc
    obtain ⟨rfl, rfl, rfl⟩ := hring.hasCases hmem
    exact ⟨hlower, hupper, htitle⟩
  · exact ⟨resolve_extends checkExtensions_lowercase c, resolve_extends checkExtensions_uppercase c,
      resolve_extends checkExtensions_titlecase c⟩

theorem case_mappings_are_stable_digraph :
    caseMapping 0x1C4 = .titleThenLower 0x1C5 ∧
    (lowercase 0x1C4 = lowercase 0x1C5 ∧ uppercase 0x1C4 = uppercase 0x1C5 ∧ titlecase 0x1C4 = titlecase 0x1C5) ∧
    (fullTitlecase 0x1F80).codes.length = 1 ∧ (fullTitlecase 0x1F80).codes = [titlecase 0x1F80] := by
  have hdigraph : caseMapping 0x1C4 = .titleThenLower 0x1C5 := by decide +kernel
  have hlength : (fullTitlecase 0x1F80).codes.length = 1 := by decide +kernel
  obtain ⟨-, hcodes⟩ := case_mappings_are_stable
  exact ⟨hdigraph, (hcodes 0x1C4).2.1 _ (.inr (.inr hdigraph)), hlength, (hcodes 0x1F80).2.2.2.2.2 hlength⟩

end UnicodeText
