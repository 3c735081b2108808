import UnicodeText.Case.Full
import UnicodeText.Proofs.Code
import UnicodeText.Proofs.Table.Scan

namespace UnicodeText

def areScalars (sequences : List (Code × List Code)) : Bool :=
  sequences.all fun entry => entry.2.all fun x => decide (IsScalar x)

mutual

theorem caseMapping_isBlank : Data.caseMapping.IsBlank 6 := ⟨by decide +kernel, by decide +kernel, by decide +kernel⟩

theorem scanCells_caseMapping :
    Data.caseMapping.scanCells 6 (fun _ cell => isScalarAt (cell % 0x100000)) = true := by decide +kernel

theorem areScalars_lowercaseSequence : areScalars Data.lowercaseSequence = true := by decide +kernel

theorem areScalars_uppercaseSequence : areScalars Data.uppercaseSequence = true := by decide +kernel

end

theorem CaseMapping.target?_ofCell {cell : Nat} {target : Code} (h : (ofCell cell).target? = some target) :
    target = UInt32.ofNat (cell % 0x100000) := by
  unfold ofCell at h
  dsimp only at h
  split at h
  all_goals simp [target?] at h
  all_goals exact h.symm

section Simple

variable {c : Code}

theorem isScalar_of_target? {target : Code} (h : (caseMapping c).target? = some target) : IsScalar target := by
  rw [caseMapping] at h
  split at h
  · rw [CaseMapping.target?_ofCell h]
    have hcheck := BlockTable.check_of_scanCells caseMapping_isBlank (fun _ => rfl) scanCells_caseMapping c.toNat
    exact isScalar_ofNat hcheck
  · simp [CaseMapping.target?] at h

theorem isScalar_linkedCase (link : Code) (hc : IsScalar c) : IsScalar (linkedCase link c) := by
  rw [linkedCase]
  cases h : (caseMapping link).target? with
  | none => exact hc
  | some target => exact isScalar_of_target? h

theorem isScalar_lowercase (hc : IsScalar c) : IsScalar (lowercase c) := by
  rw [lowercase]
  split
  next h => exact isScalar_of_target? (by rw [h]; rfl)
  next h => exact isScalar_of_target? (by rw [h]; rfl)
  next => exact isScalar_linkedCase _ hc
  next => exact hc

theorem isScalar_uppercase (hc : IsScalar c) : IsScalar (uppercase c) := by
  rw [uppercase]
  split
  next h => exact isScalar_of_target? (by rw [h]; rfl)
  next h => exact isScalar_of_target? (by rw [h]; rfl)
  next h => exact isScalar_of_target? (by rw [h]; rfl)
  next => exact isScalar_linkedCase _ hc
  next => exact hc

end Simple

theorem isScalar_resolve {sequences : List (Code × List Code)} {simple : Code → Code} {c : Code}
    (hsequences : areScalars sequences = true) (hsimple : IsScalar (simple c)) :
    ∀ x ∈ (FullCase.resolve sequences simple c).codes, IsScalar x := by
  intro x hx
  rw [FullCase.resolve] at hx
  split at hx
  next codes h =>
    obtain ⟨earlier, later, rfl, -⟩ := List.lookup_eq_some_iff.mp h
    have hcodes := List.all_eq_true.mp hsequences (c, codes) (by simp)
    exact of_decide_eq_true (List.all_eq_true.mp hcodes x hx)
  next => rwa [List.mem_singleton.mp hx]

theorem codesOf_textOf_mapCase {full : Code → FullCase}
    (hfull : ∀ c, IsScalar c → ∀ x ∈ (full c).codes, IsScalar x) (s : String) :
    codesOf (textOf (mapCase full (codesOf s))) = mapCase full (codesOf s) := by
  apply codesOf_textOf
  intro x hx
  obtain ⟨c, hc, hxc⟩ := List.mem_flatMap.mp hx
  exact hfull c (isScalar_of_mem_codesOf hc) x hxc

theorem codesOf_lowercaseString (s : String) : codesOf (lowercaseString s) = mapCase fullLowercase (codesOf s) :=
  codesOf_textOf_mapCase (fun _ hc => isScalar_resolve areScalars_lowercaseSequence (isScalar_lowercase hc)) s

theorem codesOf_uppercaseString (s : String) : codesOf (uppercaseString s) = mapCase fullUppercase (codesOf s) :=
  codesOf_textOf_mapCase (fun _ hc => isScalar_resolve areScalars_uppercaseSequence (isScalar_uppercase hc)) s

end UnicodeText
