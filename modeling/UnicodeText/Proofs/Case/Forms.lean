import UnicodeText.Proofs.Case.Scalars

namespace UnicodeText

namespace CaseMapping

def keepsLower : CaseMapping → Bool
  | identity | upperTitle _ | upper _ | upperThenTitle _ => true
  | lower _ | lowerThenUpper _ | titleThenLower _ => false

def keepsUpper : CaseMapping → Bool
  | identity | lower _ | titleThenLower _ => true
  | upperTitle _ | upper _ | upperThenTitle _ | lowerThenUpper _ => false

def keepsTitle : CaseMapping → Bool
  | identity | lower _ | upper _ | lowerThenUpper _ => true
  | upperTitle _ | upperThenTitle _ | titleThenLower _ => false

end CaseMapping

/-- The three cases of a letter that has a titlecase of its own. -/
structure IsCaseRing (upper title lower : Code) : Prop where
  caseMapping_upper : caseMapping upper = .titleThenLower title
  caseMapping_title : caseMapping title = .lowerThenUpper lower
  caseMapping_lower : caseMapping lower = .upperThenTitle upper

instance (upper title lower : Code) : Decidable (IsCaseRing upper title lower) :=
  decidable_of_iff (caseMapping upper = .titleThenLower title ∧ caseMapping title = .lowerThenUpper lower ∧
    caseMapping lower = .upperThenTitle upper)
    ⟨fun h => ⟨h.1, h.2.1, h.2.2⟩, fun h => ⟨h.caseMapping_upper, h.caseMapping_title, h.caseMapping_lower⟩⟩

section Scan

def caseCellAt (n : Nat) : Nat := Data.caseMapping.cell (Data.caseMapping.number n) (n % 256)

def CaseMapping.fits (c : Code) (linked : CaseMapping) : CaseMapping → Bool
  | identity => true
  | lower _ => linked.keepsLower
  | upperTitle _ => linked.keepsUpper && linked.keepsTitle
  | upper _ => linked.keepsUpper
  | lowerThenUpper low => decide (IsCaseRing (uppercase c) c low)
  | upperThenTitle up => decide (IsCaseRing up (titlecase c) c)
  | titleThenLower title => decide (IsCaseRing c title (lowercase c))

def checkCases (n cell : Nat) : Bool :=
  cell.beq 0 || strictly (caseCellAt (cell % 0x100000)) fun linked =>
    CaseMapping.fits (UInt32.ofNat n) (.ofCell linked) (.ofCell cell)

theorem scanCells_checkCases : Data.caseMapping.scanCells 6 checkCases = true := by decide +kernel

theorem caseMapping_eq (c : Code) : caseMapping c = .ofCell (caseCellAt c.toNat) := by
  rw [caseMapping, caseCellAt]
  split
  next => rw [caseMapping_isBlank.getD_eq]
  next hspace =>
    rw [caseMapping_isBlank.cell_of_outside (page_of_not_inCodeSpace hspace) (Nat.mod_lt _ (by decide))]
    rfl

theorem check_caseCellAt {check : Nat → Nat → Bool} (hzero : ∀ n, check n 0 = true)
    (hscan : Data.caseMapping.scanCells 6 check = true) (c : Code) : check c.toNat (caseCellAt c.toNat) = true := by
  have hcheck := BlockTable.check_of_scanCells caseMapping_isBlank hzero hscan c.toNat
  rwa [caseMapping_isBlank.getD_eq] at hcheck

theorem cell_of_target? {c x : Code} (h : (caseMapping c).target? = some x) :
    caseCellAt c.toNat ≠ 0 ∧ x.toNat = caseCellAt c.toNat % 0x100000 := by
  rw [caseMapping_eq] at h
  refine ⟨fun hzero => ?_, ?_⟩
  · rw [hzero] at h
    simp [CaseMapping.ofCell, CaseMapping.target?] at h
  · rw [CaseMapping.target?_ofCell h]
    exact UInt32.toNat_ofNat_of_lt' (Nat.lt_trans (Nat.mod_lt _ (by decide)) (by decide))

theorem fits_caseMapping {c x : Code} (h : (caseMapping c).target? = some x) :
    CaseMapping.fits c (caseMapping x) (caseMapping c) = true := by
  obtain ⟨hcell, hx⟩ := cell_of_target? h
  have hcheck := check_caseCellAt (fun _ => rfl) scanCells_checkCases c
  rw [checkCases, strictly_eq, UInt32.ofNat_toNat, ← hx, ← caseMapping_eq, ← caseMapping_eq, Bool.or_eq_true,
    Nat.beq_eq] at hcheck
  exact hcheck.resolve_left hcell

end Scan

section Forms

structure HasCases (c lower upper title : Code) : Prop where
  lowercase_eq : lowercase c = lower
  uppercase_eq : uppercase c = upper
  titlecase_eq : titlecase c = title

variable {c target upper title lower : Code}

theorem lowercase_of_keepsLower (h : (caseMapping c).keepsLower = true) : lowercase c = c := by
  rw [lowercase]
  cases hc : caseMapping c <;> simp_all [CaseMapping.keepsLower]

theorem uppercase_of_keepsUpper (h : (caseMapping c).keepsUpper = true) : uppercase c = c := by
  rw [uppercase]
  cases hc : caseMapping c <;> simp_all [CaseMapping.keepsUpper]

theorem titlecase_of_keepsTitle (h : (caseMapping c).keepsTitle = true) : titlecase c = c := by
  rw [titlecase]
  cases hc : caseMapping c <;> simp_all [CaseMapping.keepsTitle]

theorem hasCases_of_identity (h : caseMapping c = .identity) : HasCases c c c c :=
  ⟨by rw [lowercase, h], by rw [uppercase, h], by rw [titlecase, h]⟩

theorem hasCases_of_lower (h : caseMapping c = .lower target) : HasCases c target c c :=
  ⟨by rw [lowercase, h], by rw [uppercase, h], by rw [titlecase, h]⟩

theorem hasCases_of_upperTitle (h : caseMapping c = .upperTitle target) : HasCases c c target target :=
  ⟨by rw [lowercase, h], by rw [uppercase, h], by rw [titlecase, h]⟩

theorem hasCases_of_upper (h : caseMapping c = .upper target) : HasCases c c target c :=
  ⟨by rw [lowercase, h], by rw [uppercase, h], by rw [titlecase, h]⟩

theorem IsCaseRing.hasCases (h : IsCaseRing upper title lower) (hc : c ∈ [upper, title, lower]) :
    HasCases c lower upper title := by
  have hlinks : linkedCase title upper = lower ∧ linkedCase lower title = upper ∧ linkedCase upper lower = title := by
    simp only [linkedCase, h.caseMapping_upper, h.caseMapping_title, h.caseMapping_lower, CaseMapping.target?,
      Option.getD_some, and_self]
  simp only [List.mem_cons, List.not_mem_nil, or_false] at hc
  rcases hc with rfl | rfl | rfl
  · exact ⟨by rw [lowercase, h.caseMapping_upper]; exact hlinks.1, by rw [uppercase, h.caseMapping_upper],
      by rw [titlecase, h.caseMapping_upper]⟩
  · exact ⟨by rw [lowercase, h.caseMapping_title], by rw [uppercase, h.caseMapping_title]; exact hlinks.2.1,
      by rw [titlecase, h.caseMapping_title]⟩
  · exact ⟨by rw [lowercase, h.caseMapping_lower], by rw [uppercase, h.caseMapping_lower],
      by rw [titlecase, h.caseMapping_lower]; exact hlinks.2.2⟩

theorem isCaseRing_of_lowerThenUpper (h : caseMapping c = .lowerThenUpper target) :
    IsCaseRing (uppercase c) c target := by
  have hfits := fits_caseMapping (x := target) (by rw [h]; rfl)
  rw [h] at hfits
  exact of_decide_eq_true hfits

theorem isCaseRing_of_upperThenTitle (h : caseMapping c = .upperThenTitle target) :
    IsCaseRing target (titlecase c) c := by
  have hfits := fits_caseMapping (x := target) (by rw [h]; rfl)
  rw [h] at hfits
  exact of_decide_eq_true hfits

theorem isCaseRing_of_titleThenLower (h : caseMapping c = .titleThenLower target) :
    IsCaseRing c target (lowercase c) := by
  have hfits := fits_caseMapping (x := target) (by rw [h]; rfl)
  rw [h] at hfits
  exact of_decide_eq_true hfits

theorem exists_isCaseRing (h : caseMapping c = .lowerThenUpper target ∨ caseMapping c = .upperThenTitle target ∨
    caseMapping c = .titleThenLower target) :
    ∃ upper title lower, IsCaseRing upper title lower ∧ c ∈ [upper, title, lower] ∧ target ∈ [upper, title, lower] := by
  rcases h with h | h | h
  · exact ⟨_, _, _, isCaseRing_of_lowerThenUpper h, by simp, by simp⟩
  · exact ⟨_, _, _, isCaseRing_of_upperThenTitle h, by simp, by simp⟩
  · exact ⟨_, _, _, isCaseRing_of_titleThenLower h, by simp, by simp⟩

end Forms

structure IsCaseStable (c : Code) : Prop where
  lowercase_lowercase : lowercase (lowercase c) = lowercase c
  uppercase_uppercase : uppercase (uppercase c) = uppercase c
  titlecase_titlecase : titlecase (titlecase c) = titlecase c
  uppercase_titlecase : uppercase (titlecase c) = uppercase c

section Stable

variable {c lower upper title : Code}

theorem HasCases.isCaseStable (h : HasCases c lower upper title) (hlower : lowercase lower = lower)
    (hupper : uppercase upper = upper) (htitle : titlecase title = title) (hboth : uppercase title = upper) :
    IsCaseStable c := by
  obtain ⟨rfl, rfl, rfl⟩ := h
  exact ⟨hlower, hupper, htitle, hboth⟩

theorem IsCaseRing.isCaseStable (h : IsCaseRing upper title lower) (hc : c ∈ [upper, title, lower]) :
    IsCaseStable c := by
  have hupper := h.hasCases (c := upper) (by simp)
  have htitle := h.hasCases (c := title) (by simp)
  have hlower := h.hasCases (c := lower) (by simp)
  exact (h.hasCases hc).isCaseStable hlower.lowercase_eq hupper.uppercase_eq htitle.titlecase_eq htitle.uppercase_eq

theorem isCaseStable (c : Code) : IsCaseStable c := by
  cases hc : caseMapping c with
  | identity =>
    have hcases := hasCases_of_identity hc
    exact hcases.isCaseStable hcases.lowercase_eq hcases.uppercase_eq hcases.titlecase_eq hcases.uppercase_eq
  | lower low =>
    have hcases := hasCases_of_lower hc
    have hfits := fits_caseMapping (x := low) (by rw [hc]; rfl)
    rw [hc] at hfits
    exact hcases.isCaseStable (lowercase_of_keepsLower hfits) hcases.uppercase_eq hcases.titlecase_eq
      hcases.uppercase_eq
  | upperTitle up =>
    have hcases := hasCases_of_upperTitle hc
    have hfits := fits_caseMapping (x := up) (by rw [hc]; rfl)
    rw [hc, CaseMapping.fits, Bool.and_eq_true] at hfits
    have hupper := uppercase_of_keepsUpper hfits.1
    exact hcases.isCaseStable hcases.lowercase_eq hupper (titlecase_of_keepsTitle hfits.2) hupper
  | upper up =>
    have hcases := hasCases_of_upper hc
    have hfits := fits_caseMapping (x := up) (by rw [hc]; rfl)
    rw [hc] at hfits
    exact hcases.isCaseStable hcases.lowercase_eq (uppercase_of_keepsUpper hfits) hcases.titlecase_eq
      hcases.uppercase_eq
  | lowerThenUpper target => exact (isCaseRing_of_lowerThenUpper hc).isCaseStable (by simp)
  | upperThenTitle target => exact (isCaseRing_of_upperThenTitle hc).isCaseStable (by simp)
  | titleThenLower target => exact (isCaseRing_of_titleThenLower hc).isCaseStable (by simp)

end Stable

end UnicodeText
