import UnicodeText.Form.Bytes
import UnicodeText.Proofs.Composition.Boundary
import UnicodeText.Proofs.Composition.Pair
import UnicodeText.Proofs.Equivalence.Basic

namespace UnicodeText

open Data (compositionOffset decompositionOffset)

/-- The code stands for itself in every form, whatever is around it. -/
structure IsInert (x : Code) : Prop where
  isStarter : IsStarter x
  isAtomic : ∀ k, IsAtomic k x
  composePair_left : ∀ y, composePair x y = none
  composePair_right : ∀ y, composePair y x = none

section Inert

variable {x : Code}

theorem pairBounds_of_number (h : compositionOffset.number x.toNat = 5) : pairBounds x = (0, 0) := by
  have hcell : x.toNat % 256 < 256 := Nat.mod_lt _ (by decide)
  rw [pairBounds]
  split
  · rw [compositionOffset_isBlank.rangeD_eq, h, compositionOffset_isBlank.cell_eq_zero (by omega),
      compositionOffset_isBlank.cell_eq_zero (by omega)]
  · rfl

theorem isInert_of_number (hpair : compositionOffset.number x.toNat = 5) (hentry : decompositionOffset.number x.toNat = 7)
    (hclass : Data.combiningClass.number x.toNat = 0) (hscalar : ¬IsScalar x) : IsInert x := by
  have hcode : 0xD7A4 ≤ x.toNat := by
    simp only [IsScalar, InCodeSpace, codeSpace, IsSurrogate] at hscalar
    omega
  refine ⟨isStarter_of_number hclass, fun k => ⟨?_, ?_⟩, ?_, composePair_eq_none_of_not_isScalar hscalar⟩
  · rw [Hangul.isSyllable_iff]
    omega
  · exact k.decomposition?_of_none (decomposition?_eq_none_of_number hentry)
  · exact composePair_eq_none_of_pairBounds (.inr hcode) (by rw [pairBounds_of_number hpair])

theorem isInert_of_not_inCodeSpace (h : ¬InCodeSpace x) : IsInert x := by
  have hpage := page_of_not_inCodeSpace h
  exact isInert_of_number (compositionOffset_isBlank.number_eq hpage) (decompositionOffset_isBlank.number_eq hpage)
    (combiningClass_isBlank.number_eq hpage) fun hscalar => h hscalar.1

theorem isInert_of_isSurrogate (h : IsSurrogate x) : IsInert x := by
  have hentry := allBetween_iff.mp index_surrogates (x.toNat / 256) (by omega) (by omega)
  have hpair := allBetween_iff.mp compositionOffset_index_surrogates (x.toNat / 256) (by omega) (by omega)
  simp only [Bool.and_eq_true, Nat.beq_eq] at hentry hpair
  exact isInert_of_number hpair hentry.1 hentry.2 fun hscalar => hscalar.2 h

theorem isInert_replacement : IsInert replacement := by
  refine ⟨isStarter_replacement, fun k => ⟨?_, ?_⟩, ?_, ?_⟩
  · decide
  · exact k.decomposition?_of_none decomposition?_replacement
  · exact composePair_eq_none_of_pairBounds (.inl (by decide)) pairBounds_replacement
  · exact composePair_eq_none_of_lt (by decide)

theorem IsInert.decompose_cons (h : IsInert x) (k : Mode) (s : List Code) :
    decompose k (x :: s) = x :: decompose k s := by
  have hexpand : expandAll k (x :: s) = [] ++ x :: expandAll k s := by
    rw [expandAll_eq, List.flatMap_cons, expand_of_isAtomic (h.isAtomic k), expandAll_eq]
    rfl
  rw [decompose, hexpand, canonicalOrder_append_of_isStarter h.isStarter]
  rfl

end Inert

namespace Form

theorem normalize_append (f : Form) {t : List Code} (s : List Code)
    (h : ∀ r ∈ (decompose f.mode t).head?, IsStarter r ∧ (f.isComposing = true → ∀ y, composePair y r = none)) :
    f.normalize (s ++ t) = f.normalize s ++ f.normalize t := by
  have hdecompose := decompose_append (fun r hr => (h r hr).1) s
  simp only [normalize]
  split
  next hcomposing =>
    rw [hdecompose]
    exact compose_append_of_composePair fun r hr => ⟨(h r hr).1, (h r hr).2 hcomposing⟩
  next => exact hdecompose

theorem normalize_cons_of_isInert (f : Form) {x : Code} (hx : IsInert x) (s : List Code) :
    f.normalize (x :: s) = x :: f.normalize s := by
  simp only [normalize, hx.decompose_cons]
  split
  · exact compose_cons_of_composePair hx.isStarter hx.composePair_left _
  · rfl

theorem normalize_append_of_isInert (f : Form) {x : Code} (hx : IsInert x) (s t : List Code) :
    f.normalize (s ++ [x] ++ t) = f.normalize s ++ [x] ++ f.normalize t := by
  have hcut : ∀ r ∈ (decompose f.mode (x :: t)).head?,
      IsStarter r ∧ (f.isComposing = true → ∀ y, composePair y r = none) := by
    intro r hr
    rw [hx.decompose_cons] at hr
    obtain rfl : x = r := Option.some.inj hr
    exact ⟨hx.isStarter, fun _ => hx.composePair_right⟩
  rw [List.append_assoc, List.singleton_append, f.normalize_append s hcut, f.normalize_cons_of_isInert hx,
    List.append_assoc, List.singleton_append]

theorem normalize_splits_at_boundaries (f : Form) (s t : List Code) :
    ((∀ r ∈ (decompose f.mode t).head?, IsStarter r ∧ (f.isComposing = true → ∀ y, composePair y r = none)) →
      f.normalize (s ++ t) = f.normalize s ++ f.normalize t) ∧
    ∀ x : Code, IsSurrogate x ∨ ¬InCodeSpace x ∨ x = replacement →
      f.normalize (s ++ [x] ++ t) = f.normalize s ++ [x] ++ f.normalize t := by
  refine ⟨f.normalize_append s, ?_⟩
  rintro x (hx | hx | rfl)
  · exact f.normalize_append_of_isInert (isInert_of_isSurrogate hx) s t
  · exact f.normalize_append_of_isInert (isInert_of_not_inCodeSpace hx) s t
  · exact f.normalize_append_of_isInert isInert_replacement s t

theorem normalize_splits_at_boundaries_marks :
    (∀ r ∈ (decompose nfc.mode [0xE9, 0x316]).head?,
      IsStarter r ∧ (nfc.isComposing = true → ∀ y, composePair y r = none)) ∧
    nfc.normalize ([0x61, 0x323] ++ [0xE9, 0x316]) = nfc.normalize [0x61, 0x323] ++ nfc.normalize [0xE9, 0x316] ∧
    nfc.normalize ([0x65] ++ [0xD800] ++ [0x301]) = nfc.normalize [0x65] ++ [0xD800] ++ nfc.normalize [0x301] := by
  have hcut : ∀ r ∈ (decompose nfc.mode [0xE9, 0x316]).head?,
      IsStarter r ∧ (nfc.isComposing = true → ∀ y, composePair y r = none) := by
    have hhead : (decompose nfc.mode [0xE9, 0x316]).head? = some 0x65 := by decide +kernel
    intro r hr
    obtain rfl : 0x65 = r := Option.some.inj (hhead ▸ hr)
    exact ⟨by decide +kernel, fun _ => composePair_eq_none_of_lt (by decide)⟩
  have hsurrogate : IsSurrogate 0xD800 := by decide
  exact ⟨hcut, (normalize_splits_at_boundaries nfc [0x61, 0x323] [0xE9, 0x316]).1 hcut,
    (normalize_splits_at_boundaries nfc [0x65] [0x301]).2 0xD800 (.inl hsurrogate)⟩

end Form

end UnicodeText
