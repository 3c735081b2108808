import UnicodeText.Form.Bytes
import UnicodeText.Proofs.Equivalence.Basic
import UnicodeText.Proofs.Machine.Decomposition

namespace UnicodeText

section Measure

variable {k : Mode} {s : List Code}

theorem decompose_eq (k : Mode) (s : List Code) : decompose k s = canonicalOrder (s.flatMap (expand k)) := by
  rw [decompose, expandAll_eq]

theorem any_decomposedLength?_eq_false_iff :
    (s.any fun c => (decomposedLength? k c).isSome) = false ↔ ∀ c ∈ s, IsAtomic k c := by
  simp only [List.any_eq_false, Bool.not_eq_true, Option.isSome_eq_false_iff, Option.isNone_iff_eq_none,
    decomposedLength?_eq_none_iff]

theorem flatMap_expand_eq_self_iff :
    s.flatMap (expand k) = s ↔ (s.any fun c => (decomposedLength? k c).isSome) = false := by
  rw [any_decomposedLength?_eq_false_iff, ← expandAll_eq, expandAll_eq_self_iff]

theorem foldlM_measure_eq_length (k : Mode) (s : List Code) (spare : Nat) :
    s.foldlM (Machine.measure ((decompose k s).length + spare) k) (0, false) =
      .ok ((decompose k s).length, s.any fun c => (decomposedLength? k c).isSome) := by
  have hlimit : 0 + expandedLength k s ≤ (decompose k s).length + spare := by
    rw [Nat.zero_add, expandedLength_eq_length_decompose]
    exact Nat.le_add_right _ _
  rw [Machine.foldlM_measure_eq_ok hlimit, Nat.zero_add, expandedLength_eq_length_decompose, Bool.false_or]

end Measure

theorem measured_length_is_exact (k : Mode) :
    (∀ c : Code, (decomposedLength? k c).getD 1 = (expand k c).length ∧
      (decomposedLength? k c = none ↔ expand k c = [c])) ∧
    ∀ s : List Code, decompose k s = canonicalOrder (s.flatMap (expand k)) ∧
      expandedLength k s = (decompose k s).length ∧
      ((s.any fun c => (decomposedLength? k c).isSome) = false ↔ s.flatMap (expand k) = s) ∧
      ∀ spare : Nat, s.foldlM (Machine.measure ((decompose k s).length + spare) k) (0, false) =
        .ok ((decompose k s).length, s.any fun c => (decomposedLength? k c).isSome) := by
  refine ⟨fun c => ⟨decomposedLength?_getD k c, ?_⟩, fun s => ⟨decompose_eq k s, ?_, ?_, ?_⟩⟩
  · rw [decomposedLength?_eq_none_iff, expand_eq_singleton_iff]
  · exact expandedLength_eq_length_decompose k s
  · exact flatMap_expand_eq_self_iff.symm
  · exact foldlM_measure_eq_length k s

theorem inOrder_iff_getElem? {s : List Code} : InOrder s ↔ ∀ (i : Nat) (a b : Code), s[i]? = some a →
    s[i + 1]? = some b → combiningClass b = 0 ∨ combiningClass a ≤ combiningClass b := by
  rw [InOrder, List.isChain_iff_getElem]
  constructor
  · intro h i a b ha hb
    obtain ⟨_, rfl⟩ := List.getElem?_eq_some_iff.mp ha
    obtain ⟨hi, rfl⟩ := List.getElem?_eq_some_iff.mp hb
    exact h i hi
  · intro h i hi
    exact h i _ _ (List.getElem?_eq_getElem _) (List.getElem?_eq_getElem hi)

/-- No code of the text has a decomposition, and no class falls from a code to a mark behind it. -/
structure IsLocallyDecomposed (k : Mode) (s : List Code) : Prop where
  codes : ∀ c ∈ s, decomposedLength? k c = none
  neighbours : ∀ (i : Nat) (a b : Code), s[i]? = some a → s[i + 1]? = some b →
    combiningClass b = 0 ∨ combiningClass a ≤ combiningClass b

theorem isLocallyDecomposed_iff {k : Mode} {s : List Code} : IsLocallyDecomposed k s ↔ decompose k s = s := by
  have hcodes : (∀ c ∈ s, decomposedLength? k c = none) ↔ ∀ c ∈ s, IsAtomic k c :=
    forall₂_congr fun _ _ => decomposedLength?_eq_none_iff
  rw [decompose_eq_self_iff, ← hcodes, inOrder_iff_getElem?]
  exact ⟨fun h => ⟨h.codes, h.neighbours⟩, fun h => ⟨h.1, h.2⟩⟩

theorem isLocallyDecomposed_decompose (k : Mode) (s : List Code) : IsLocallyDecomposed k (decompose k s) :=
  isLocallyDecomposed_iff.mpr (decompose_eq_self_iff.mpr
    ⟨fun _ hc => isAtomic_of_mem_decompose hc, inOrder_canonicalOrder _⟩)

theorem Form.decomposed_forms_are_local (s : List Code) :
    (nfd.isNormalized s = true ↔ IsLocallyDecomposed .canonical s) ∧
    (nfkd.isNormalized s = true ↔ IsLocallyDecomposed .compatibility s) ∧
    IsLocallyDecomposed .canonical (nfd.normalize s) ∧ IsLocallyDecomposed .compatibility (nfkd.normalize s) := by
  refine ⟨?_, ?_, isLocallyDecomposed_decompose .canonical s, isLocallyDecomposed_decompose .compatibility s⟩
  · rw [isLocallyDecomposed_iff]
    exact beq_iff_eq
  · rw [isLocallyDecomposed_iff]
    exact beq_iff_eq

end UnicodeText
