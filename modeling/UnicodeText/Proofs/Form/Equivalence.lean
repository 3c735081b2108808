import UnicodeText.Form.Bytes
import UnicodeText.Proofs.Equivalence.Composition

namespace UnicodeText

theorem equivalent_iff_decompose_eq {k : Mode} {s t : List Code} :
    Equivalent k s t ↔ decompose k s = decompose k t := by
  constructor
  · exact decompose_eq_of_equivalent
  · intro h
    have hs := equivalent_decompose k s
    rw [h] at hs
    exact hs.trans (equivalent_decompose k t).symm

theorem decompose_eq_iff_compose_eq {k : Mode} {s t : List Code} :
    decompose k s = decompose k t ↔ compose (decompose k s) = compose (decompose k t) := by
  constructor
  · intro h
    rw [h]
  · intro h
    rw [← decompose_canonical_compose k s, ← decompose_canonical_compose k t, h]

theorem normal_forms_decide_equivalence (s t : List Code) :
    (∀ k : Mode, (Equivalent k s t ↔ decompose k s = decompose k t) ∧
      (decompose k s = decompose k t ↔ compose (decompose k s) = compose (decompose k t))) ∧
    ∀ f : Form, f.normalize s = f.normalize t ↔ Equivalent f.mode s t := by
  refine ⟨fun k => ⟨equivalent_iff_decompose_eq, decompose_eq_iff_compose_eq⟩, fun f => ?_⟩
  rw [equivalent_iff_decompose_eq, Form.normalize, Form.normalize]
  split
  · exact decompose_eq_iff_compose_eq.symm
  · exact Iff.rfl

def Mode.join : Mode → Mode → Mode
  | .canonical, k => k
  | .compatibility, _ => .compatibility

theorem Equivalent.to_compatibility {k : Mode} {s t : List Code} (h : Equivalent k s t) :
    Equivalent .compatibility s t := by
  cases k with
  | canonical => exact .of_canonical _ h
  | compatibility => exact h

namespace Form

theorem equivalent_normalize (f : Form) (s : List Code) : Equivalent f.mode s (f.normalize s) := by
  have hdecompose := equivalent_decompose f.mode s
  rw [normalize]
  split
  · exact hdecompose.trans (.of_canonical _ (equivalent_compose (inOrder_canonicalOrder _)))
  · exact hdecompose

theorem decompose_normalize (k : Mode) (f : Form) (s : List Code) :
    decompose k (f.normalize s) = decompose (k.join f.mode) s := by
  cases k with
  | canonical =>
    rw [normalize, Mode.join]
    split
    · exact decompose_canonical_compose f.mode s
    · exact decompose_canonical_decompose f.mode s
  | compatibility =>
    exact (decompose_eq_of_equivalent (f.equivalent_normalize s).to_compatibility).symm

def ofParts : Bool → Mode → Form
  | true, .canonical => nfc
  | true, .compatibility => nfkc
  | false, .canonical => nfd
  | false, .compatibility => nfkd

theorem isComposing_ofParts (composing : Bool) (k : Mode) : (ofParts composing k).isComposing = composing := by
  cases composing <;> cases k <;> rfl

theorem mode_ofParts (composing : Bool) (k : Mode) : (ofParts composing k).mode = k := by
  cases composing <;> cases k <;> rfl

theorem isCompatibility_join (f g : Form) :
    (f.mode.join g.mode == .compatibility) = (f.isCompatibility || g.isCompatibility) := by
  cases f <;> cases g <;> rfl

theorem normalize_ofParts (composing : Bool) (k : Mode) (s : List Code) :
    (ofParts composing k).normalize s = if composing then compose (decompose k s) else decompose k s := by
  rw [normalize, isComposing_ofParts, mode_ofParts]

theorem normalize_eq_ofParts (f g : Form) (s : List Code) :
    f.normalize (g.normalize s) = (ofParts f.isComposing (f.mode.join g.mode)).normalize s := by
  rw [normalize_ofParts, normalize, decompose_normalize]

theorem ofParts_self (f : Form) : ofParts f.isComposing (f.mode.join f.mode) = f := by
  cases f <;> rfl

theorem normalize_absorbs :
    (∀ f g : Form, ∃ h : Form, h.isComposing = f.isComposing ∧
      h.isCompatibility = (f.isCompatibility || g.isCompatibility) ∧
      ∀ s, f.normalize (g.normalize s) = h.normalize s) ∧
    (∀ (f : Form) (s : List Code), f.normalize (f.normalize s) = f.normalize s ∧
      f.isNormalized (f.normalize s) = true) ∧
    ∀ s : List Code, nfd.normalize (nfc.normalize s) = nfd.normalize s ∧
      nfc.normalize (nfd.normalize s) = nfc.normalize s ∧
      nfkc.normalize (nfc.normalize s) = nfkc.normalize s ∧
      nfkc.normalize (nfd.normalize s) = nfkc.normalize s ∧
      nfkd.normalize (nfkc.normalize s) = nfkd.normalize s := by
  refine ⟨fun f g => ⟨ofParts f.isComposing (f.mode.join g.mode), ?_, ?_, ?_⟩, fun f s => ?_, fun s => ?_⟩
  · exact isComposing_ofParts _ _
  · rw [isCompatibility, mode_ofParts]
    exact isCompatibility_join f g
  · exact normalize_eq_ofParts f g
  · have hidem : f.normalize (f.normalize s) = f.normalize s := by
      rw [normalize_eq_ofParts, ofParts_self]
    exact ⟨hidem, beq_iff_eq.mpr hidem⟩
  · exact ⟨normalize_eq_ofParts nfd nfc s, normalize_eq_ofParts nfc nfd s, normalize_eq_ofParts nfkc nfc s,
      normalize_eq_ofParts nfkc nfd s, normalize_eq_ofParts nfkd nfkc s⟩

end Form

end UnicodeText
