import UnicodeText.Form.Bytes
import UnicodeText.Proofs.Composition.Slice

namespace UnicodeText.Form

theorem isNormalized_iff {f : Form} {s : List Code} : f.isNormalized s = true ↔ f.normalize s = s := beq_iff_eq

theorem isNormalized_of_append {f : Form} {u v : List Code} (h : f.isNormalized (u ++ v) = true) :
    f.isNormalized u = true ∧ f.isNormalized v = true := by
  simp only [isNormalized_iff, normalize] at h ⊢
  split at h
  next hcomposing =>
    simp only [if_pos hcomposing]
    exact IsComposed.of_append h
  next hcomposing =>
    simp only [if_neg hcomposing, decompose_eq_self_iff] at h ⊢
    obtain ⟨hatomic, horder⟩ := h
    obtain ⟨hleft, hright, -⟩ := List.isChain_append.mp horder
    exact ⟨⟨fun c hc => hatomic c (List.mem_append_left _ hc), hleft⟩,
      fun c hc => hatomic c (List.mem_append_right _ hc), hright⟩

theorem isNormalized_slice (f : Form) (s : List Code) (h : f.isNormalized s = true) (i j : Nat) :
    f.isNormalized ((s.take j).drop i) = true := by
  rw [← List.take_append_drop j s] at h
  have htake := (isNormalized_of_append h).1
  rw [← List.take_append_drop i (s.take j)] at htake
  exact (isNormalized_of_append htake).2

theorem isNormalized_slice_blocked :
    nfc.isNormalized [0x61, 0xB47, 0x300, 0xB3E] = true ∧
      nfc.isNormalized (([0x61, 0xB47, 0x300, 0xB3E].take 4).drop 2) = true := by
  have h : nfc.isNormalized [0x61, 0xB47, 0x300, 0xB3E] = true := by decide +kernel
  exact ⟨h, isNormalized_slice nfc _ h 2 4⟩

end UnicodeText.Form
