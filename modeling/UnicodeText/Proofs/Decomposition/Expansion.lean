import Mathlib.Data.List.Basic
import UnicodeText.Proofs.Decomposition.Entries

namespace UnicodeText

structure IsAtomic (k : Mode) (c : Code) : Prop where
  not_isSyllable : ¬Hangul.IsSyllable c
  decomposition?_eq_none : k.decomposition? c = none

theorem Mode.decomposition?_eq_some_iff {k : Mode} {c : Code} {d : Decomposition} :
    k.decomposition? c = some d ↔ UnicodeText.decomposition? c = some d ∧ k.admits d = true := by
  rw [Mode.decomposition?, Option.filter_eq_some_iff]

theorem Mode.decomposition?_of_none (k : Mode) {c : Code} (h : UnicodeText.decomposition? c = none) :
    k.decomposition? c = none := by
  rw [Mode.decomposition?, h, Option.filter_none]

theorem Mode.decomposition?_of_canonical (k : Mode) {c : Code} {d : Decomposition}
    (h : Mode.canonical.decomposition? c = some d) : k.decomposition? c = some d := by
  cases k with
  | canonical => exact h
  | compatibility => exact Mode.decomposition?_eq_some_iff.mpr ⟨(Mode.decomposition?_eq_some_iff.mp h).1, rfl⟩

theorem not_isSyllable_of_decomposition? {k : Mode} {c : Code} {d : Decomposition} (h : k.decomposition? c = some d) :
    ¬Hangul.IsSyllable c := (fits_of_decomposition? (Mode.decomposition?_eq_some_iff.mp h).1).not_isSyllable

theorem decomposition?_of_isSyllable (k : Mode) {c : Code} (h : Hangul.IsSyllable c) : k.decomposition? c = none :=
  Option.eq_none_iff_forall_not_mem.mpr fun _ hentry => not_isSyllable_of_decomposition? hentry h

theorem isAtomic_of_endsWithin_zero (k : Mode) {c : Code} (hc : ¬Hangul.IsSyllable c) (h : EndsWithin 0 c) :
    IsAtomic k c := ⟨hc, k.decomposition?_of_none h⟩

theorem isAtomic_of_mem_jamo (k : Mode) {c x : Code} (hc : Hangul.IsSyllable c) (hx : x ∈ Hangul.jamo c) :
    IsAtomic k x :=
  ⟨Hangul.not_isSyllable_of_mem_jamo hc hx,
    k.decomposition?_of_none (decomposition?_of_jamo (Hangul.page_of_mem_jamo hc hx))⟩

theorem isAtomic_canonical {k : Mode} {c : Code} (h : IsAtomic k c) : IsAtomic .canonical c := by
  refine ⟨h.not_isSyllable, Option.eq_none_iff_forall_not_mem.mpr ?_⟩
  intro d hd
  have hk := k.decomposition?_of_canonical hd
  simp [h.decomposition?_eq_none] at hk

section Equations

variable {k : Mode} {c : Code}

theorem expandWithin_of_isAtomic (depth : Nat) (h : IsAtomic k c) : expandWithin k depth c = [c] := by
  cases depth with
  | zero => rfl
  | succ depth => rw [expandWithin, if_neg h.not_isSyllable, h.decomposition?_eq_none]

theorem expandWithin_of_isSyllable (depth : Nat) (h : Hangul.IsSyllable c) :
    expandWithin k (depth + 1) c = Hangul.jamo c := by
  rw [expandWithin, if_pos h]

theorem expandWithin_of_decomposition? {d : Decomposition} (depth : Nat) (h : k.decomposition? c = some d) :
    expandWithin k (depth + 1) c =
      if d.isRecursive then d.codes.flatMap (expandWithin k depth) else d.codes := by
  rw [expandWithin, if_neg (not_isSyllable_of_decomposition? h), h]

theorem isAtomic_of_mem_codes {d : Decomposition} {x : Code} (h : d.Fits c) (hr : d.isRecursive = false)
    (hx : x ∈ d.codes) : IsAtomic k x := by
  have hends := h.codes_endsWithin x hx
  rw [hr] at hends
  exact isAtomic_of_endsWithin_zero k (h.codes_not_isSyllable x hx) hends

end Equations

theorem flatMap_eq_self {s : List Code} {f : Code → List Code} (h : ∀ x ∈ s, f x = [x]) : s.flatMap f = s :=
  (List.flatMap_congr h).trans (List.flatMap_singleton' s)

theorem expandWithin_succ_of_endsWithin (k : Mode) {depth : Nat} {c : Code} (hc : ¬Hangul.IsSyllable c)
    (h : EndsWithin depth c) : expandWithin k (depth + 1) c = expandWithin k depth c := by
  induction depth generalizing c with
  | zero =>
    have hatomic := isAtomic_of_endsWithin_zero k hc h
    rw [expandWithin_of_isAtomic 1 hatomic, expandWithin_of_isAtomic 0 hatomic]
  | succ depth ih =>
    cases hentry : k.decomposition? c with
    | none => rw [expandWithin_of_isAtomic _ ⟨hc, hentry⟩, expandWithin_of_isAtomic _ ⟨hc, hentry⟩]
    | some d =>
      have hd := (Mode.decomposition?_eq_some_iff.mp hentry).1
      rw [expandWithin_of_decomposition? _ hentry, expandWithin_of_decomposition? _ hentry]
      have hcodes : d.codes.flatMap (expandWithin k (depth + 1)) = d.codes.flatMap (expandWithin k depth) := by
        apply List.flatMap_congr
        intro x hx
        exact ih ((fits_of_decomposition? hd).codes_not_isSyllable x hx) (h d hd x hx)
      rw [hcodes]

theorem expand_of_isAtomic {k : Mode} {c : Code} (h : IsAtomic k c) : expand k c = [c] :=
  expandWithin_of_isAtomic expansionDepth h

theorem expand_of_isSyllable (k : Mode) {c : Code} (h : Hangul.IsSyllable c) : expand k c = Hangul.jamo c :=
  expandWithin_of_isSyllable 2 h

theorem expand_of_decomposition? {k : Mode} {c : Code} {d : Decomposition} (h : k.decomposition? c = some d) :
    expand k c = d.codes.flatMap (expand k) := by
  have hfits := fits_of_decomposition? (Mode.decomposition?_eq_some_iff.mp h).1
  rw [expand, expansionDepth, expandWithin_of_decomposition? 2 h]
  cases hr : d.isRecursive with
  | true =>
    apply List.flatMap_congr
    intro x hx
    exact (expandWithin_succ_of_endsWithin k (hfits.codes_not_isSyllable x hx) (hfits.endsWithin_two hx)).symm
  | false =>
    exact (flatMap_eq_self fun x hx => expand_of_isAtomic (isAtomic_of_mem_codes hfits hr hx)).symm

@[elab_as_elim] theorem expansion_induction (k : Mode) {motive : Code → Prop}
    (syllable : ∀ c, Hangul.IsSyllable c → motive c) (atomic : ∀ c, IsAtomic k c → motive c)
    (entry : ∀ c d, k.decomposition? c = some d → (∀ x ∈ d.codes, motive x) → motive c) (c : Code) : motive c := by
  obtain ⟨depth, hends⟩ : ∃ depth, EndsWithin depth c := ⟨expansionDepth, endsWithin_expansionDepth c⟩
  induction depth generalizing c with
  | zero =>
    by_cases hc : Hangul.IsSyllable c
    · exact syllable c hc
    · exact atomic c (isAtomic_of_endsWithin_zero k hc hends)
  | succ depth ih =>
    by_cases hc : Hangul.IsSyllable c
    · exact syllable c hc
    · cases hentry : k.decomposition? c with
      | none => exact atomic c ⟨hc, hentry⟩
      | some d => exact entry c d hentry fun x hx => ih x (hends d (Mode.decomposition?_eq_some_iff.mp hentry).1 x hx)

theorem isAtomic_of_mem_expand {k : Mode} {c x : Code} (hx : x ∈ expand k c) : IsAtomic k x := by
  induction c using expansion_induction k with
  | syllable c hc =>
    rw [expand_of_isSyllable k hc] at hx
    exact isAtomic_of_mem_jamo k hc hx
  | atomic c hatomic =>
    rw [expand_of_isAtomic hatomic, List.mem_singleton] at hx
    rwa [hx]
  | entry c d hentry ih =>
    rw [expand_of_decomposition? hentry] at hx
    obtain ⟨y, hy, hxy⟩ := List.mem_flatMap.mp hx
    exact ih y hy hxy

theorem combiningClass_of_mem_expand {k : Mode} {c x : Code} (hc : ¬IsStarter c) (hx : x ∈ expand k c) :
    combiningClass x = combiningClass c := by
  induction c using expansion_induction k with
  | syllable c hsyllable => exact absurd (isStarter_of_isSyllable hsyllable) hc
  | atomic c hatomic =>
    rw [expand_of_isAtomic hatomic, List.mem_singleton] at hx
    rw [hx]
  | entry c d hentry ih =>
    have hclass := (fits_of_decomposition? (Mode.decomposition?_eq_some_iff.mp hentry).1).combiningClass_eq hc
    rw [expand_of_decomposition? hentry] at hx
    obtain ⟨y, hy, hxy⟩ := List.mem_flatMap.mp hx
    have hmark : ¬IsStarter y := by rwa [IsStarter, hclass y hy]
    rw [ih y hy hmark hxy, hclass y hy]

theorem isAtomic_of_decomposedLength? {k : Mode} {c : Code} (h : decomposedLength? k c = none) : IsAtomic k c := by
  rw [decomposedLength?, expansionDepth, decomposedLengthWithin] at h
  split at h
  next => simp at h
  next hc =>
    refine ⟨hc, ?_⟩
    cases hentry : k.decomposition? c with
    | none => rfl
    | some d =>
      rw [hentry] at h
      dsimp only at h
      split at h
      · simp at h
      · simp at h

theorem decomposedLength?_of_isAtomic {k : Mode} {c : Code} (h : IsAtomic k c) : decomposedLength? k c = none := by
  rw [decomposedLength?, expansionDepth, decomposedLengthWithin, if_neg h.not_isSyllable, h.decomposition?_eq_none]

theorem decomposedLength?_eq_none_iff {k : Mode} {c : Code} : decomposedLength? k c = none ↔ IsAtomic k c :=
  ⟨isAtomic_of_decomposedLength?, decomposedLength?_of_isAtomic⟩

theorem expand_eq_singleton_iff {k : Mode} {c : Code} : expand k c = [c] ↔ IsAtomic k c :=
  ⟨fun h => isAtomic_of_mem_expand (by rw [h, List.mem_singleton]), expand_of_isAtomic⟩

theorem expandAll_eq (k : Mode) (s : List Code) : expandAll k s = s.flatMap (expand k) := by
  rw [expandAll]
  split
  next => rfl
  -- a text that is not copied has nothing to expand
  next hnone =>
    refine (flatMap_eq_self fun c hc => expand_of_isAtomic (isAtomic_of_decomposedLength? ?_)).symm
    simpa using fun h => hnone (List.any_eq_true.mpr ⟨c, hc, h⟩)

theorem expandAll_append (k : Mode) (s t : List Code) : expandAll k (s ++ t) = expandAll k s ++ expandAll k t := by
  simp only [expandAll_eq, List.flatMap_append]

theorem expandAll_of_isAtomic {k : Mode} {s : List Code} (h : ∀ c ∈ s, IsAtomic k c) : expandAll k s = s := by
  rw [expandAll_eq]
  exact flatMap_eq_self fun c hc => expand_of_isAtomic (h c hc)

theorem isAtomic_of_mem_expandAll {k : Mode} {s : List Code} {x : Code} (hx : x ∈ expandAll k s) :
    IsAtomic k x := by
  rw [expandAll_eq] at hx
  obtain ⟨c, _, hxc⟩ := List.mem_flatMap.mp hx
  exact isAtomic_of_mem_expand hxc

theorem expandAll_eq_self_iff {k : Mode} {s : List Code} : expandAll k s = s ↔ ∀ c ∈ s, IsAtomic k c :=
  ⟨fun h _ hc => isAtomic_of_mem_expandAll (h.symm ▸ hc), expandAll_of_isAtomic⟩

end UnicodeText
