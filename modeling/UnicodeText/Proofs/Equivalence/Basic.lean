import UnicodeText.Proofs.CanonicalOrder
import UnicodeText.Proofs.Decomposition.Expansion

namespace UnicodeText

/-- Canonical equivalence and compatibility equivalence, the least equivalence relation with these rules. -/
inductive Equivalent (k : Mode) : List Code → List Code → Prop where
  | refl (s : List Code) : Equivalent k s s
  | symm {s t : List Code} : Equivalent k s t → Equivalent k t s
  | trans {s t u : List Code} : Equivalent k s t → Equivalent k t u → Equivalent k s u
  | within (before after : List Code) {s t : List Code} :
    Equivalent k s t → Equivalent k (before ++ s ++ after) (before ++ t ++ after)
  | entry {c : Code} {d : Decomposition} : k.decomposition? c = some d → Equivalent k [c] d.codes
  | jamo {c : Code} : Hangul.IsSyllable c → Equivalent k [c] (Hangul.jamo c)
  | exchange {x y : Code} : ¬IsStarter x → ¬IsStarter y → combiningClass x ≠ combiningClass y →
    Equivalent k [x, y] [y, x]

namespace Equivalent

variable {k : Mode}

theorem append {s s' t t' : List Code} (hs : Equivalent k s s') (ht : Equivalent k t t') :
    Equivalent k (s ++ t) (s' ++ t') := by
  have hleft : Equivalent k (s ++ t) (s' ++ t) := by simpa using within [] t hs
  have hright : Equivalent k (s' ++ t) (s' ++ t') := by simpa using within s' [] ht
  exact hleft.trans hright

theorem flatMap {s : List Code} {f : Code → List Code} (h : ∀ c ∈ s, Equivalent k [c] (f c)) :
    Equivalent k s (s.flatMap f) := by
  induction s with
  | nil => exact refl []
  | cons c s ih =>
    rw [List.flatMap_cons]
    exact append (h c List.mem_cons_self) (ih fun x hx => h x (List.mem_cons_of_mem c hx))

theorem of_canonical (k : Mode) {s t : List Code} (h : Equivalent .canonical s t) : Equivalent k s t := by
  induction h with
  | refl s => exact refl s
  | symm _ ih => exact ih.symm
  | trans _ _ ih₁ ih₂ => exact ih₁.trans ih₂
  | within before after _ ih => exact within before after ih
  | entry hd => exact entry (k.decomposition?_of_canonical hd)
  | jamo hc => exact jamo hc
  | exchange hx hy h => exact exchange hx hy h

theorem pass {c : Code} {marks : List Code} (hc : ¬IsStarter c)
    (h : ∀ m ∈ marks, ¬IsStarter m ∧ combiningClass m ≠ combiningClass c) :
    Equivalent k (marks ++ [c]) (c :: marks) := by
  induction marks with
  | nil => exact refl [c]
  | cons m marks ih =>
    obtain ⟨hm, hmc⟩ := h m List.mem_cons_self
    have htail := within [m] [] (ih fun x hx => h x (List.mem_cons_of_mem m hx))
    have hhead := within [] marks (exchange (k := k) hm hc hmc)
    simp only [List.singleton_append, List.append_nil] at htail
    exact htail.trans hhead

end Equivalent

theorem equivalent_expandWithin (k : Mode) (depth : Nat) (c : Code) : Equivalent k [c] (expandWithin k depth c) := by
  induction depth generalizing c with
  | zero => exact .refl [c]
  | succ depth ih =>
    rw [expandWithin]
    split
    next hc => exact .jamo hc
    next =>
      split
      next => exact .refl [c]
      next d hd =>
        split
        · exact (Equivalent.entry hd).trans (.flatMap fun x _ => ih x)
        · exact .entry hd

theorem equivalent_expandAll (k : Mode) (s : List Code) : Equivalent k s (expandAll k s) := by
  rw [expandAll_eq]
  exact .flatMap fun c _ => equivalent_expandWithin k expansionDepth c

theorem equivalent_insertMark (k : Mode) {c : Code} (hc : ¬IsStarter c) (before : List Code) :
    Equivalent k (before.reverse ++ [c]) (insertMark c before).reverse := by
  induction before with
  | nil => exact .refl [c]
  | cons last before ih =>
    rw [insertMark]
    split
    next hlt =>
      have hlast : ¬IsStarter last := fun h => by
        rw [IsStarter] at h
        omega
      have hswap := Equivalent.within (k := k) before.reverse [] (.exchange hlast hc (by omega))
      have hinner := Equivalent.within [] [last] ih
      simp only [List.reverse_cons, List.append_assoc, List.append_nil, List.nil_append,
        List.singleton_append] at hswap hinner ⊢
      exact hswap.trans hinner
    next =>
      simp only [List.reverse_cons]
      exact .refl _

theorem equivalent_placeCode (k : Mode) (before : List Code) (c : Code) :
    Equivalent k (before.reverse ++ [c]) (placeCode before c).reverse := by
  rw [placeCode]
  split
  · rw [List.reverse_cons]
    exact .refl _
  next hc => exact equivalent_insertMark k hc before

theorem equivalent_foldl_placeCode (k : Mode) (s before : List Code) :
    Equivalent k (before.reverse ++ s) (s.foldl placeCode before).reverse := by
  induction s generalizing before with
  | nil =>
    rw [List.append_nil]
    exact .refl _
  | cons c s ih =>
    have hplace := (equivalent_placeCode k before c).append (.refl s)
    rw [List.append_assoc, List.singleton_append] at hplace
    exact hplace.trans (ih (placeCode before c))

theorem equivalent_canonicalOrder (k : Mode) (s : List Code) : Equivalent k s (canonicalOrder s) :=
  equivalent_foldl_placeCode k s []

theorem equivalent_decompose (k : Mode) (s : List Code) : Equivalent k s (decompose k s) :=
  (equivalent_expandAll k s).trans (equivalent_canonicalOrder k _)

theorem not_isStarter_of_mem_expandAll {k : Mode} {x y : Code} (hx : ¬IsStarter x) (hy : y ∈ expandAll k [x]) :
    ¬IsStarter y ∧ combiningClass y = combiningClass x := by
  rw [expandAll_eq, List.flatMap_singleton] at hy
  have hclass := combiningClass_of_mem_expand hx hy
  exact ⟨by rwa [IsStarter, hclass], hclass⟩

theorem decompose_congr {k : Mode} {s t : List Code} (h : expandAll k s = expandAll k t)
    (before after : List Code) : decompose k (before ++ s ++ after) = decompose k (before ++ t ++ after) := by
  simp only [decompose, expandAll_append, h]

theorem decompose_eq_of_equivalent_within {k : Mode} {s t : List Code} (h : Equivalent k s t)
    (before after : List Code) : decompose k (before ++ s ++ after) = decompose k (before ++ t ++ after) := by
  -- over all contexts at once, since `within` adds to the context that is there
  induction h generalizing before after with
  | refl s => rfl
  | symm _ ih => exact (ih before after).symm
  | trans _ _ ih₁ ih₂ => exact (ih₁ before after).trans (ih₂ before after)
  | within p q _ ih =>
    have hinner := ih (before ++ p) (q ++ after)
    simpa only [List.append_assoc] using hinner
  | entry hd =>
    apply decompose_congr
    rw [expandAll_eq, expandAll_eq, List.flatMap_singleton, expand_of_decomposition? hd]
  | @jamo c hc =>
    apply decompose_congr
    rw [expandAll_of_isAtomic fun x hx => isAtomic_of_mem_jamo k hc hx, expandAll_eq, List.flatMap_singleton,
      expand_of_isSyllable k hc]
  -- both marks may decompose, and their decompositions are runs of marks that pass each other
  | @exchange x y hx hy h =>
    have hs := fun z hz => not_isStarter_of_mem_expandAll (k := k) (y := z) hx hz
    have ht := fun z hz => not_isStarter_of_mem_expandAll (k := k) (y := z) hy hz
    have hpair : ∀ a b : Code, expandAll k [a, b] = expandAll k [a] ++ expandAll k [b] :=
      fun a b => expandAll_append k [a] [b]
    simp only [decompose, expandAll_append, hpair]
    apply canonicalOrder_exchange (fun z hz => (hs z hz).1) (fun z hz => (ht z hz).1)
    intro z hz w hw
    rw [(hs z hz).2, (ht w hw).2]
    exact h

theorem decompose_eq_of_equivalent {k : Mode} {s t : List Code} (h : Equivalent k s t) :
    decompose k s = decompose k t := by
  simpa using decompose_eq_of_equivalent_within h [] []

theorem isAtomic_of_mem_decompose {k : Mode} {s : List Code} {c : Code} (hc : c ∈ decompose k s) : IsAtomic k c :=
  isAtomic_of_mem_expandAll (mem_canonicalOrder.mp hc)

theorem decompose_eq_self_iff {k : Mode} {s : List Code} :
    decompose k s = s ↔ (∀ c ∈ s, IsAtomic k c) ∧ InOrder s := by
  constructor
  · intro h
    refine ⟨fun c hc => isAtomic_of_mem_decompose (s := s) (h.symm ▸ hc), ?_⟩
    rw [← h]
    exact inOrder_canonicalOrder _
  · rintro ⟨hatomic, horder⟩
    rw [decompose, expandAll_of_isAtomic hatomic, canonicalOrder_of_inOrder horder]

theorem decompose_canonical_decompose (k : Mode) (s : List Code) :
    decompose .canonical (decompose k s) = decompose k s :=
  decompose_eq_self_iff.mpr
    ⟨fun _ hc => isAtomic_canonical (isAtomic_of_mem_decompose hc), inOrder_canonicalOrder _⟩

theorem decompose_append {k : Mode} {t : List Code} (h : ∀ r ∈ (decompose k t).head?, IsStarter r) (s : List Code) :
    decompose k (s ++ t) = decompose k s ++ decompose k t := by
  -- `t` may be taken to be decomposed
  have hparts : decompose k (s ++ t) = decompose k (s ++ decompose k t) :=
    decompose_eq_of_equivalent ((Equivalent.refl s).append (equivalent_decompose k t))
  have hexpand : expandAll k (decompose k t) = decompose k t :=
    expandAll_of_isAtomic fun c hc => isAtomic_of_mem_decompose hc
  have horder : canonicalOrder (decompose k t) = decompose k t :=
    canonicalOrder_of_inOrder (inOrder_canonicalOrder _)
  rw [hparts, decompose, expandAll_append, hexpand]
  cases hdecompose : decompose k t with
  | nil =>
    rw [List.append_nil, List.append_nil]
    rfl
  | cons r later =>
    rw [hdecompose] at h horder
    have htail := canonicalOrder_append_of_isStarter (h r rfl) [] later
    rw [List.nil_append, horder] at htail
    rw [canonicalOrder_append_of_isStarter (h r rfl), htail]
    rfl

end UnicodeText
