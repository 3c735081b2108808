import UnicodeText.Proofs.Form.Boundary

namespace UnicodeText

section Tables

theorem isScalar_of_isSyllable {c : Code} (h : Hangul.IsSyllable c) : IsScalar c := by
  rw [Hangul.isSyllable_iff] at h
  simp only [IsScalar, InCodeSpace, codeSpace, IsSurrogate]
  omega

theorem isScalar_of_mem_jamo {c x : Code} (hc : Hangul.IsSyllable c) (hx : x ∈ Hangul.jamo c) : IsScalar x := by
  have hpage := Hangul.page_of_mem_jamo hc hx
  simp only [IsScalar, InCodeSpace, codeSpace, IsSurrogate]
  omega

theorem isInert_of_not_isScalar {x : Code} (h : ¬IsScalar x) : IsInert x := by
  by_cases hspace : InCodeSpace x
  · exact isInert_of_isSurrogate (Decidable.byContradiction fun hsurrogate => h ⟨hspace, hsurrogate⟩)
  · exact isInert_of_not_inCodeSpace hspace

theorem isScalar_of_decomposition? {c : Code} {d : Decomposition} (h : decomposition? c = some d) : IsScalar c := by
  apply Decidable.byContradiction
  intro hscalar
  have hnone := ((isInert_of_not_isScalar hscalar).isAtomic .compatibility).decomposition?_eq_none
  have hsome : Mode.compatibility.decomposition? c = some d := Mode.decomposition?_eq_some_iff.mpr ⟨h, rfl⟩
  simp [hnone] at hsome

theorem isScalar_of_composePair {first second c : Code} (h : composePair first second = some c) : IsScalar c := by
  rcases composePair_eq_some h with hcompose | ⟨d, hd, -, -⟩
  · exact isScalar_of_isSyllable (Hangul.jamo_of_compose hcompose).1
  · exact isScalar_of_decomposition? hd

end Tables

theorem mem_expand {k : Mode} {c x : Code} (hx : x ∈ expand k c) : x = c ∨ IsScalar x := by
  induction c using expansion_induction k with
  | syllable c hc =>
    rw [expand_of_isSyllable k hc] at hx
    exact .inr (isScalar_of_mem_jamo hc hx)
  | atomic c hatomic =>
    rw [expand_of_isAtomic hatomic] at hx
    exact .inl (List.mem_singleton.mp hx)
  | entry c d hentry ih =>
    rw [expand_of_decomposition? hentry] at hx
    obtain ⟨y, hy, hxy⟩ := List.mem_flatMap.mp hx
    rcases ih y hy hxy with rfl | hscalar
    · exact .inr (isScalar_of_mem_codes (Mode.decomposition?_eq_some_iff.mp hentry).1 hy)
    · exact .inr hscalar

theorem mem_decompose {k : Mode} {s : List Code} {x : Code} (hx : x ∈ decompose k s) : x ∈ s ∨ IsScalar x := by
  rw [decompose, mem_canonicalOrder, expandAll_eq] at hx
  obtain ⟨c, hc, hxc⟩ := List.mem_flatMap.mp hx
  rcases mem_expand hxc with rfl | hscalar
  · exact .inl hc
  · exact .inr hscalar

namespace Segment

theorem mem_text_step {p : Segment} {c x : Code} (hx : x ∈ (p.step c).text) : x ∈ p.text ∨ x = c ∨ IsScalar x := by
  cases hcomposite : p.composite? c with
  | none =>
    rw [step_of_composite?_eq_none hcomposite, text_push, List.mem_append, List.mem_singleton] at hx
    exact hx.imp id .inl
  | some y =>
    obtain ⟨closed, starter, marks, rfl, -, hpair, hstep⟩ := exists_of_composite?_eq_some hcomposite
    rw [hstep, text, List.mem_append, List.mem_cons] at hx
    rw [text, List.mem_append, List.mem_cons]
    rcases hx with hclosed | rfl | hmarks
    · exact .inl (.inl hclosed)
    · exact .inr (.inr (isScalar_of_composePair hpair))
    · exact .inl (.inr (.inr hmarks))

theorem mem_text_foldl_step {p : Segment} {s : List Code} {x : Code} (hx : x ∈ (s.foldl step p).text) :
    x ∈ p.text ∨ x ∈ s ∨ IsScalar x := by
  induction s generalizing p with
  | nil => exact .inl hx
  | cons c s ih =>
    rw [List.mem_cons]
    rcases ih hx with hstep | hs | hscalar
    · rcases mem_text_step hstep with hp | rfl | hscalar
      · exact .inl hp
      · exact .inr (.inl (.inl rfl))
      · exact .inr (.inr hscalar)
    · exact .inr (.inl (.inr hs))
    · exact .inr (.inr hscalar)

end Segment

theorem mem_compose {s : List Code} {x : Code} (hx : x ∈ compose s) : x ∈ s ∨ IsScalar x := by
  rw [compose_eq] at hx
  exact (Segment.mem_text_foldl_step hx).resolve_left List.not_mem_nil

namespace Form

theorem mem_normalize {f : Form} {s : List Code} {x : Code} (hx : x ∈ f.normalize s) : x ∈ s ∨ IsScalar x := by
  rw [normalize] at hx
  split at hx
  · rcases mem_compose hx with hdecompose | hscalar
    · exact mem_decompose hdecompose
    · exact .inr hscalar
  · exact mem_decompose hx

theorem isScalar_normalize (f : Form) {s : List Code} (hs : ∀ c ∈ s, IsScalar c) :
    ∀ c ∈ f.normalize s, IsScalar c := fun c hc => (mem_normalize hc).elim (hs c) id

theorem inCodeSpace_normalize (f : Form) {s : List Code} (hs : ∀ c ∈ s, InCodeSpace c) :
    ∀ c ∈ f.normalize s, InCodeSpace c := fun c hc => (mem_normalize hc).elim (hs c) And.left

theorem codesOf_normalizeString (f : Form) (s : String) : codesOf (f.normalizeString s) = f.normalize (codesOf s) :=
  codesOf_textOf (f.isScalar_normalize fun _ => isScalar_of_mem_codesOf)

end Form

end UnicodeText
