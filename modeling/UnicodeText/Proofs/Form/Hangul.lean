import Mathlib.Algebra.Order.Ring.Nat
import UnicodeText.Proofs.Composition.Boundary
import UnicodeText.Proofs.Composition.Search
import UnicodeText.Proofs.Form.Equivalence

namespace UnicodeText

section Syllable

variable {c x : Code}

theorem composePair_lead_eq_none (hx : Hangul.IsLead x) (y : Code) : composePair y x = none := by
  apply Option.eq_none_iff_forall_not_mem.mpr
  intro z hz
  obtain ⟨hlower, hupper⟩ := Hangul.isLead_iff.mp hx
  rcases exists_pair_of_composePair hz with hcompose | ⟨i, -, hstop, rfl, -⟩
  · have hjamo := Hangul.second_of_compose hcompose
    omega
  · have hbounds := pairBounds_le y
    have hcheck := allBelow_iff.mp allBelow_pairSecond_not_isLead i (by omega)
    simp only [strictly_eq, Bool.or_eq_true, Nat.blt_eq, Nat.ble_eq] at hcheck
    rw [toNat_pairSecond] at hlower hupper
    omega

theorem isStarter_of_mem_jamo (hc : Hangul.IsSyllable c) (hx : x ∈ Hangul.jamo c) : IsStarter x :=
  isStarter_of_jamo (Hangul.page_of_mem_jamo hc hx)

end Syllable

section Composition

variable {first second c : Code}

theorem Segment.step_started_nil (closed : List Code) (h : composePair first second = some c) :
    (started closed first []).step second = started closed c [] := by
  have hcomposite : (started closed first []).composite? second = some c := h
  rw [step, hcomposite]
  rfl

theorem foldl_step_pair (h : composePair first second = some c) :
    [first, second].foldl Segment.step (.leading []) = .started [] c [] := by
  have hfirst : (Segment.leading []).step first = .started [] first [] :=
    Segment.push_of_isStarter (isStarter_first_of_composePair h) (.leading [])
  rw [List.foldl_cons, hfirst, List.foldl_cons, Segment.step_started_nil [] h, List.foldl_nil]

theorem composePair_of_compose (h : Hangul.compose first second = some c) : composePair first second = some c :=
  composePair_eq_some_iff.mpr (.inl h)

theorem foldl_step_jamo (hc : Hangul.IsSyllable c) :
    (Hangul.jamo c).foldl Segment.step (.leading []) = .started [] c [] := by
  obtain ⟨first, second, hcompose⟩ := Hangul.exists_compose_eq_some hc
  have hpair := composePair_of_compose hcompose
  obtain ⟨-, hjamo | ⟨hfirst, hcount, hjamo⟩⟩ := Hangul.compose_eq_some_iff.mp hcompose
  · rw [hjamo, foldl_step_pair hpair]
  -- the lead and the vowel make a syllable without a trail, and then the trail is added
  · rw [← Hangul.length_jamo, List.length_eq_two] at hcount
    obtain ⟨lead, vowel, hfirst_jamo⟩ := hcount
    have hblock := composePair_of_compose (Hangul.compose_eq_some_iff.mpr ⟨hfirst, .inl hfirst_jamo⟩)
    rw [hjamo, hfirst_jamo, List.foldl_append, foldl_step_pair hblock, List.foldl_cons,
      Segment.step_started_nil [] hpair, List.foldl_nil]

theorem compose_jamo (hc : Hangul.IsSyllable c) : compose (Hangul.jamo c) = [c] := by
  rw [compose_eq, foldl_step_jamo hc]
  rfl

end Composition

section Texts

variable {x : List Code}

theorem length_flatMap_jamo (x : List Code) : (x.flatMap Hangul.jamo).length = (x.map Hangul.jamoCount).sum := by
  have hlengths := List.map_congr_left fun c (_ : c ∈ x) => Hangul.length_jamo c
  rw [List.length_flatMap, hlengths]

theorem inOrder_of_isStarter {s : List Code} (h : ∀ c ∈ s, IsStarter c) : InOrder s :=
  (List.pairwise_of_forall_mem_list fun _ _ c hc => Or.inl (h c hc)).isChain

theorem decompose_syllables (k : Mode) (h : ∀ c ∈ x, Hangul.IsSyllable c) : decompose k x = x.flatMap Hangul.jamo := by
  have hexpand : expandAll k x = x.flatMap Hangul.jamo := by
    rw [expandAll_eq]
    exact List.flatMap_congr fun c hc => expand_of_isSyllable k (h c hc)
  rw [decompose, hexpand]
  apply canonicalOrder_of_inOrder
  apply inOrder_of_isStarter
  intro y hy
  obtain ⟨c, hc, hyc⟩ := List.mem_flatMap.mp hy
  exact isStarter_of_mem_jamo (h c hc) hyc

theorem isLead_head_flatMap_jamo (h : ∀ c ∈ x, Hangul.IsSyllable c) :
    ∀ r ∈ (x.flatMap Hangul.jamo).head?, Hangul.IsLead r := by
  cases x with
  | nil => simp
  | cons c x =>
    obtain ⟨lead, later, hjamo, hlead⟩ := Hangul.exists_jamo_eq_cons (h c List.mem_cons_self)
    rw [List.flatMap_cons, hjamo]
    simpa using hlead

theorem compose_flatMap_jamo (h : ∀ c ∈ x, Hangul.IsSyllable c) : compose (x.flatMap Hangul.jamo) = x := by
  induction x with
  | nil => rfl
  | cons c x ih =>
    have hx : ∀ y ∈ x, Hangul.IsSyllable y := fun y hy => h y (List.mem_cons_of_mem c hy)
    have hcut : ∀ r ∈ (x.flatMap Hangul.jamo).head?, IsStarter r ∧ ∀ y, composePair y r = none := by
      intro r hr
      have hlead := isLead_head_flatMap_jamo hx r hr
      refine ⟨isStarter_of_jamo ?_, composePair_lead_eq_none hlead⟩
      rw [Hangul.isLead_iff] at hlead
      omega
    rw [List.flatMap_cons, compose_append_of_composePair hcut, compose_jamo (h c List.mem_cons_self), ih hx,
      List.singleton_append]

end Texts

theorem Form.syllables_correspond_to_jamo :
    (∀ first second c : Code, Hangul.compose first second = some c ↔ Hangul.IsSyllable c ∧
      (Hangul.jamo c = [first, second] ∨
        Hangul.IsSyllable first ∧ Hangul.jamoCount first = 2 ∧ Hangul.jamo c = Hangul.jamo first ++ [second])) ∧
    (∀ c : Code, Hangul.IsSyllable c → ∃! pair : Code × Code, Hangul.compose pair.1 pair.2 = some c) ∧
    ∀ x : List Code, (∀ c ∈ x, Hangul.IsSyllable c) →
      (nfd.normalize x = x.flatMap Hangul.jamo ∧ nfkd.normalize x = x.flatMap Hangul.jamo) ∧
      (nfd.normalize x).length = (x.map Hangul.jamoCount).sum ∧
      (nfkd.normalize x).length = (x.map Hangul.jamoCount).sum ∧
      (nfc.normalize (nfd.normalize x) = x ∧ nfc.normalize x = x) ∧
      nfkc.normalize (nfkd.normalize x) = x ∧ nfkc.normalize x = x := by
  refine ⟨fun _ _ _ => Hangul.compose_eq_some_iff, fun _ => Hangul.existsUnique_compose, fun x h => ?_⟩
  have hdecompose (k : Mode) : decompose k x = x.flatMap Hangul.jamo := decompose_syllables k h
  have hcompose (k : Mode) : compose (decompose k x) = x := by
    rw [hdecompose, compose_flatMap_jamo h]
  have hlength (k : Mode) : (decompose k x).length = (x.map Hangul.jamoCount).sum := by
    rw [hdecompose, length_flatMap_jamo]
  refine ⟨⟨hdecompose .canonical, hdecompose .compatibility⟩, hlength .canonical, hlength .compatibility, ?_, ?_⟩
  · exact ⟨(normalize_eq_ofParts nfc nfd x).trans (hcompose .canonical), hcompose .canonical⟩
  · exact ⟨(normalize_eq_ofParts nfkc nfkd x).trans (hcompose .compatibility), hcompose .compatibility⟩

theorem Form.syllables_correspond_to_jamo_neighbours :
    (∀ c ∈ [0xAC00, 0xAC01, 0xD7A3], Hangul.IsSyllable c) ∧
    nfd.normalize [0xAC00, 0xAC01, 0xD7A3] = [0x1100, 0x1161, 0x1100, 0x1161, 0x11A8, 0x1112, 0x1175, 0x11C2] ∧
    nfc.normalize (nfd.normalize [0xAC00, 0xAC01, 0xD7A3]) = [0xAC00, 0xAC01, 0xD7A3] ∧
    nfkc.normalize [0xAC00, 0xAC01, 0xD7A3] = [0xAC00, 0xAC01, 0xD7A3] ∧
    ∃! pair : Code × Code, Hangul.compose pair.1 pair.2 = some 0xD7A3 := by
  obtain ⟨-, hunique, htexts⟩ := syllables_correspond_to_jamo
  have hsyllables : ∀ c ∈ [0xAC00, 0xAC01, 0xD7A3], Hangul.IsSyllable c := by simp [Hangul.isSyllable_iff]
  obtain ⟨⟨hnfd, -⟩, -, -, hnfc, hnfkc⟩ := htexts _ hsyllables
  exact ⟨hsyllables, hnfd.trans (by decide), hnfc.1, hnfkc.2, hunique 0xD7A3 (by decide)⟩

end UnicodeText
