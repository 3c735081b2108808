import Mathlib.Data.List.Basic
import UnicodeText.Hangul

namespace UnicodeText.Hangul

theorem isSyllable_iff {c : Code} : IsSyllable c ↔ 0xAC00 ≤ c.toNat ∧ c.toNat < 0xD7A4 := Iff.rfl

theorem isLead_iff {c : Code} : IsLead c ↔ 0x1100 ≤ c.toNat ∧ c.toNat < 0x1113 := Iff.rfl

theorem toNat_ofNat {n : Nat} (h : n < 0x10000) : (UInt32.ofNat n).toNat = n :=
  UInt32.toNat_ofNat_of_lt' (Nat.lt_trans h (by decide))

theorem jamoAt_eq (offset : Nat) : jamoAt offset =
    [UInt32.ofNat (0x1100 + offset / 588), UInt32.ofNat (0x1161 + offset % 588 / 28)] ++
      if offset % 28 = 0 then [] else [UInt32.ofNat (0x11A7 + offset % 28)] := rfl

theorem page_of_mem_jamo {c x : Code} (hc : IsSyllable c) (hx : x ∈ jamo c) : x.toNat / 256 = 0x11 := by
  rw [isSyllable_iff] at hc
  rw [jamo, jamoAt_eq, syllableBase] at hx
  have hlead : (c.toNat - 0xAC00) / 588 < 19 := by omega
  have hvowel : (c.toNat - 0xAC00) % 588 / 28 < 21 := by omega
  have htrail : (c.toNat - 0xAC00) % 28 < 28 := Nat.mod_lt _ (by decide)
  simp only [List.mem_append, List.mem_cons, List.not_mem_nil, or_false] at hx
  rcases hx with (rfl | rfl) | hx
  · rw [toNat_ofNat (by omega)]
    omega
  · rw [toNat_ofNat (by omega)]
    omega
  · split at hx
    · simp at hx
    · rw [List.mem_singleton] at hx
      rw [hx, toNat_ofNat (by omega)]
      omega

theorem not_isSyllable_of_mem_jamo {c x : Code} (hc : IsSyllable c) (hx : x ∈ jamo c) : ¬IsSyllable x := by
  have hpage := page_of_mem_jamo hc hx
  rw [isSyllable_iff]
  omega

theorem compose_eq (first second : Code) : compose first second =
    if 0x1100 ≤ first.toNat ∧ first.toNat < 0x1113 then
      if 0x1161 ≤ second.toNat ∧ second.toNat < 0x1176 then
        some (UInt32.ofNat (0xAC00 + ((first.toNat - 0x1100) * 21 + (second.toNat - 0x1161)) * 28))
      else none
    else if (0xAC00 ≤ first.toNat ∧ first.toNat < 0xD7A4) ∧ (first.toNat - 0xAC00) % 28 = 0 ∧
        0x11A7 < second.toNat ∧ second.toNat < 0x11C3 then
      some (UInt32.ofNat (first.toNat + (second.toNat - 0x11A7)))
    else none := rfl

theorem ofNat_eq_iff {c : Code} {n : Nat} (h : n < 0x10000) : UInt32.ofNat n = c ↔ c.toNat = n := by
  rw [← UInt32.toNat_inj, toNat_ofNat h]
  exact eq_comm

theorem compose_eq_some_iff_toNat {first second c : Code} : compose first second = some c ↔
    ((0x1100 ≤ first.toNat ∧ first.toNat < 0x1113) ∧ (0x1161 ≤ second.toNat ∧ second.toNat < 0x1176) ∧
      c.toNat = 0xAC00 + ((first.toNat - 0x1100) * 21 + (second.toNat - 0x1161)) * 28) ∨
    ((0xAC00 ≤ first.toNat ∧ first.toNat < 0xD7A4) ∧ (first.toNat - 0xAC00) % 28 = 0 ∧
      (0x11A7 < second.toNat ∧ second.toNat < 0x11C3) ∧ c.toNat = first.toNat + (second.toNat - 0x11A7)) := by
  rw [compose_eq]
  split
  next hlead =>
    split
    next hvowel =>
      rw [Option.some.injEq, ofNat_eq_iff (by omega)]
      omega
    next =>
      simp only [reduceCtorEq, false_iff]
      omega
  next hlead =>
    split
    next hpair =>
      rw [Option.some.injEq, ofNat_eq_iff (by omega)]
      omega
    next =>
      simp only [reduceCtorEq, false_iff]
      omega

section Jamo

variable {c lead vowel trail : Code}

theorem length_jamo (c : Code) : (jamo c).length = jamoCount c := length_jamoAt _

theorem jamoCount_eq_two_iff : jamoCount c = 2 ↔ (c.toNat - 0xAC00) % 28 = 0 := by
  rw [jamoCount, jamoCountAt, syllableBase, trailCount]
  split <;> simp [*]

theorem jamo_eq_pair_iff (hc : IsSyllable c) : jamo c = [lead, vowel] ↔ (c.toNat - 0xAC00) % 28 = 0 ∧
    lead.toNat = 0x1100 + (c.toNat - 0xAC00) / 588 ∧ vowel.toNat = 0x1161 + (c.toNat - 0xAC00) % 588 / 28 := by
  rw [isSyllable_iff] at hc
  rw [jamo, jamoAt_eq, syllableBase]
  split
  next htrail =>
    simp only [htrail, List.append_nil, List.cons.injEq, and_true, true_and]
    rw [ofNat_eq_iff (by omega), ofNat_eq_iff (by omega)]
  next htrail => simp [htrail]

theorem jamo_eq_triple_iff (hc : IsSyllable c) : jamo c = [lead, vowel, trail] ↔ (c.toNat - 0xAC00) % 28 ≠ 0 ∧
    lead.toNat = 0x1100 + (c.toNat - 0xAC00) / 588 ∧ vowel.toNat = 0x1161 + (c.toNat - 0xAC00) % 588 / 28 ∧
    trail.toNat = 0x11A7 + (c.toNat - 0xAC00) % 28 := by
  rw [isSyllable_iff] at hc
  rw [jamo, jamoAt_eq, syllableBase]
  split
  next htrail => simp [htrail]
  next htrail =>
    simp only [htrail, List.cons_append, List.nil_append, List.cons.injEq, and_true, true_and, ne_eq, not_false_eq_true]
    rw [ofNat_eq_iff (by omega), ofNat_eq_iff (by omega), ofNat_eq_iff (by omega)]

theorem exists_jamo_eq_cons (hc : IsSyllable c) : ∃ lead later, jamo c = lead :: later ∧ IsLead lead := by
  rw [isSyllable_iff] at hc
  refine ⟨UInt32.ofNat (0x1100 + (c.toNat - 0xAC00) / 588), _, rfl, ?_⟩
  rw [isLead_iff, toNat_ofNat (by omega)]
  omega

theorem jamo_eq_append_iff {first second : Code} (hfirst : IsSyllable first) (hc : IsSyllable c) :
    jamoCount first = 2 ∧ jamo c = jamo first ++ [second] ↔ (first.toNat - 0xAC00) % 28 = 0 ∧
      0x11A7 < second.toNat ∧ second.toNat < 0x11C3 ∧ c.toNat = first.toNat + (second.toNat - 0x11A7) := by
  rw [jamoCount_eq_two_iff]
  refine and_congr_right fun htrail => ?_
  obtain ⟨lead, vowel, hpair⟩ := List.length_eq_two.mp ((length_jamo first).trans (jamoCount_eq_two_iff.mpr htrail))
  rw [hpair, List.cons_append, List.cons_append, List.nil_append, jamo_eq_triple_iff hc]
  rw [jamo_eq_pair_iff hfirst] at hpair
  rw [isSyllable_iff] at hc hfirst
  omega

end Jamo

section Pairs

variable {first second c : Code}

theorem compose_eq_some_iff : compose first second = some c ↔ IsSyllable c ∧
    (jamo c = [first, second] ∨ IsSyllable first ∧ jamoCount first = 2 ∧ jamo c = jamo first ++ [second]) := by
  constructor
  · intro h
    rw [compose_eq_some_iff_toNat] at h
    have hc : IsSyllable c := isSyllable_iff.mpr (by omega)
    refine ⟨hc, h.imp (fun hpair => ?_) fun hpair => ?_⟩
    · exact (jamo_eq_pair_iff hc).mpr (by omega)
    · have hfirst : IsSyllable first := isSyllable_iff.mpr hpair.1
      exact ⟨hfirst, (jamo_eq_append_iff hfirst hc).mpr (by omega)⟩
  · rintro ⟨hc, hjamo | ⟨hfirst, hjamo⟩⟩
    · rw [jamo_eq_pair_iff hc] at hjamo
      rw [isSyllable_iff] at hc
      rw [compose_eq_some_iff_toNat]
      omega
    · rw [jamo_eq_append_iff hfirst hc] at hjamo
      rw [isSyllable_iff] at hfirst
      rw [compose_eq_some_iff_toNat]
      omega

theorem jamo_of_compose (h : compose first second = some c) :
    IsSyllable c ∧ (jamo c = [first, second] ∨ IsSyllable first ∧ jamo c = jamo first ++ [second]) := by
  obtain ⟨hc, hjamo⟩ := compose_eq_some_iff.mp h
  exact ⟨hc, hjamo.imp_right fun hfirst => ⟨hfirst.1, hfirst.2.2⟩⟩

theorem first_of_compose (h : compose first second = some c) : 0x1100 ≤ first.toNat ∧ first.toNat < 0xD7A4 := by
  rw [compose_eq_some_iff_toNat] at h
  omega

theorem second_of_compose (h : compose first second = some c) : 0x1161 ≤ second.toNat ∧ second.toNat < 0x11C3 := by
  rw [compose_eq_some_iff_toNat] at h
  omega

theorem pair_eq_of_compose {first' second' : Code} (h : compose first second = some c)
    (h' : compose first' second' = some c) : first = first' ∧ second = second' := by
  rw [compose_eq_some_iff_toNat] at h h'
  rw [← UInt32.toNat_inj, ← UInt32.toNat_inj]
  omega

theorem exists_compose_eq_some (hc : IsSyllable c) : ∃ first second, compose first second = some c := by
  rw [isSyllable_iff] at hc
  by_cases htrail : (c.toNat - 0xAC00) % 28 = 0
  · refine ⟨UInt32.ofNat (0x1100 + (c.toNat - 0xAC00) / 588), UInt32.ofNat (0x1161 + (c.toNat - 0xAC00) % 588 / 28), ?_⟩
    rw [compose_eq_some_iff_toNat, toNat_ofNat (by omega), toNat_ofNat (by omega)]
    omega
  · refine ⟨UInt32.ofNat (c.toNat - (c.toNat - 0xAC00) % 28), UInt32.ofNat (0x11A7 + (c.toNat - 0xAC00) % 28), ?_⟩
    rw [compose_eq_some_iff_toNat, toNat_ofNat (by omega), toNat_ofNat (by omega)]
    omega

theorem existsUnique_compose (hc : IsSyllable c) : ∃! pair : Code × Code, compose pair.1 pair.2 = some c := by
  obtain ⟨first, second, h⟩ := exists_compose_eq_some hc
  refine ⟨(first, second), h, ?_⟩
  rintro ⟨first', second'⟩ h'
  obtain ⟨rfl, rfl⟩ := pair_eq_of_compose h h'
  rfl

end Pairs

end UnicodeText.Hangul
