import Mathlib.Algebra.Order.BigOperators.Group.List
import Mathlib.Algebra.Order.Ring.Nat
import UnicodeText.Proofs.CanonicalOrder
import UnicodeText.Proofs.Decomposition.Expansion

namespace UnicodeText

open Data (decompositionOffset decompositionCodes)

/-- The number `f n`. Evaluation turns `n` into a numeral first. -/
def strictlyNat (n : Nat) (f : Nat → Nat) : Nat := Nat.rec (f 0) (fun m _ => f m.succ) n

@[simp] theorem strictlyNat_eq (n : Nat) (f : Nat → Nat) : strictlyNat n f = f n := by
  cases n <;> rfl

def sumBelow (n : Nat) (f : Nat → Nat) : Nat := Nat.rec 0 (fun i sum => f i + sum) n

theorem sumBelow_eq (start n : Nat) (f : Nat → Nat) :
    sumBelow n (fun i => f (start + i)) = ((List.range' start n).map f).sum := by
  induction n with
  | zero => rfl
  | succ n ih =>
    change f (start + n) + sumBelow n (fun i => f (start + i)) = _
    rw [ih, List.range'_concat, List.map_append, List.sum_append_nat]
    simp [Nat.add_comm]

def sumBetween (start stop : Nat) (f : Nat → Nat) : Nat := sumBelow (stop - start) fun i => f (start + i)

def spreadAt : Nat → Nat → Nat
  | 0, _ => 1
  | depth + 1, n =>
    strictlyNat (entryStart n / 4) fun start => strictlyNat (entryStop n / 4) fun stop =>
      cond (start.beq stop) 1 (sumBetween start stop fun i => strictlyNat (decompositionCodes.get i) (spreadAt depth))

def checkBounds (start stop : Nat) : Bool := Nat.ble (start / 4) (stop / 4) && Nat.ble (stop / 4) 8663

def checkSpread (start stop : Nat) : Bool :=
  strictly (start / 4) fun first => strictly (stop / 4) fun last => first.beq last ||
    (sumBetween first last fun i => strictlyNat (decompositionCodes.get i) (spreadAt 2)).ble 18

mutual

theorem scanRanges_checkBounds : decompositionOffset.scanRanges 7 (fun _ => checkBounds) = true := by decide +kernel

theorem scanRanges_checkSpread : decompositionOffset.scanRanges 7 (fun _ => checkSpread) = true := by decide +kernel

end

theorem sumBetween_eq (start stop : Nat) (f : Nat → Nat) :
    sumBetween start stop f = ((List.range' start (stop - start)).map f).sum := sumBelow_eq start (stop - start) f

section Entries

variable {c : Code} {d : Decomposition}

theorem entryBounds (c : Code) : entryStart c.toNat / 4 ≤ entryStop c.toNat / 4 ∧ entryStop c.toNat / 4 ≤ 8663 := by
  have hcheck := check_entry (fun _ => rfl) scanRanges_checkBounds c
  rwa [checkBounds, Bool.and_eq_true, Nat.ble_eq, Nat.ble_eq] at hcheck

theorem codes_of_decomposition? (h : decomposition? c = some d) : d.codes =
    (List.range' (entryStart c.toNat / 4) (entryStop c.toNat / 4 - entryStart c.toNat / 4)).map
      fun i => UInt32.ofNat (decompositionCodes.get i) := by
  rw [decomposition?_eq] at h
  split at h
  next => simp at h
  next =>
    obtain rfl := Option.some.inj h
    rw [Packed.slice?, if_pos (entryBounds c), Option.getD_some, List.map_map]
    rfl

theorem decomposition?_eq_none_iff : decomposition? c = none ↔ entryStart c.toNat / 4 = entryStop c.toNat / 4 := by
  rw [decomposition?_eq]
  split <;> simp [*]

theorem codes_ne_nil_of_decomposition? (h : decomposition? c = some d) : d.codes ≠ [] := by
  intro hnil
  have hlength := congrArg List.length (codes_of_decomposition? h)
  rw [hnil, List.length_map, List.length_range', List.length_nil] at hlength
  have hbounds := entryBounds c
  have hnone : decomposition? c = none := decomposition?_eq_none_iff.mpr (by omega)
  simp [hnone] at h

theorem sumBetween_codes (h : decomposition? c = some d) (f : Nat → Nat) :
    (sumBetween (entryStart c.toNat / 4) (entryStop c.toNat / 4) fun i => strictlyNat (decompositionCodes.get i) f) =
      (d.codes.map fun x => f x.toNat).sum := by
  rw [sumBetween_eq, codes_of_decomposition? h, List.map_map]
  congr 1
  apply List.map_congr_left
  intro i _
  rw [strictlyNat_eq, Function.comp_apply, toNat_decompositionCode]

theorem spreadAt_of_decomposition?_eq_none (depth : Nat) (h : decomposition? c = none) :
    spreadAt depth c.toNat = 1 := by
  cases depth with
  | zero => rfl
  | succ depth =>
    rw [spreadAt, strictlyNat_eq, strictlyNat_eq, decomposition?_eq_none_iff.mp h, Nat.beq_refl, cond_true]

theorem spreadAt_of_decomposition? (depth : Nat) (h : decomposition? c = some d) :
    spreadAt (depth + 1) c.toNat = (d.codes.map fun x => spreadAt depth x.toNat).sum := by
  have hentry : Nat.beq (entryStart c.toNat / 4) (entryStop c.toNat / 4) = false := by
    apply Bool.eq_false_iff.mpr
    intro hbounds
    simp [decomposition?_eq_none_iff.mpr (Nat.eq_of_beq_eq_true hbounds)] at h
  rw [spreadAt, strictlyNat_eq, strictlyNat_eq, hentry, cond_false]
  exact sumBetween_codes h (spreadAt depth)

theorem length_codes_le_sum {f : Code → Nat} (s : List Code) (h : ∀ x, 1 ≤ f x) : s.length ≤ (s.map f).sum := by
  have hsum := List.length_le_sum_of_one_le (s.map f) (by simpa using fun x _ => h x)
  rwa [List.length_map] at hsum

theorem one_le_spreadAt (depth : Nat) (c : Code) : 1 ≤ spreadAt depth c.toNat := by
  induction depth generalizing c with
  | zero => exact Nat.le_refl 1
  | succ depth ih =>
    cases hd : decomposition? c with
    | none => exact Nat.le_of_eq (spreadAt_of_decomposition?_eq_none _ hd).symm
    | some d =>
      rw [spreadAt_of_decomposition? depth hd]
      exact Nat.le_trans (List.length_pos_iff.mpr (codes_ne_nil_of_decomposition? hd)) (length_codes_le_sum d.codes ih)

theorem spreadAt_expansionDepth_le (c : Code) : spreadAt expansionDepth c.toNat ≤ 18 := by
  cases hd : decomposition? c with
  | none =>
    rw [spreadAt_of_decomposition?_eq_none _ hd]
    decide
  | some d =>
    -- the entry itself is the first of the levels, so that the check goes two levels further down
    have hcheck := check_entry (fun _ => rfl) scanRanges_checkSpread c
    simp only [checkSpread, strictly_eq, Bool.or_eq_true, Nat.ble_eq, Nat.beq_eq, sumBetween_codes hd] at hcheck
    rw [expansionDepth, spreadAt_of_decomposition? 2 hd]
    refine hcheck.resolve_left fun hbounds => ?_
    simp [decomposition?_eq_none_iff.mpr hbounds] at hd

end Entries

section Expansion

variable (k : Mode)

theorem expand_ne_nil (c : Code) : expand k c ≠ [] := by
  induction c using expansion_induction k with
  | syllable c hc =>
    rw [expand_of_isSyllable k hc]
    simp [Hangul.jamo, Hangul.jamoAt]
  | atomic c hatomic => simp [expand_of_isAtomic hatomic]
  | entry c d hentry ih =>
    have hcodes := codes_ne_nil_of_decomposition? (Mode.decomposition?_eq_some_iff.mp hentry).1
    obtain ⟨x, hx⟩ := List.exists_mem_of_ne_nil _ hcodes
    rw [expand_of_decomposition? hentry, Ne, List.flatMap_eq_nil_iff]
    exact fun hnil => ih x hx (hnil x hx)

theorem length_expandWithin_le (depth : Nat) {c : Code} (hc : ¬Hangul.IsSyllable c) :
    (expandWithin k depth c).length ≤ spreadAt depth c.toNat := by
  induction depth generalizing c with
  | zero => exact Nat.le_refl 1
  | succ depth ih =>
    cases hentry : k.decomposition? c with
    | none =>
      -- an entry that the mode does not admit still counts in `spreadAt`
      rw [expandWithin_of_isAtomic _ ⟨hc, hentry⟩]
      exact one_le_spreadAt _ c
    | some d =>
      have hd := (Mode.decomposition?_eq_some_iff.mp hentry).1
      rw [expandWithin_of_decomposition? depth hentry, spreadAt_of_decomposition? depth hd]
      split
      · rw [List.length_flatMap]
        exact List.sum_le_sum fun x hx => ih ((fits_of_decomposition? hd).codes_not_isSyllable x hx)
      · exact length_codes_le_sum d.codes (one_le_spreadAt depth)

theorem length_expand_le (c : Code) : (expand k c).length ≤ 18 := by
  by_cases hc : Hangul.IsSyllable c
  · rw [expand_of_isSyllable k hc, Hangul.jamo, Hangul.length_jamoAt, Hangul.jamoCountAt]
    split <;> decide
  · exact Nat.le_trans (length_expandWithin_le k expansionDepth hc) (spreadAt_expansionDepth_le c)

theorem length_expandAll_le (s : List Code) : (expandAll k s).length ≤ 18 * s.length := by
  rw [expandAll_eq, List.length_flatMap]
  have hsum := List.sum_le_card_nsmul (s.map fun c => (expand k c).length) 18 (by simpa using fun c _ => length_expand_le k c)
  simpa [Nat.mul_comm] using hsum

theorem decomposedLengthWithin_getD (depth : Nat) (c : Code) :
    (decomposedLengthWithin k depth c).getD 1 = (expandWithin k depth c).length := by
  induction depth generalizing c with
  | zero => rfl
  | succ depth ih =>
    rw [decomposedLengthWithin, expandWithin]
    split
    · rw [Option.getD_some, Hangul.jamoCount, Hangul.jamo, Hangul.length_jamoAt]
    · cases k.decomposition? c with
      | none => rfl
      | some d =>
        dsimp only
        split
        · have hlengths := List.map_congr_left fun x (_ : x ∈ d.codes) => ih x
          rw [List.length_flatMap, Option.getD_some, hlengths]
          rfl
        · rfl

theorem decomposedLengthWithin_succ_of_endsWithin {depth : Nat} {c : Code} (hc : ¬Hangul.IsSyllable c)
    (h : EndsWithin depth c) : decomposedLengthWithin k (depth + 1) c = decomposedLengthWithin k depth c := by
  induction depth generalizing c with
  | zero =>
    change decomposedLengthWithin k (0 + 1) c = none
    rw [decomposedLengthWithin, if_neg hc, k.decomposition?_of_none h]
  | succ depth ih =>
    rw [decomposedLengthWithin, if_neg hc, decomposedLengthWithin, if_neg hc]
    cases hentry : k.decomposition? c with
    | none => rfl
    | some d =>
      have hd := (Mode.decomposition?_eq_some_iff.mp hentry).1
      have hlengths := List.map_congr_left fun x hx => congrArg (Option.getD · 1)
        (ih ((fits_of_decomposition? hd).codes_not_isSyllable x hx) (h d hd x hx))
      dsimp only at hlengths ⊢
      rw [hlengths]

theorem decomposedLengthWithin_expansionDepth_add (spare : Nat) (c : Code) :
    decomposedLengthWithin k (expansionDepth + spare) c = decomposedLength? k c := by
  by_cases hc : Hangul.IsSyllable c
  · rw [decomposedLength?, expansionDepth, Nat.add_right_comm 2 1, decomposedLengthWithin, decomposedLengthWithin,
      if_pos hc, if_pos hc]
  · induction spare with
    | zero => rfl
    | succ spare ih =>
      rw [← ih, ← Nat.add_assoc]
      exact decomposedLengthWithin_succ_of_endsWithin k hc (endsWithin_expansionDepth_add spare c)

theorem expandWithin_expansionDepth_add (spare : Nat) (c : Code) :
    expandWithin k (expansionDepth + spare) c = expand k c := by
  by_cases hc : Hangul.IsSyllable c
  · rw [expansionDepth, Nat.add_right_comm 2 1, expandWithin_of_isSyllable _ hc, expand_of_isSyllable k hc]
  · induction spare with
    | zero => rfl
    | succ spare ih =>
      rw [← ih, ← Nat.add_assoc]
      exact expandWithin_succ_of_endsWithin k hc (endsWithin_expansionDepth_add spare c)

theorem decomposedLength?_getD (c : Code) : (decomposedLength? k c).getD 1 = (expand k c).length :=
  decomposedLengthWithin_getD k expansionDepth c

theorem decomposedLength?_getD_le (c : Code) : (decomposedLength? k c).getD 1 ≤ 18 := by
  rw [decomposedLength?_getD]
  exact length_expand_le k c

theorem expandedLength_eq (s : List Code) : expandedLength k s = (expandAll k s).length := by
  have hlengths := List.map_congr_left fun c (_ : c ∈ s) => decomposedLength?_getD k c
  rw [expandedLength, hlengths, expandAll_eq, List.length_flatMap]
  rfl

theorem expandedLength_eq_length_decompose (s : List Code) : expandedLength k s = (decompose k s).length := by
  rw [expandedLength_eq, decompose, length_canonicalOrder]

theorem expandedLength_le (s : List Code) : expandedLength k s ≤ 18 * s.length := by
  rw [expandedLength_eq]
  exact length_expandAll_le k s

theorem expandedLength_cons (c : Code) (s : List Code) :
    expandedLength k (c :: s) = (decomposedLength? k c).getD 1 + expandedLength k s := rfl

theorem expandedLength_replicate (n : Nat) (c : Code) :
    expandedLength k (List.replicate n c) = n * (decomposedLength? k c).getD 1 := by
  induction n with
  | zero => rw [List.replicate_zero, Nat.zero_mul]; rfl
  | succ n ih => rw [List.replicate_succ, expandedLength_cons, ih, Nat.succ_mul, Nat.add_comm]

end Expansion

end UnicodeText
