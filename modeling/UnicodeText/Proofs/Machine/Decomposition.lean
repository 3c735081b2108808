import UnicodeText.Proofs.Decomposition.Length
import UnicodeText.Proofs.Machine.Property

namespace UnicodeText.Machine

section Definitions

def jamoCount (c : Code) : Run Nat := do
  let offset ← minus c.toNat Hangul.syllableBase
  return Hangul.jamoCountAt offset

def jamo (c : Code) : Run (List Code) := do
  let offset ← minus c.toNat Hangul.syllableBase
  let lead ← plus maxCode Hangul.leadBase (offset / Hangul.blockCount)
  let vowel ← plus maxCode Hangul.vowelBase (offset % Hangul.blockCount / Hangul.trailCount)
  if offset % Hangul.trailCount = 0 then return [UInt32.ofNat lead, UInt32.ofNat vowel]
  else do
    let trail ← plus maxCode Hangul.trailBase (offset % Hangul.trailCount)
    return [UInt32.ofNat lead, UInt32.ofNat vowel, UInt32.ofNat trail]

def decomposition? (c : Code) : Run (Option Decomposition) :=
  if InCodeSpace c then do
    let bounds ← lookupRange Data.decompositionOffset c.toNat
    if bounds.1 / 4 = bounds.2 / 4 then return none
    else do
      let fields ← sliceFields Data.decompositionCodes (bounds.1 / 4) (bounds.2 / 4)
      return some ⟨fields.map UInt32.ofNat, bounds.1.testBit 0, bounds.1.testBit 1⟩
  else return none

def admitted? (k : Mode) (c : Code) : Run (Option Decomposition) := do
  let entry ← decomposition? c
  return entry.filter k.admits

def decomposedLengthWithin (limit : Nat) (k : Mode) : Nat → Code → Run (Option Nat)
  | 0, _ => .error .unfinished
  | depth + 1, c =>
    if Hangul.IsSyllable c then do
      let count ← jamoCount c
      return some count
    else do
      match ← admitted? k c with
      | none => return none
      | some d =>
        if d.isRecursive then do
          let length ← total limit (fun x => return (← decomposedLengthWithin limit k depth x).getD 1) d.codes
          return some length
        else return some d.codes.length

def expandWithin (k : Mode) : Nat → Code → Run (List Code)
  | 0, _ => .error .unfinished
  | depth + 1, c =>
    if Hangul.IsSyllable c then jamo c
    else do
      match ← admitted? k c with
      | none => return [c]
      | some d =>
        if d.isRecursive then do
          let parts ← d.codes.mapM (expandWithin k depth)
          return parts.flatten
        else return d.codes

/-- One level more than there are entries on the longest way down, to see that the codes at its end have none. -/
def decomposedLength? (limit : Nat) (k : Mode) : Code → Run (Option Nat) :=
  decomposedLengthWithin limit k (expansionDepth + 1)

def expand (k : Mode) : Code → Run (List Code) := expandWithin k (expansionDepth + 1)

def decomposeCode (limit : Nat) (k : Mode) (c : Code) : Run (List Code) := do
  let _capacity ← decomposedLength? limit k c
  expand k c

def measure (limit : Nat) (k : Mode) (measured : Nat × Bool) (c : Code) : Run (Nat × Bool) := do
  match ← decomposedLength? limit k c with
  | some length =>
    let sum ← plus limit measured.1 length
    return (sum, true)
  | none =>
    let sum ← plus limit measured.1 1
    return (sum, measured.2)

def expandAll (limit : Nat) (k : Mode) (s : List Code) : Run (List Code) := do
  let measured ← s.foldlM (measure limit k) (0, false)
  if measured.2 then do
    let parts ← s.mapM (expand k)
    return parts.flatten
  else return s

end Definitions

theorem jamoCount_eq_ok {c : Code} (h : Hangul.IsSyllable c) : jamoCount c = .ok (Hangul.jamoCount c) := by
  rw [jamoCount, minus_eq_ok h.1]
  rfl

theorem jamo_eq_ok {c : Code} (h : Hangul.IsSyllable c) : jamo c = .ok (Hangul.jamo c) := by
  rw [jamo, minus_eq_ok h.1, ok_bind, Hangul.jamo, Hangul.jamoAt]
  rw [Hangul.isSyllable_iff] at h
  have hlead : Hangul.leadBase + (c.toNat - Hangul.syllableBase) / Hangul.blockCount ≤ maxCode := by
    change 0x1100 + (c.toNat - 0xAC00) / 588 ≤ 0xFFFFFFFF
    omega
  have hvowel : Hangul.vowelBase + (c.toNat - Hangul.syllableBase) % Hangul.blockCount / Hangul.trailCount ≤ maxCode := by
    change 0x1161 + (c.toNat - 0xAC00) % 588 / 28 ≤ 0xFFFFFFFF
    omega
  have htrail : Hangul.trailBase + (c.toNat - Hangul.syllableBase) % Hangul.trailCount ≤ maxCode := by
    change 0x11A7 + (c.toNat - 0xAC00) % 28 ≤ 0xFFFFFFFF
    omega
  rw [plus_eq_ok hlead, ok_bind, plus_eq_ok hvowel, ok_bind]
  split
  · rfl
  · rw [plus_eq_ok htrail]
    rfl

theorem covers_decompositionOffset : Covers Data.decompositionOffset :=
  covers_of_isBlank decompositionOffset_isBlank (by decide)

theorem decomposition?_eq_ok (c : Code) : decomposition? c = .ok (UnicodeText.decomposition? c) := by
  rw [decomposition?, UnicodeText.decomposition?]
  split
  next hc =>
    have hbounds := entryBounds c
    have hrange : Data.decompositionOffset.rangeD c.toNat (0, 0) = (entryStart c.toNat, entryStop c.toNat) :=
      decompositionOffset_isBlank.rangeD_eq c.toNat
    rw [covers_decompositionOffset.lookupRange_eq_ok hc (0, 0), hrange, ok_bind]
    dsimp only
    split
    next => rfl
    next =>
      rw [sliceFields_eq_ok hbounds.1 hbounds.2, Packed.slice?, if_pos hbounds]
      rfl
  next => rfl

theorem admitted?_eq_ok (k : Mode) (c : Code) : admitted? k c = .ok (k.decomposition? c) := by
  rw [admitted?, decomposition?_eq_ok]
  rfl

section Depth

variable {limit depth : Nat} {k : Mode} {c : Code}

theorem expandWithin_eq_ok (hends : EndsWithin depth c) :
    expandWithin k (depth + 1) c = .ok (UnicodeText.expandWithin k (depth + 1) c) := by
  induction depth generalizing c with
  | zero =>
    rw [expandWithin, UnicodeText.expandWithin, admitted?_eq_ok, k.decomposition?_of_none hends]
    split
    next hc => exact jamo_eq_ok hc
    next => rfl
  | succ depth ih =>
    rw [expandWithin, UnicodeText.expandWithin, admitted?_eq_ok, ok_bind]
    split
    next hc => exact jamo_eq_ok hc
    next =>
      cases hentry : k.decomposition? c with
      | none => rfl
      | some d =>
        have hd := (Mode.decomposition?_eq_some_iff.mp hentry).1
        dsimp only
        split
        next =>
          rw [mapM_eq_ok fun x hx => ih (hends d hd x hx)]
          rfl
        next => rfl

theorem decomposedLengthWithin_eq_ok (hends : EndsWithin depth c)
    (hlimit : (UnicodeText.decomposedLengthWithin k (depth + 1) c).getD 1 ≤ limit) :
    decomposedLengthWithin limit k (depth + 1) c = .ok (UnicodeText.decomposedLengthWithin k (depth + 1) c) := by
  induction depth generalizing c with
  | zero =>
    rw [decomposedLengthWithin, UnicodeText.decomposedLengthWithin, admitted?_eq_ok, k.decomposition?_of_none hends]
    split
    next hc =>
      rw [jamoCount_eq_ok hc]
      rfl
    next => rfl
  | succ depth ih =>
    rw [UnicodeText.decomposedLengthWithin] at hlimit
    rw [decomposedLengthWithin, UnicodeText.decomposedLengthWithin, admitted?_eq_ok, ok_bind]
    split
    next hc =>
      rw [jamoCount_eq_ok hc]
      rfl
    next hc =>
      rw [if_neg hc] at hlimit
      cases hentry : k.decomposition? c with
      | none => rfl
      | some d =>
        have hd := (Mode.decomposition?_eq_some_iff.mp hentry).1
        rw [hentry] at hlimit
        dsimp only at hlimit ⊢
        split
        next hrecursive =>
          -- no code of the entry is longer than the sum, which is what is left when the last one is added
          rw [if_pos hrecursive] at hlimit
          rw [total_eq_ok (fun x hx => ?_) hlimit]
          · rfl
          · have hle := List.single_le_sum (fun _ _ => Nat.zero_le _) _
              (List.mem_map_of_mem (f := fun x => (UnicodeText.decomposedLengthWithin k (depth + 1) x).getD 1) hx)
            rw [ih (hends d hd x hx) (Nat.le_trans hle hlimit)]
            rfl
        next => rfl

end Depth

section Codes

variable (k : Mode) (c : Code)

theorem expandWithin_expansionDepth_eq_ok (spare : Nat) :
    expandWithin k (expansionDepth + spare + 1) c = .ok (UnicodeText.expand k c) := by
  rw [expandWithin_eq_ok (endsWithin_expansionDepth_add spare c), Nat.add_assoc, expandWithin_expansionDepth_add]

theorem decomposedLengthWithin_expansionDepth_eq_ok (spare : Nat) {limit : Nat}
    (hlimit : (UnicodeText.decomposedLength? k c).getD 1 ≤ limit) :
    decomposedLengthWithin limit k (expansionDepth + spare + 1) c = .ok (UnicodeText.decomposedLength? k c) := by
  rw [← decomposedLengthWithin_expansionDepth_add k (spare + 1), ← Nat.add_assoc] at hlimit ⊢
  exact decomposedLengthWithin_eq_ok (endsWithin_expansionDepth_add spare c) hlimit

theorem expand_eq_ok : expand k c = .ok (UnicodeText.expand k c) := expandWithin_expansionDepth_eq_ok k c 0

theorem decomposedLength?_eq_ok_of_le {limit : Nat} (hlimit : (UnicodeText.decomposedLength? k c).getD 1 ≤ limit) :
    decomposedLength? limit k c = .ok (UnicodeText.decomposedLength? k c) :=
  decomposedLengthWithin_expansionDepth_eq_ok k c 0 hlimit

theorem decomposedLength?_eq_ok {limit : Nat} (hlimit : 18 ≤ limit) :
    decomposedLength? limit k c = .ok (UnicodeText.decomposedLength? k c) :=
  decomposedLength?_eq_ok_of_le k c (Nat.le_trans (decomposedLength?_getD_le k c) hlimit)

theorem decomposeCode_eq_ok {limit : Nat} (hlimit : 18 ≤ limit) :
    decomposeCode limit k c = .ok (UnicodeText.expand k c) := by
  rw [decomposeCode, decomposedLength?_eq_ok k c hlimit, ok_bind, expand_eq_ok]

end Codes

section Texts

variable {limit : Nat} {k : Mode}

theorem measure_eq {c : Code} (hc : (UnicodeText.decomposedLength? k c).getD 1 ≤ limit) (n : Nat) (expands : Bool) :
    measure limit k (n, expands) c = do
      let sum ← plus limit n ((UnicodeText.decomposedLength? k c).getD 1)
      return (sum, expands || (UnicodeText.decomposedLength? k c).isSome) := by
  rw [measure, decomposedLength?_eq_ok_of_le k c hc, ok_bind]
  cases UnicodeText.decomposedLength? k c with
  | none => rw [Option.isSome_none, Bool.or_false]; rfl
  | some length => rw [Option.isSome_some, Bool.or_true]; rfl

theorem foldlM_measure_eq_ok {s : List Code} {n : Nat} (hlimit : n + expandedLength k s ≤ limit) (expands : Bool) :
    s.foldlM (measure limit k) (n, expands) = .ok (n + expandedLength k s,
      expands || s.any fun c => (UnicodeText.decomposedLength? k c).isSome) := by
  induction s generalizing n expands with
  | nil => simp [expandedLength]
  | cons c s ih =>
    rw [expandedLength_cons] at hlimit
    rw [List.foldlM_cons, measure_eq (by omega), plus_eq_ok (by omega), ok_bind, pure_eq_ok, ok_bind, ih (by omega),
      expandedLength_cons, List.any_cons, Nat.add_assoc, Bool.or_assoc]

theorem foldlM_measure_eq_error {s : List Code} {n : Nat} (hword : 18 ≤ limit) (hn : n ≤ limit)
    (hover : limit < n + expandedLength k s) (expands : Bool) :
    s.foldlM (measure limit k) (n, expands) = .error .overflow := by
  induction s generalizing n expands with
  | nil =>
    rw [expandedLength, List.map_nil, List.foldr_nil] at hover
    omega
  | cons c s ih =>
    have hc := Nat.le_trans (decomposedLength?_getD_le k c) hword
    rw [expandedLength_cons] at hover
    rw [List.foldlM_cons, measure_eq hc]
    rcases Nat.lt_or_ge limit (n + (UnicodeText.decomposedLength? k c).getD 1) with hsum | hsum
    · rw [plus_eq_error hsum, error_bind, error_bind]
    · rw [plus_eq_ok hsum, ok_bind, pure_eq_ok, ok_bind, ih hsum (by omega)]

theorem expandAll_eq_ok {s : List Code} (hlimit : expandedLength k s ≤ limit) :
    expandAll limit k s = .ok (UnicodeText.expandAll k s) := by
  rw [expandAll, foldlM_measure_eq_ok (by omega), ok_bind, UnicodeText.expandAll, Bool.false_or]
  dsimp only
  split
  · rw [mapM_eq_ok fun c _ => expand_eq_ok k c]
    rfl
  · rfl

theorem expandAll_eq_error {s : List Code} (hword : 18 ≤ limit) (hover : limit < expandedLength k s) :
    expandAll limit k s = .error .overflow := by
  rw [expandAll, foldlM_measure_eq_error hword (Nat.zero_le _) (by omega), error_bind]

end Texts

end UnicodeText.Machine
