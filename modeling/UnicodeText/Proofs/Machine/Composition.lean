import UnicodeText.Proofs.Composition.Reference
import UnicodeText.Proofs.Composition.Search
import UnicodeText.Proofs.Machine.Property

namespace UnicodeText.Machine

section Definitions

def syllableOf (lead vowel : Nat) : Run Nat := do
  let row ← times maxCode lead Hangul.vowelCount
  let block ← plus maxCode row vowel
  let offset ← times maxCode block Hangul.trailCount
  plus maxCode Hangul.syllableBase offset

def composeHangul (first second : Code) : Run (Option Code) :=
  if Hangul.IsLead first then
    if Hangul.IsVowel second then do
      let lead ← minus first.toNat Hangul.leadBase
      let vowel ← minus second.toNat Hangul.vowelBase
      let syllable ← syllableOf lead vowel
      return some (UInt32.ofNat syllable)
    else return none
  else if Hangul.IsSyllable first ∧ (first.toNat - Hangul.syllableBase) % Hangul.trailCount = 0 ∧
      Hangul.IsTrail second then do
    let trail ← minus second.toNat Hangul.trailBase
    let syllable ← plus maxCode first.toNat trail
    return some (UInt32.ofNat syllable)
  else return none

def pairsOf (first : Code) : Run (Nat × List Nat) :=
  if InCodeSpace first then do
    let bounds ← lookupRange Data.compositionOffset first.toNat
    let pairs ← sliceFields Data.compositionPairs bounds.1 bounds.2
    return (bounds.1, pairs)
  else return (0, [])

def composePair (first second : Code) : Run (Option Code) := do
  match ← composeHangul first second with
  | some composite => return some composite
  | none =>
    let (start, pairs) ← pairsOf first
    match bisect (fun i => pairSecond (start + i)) second.toNat pairs.length 0 pairs.length with
    | none => return none
    | some i =>
      let pair ← readAt pairs.toArray i
      return some (UInt32.ofNat (pair % 0x1000000))

def composite? (t : Compaction) (c : Code) (combining : Nat) : Run (Option (Nat × Code)) :=
  match t.starter with
  | none => return none
  | some position =>
    if t.lastClass.any (combining ≤ ·) then return none
    else do
      let starter ← readAt t.buffer position
      let composite ← composePair starter c
      return composite.map (position, ·)

def push (limit : Nat) (t : Compaction) (c : Code) (combining : Nat) : Run Compaction := do
  let buffer ← writeAt t.buffer t.write c
  let write ← plus limit t.write 1
  return {
    buffer, write
    starter := if combining = 0 then some t.write else t.starter
    lastClass := if combining = 0 then none else some combining }

def step (limit : Nat) (t : Compaction) (read : Nat) : Run Compaction := do
  let c ← readAt t.buffer read
  let combining ← combiningClass c
  match ← composite? t c combining with
  | some (position, composite) =>
    let buffer ← writeAt t.buffer position composite
    return { t with buffer }
  | none => push limit t c combining

def compose (limit : Nat) (s : List Code) : Run (List Code) := do
  let t ← (List.range s.length).foldlM (step limit) (.start s)
  return t.written

end Definitions

theorem covers_compositionOffset : Covers Data.compositionOffset :=
  covers_of_isBlank compositionOffset_isBlank (by decide)

section Pairs

theorem syllableOf_eq_ok {lead vowel : Nat} (hlead : lead < 19) (hvowel : vowel < 21) : syllableOf lead vowel =
    .ok (Hangul.syllableBase + (lead * Hangul.vowelCount + vowel) * Hangul.trailCount) := by
  have hsyllable : Hangul.syllableBase + (lead * Hangul.vowelCount + vowel) * Hangul.trailCount ≤ maxCode := by
    change 0xAC00 + (lead * 21 + vowel) * 28 ≤ 0xFFFFFFFF
    omega
  have hoffset := Nat.le_trans (Nat.le_add_left _ _) hsyllable
  have hblock := Nat.le_trans (Nat.le_mul_of_pos_right _ (by decide)) hoffset
  have hrow := Nat.le_trans (Nat.le_add_right _ _) hblock
  rw [syllableOf, times_eq_ok hrow, ok_bind, plus_eq_ok hblock, ok_bind, times_eq_ok hoffset, ok_bind,
    plus_eq_ok hsyllable]

variable (first second : Code)

theorem composeHangul_eq_ok : composeHangul first second = .ok (Hangul.compose first second) := by
  rw [composeHangul, Hangul.compose]
  split
  next hlead =>
    split
    next hvowel =>
      have hfirst : first.toNat - Hangul.leadBase < 19 := Nat.sub_lt_left_of_lt_add hlead.1 hlead.2
      have hsecond : second.toNat - Hangul.vowelBase < 21 := Nat.sub_lt_left_of_lt_add hvowel.1 hvowel.2
      rw [minus_eq_ok hlead.1, ok_bind, minus_eq_ok hvowel.1, ok_bind, syllableOf_eq_ok hfirst hsecond]
      rfl
    next => rfl
  next =>
    split
    next hpair =>
      obtain ⟨hsyllable, -, htrail⟩ := hpair
      have hfirst : first.toNat < 0xD7A4 := hsyllable.2
      have hsecond : second.toNat < 0x11C3 := htrail.2
      have hsum : first.toNat + (second.toNat - Hangul.trailBase) ≤ maxCode := by
        rw [maxCode]
        omega
      rw [minus_eq_ok (Nat.le_of_lt htrail.1), ok_bind, plus_eq_ok hsum]
      rfl
    next => rfl

theorem pairsOf_eq_ok : pairsOf first = .ok ((pairBounds first).1,
    (List.range' (pairBounds first).1 ((pairBounds first).2 - (pairBounds first).1)).map Data.compositionPairs.get) := by
  have hbounds := pairBounds_le first
  rw [pairsOf]
  rw [pairBounds] at hbounds ⊢
  split
  next hc =>
    rw [if_pos hc] at hbounds
    rw [covers_compositionOffset.lookupRange_eq_ok hc (0, 0), ok_bind, sliceFields_eq_ok hbounds.1 hbounds.2]
    rfl
  next => rfl

theorem bisect_add (key : Nat → Nat) (target start steps low high : Nat) :
    bisect (fun i => key (start + i)) target steps low high =
      (bisect key target steps (start + low) (start + high)).map (· - start) := by
  induction steps generalizing low high with
  | zero => rfl
  | succ steps ih =>
    have hmiddle : start + low + (start + high - (start + low)) / 2 = start + (low + (high - low) / 2) := by omega
    simp only [bisect, hmiddle, Nat.add_lt_add_iff_left, ih, Nat.add_assoc]
    split
    · split
      · rfl
      · split
        · rfl
        · simp
    · rfl

theorem composePair_eq_ok : composePair first second = .ok (UnicodeText.composePair first second) := by
  rw [composePair, UnicodeText.composePair, composeHangul_eq_ok, ok_bind]
  cases Hangul.compose first second with
  | some composite => rfl
  | none =>
    have hbounds := pairBounds_le first
    dsimp only
    rw [pairsOf_eq_ok, ok_bind]
    dsimp only
    rw [List.length_map, List.length_range', bisect_add, Nat.add_zero, Nat.add_sub_cancel' hbounds.1]
    cases hi : bisect pairSecond second.toNat ((pairBounds first).2 - (pairBounds first).1) (pairBounds first).1
        (pairBounds first).2 with
    | none => rfl
    | some i =>
      obtain ⟨-, hstart, hstop⟩ := key_of_bisect_eq_some hi
      have hread : ((List.range' (pairBounds first).1 ((pairBounds first).2 - (pairBounds first).1)).map
          Data.compositionPairs.get).toArray[i - (pairBounds first).1]? = some (Data.compositionPairs.get i) := by
        rw [List.getElem?_toArray, List.getElem?_map, List.getElem?_range' (by omega), Nat.one_mul,
          Nat.add_sub_cancel' hstart, Option.map_some]
      rw [Option.map_some, Option.map_some]
      dsimp only
      rw [readAt_eq_ok hread]
      rfl

end Pairs

section Compaction

variable {limit count : Nat} {s : List Code}

theorem composite?_eq_ok {t : Compaction} (h : t.Keeps s count) (hcount : count ≤ t.buffer.size) (c : Code) :
    composite? t c (UnicodeText.combiningClass c) = .ok (t.composite? c) := by
  rw [composite?, Compaction.composite?]
  cases hstarter : t.starter with
  | none => rfl
  | some position =>
    have hposition := h.starter_lt position hstarter
    have hwrite := h.write_le
    dsimp only
    rw [Compaction.isBlocked]
    split
    · rfl
    · rw [readAt_eq_getD (by omega) 0, ok_bind, composePair_eq_ok]
      rfl

theorem starter_of_composite?_eq_some {t : Compaction} {c : Code} {composite : Nat × Code}
    (h : t.composite? c = some composite) : t.starter = some composite.1 := by
  rw [Compaction.composite?] at h
  split at h
  next => simp at h
  next position hstarter =>
    split at h
    · simp at h
    · obtain ⟨x, -, rfl⟩ := Option.map_eq_some_iff.mp h
      exact hstarter

theorem step_eq_ok {t : Compaction} (h : t.Keeps s count) (hcount : count < t.buffer.size)
    (hlimit : t.buffer.size ≤ limit) : step limit t count = .ok (t.step count) := by
  have hwrite := h.write_le
  rw [step, readAt_eq_getD hcount 0, ok_bind, combiningClass_eq_ok, ok_bind,
    composite?_eq_ok h (Nat.le_of_lt hcount), ok_bind, Compaction.step]
  cases hcomposite : t.composite? (t.buffer.getD count 0) with
  | none =>
    dsimp only
    rw [push, writeAt_eq_ok (by omega), ok_bind, plus_eq_ok (by omega)]
    rfl
  | some composite =>
    have hposition := h.starter_lt _ (starter_of_composite?_eq_some hcomposite)
    dsimp only
    rw [writeAt_eq_ok (by omega)]
    rfl

theorem foldlM_step_eq_ok (hcount : count ≤ s.length) (hlimit : s.length ≤ limit) :
    (List.range count).foldlM (step limit) (.start s) = .ok (Compaction.after s count) := by
  induction count with
  | zero => rfl
  | succ count ih =>
    -- what `Keeps` says of the codes read so far bounds the cursors of the next step
    have hsize := Compaction.size_buffer_after s count
    rw [List.range_succ, List.foldlM_append, ih (by omega), ok_bind, List.foldlM_cons,
      step_eq_ok (Compaction.keeps_after s (by omega)) (by omega) (by omega), ← Compaction.after_succ]
    rfl

theorem compose_eq_ok (hlimit : s.length ≤ limit) : compose limit s = .ok (UnicodeText.compose s) := by
  rw [compose, foldlM_step_eq_ok (Nat.le_refl _) hlimit]
  rfl

end Compaction

end UnicodeText.Machine
