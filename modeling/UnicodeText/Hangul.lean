import UnicodeText.Code

namespace UnicodeText.Hangul

def syllableBase : Nat := 0xAC00

def leadBase : Nat := 0x1100

def vowelBase : Nat := 0x1161

def trailBase : Nat := 0x11A7

def leadCount : Nat := 19

def vowelCount : Nat := 21

def trailCount : Nat := 28

def blockCount : Nat := vowelCount * trailCount

def syllableCount : Nat := leadCount * blockCount

abbrev IsSyllable (c : Code) : Prop :=
  syllableBase ≤ c.toNat ∧ c.toNat < syllableBase + syllableCount

abbrev IsLead (c : Code) : Prop := leadBase ≤ c.toNat ∧ c.toNat < leadBase + leadCount

abbrev IsVowel (c : Code) : Prop := vowelBase ≤ c.toNat ∧ c.toNat < vowelBase + vowelCount

abbrev IsTrail (c : Code) : Prop := trailBase < c.toNat ∧ c.toNat < trailBase + trailCount

def jamoAt (offset : Nat) : List Code :=
  [UInt32.ofNat (leadBase + offset / blockCount),
    UInt32.ofNat (vowelBase + offset % blockCount / trailCount)] ++
  if offset % trailCount = 0 then [] else [UInt32.ofNat (trailBase + offset % trailCount)]

def jamoCountAt (offset : Nat) : Nat := if offset % trailCount = 0 then 2 else 3

theorem length_jamoAt (offset : Nat) : (jamoAt offset).length = jamoCountAt offset := by
  by_cases h : offset % trailCount = 0 <;> simp [jamoAt, jamoCountAt, h]

def jamo (c : Code) : List Code := jamoAt (c.toNat - syllableBase)

def jamoCount (c : Code) : Nat := jamoCountAt (c.toNat - syllableBase)

structure BeforeSyllables where
  code : Code
deriving DecidableEq, Repr

def BeforeSyllables.message (_ : BeforeSyllables) : String := "attempt to subtract with overflow"

def offset (c : Code) : Except BeforeSyllables Nat :=
  if syllableBase ≤ c.toNat then .ok (c.toNat - syllableBase) else .error ⟨c⟩

theorem offset_eq_ok_iff {c : Code} {n : Nat} : offset c = .ok n ↔ c.toNat = syllableBase + n := by
  rw [offset]
  split
  · simp only [Except.ok.injEq]
    omega
  · simp only [reduceCtorEq, false_iff]
    omega

def compose (first second : Code) : Option Code :=
  if IsLead first then
    if IsVowel second then
      some (UInt32.ofNat (syllableBase +
        ((first.toNat - leadBase) * vowelCount + (second.toNat - vowelBase)) * trailCount))
    else none
  else if IsSyllable first ∧ (first.toNat - syllableBase) % trailCount = 0 ∧ IsTrail second then
    some (UInt32.ofNat (first.toNat + (second.toNat - trailBase)))
  else none

end UnicodeText.Hangul
