import UnicodeText.Data.Decomposition
import UnicodeText.Hangul

namespace UnicodeText

inductive Mode where
  | canonical
  | compatibility
deriving DecidableEq, Repr

structure Decomposition where
  codes : List Code
  isCompatibility : Bool
  isRecursive : Bool
deriving DecidableEq, Repr

def decomposition? (c : Code) : Option Decomposition :=
  if InCodeSpace c then
    let bounds := Data.decompositionOffset.rangeD c.toNat (0, 0)
    if bounds.1 / 4 = bounds.2 / 4 then none
    else
      let fields := (Data.decompositionCodes.slice? (bounds.1 / 4) (bounds.2 / 4)).getD []
      some ⟨fields.map UInt32.ofNat, bounds.1.testBit 0, bounds.1.testBit 1⟩
  else none

def Mode.admits (k : Mode) (d : Decomposition) : Bool := k == .compatibility || !d.isCompatibility

def Mode.decomposition? (k : Mode) (c : Code) : Option Decomposition :=
  (UnicodeText.decomposition? c).filter k.admits

/-- The number of entries on the longest way down from a code to codes without entries. -/
def expansionDepth : Nat := 3

def decomposedLengthWithin (k : Mode) : Nat → Code → Option Nat
  | 0, _ => none
  | depth + 1, c =>
    if Hangul.IsSyllable c then some (Hangul.jamoCount c)
    else match k.decomposition? c with
      | none => none
      | some d =>
        if d.isRecursive then
          some ((d.codes.map fun x => (decomposedLengthWithin k depth x).getD 1).foldr (· + ·) 0)
        else some d.codes.length

def expandWithin (k : Mode) : Nat → Code → List Code
  | 0, c => [c]
  | depth + 1, c =>
    if Hangul.IsSyllable c then Hangul.jamo c
    else match k.decomposition? c with
      | none => [c]
      | some d => if d.isRecursive then d.codes.flatMap (expandWithin k depth) else d.codes

def decomposedLength? (k : Mode) (c : Code) : Option Nat := decomposedLengthWithin k expansionDepth c

def expand (k : Mode) (c : Code) : List Code := expandWithin k expansionDepth c

def expandedLength (k : Mode) (s : List Code) : Nat :=
  (s.map fun c => (decomposedLength? k c).getD 1).foldr (· + ·) 0

def expandAll (k : Mode) (s : List Code) : List Code :=
  if s.any fun c => (decomposedLength? k c).isSome then s.flatMap (expand k) else s

end UnicodeText
