import UnicodeText.Data.Composition
import UnicodeText.Hangul
import UnicodeText.Table.Search

namespace UnicodeText

def pairSecond (i : Nat) : Nat := Data.compositionPairs.get i / 0x1000000

def pairComposite (i : Nat) : Nat := Data.compositionPairs.get i % 0x1000000

def pairBounds (first : Code) : Nat × Nat :=
  if InCodeSpace first then Data.compositionOffset.rangeD first.toNat (0, 0) else (0, 0)

def composePair (first second : Code) : Option Code :=
  match Hangul.compose first second with
  | some composite => some composite
  | none =>
    let bounds := pairBounds first
    (bisect pairSecond second.toNat (bounds.2 - bounds.1) bounds.1 bounds.2).map
      fun i => UInt32.ofNat (pairComposite i)

end UnicodeText
