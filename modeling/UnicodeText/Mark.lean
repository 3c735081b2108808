import UnicodeText.Data.BaseCode
import UnicodeText.Data.CombiningMark
import UnicodeText.Form.Bytes

namespace UnicodeText

def isCombiningMark (c : Code) : Bool :=
  decide (InCodeSpace c) && Data.combiningMark.bitD c.toNat false

def stripMarks (c : Code) : Code :=
  if InCodeSpace c then
    match Data.baseCodeIndex.getD c.toNat 0 with
    | 0 => c
    | i => UInt32.ofNat (Data.baseCodes.get i)
  else c

def stripText (s : List Code) : List Code :=
  (s.filter fun c => !isCombiningMark c).map stripMarks

def stripString (s : String) : String := textOf (stripText (codesOf s))

def deriveStripped (c : Code) : Code :=
  let decomposed := Form.nfd.normalize [c]
  if decomposed.any isCombiningMark then
    match Form.nfc.normalize (decomposed.filter fun x => !isCombiningMark x) with
    | [base] => base
    | _ => c
  else c

end UnicodeText
