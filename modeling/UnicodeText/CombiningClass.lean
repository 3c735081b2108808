import UnicodeText.Code
import UnicodeText.Data.CombiningClass

namespace UnicodeText

def combiningClass (c : Code) : Nat :=
  if InCodeSpace c then Data.combiningClass.getD c.toNat 0 else 0

abbrev IsStarter (c : Code) : Prop := combiningClass c = 0

theorem combiningClass_of_not_inCodeSpace {c : Code} (h : ¬InCodeSpace c) : combiningClass c = 0 :=
  if_neg h

end UnicodeText
