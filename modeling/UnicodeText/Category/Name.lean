import UnicodeText.Category.Set
import UnicodeText.Data.GeneralCategory

namespace UnicodeText

def category (c : Code) : CategorySet :=
  if InCodeSpace c then .ofNumber (Data.generalCategory.getD c.toNat GeneralCategory.unassigned.number)
  else .singleton .unassigned

structure UnknownCategory where
  text : String
deriving DecidableEq, Repr

def CategorySet.parse (s : String) : Except UnknownCategory CategorySet :=
  match GeneralCategory.all.find? fun g => g.abbreviation == s with
  | some g => .ok (singleton g)
  | none => .error ⟨s⟩

end UnicodeText
