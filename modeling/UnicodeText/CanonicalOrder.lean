import UnicodeText.CombiningClass
import UnicodeText.Decomposition

namespace UnicodeText

/-- Moves a mark back over the marks of higher class. The text before the mark is given with its last
code first. -/
def insertMark (c : Code) : List Code → List Code
  | [] => [c]
  | last :: before =>
    if combiningClass c < combiningClass last then last :: insertMark c before
    else c :: last :: before

def placeCode (before : List Code) (c : Code) : List Code :=
  if IsStarter c then c :: before else insertMark c before

def canonicalOrder (s : List Code) : List Code := (s.foldl placeCode []).reverse

theorem length_insertMark (c : Code) (before : List Code) :
    (insertMark c before).length = before.length + 1 := by
  induction before with
  | nil => rfl
  | cons last before ih =>
    rw [insertMark]
    split <;> simp [ih]

theorem length_placeCode (before : List Code) (c : Code) :
    (placeCode before c).length = before.length + 1 := by
  rw [placeCode]
  split
  · rfl
  · exact length_insertMark c before

theorem length_foldl_placeCode (s before : List Code) :
    (s.foldl placeCode before).length = before.length + s.length := by
  induction s generalizing before with
  | nil => rfl
  | cons c s ih =>
    rw [List.foldl_cons, ih, length_placeCode, List.length_cons]
    omega

theorem length_canonicalOrder (s : List Code) : (canonicalOrder s).length = s.length := by
  rw [canonicalOrder, List.length_reverse, length_foldl_placeCode]
  simp

def decompose (k : Mode) (s : List Code) : List Code := canonicalOrder (expandAll k s)

end UnicodeText
