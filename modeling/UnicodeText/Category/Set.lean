import UnicodeText.Category.Basic
import UnicodeText.Code

/-!
Sets of general categories. A set is a word in which bit `g.number` stands for the category `g`. Bits
that stand for no category are kept by all operations but `complement` and `truncate`.
-/

namespace UnicodeText

structure CategorySet where
  bits : UInt32
deriving DecidableEq, Repr

namespace CategorySet

def ofNumber (n : Nat) : CategorySet := ⟨1 <<< UInt32.ofNat n⟩

def singleton (g : GeneralCategory) : CategorySet := ofNumber g.number

def empty : CategorySet := ⟨0⟩

def union (s t : CategorySet) : CategorySet := ⟨s.bits ||| t.bits⟩

def intersection (s t : CategorySet) : CategorySet := ⟨s.bits &&& t.bits⟩

def difference (s t : CategorySet) : CategorySet := ⟨s.bits &&& ~~~t.bits⟩

def symmetricDifference (s t : CategorySet) : CategorySet := ⟨s.bits ^^^ t.bits⟩

def ofList (gs : List GeneralCategory) : CategorySet :=
  gs.foldl (fun s g => s.union (singleton g)) empty

def all : CategorySet := ofList GeneralCategory.all

def truncate (s : CategorySet) : CategorySet := s.intersection all

def complement (s : CategorySet) : CategorySet := truncate ⟨~~~s.bits⟩

def unknown (s : CategorySet) : CategorySet := s.difference all

def contains (s t : CategorySet) : Bool := s.intersection t == t

def intersects (s t : CategorySet) : Bool := s.intersection t != empty

def isEmpty (s : CategorySet) : Bool := s == empty

def isAll (s : CategorySet) : Bool := s.contains all

def isKnown (s : CategorySet) : Bool := s.unknown.isEmpty

def set (s t : CategorySet) (present : Bool) : CategorySet :=
  if present then s.union t else s.difference t

def members (s : CategorySet) : List GeneralCategory :=
  GeneralCategory.all.filter fun g => s.contains (singleton g)

def parts (s : CategorySet) : List CategorySet :=
  s.members.map singleton ++ if s.isKnown then [] else [s.unknown]

def member? (s : CategorySet) : Option GeneralCategory :=
  GeneralCategory.all.find? fun g => s == singleton g

def abbreviation? (s : CategorySet) : Option String := s.member?.map GeneralCategory.abbreviation

def casedLetters : CategorySet := ofList [.uppercaseLetter, .lowercaseLetter, .titlecaseLetter]

def capitalLetters : CategorySet := ofList [.uppercaseLetter, .titlecaseLetter]

def letters : CategorySet := casedLetters.union (ofList [.modifierLetter, .otherLetter])

def marks : CategorySet := ofList [.nonspacingMark, .spacingMark, .enclosingMark]

def numbers : CategorySet := ofList [.decimalNumber, .letterNumber, .otherNumber]

def punctuation : CategorySet := ofList [.connectorPunctuation, .dashPunctuation, .openPunctuation,
  .closePunctuation, .initialPunctuation, .finalPunctuation, .otherPunctuation]

def symbols : CategorySet := ofList [.mathSymbol, .currencySymbol, .modifierSymbol, .otherSymbol]

def separators : CategorySet := ofList [.spaceSeparator, .lineSeparator, .paragraphSeparator]

def others : CategorySet := ofList [.control, .format, .surrogate, .privateUse, .unassigned]

def groups : List (String × CategorySet) := [
  ("LC", casedLetters), ("Lut", capitalLetters), ("L", letters), ("M", marks), ("N", numbers),
  ("P", punctuation), ("S", symbols), ("Z", separators), ("C", others)]

def ofName? (name : String) : Option CategorySet :=
  match GeneralCategory.all.find? fun g => g.abbreviation == name with
  | some g => some (singleton g)
  | none => groups.lookup name

def isLetter (s : CategorySet) : Bool := s.intersects letters

def isMark (s : CategorySet) : Bool := s.intersects marks

def listing (s : CategorySet) : String :=
  if s.isEmpty then Text.lowerHex 0
  else " | ".intercalate (s.members.map GeneralCategory.abbreviation ++
    if s.isKnown then [] else [Text.lowerHex s.unknown.bits.toNat])

def display (s : CategorySet) : String :=
  s.abbreviation?.getD ("Category(" ++ s.listing ++ ")")

end CategorySet

end UnicodeText
