import UnicodeText.Case.Simple
import UnicodeText.Data.SpecialCasing

namespace UnicodeText

inductive FullCase where
  | single (code : Code)
  | special (codes : List Code)
deriving DecidableEq, Repr

namespace FullCase

def codes : FullCase → List Code
  | single code => [code]
  | special codes => codes

def resolve (sequences : List (Code × List Code)) (simple : Code → Code) (c : Code) : FullCase :=
  match sequences.lookup c with
  | some codes => special codes
  | none => single (simple c)

end FullCase

def fullLowercase : Code → FullCase := .resolve Data.lowercaseSequence lowercase

def fullUppercase : Code → FullCase := .resolve Data.uppercaseSequence uppercase

def fullTitlecase : Code → FullCase := .resolve Data.titlecaseSequence titlecase

def mapCase (full : Code → FullCase) (codes : List Code) : List Code :=
  codes.flatMap fun c => (full c).codes

def lowercaseString (s : String) : String := textOf (mapCase fullLowercase (codesOf s))

def uppercaseString (s : String) : String := textOf (mapCase fullUppercase (codesOf s))

end UnicodeText
