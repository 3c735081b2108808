namespace UnicodeText

inductive GeneralCategory where
  | uppercaseLetter | lowercaseLetter | titlecaseLetter | modifierLetter | otherLetter
  | nonspacingMark | spacingMark | enclosingMark
  | decimalNumber | letterNumber | otherNumber
  | connectorPunctuation | dashPunctuation | openPunctuation | closePunctuation
  | initialPunctuation | finalPunctuation | otherPunctuation
  | mathSymbol | currencySymbol | modifierSymbol | otherSymbol
  | spaceSeparator | lineSeparator | paragraphSeparator
  | control | format | surrogate | privateUse | unassigned
deriving DecidableEq, Repr

namespace GeneralCategory

def all : List GeneralCategory := [
  uppercaseLetter, lowercaseLetter, titlecaseLetter, modifierLetter, otherLetter,
  nonspacingMark, spacingMark, enclosingMark,
  decimalNumber, letterNumber, otherNumber,
  connectorPunctuation, dashPunctuation, openPunctuation, closePunctuation,
  initialPunctuation, finalPunctuation, otherPunctuation,
  mathSymbol, currencySymbol, modifierSymbol, otherSymbol,
  spaceSeparator, lineSeparator, paragraphSeparator,
  control, format, surrogate, privateUse, unassigned]

theorem mem_all (g : GeneralCategory) : g ∈ all := by
  cases g <;> decide

def number : GeneralCategory → Nat
  | uppercaseLetter => 1
  | lowercaseLetter => 2
  | titlecaseLetter => 3
  | modifierLetter => 4
  | otherLetter => 5
  | nonspacingMark => 6
  | spacingMark => 7
  | enclosingMark => 8
  | decimalNumber => 9
  | letterNumber => 10
  | otherNumber => 11
  | connectorPunctuation => 12
  | dashPunctuation => 13
  | openPunctuation => 14
  | closePunctuation => 15
  | initialPunctuation => 16
  | finalPunctuation => 17
  | otherPunctuation => 18
  | mathSymbol => 19
  | currencySymbol => 20
  | modifierSymbol => 21
  | otherSymbol => 22
  | spaceSeparator => 23
  | lineSeparator => 24
  | paragraphSeparator => 25
  | control => 26
  | format => 27
  | surrogate => 28
  | privateUse => 29
  | unassigned => 30

def abbreviation : GeneralCategory → String
  | uppercaseLetter => "Lu"
  | lowercaseLetter => "Ll"
  | titlecaseLetter => "Lt"
  | modifierLetter => "Lm"
  | otherLetter => "Lo"
  | nonspacingMark => "Mn"
  | spacingMark => "Mc"
  | enclosingMark => "Me"
  | decimalNumber => "Nd"
  | letterNumber => "Nl"
  | otherNumber => "No"
  | connectorPunctuation => "Pc"
  | dashPunctuation => "Pd"
  | openPunctuation => "Ps"
  | closePunctuation => "Pe"
  | initialPunctuation => "Pi"
  | finalPunctuation => "Pf"
  | otherPunctuation => "Po"
  | mathSymbol => "Sm"
  | currencySymbol => "Sc"
  | modifierSymbol => "Sk"
  | otherSymbol => "So"
  | spaceSeparator => "Zs"
  | lineSeparator => "Zl"
  | paragraphSeparator => "Zp"
  | control => "Cc"
  | format => "Cf"
  | surrogate => "Cs"
  | privateUse => "Co"
  | unassigned => "Cn"

theorem number_pos (g : GeneralCategory) : 0 < g.number := by
  cases g <;> decide

theorem number_le (g : GeneralCategory) : g.number ≤ 30 := by
  cases g <;> decide

end GeneralCategory

end UnicodeText
